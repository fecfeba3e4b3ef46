import Stencil.Antiforgery
import Stencil.Cache.Codec
import Stencil.Cache.Read
import Stencil.Cli.Command
import Stencil.Cli.Complete
import Stencil.Cli.Flags
import Stencil.Cli.Run
import Stencil.Cli.Tree
import Stencil.Compiler.Basic
import Stencil.Compiler.Render
import Stencil.Config.Basic
import Stencil.Config.Environment
import Stencil.Config.File
import Stencil.Config.Load
import Stencil.Dashboard
import Stencil.Data.NameMap
import Stencil.Data.PatternSort
import Stencil.Digest.XxHash
import Stencil.Directive.Bundle
import Stencil.Directive.Handlers
import Stencil.Directive.Token
import Stencil.Engine.Basic
import Stencil.Engine.Dispatch
import Stencil.Engine.Reload
import Stencil.Engine.Store
import Stencil.Fault
import Stencil.Files.Loader
import Stencil.Files.Path
import Stencil.Files.Tree
import Stencil.Format.Json
import Stencil.Format.Json.Decode
import Stencil.Format.Json.Read
import Stencil.Format.Shape
import Stencil.Format.Yaml.Decode
import Stencil.Format.Yaml.Emit
import Stencil.Format.Yaml.Resolve
import Stencil.Format.Yaml.Scalar
import Stencil.Format.Yaml.Scan
import Stencil.Format.Yaml.Tree
import Stencil.Graph
import Stencil.Host
import Stencil.Log
import Stencil.Log.Handler
import Stencil.Log.Render
import Stencil.Main
import Stencil.Markdown.Block
import Stencil.Markdown.Chars
import Stencil.Markdown.Entity
import Stencil.Markdown.Html
import Stencil.Markdown.Inline
import Stencil.Markdown.Link
import Stencil.Markdown.Tag
import Stencil.Numeric.Decimal
import Stencil.Numeric.Double
import Stencil.Numeric.Shortest
import Stencil.Project
import Stencil.Proofs.Cache
import Stencil.Proofs.Codec
import Stencil.Proofs.Compile
import Stencil.Proofs.Graph
import Stencil.Proofs.Incremental
import Stencil.Proofs.NameMap
import Stencil.Proofs.Registry
import Stencil.Proofs.Render
import Stencil.Proofs.Session
import Stencil.Proofs.Sort.Quick
import Stencil.Shell.Bash
import Stencil.Shell.Basic
import Stencil.Shell.Fish
import Stencil.Shell.PowerShell
import Stencil.Shell.Zsh
import Stencil.Snapshot
import Stencil.Template.Record
import Stencil.Terminal.Color
import Stencil.Text.Blank
import Stencil.Text.Duration
import Stencil.Text.Hex
import Stencil.Text.Html
import Stencil.Text.Quote
import Stencil.Text.Scan
import Stencil.Text.Search
import Stencil.Text.Utf8
import Stencil.Trace
import Stencil.Unicode.Class
import Stencil.Unicode.Fold
import Stencil.Unicode.Lower
import Stencil.Unicode.Table
import Stencil.Watch.Debounce
import Stencil.Watch.Notify
import Stencil.Proofs.Debounce.Contract
import Stencil.Proofs.TokenRegistry
import Stencil.Proofs.RenderResults
import Stencil.Proofs.Cascade
import Stencil.Proofs.EventLog
import Stencil.Proofs.FeedDelivery
import Stencil.Proofs.Recompile
import Stencil.Proofs.CompileOrder
import Stencil.Proofs.Occurrence
import Stencil.Proofs.Placeholder
import Stencil.Proofs.Layouts
import Stencil.Proofs.HeadBlocks
import Stencil.Proofs.Routes
import Stencil.Proofs.LayoutBound
import Stencil.Proofs.Paths
import Stencil.Proofs.ViewLoading
import Stencil.Proofs.ReadableWait
import Stencil.Proofs.DashboardRows
import Stencil.Proofs.ByteOrder
import Stencil.Proofs.SharedViews
