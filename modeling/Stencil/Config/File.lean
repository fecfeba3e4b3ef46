import Stencil.Config.Basic
import Stencil.Format.Shape
/-!
# The project file

What a project file may set, before anything is decided from it: every field is empty, zero or
false until the file or the environment sets it. The file is read into the shape below, so its
keys are `version`, `root`, `views`, `debug`, `resources`, `bundles`, and the sections `cache`
(`backend`, `format`, `path`) and `watch` (`interval`, `attempts`, `debounce`). Bundle overrides
come only from the environment.
-/

namespace Stencil

/-- What a project file and the environment set. -/
structure ConfigFile where
  version : String := ""
  root : String := ""
  views : List String := []
  debug : Bool := false
  resources : String := ""
  bundles : List (String × List String) := []
  backend : String := ""
  format : String := ""
  path : String := ""
  interval : Int := 0
  attempts : Int := 0
  debounce : Int := 0
  bundleOverrides : List (String × String) := []
deriving Inhabited

namespace ConfigFile

/-- The shape a project file is read into. -/
def shape : Shape :=
  .record "config.Montaukfile"
    [("version", .text), ("root", .text), ("views", .list .text), ("debug", .flag),
     ("resources", .text), ("bundles", .table (.list .text)),
     ("cache", .record "config.CacheDTO" [("backend", .text), ("format", .text), ("path", .text)]),
     ("watch", .record "config.WatchDTO"
        [("interval", .duration), ("attempts", .integer), ("debounce", .duration)])]

/-- The settings a value of the file's shape holds. -/
def ofDatum (d : Datum) : ConfigFile :=
  let cache := d.field "cache"
  let watch := d.field "watch"
  { version := (d.field "version").asText
    root := (d.field "root").asText
    views := (d.field "views").asList.map Datum.asText
    debug := (d.field "debug").asFlag
    resources := (d.field "resources").asText
    bundles := (d.field "bundles").asTable.map fun (k, v) => (k, v.asList.map Datum.asText)
    backend := (cache.field "backend").asText
    format := (cache.field "format").asText
    path := (cache.field "path").asText
    interval := (watch.field "interval").asInt
    attempts := (watch.field "attempts").asInt
    debounce := (watch.field "debounce").asInt }

end ConfigFile

end Stencil
