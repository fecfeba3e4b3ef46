import Stencil.Files.Path
import Stencil.Data.NameMap
/-!
# Project settings

The settings of a project: its root directory, the view roots below it, the shared resource
folder, the asset bundles, where and how the compiled views are cached, and how the watcher
paces itself. Paths in the settings may be relative; they are read against the root, and an
absolute one is only cleaned.
-/

namespace Stencil

/-- The name of the project file. -/
def configFileName : String := "montauk.yaml"

/-- The default view root below the project root. -/
def viewsDirName : String := "Views"

/-- The directory below a view root that holds the cache. -/
def cacheDirName : String := "Cache"

/-- The extension of view templates. -/
def templateExt : String := ".html"

/-- Where and how the compiled views are cached: the store (`file` or `sqlite`), the text
format (`json` or `yaml`), and a path, empty for the default. -/
structure CacheSettings where
  backend : String := "file"
  format : String := "json"
  path : String := ""
deriving Repr

/-- How the watcher paces itself: the interval between attempts to read a changed file and the
debounce window, in nanoseconds, and how many attempts it makes. -/
structure WatchSettings where
  interval : Int := 250000000
  attempts : Int := 20
  debounce : Int := 100000000
deriving Repr

/-- The settings of a project. -/
structure Config where
  root : String
  viewRoots : List String := [viewsDirName]
  debug : Bool := false
  sharedResourceFolder : String := "/Resources"
  bundles : NameMap (List String) := NameMap.empty
  cache : CacheSettings := {}
  watch : WatchSettings := {}

namespace Config

/-- A path read against the root; an absolute one is only cleaned. -/
def resolve (c : Config) (p : String) : String :=
  if Path.isAbs p then Path.clean p else Path.append c.root p

/-- The view roots as paths. -/
def viewRootPaths (c : Config) : List String :=
  c.viewRoots.map c.resolve

/-- The path of the cache: the one set, or the default file of the store below the first
default view root. -/
def cachePath (c : Config) : String :=
  if !c.cache.path.isEmpty then c.resolve c.cache.path
  else if c.cache.backend == "sqlite" then
    c.resolve (Path.join [viewsDirName, cacheDirName, "viewsCache.db"])
  else c.resolve (Path.join [viewsDirName, cacheDirName, "viewsCache.json"])

end Config

end Stencil
