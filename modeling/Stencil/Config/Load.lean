import Stencil.Config.Environment
import Stencil.Files.Tree
import Stencil.Format.Yaml.Decode
import Stencil.Fault
import Stencil.Log
import Stencil.Text.Blank
import Stencil.Unicode.Lower
/-!
# Loading the settings of a project

The project file is the nearest `montauk.yaml` found from the working directory upwards; a
directory of that name does not count. It is read as YAML into the project file's shape, then
the environment overrides it, and the settings are decided: the root is the project file's
directory, or the working directory when there is none, joined with the root the file gives;
lists and texts that are set replace the defaults; the cache store and format are lowered and
must be known; and watch timings that are positive replace the defaults. A file that declares a
version other than `1` is read as version 1, with a warning.
-/

namespace Stencil

/-- The version of the project file this reads. -/
def supportedVersion : String := "1"

/-- The bundle files of an override: the names between semicolons, trimmed, empty ones left out. -/
def splitBundleFiles (s : String) : List String :=
  ((Text.cut s ";").map Text.trimBlank).filter (!·.isEmpty)

/-- The nearest project file from a directory upwards. -/
def findConfigFile (t : FileTree) (dir : String) : Option String :=
  go ((Path.names dir).length + 2) (Path.clean dir)
where
  go : Nat → String → Option String
    | 0, _ => none
    | fuel + 1, d =>
      let candidate := Path.append d configFileName
      match t.entry candidate with
      | .file _ => some candidate
      | _ =>
        let parent := Path.dir d
        if parent == d then none else go fuel parent

/-- The root of a project: the base directory, joined with the root the settings give. -/
def resolveRoot (baseDir root : String) : String :=
  if root.isEmpty then baseDir
  else if Path.isAbs root then Path.clean root
  else Path.append baseDir root

/-- Decides the settings from what the file and environment set, below a base directory. -/
def ConfigFile.build (f : ConfigFile) (baseDir : String) : Except Fault Config := do
  let c : Config := { root := resolveRoot baseDir f.root }
  let c := if f.views.isEmpty then c else { c with viewRoots := f.views }
  let c := { c with debug := f.debug }
  let c := if f.resources.isEmpty then c else { c with sharedResourceFolder := f.resources }
  let bundles := f.bundles.foldl (fun m (k, v) => m.insert k v) c.bundles
  let bundles := f.bundleOverrides.foldl (fun m (k, v) => m.insert k (splitBundleFiles v)) bundles
  let c := { c with bundles }
  let cache := c.cache
  let cache := if f.backend.isEmpty then cache else { cache with backend := Unicode.lowerText f.backend }
  let cache := if f.format.isEmpty then cache else { cache with format := Unicode.lowerText f.format }
  let c := { c with cache := { cache with path := f.path } }
  let w := c.watch
  let w := if f.interval > 0 then { w with interval := f.interval } else w
  let w := if f.attempts > 0 then { w with attempts := f.attempts } else w
  let w := if f.debounce > 0 then { w with debounce := f.debounce } else w
  let c := { c with watch := w }
  if c.cache.backend != "file" && c.cache.backend != "sqlite" then
    throw (((Fault.condition .invalidCacheBackend).wrap "cannot load config").about "backend"
      c.cache.backend)
  if c.cache.format != "json" && c.cache.format != "yaml" then
    throw (((Fault.condition .invalidCacheFormat).wrap "cannot load config").about "format"
      c.cache.format)
  return c

/-- Loads the settings of the project a working directory is in: the settings or the fault,
with the lines logged on the way. -/
def loadConfig (t : FileTree) (env : Environment) (cwd : String) :
    Except Fault Config × List LogLine :=
  let abs := Path.clean cwd
  let fromFile : Except Fault (ConfigFile × String × List LogLine) :=
    match findConfigFile t abs with
    | none => .ok (default, abs, [])
    | some path =>
      let text := match t.read path with
        | .ok s => s
        | .error _ => ""
      match Yaml.decodeInto text ConfigFile.shape ConfigFile.shape.zero with
      | .error e => .error (((Fault.foreign e).wrap (Condition.text .configParseFailed)).about "path" path)
      | .ok d =>
        let f := ConfigFile.ofDatum d
        let log := if f.version != "" && f.version != supportedVersion then
            [.warn (configFileName ++ " declares version " ++ Text.quote f.version ++
              ", reading it as version " ++ supportedVersion)]
          else []
        .ok (f, Path.dir path, log)
  match fromFile with
  | .error e => (.error e, [])
  | .ok (f, baseDir, log) =>
    match f.applyEnvironment env with
    | .error e => (.error ((Fault.foreign e).wrap (Condition.text .configEnvFailed)), log)
    | .ok f => (f.build baseDir, log)

end Stencil
