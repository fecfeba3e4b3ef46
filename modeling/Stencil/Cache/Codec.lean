import Stencil.Snapshot
import Stencil.Fault
import Stencil.Format.Json
import Stencil.Format.Yaml.Emit
/-!
# Cache formats

A view cache is written as JSON or as YAML. Both write the normalised cache: the template
records, then the compiled records, each in name order, then the dependency lists by view name.
A record leaves out its source path, compiled text and last render when they are empty. JSON
names the three parts `ViewTemplates`, `CompiledViews`, `ViewDependencies`; YAML names them
`viewTemplates`, `compiledViews`, `viewDependencies`.
-/

namespace Stencil

/-- The formats a view cache can be written in. -/
inductive CacheFormat where
  | json
  | yaml
deriving DecidableEq, Repr

namespace CacheFormat

/-- The format a configuration names: empty or `json` for JSON, `yaml` for YAML. -/
def ofName (name : String) : Except Fault CacheFormat :=
  if name == "" || name == "json" then .ok .json
  else if name == "yaml" then .ok .yaml
  else .error (((Fault.condition .invalidCacheFormat).wrap "cannot select cache codec").about
    "format" name)

/-- The name of a format. -/
def name : CacheFormat → String
  | .json => "json"
  | .yaml => "yaml"

end CacheFormat

namespace Template

/-- The fields of a record in writing order, the empty optional ones left out. -/
def fields (t : Template) : List (String × String) :=
  [("logicalName", t.name), ("displayName", t.displayName)] ++
    (if t.sourcePath.isEmpty then [] else [("sourcePath", t.sourcePath)]) ++
    [("rawContent", t.raw), ("fingerprint", t.fingerprint)] ++
    (if t.compiled.isEmpty then [] else [("compiledContent", t.compiled)]) ++
    (if t.lastRender.isEmpty then [] else [("lastRenderResult", t.lastRender)])

end Template

namespace ViewCache

/-- The cache as a JSON value. -/
def toJsonValue (c : ViewCache) : JsonValue :=
  let record (t : Template) : JsonValue := .object (t.fields.map fun (k, v) => (k, .string v))
  .object [("ViewTemplates", .array (c.templates.map record)),
    ("CompiledViews", .array (c.compiled.map record)),
    ("ViewDependencies", .object (c.dependencies.entries.map fun (v, ds) =>
      (v, .array (ds.map JsonValue.string))))]

/-- The cache as a YAML mapping. -/
def toYamlEntries (c : ViewCache) : List (String × Yaml.Node) :=
  let record (t : Template) : Yaml.Node := .map (t.fields.map fun (k, v) => (k, .scalar v))
  [("viewTemplates", .seq (c.templates.map record)),
    ("compiledViews", .seq (c.compiled.map record)),
    ("viewDependencies", .map (Yaml.sortEntries (c.dependencies.entries.map fun (v, ds) =>
      (v, .seq (ds.map Yaml.Node.scalar)))))]

/-- The text of the normalised cache in a format. -/
def encode (fmt : CacheFormat) (c : ViewCache) : String :=
  let c := c.normalized
  match fmt with
  | .json => c.toJsonValue.document
  | .yaml => Yaml.document c.toYamlEntries

end ViewCache

end Stencil
