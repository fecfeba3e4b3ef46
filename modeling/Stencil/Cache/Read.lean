import Stencil.Cache.Codec
import Stencil.Format.Json.Decode
import Stencil.Format.Yaml.Decode
/-!
# Reading a view cache back

A cache text is read in the format it was written in, into the shape of a cache: two lists of
template records and a table of dependency lists. The field names are those each format writes.
A text that does not read, or reads as a cache without templates, is corrupt; the fault carries
the reader's message and the format. What is read is normalised like what is written.
-/

namespace Stencil

namespace CacheFormat

/-- The shape of a template record in a format: its seven text fields. -/
def recordShape : Shape :=
  .record "domain.TemplateRecord"
    [("logicalName", .text), ("displayName", .text), ("sourcePath", .text), ("rawContent", .text),
     ("fingerprint", .text), ("compiledContent", .text), ("lastRenderResult", .text)]

/-- The shape of a whole cache in a format. -/
def cacheShape : CacheFormat → Shape
  | .json => .record "domain.ViewCache"
    [("ViewTemplates", .list recordShape), ("CompiledViews", .list recordShape),
     ("ViewDependencies", .table (.list .text))]
  | .yaml => .record "domain.ViewCache"
    [("viewTemplates", .list recordShape), ("compiledViews", .list recordShape),
     ("viewDependencies", .table (.list .text))]

/-- The names of the three parts of a cache in a format. -/
def partNames : CacheFormat → String × String × String
  | .json => ("ViewTemplates", "CompiledViews", "ViewDependencies")
  | .yaml => ("viewTemplates", "compiledViews", "viewDependencies")

end CacheFormat

namespace ViewCache

/-- The template record a value of the record shape holds. -/
def recordOf (d : Datum) : Template where
  name := (d.field "logicalName").asText
  displayName := (d.field "displayName").asText
  sourcePath := (d.field "sourcePath").asText
  raw := (d.field "rawContent").asText
  fingerprint := (d.field "fingerprint").asText
  compiled := (d.field "compiledContent").asText
  lastRender := (d.field "lastRenderResult").asText

/-- The cache a value of the cache shape holds, its parts named as in a format. -/
def ofDatum (fmt : CacheFormat) (d : Datum) : ViewCache :=
  let (t, c, deps) := fmt.partNames
  { templates := (d.field t).asList.map recordOf
    compiled := (d.field c).asList.map recordOf
    dependencies := NameMap.ofList ((d.field deps).asTable.map fun (k, v) =>
      (k, v.asList.map Datum.asText)) }

/-- Reads a cache text in a format: the normalised cache, or a corrupt-cache fault with the
reader's message. -/
def decode (fmt : CacheFormat) (text : String) : Except Fault ViewCache :=
  let shape := fmt.cacheShape
  let read := match fmt with
    | .json => Json.decodeInto text shape shape.zero
    | .yaml => Yaml.decodeInto text shape shape.zero
  let corrupt (msg : String) : Fault :=
    ((Fault.condition .cacheCorrupt).wrap msg).about "format" fmt.name
  match read with
  | .error msg => .error (corrupt msg)
  | .ok d =>
    let c := ofDatum fmt d
    if c.templates.isEmpty then .error (corrupt "cache holds no templates")
    else .ok c.normalized

end ViewCache

end Stencil
