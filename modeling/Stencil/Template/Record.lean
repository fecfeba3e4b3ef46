import Stencil.Digest.XxHash
import Stencil.Text.Search
/-!
# Template records

A template record carries a view through its life: the text it was read from and that text's
fingerprint, the compiled text once it has been compiled, and the text of its last render.
A *fragment* is a template whose logical name contains `Fragment`: it is compiled as written,
without layouts or directives.
-/

namespace Stencil

/-- A view template and what the engine has made of it. -/
structure Template where
  /-- The logical name, such as `Home/Index`. -/
  name : String
  /-- The last part of the logical name. -/
  displayName : String
  /-- The file the template was read from, or empty. -/
  sourcePath : String := ""
  /-- The text of the template. -/
  raw : String
  /-- The fingerprint of the text. -/
  fingerprint : String
  /-- The compiled text, or empty. -/
  compiled : String := ""
  /-- The text of the last render, or empty. -/
  lastRender : String := ""
deriving DecidableEq, Repr, Inhabited

namespace Template

/-- The part of a logical name after its last `/`. -/
def baseName (name : String) : String :=
  (Text.cut name "/").getLast?.getD name

/-- A template read from `raw` under `name`, its fingerprint the digest of the text. -/
def ofText (name raw : String) (sourcePath : String := "") : Template :=
  { name, displayName := baseName name, sourcePath, raw, fingerprint := Digest.fingerprint raw }

end Template

/-- Whether a logical name names a fragment. -/
def isFragment (name : String) : Bool :=
  Text.mentions name "Fragment"

end Stencil
