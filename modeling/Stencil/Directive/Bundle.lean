import Stencil.Data.NameMap
import Stencil.Text.Html
/-!
# Bundles

A bundle names a stylesheet or script set. Outside debug mode a bundle is linked by its own name;
in debug mode each file of the bundle is linked on its own. A file name without a `/` lives in
the shared resource folder, under a folder named for its extension. Only `.css` and `.js` files
produce a tag; every file ends with a newline either way.
-/

namespace Stencil

/-- How bundles are turned into tags. -/
structure BundleSettings where
  /-- The files of each bundle, when a source of them is given. -/
  source : Option (NameMap (List String))
  /-- Whether each file is linked on its own. -/
  debug : Bool
  /-- The shared resource folder, without trailing `/`. -/
  resourceFolder : String

namespace BundleSettings

/-- The resource folder that is used: `/Resources` for an empty one, trailing `/` removed. -/
def folderOf (folder : String) : String :=
  let f := if folder.isEmpty then "/Resources" else folder
  String.ofList (f.toList.reverse.dropWhile (· == '/')).reverse

/-- Settings with the folder normalised. -/
def make (source : Option (NameMap (List String))) (debug : Bool) (folder : String) :
    BundleSettings :=
  ⟨source, debug, folderOf folder⟩

/-- The extension of a path: from the last `.` of its last `/`-separated part, or empty. -/
def extension (path : String) : String :=
  let last := path.toList.reverse.takeWhile (· != '/')
  match last.findIdx? (· == '.') with
  | some i => String.ofList (last.take (i + 1)).reverse
  | none => ""

/-- The tag that links one file, or empty for a file that is neither a stylesheet nor a
script. -/
def tag (b : BundleSettings) (file : String) : String :=
  let ext := String.ofList ((extension file).toList.drop 1 |>.map Char.toLower)
  let href := if file.toList.contains '/' then file else b.resourceFolder ++ "/" ++ ext ++ "/" ++ file
  let href := Text.escapeHtml href
  if ext == "css" then "<link href=\"" ++ href ++ "\" rel=\"stylesheet\" type=\"text/css\" />"
  else if ext == "js" then "<script src=\"" ++ href ++ "\" type=\"text/javascript\"></script>"
  else ""

/-- The markup of a bundle: one line per linked file. -/
def markup (b : BundleSettings) (name : String) : String :=
  if name.isEmpty then ""
  else
    let files :=
      if b.debug then
        match b.source with
        | some m => (m.find? name).getD []
        | none => []
      else [name]
    String.join (files.map fun f => b.tag f ++ "\n")

end BundleSettings

end Stencil
