/-!
# Escaping text for HTML

Text placed into HTML has its five markup characters and the carriage return written as
character references: `&amp;`, `&#39;`, `&lt;`, `&gt;`, `&#34;` and `&#13;`. Every other
character stands for itself.
-/

namespace Stencil.Text

/-- The reference that stands for a character in HTML text, if it needs one. -/
def htmlReference : Char → Option String
  | '&' => some "&amp;"
  | '\'' => some "&#39;"
  | '<' => some "&lt;"
  | '>' => some "&gt;"
  | '"' => some "&#34;"
  | '\r' => some "&#13;"
  | _ => none

/-- The text with each character that needs one written as its reference. -/
def escapeHtml (s : String) : String :=
  String.join (s.toList.map fun c => (htmlReference c).getD c.toString)

end Stencil.Text
