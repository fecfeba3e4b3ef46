/-!
# Blank characters

The blank characters of Unicode (the `White_Space` property): the ASCII blanks including the
vertical tab, next line, no-break space, and the spaces of the general punctuation block. Trimming
a text removes them from both ends.
-/

namespace Stencil.Text

/-- Whether `c` is a Unicode blank. -/
def isBlank (c : Char) : Bool :=
  let n := c.toNat
  (9 ≤ n && n ≤ 13) || n == 32 || n == 0x85 || n == 0xA0 || n == 0x1680 ||
    (0x2000 ≤ n && n ≤ 0x200A) || n == 0x2028 || n == 0x2029 || n == 0x202F || n == 0x205F ||
    n == 0x3000

/-- The text without Unicode blanks at either end. -/
def trimBlank (s : String) : String :=
  String.ofList ((s.toList.dropWhile isBlank).reverse.dropWhile isBlank).reverse

end Stencil.Text
