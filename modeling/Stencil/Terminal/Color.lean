import Stencil.Config.Environment
import Stencil.Numeric.Double
/-!
# Colours on a terminal

Output that does not go to a terminal is painted only when the environment forces colour:
`CLICOLOR_FORCE` is set to something other than `0` and `NO_COLOR` is empty or unset. Log lines
are then painted in true colour; styled program output keeps to the sixteen basic colours, each
colour of the palette shown as the basic colour that stands for it. Painted text stands between
its sequence and the reset sequence; a title is bold as well.

A colour is carried as fractions of full intensity in double precision, each part scaled by the
double nearest `1/255`, and a sequence writes each part scaled back by 255 and cut to a whole
number. The two roundings can leave a part one below where it started.
-/

namespace Stencil.Terminal

/-- A colour by its red, green and blue parts, each below 256. -/
structure Rgb where
  red : Nat
  green : Nat
  blue : Nat
deriving DecidableEq, Repr

/-- A colour of the palette: its true colour, and the basic colour (of sixteen, numbered from
zero) that stands for it where only those are shown. The basic colour is the nearest, by
distance in the HSLuv space, to the colour of the 256-colour cube that is nearest the true one. -/
structure Tint where
  rgb : Rgb
  basic : Nat
deriving DecidableEq, Repr

/-- The accent colour of titles. -/
def iris : Tint := ⟨⟨0x8B, 0x5C, 0xF6⟩, 12⟩

/-- The colour of muted text and of information. -/
def slate : Tint := ⟨⟨0x66, 0x70, 0x85⟩, 12⟩

/-- The colour of success. -/
def green : Tint := ⟨⟨0x22, 0xA0, 0x6B⟩, 2⟩

/-- The colour of errors. -/
def red : Tint := ⟨⟨0xD9, 0x30, 0x25⟩, 9⟩

/-- The colour of warnings. -/
def yellow : Tint := ⟨⟨0xF5, 0x9E, 0x0B⟩, 11⟩

/-- How many colours styled output may show. -/
inductive Palette where
  /-- None: text stays plain. -/
  | plain
  /-- The sixteen basic colours. -/
  | basic
  /-- Every colour. -/
  | full
deriving DecidableEq, Repr

/-- Whether output that is not a terminal is painted. -/
def colorForced (env : Environment) : Bool :=
  let get (n : String) := (env.value n).getD ""
  get "NO_COLOR" == "" && get "CLICOLOR_FORCE" != "" && get "CLICOLOR_FORCE" != "0"

/-- The control sequence introducer. -/
def csi : String := "\x1b["

/-- A part of a colour after it went to a fraction and back: `v` times the double nearest
`1/255`, rounded, times 255, rounded, and cut to a whole number. -/
def channel (v : Nat) : Nat :=
  let step := (Double.nearest 1 255).getD ⟨0, 0⟩
  match (Double.Binary.mk v 0).mul step with
  | some x => ((x.mul ⟨255, 0⟩).map Double.Binary.truncate).getD v
  | none => v

/-- The sequence parameters of a true-colour foreground. -/
def Rgb.foreground (c : Rgb) : String :=
  "38;2;" ++ toString (channel c.red) ++ ";" ++ toString (channel c.green) ++ ";" ++
    toString (channel c.blue)

/-- The sequence parameter of a basic foreground colour: `30` to `37`, then `90` to `97`. -/
def basicForeground (n : Nat) : String :=
  toString (if n < 8 then 30 + n else 90 + (n - 8))

/-- Text between a sequence with the given parameters and the reset sequence. -/
def styled (params : List String) (s : String) : String :=
  csi ++ ";".intercalate params ++ "m" ++ s ++ csi ++ "0m"

/-- Text in a colour, when `painted`, in true colour; else the text itself. -/
def paint (painted : Bool) (c : Tint) (s : String) : String :=
  if painted then styled [c.rgb.foreground] s else s

/-- Text in a colour as a palette shows it, bold as well if asked. -/
def Palette.paint (p : Palette) (bold : Bool) (c : Tint) (s : String) : String :=
  let weight := if bold then ["1"] else []
  match p with
  | .plain => s
  | .basic => styled (weight ++ [basicForeground c.basic]) s
  | .full => styled (weight ++ [c.rgb.foreground]) s

end Stencil.Terminal
