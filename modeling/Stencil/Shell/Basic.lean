/-!
# Completion scripts

A completion script is shell code that a shell loads to complete a program's command line. On
each completion it calls the program back with a hidden request word, the words typed so far and
the word being completed. The program prints one choice a line, then a colon and the directive
that tells the shell how to treat the choices. The script of each shell is fixed text around
three things: the program's name, the name in capitals for the variables the script sets, and the
request word, which says whether the choices come with descriptions.
-/

namespace Stencil.Shell

/-- Lines of text, each ended with a line break. -/
def unlines (ls : List String) : String :=
  String.join (ls.map (· ++ "\n"))

/-- Text padded on the right with spaces to a width in characters. -/
def padRight (s : String) (w : Nat) : String :=
  s ++ String.ofList (List.replicate (w - s.length) ' ')

/-- The prefix of the variables a program's scripts set: its name in capitals, with every
character other than a letter, a digit or an underscore made an underscore. -/
def envPrefix (name : String) : String :=
  name.map fun c => if c.toUpper.isUpper || c.isDigit || c == '_' then c.toUpper else '_'

end Stencil.Shell
