import Conch.Text.Blank

/-!
# Indentation of the next line

A new line starts under the last line that is not blank, and four columns further in when that line
ends in a colon.
-/

namespace Conch.Screen

/-- Cuts a text at its line feeds. -/
def splitAtNewlines (line : List Char) : List Char → List (List Char)
  | [] => [line.reverse]
  | c :: rest => if c = '\n' then line.reverse :: splitAtNewlines [] rest
    else splitAtNewlines (c :: line) rest

def textLines (text : List Char) : List (List Char) := splitAtNewlines [] text

def lineIndent (line : List Char) : Nat :=
  let own := line.length - (Text.trimLeft line).length
  if (Text.trimRight line).getLast? = some ':' then own + 4 else own

/-- How many columns the line behind a text is indented. -/
def nextIndent (text : List Char) : Nat :=
  match (textLines text).reverse.find? fun line => !(Text.trim line).isEmpty with
  | some line => lineIndent line
  | none => 0

end Conch.Screen
