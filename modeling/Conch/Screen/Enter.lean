import Conch.Code.Complete
import Conch.Screen.Indent

/-!
# The Enter key

Enter on a blank line hands the input over. On any other line it does so only if the input is
complete; else it opens a new line, indented to fit.
-/

namespace Conch.Screen

/-- A text being edited and the place in it where one types. -/
structure Buffer where
  text : List Char
  cursor : Nat
  deriving DecidableEq, Repr

namespace Buffer

def before (b : Buffer) : List Char := b.text.take b.cursor

def after (b : Buffer) : List Char := b.text.drop b.cursor

/-- The line that holds the cursor. -/
def currentLine (b : Buffer) : List Char :=
  (b.before.reverse.takeWhile (· != '\n')).reverse ++ b.after.takeWhile (· != '\n')

def insert (b : Buffer) (s : List Char) : Buffer :=
  ⟨b.before ++ s ++ b.after, b.cursor + s.length⟩

end Buffer

inductive Entered where
  | accepted (text : List Char)
  | editing (buffer : Buffer)
  deriving DecidableEq, Repr

/-- Presses Enter, given the answer to whether the input is complete. -/
def enter (isComplete : List Char → Bool) (b : Buffer) : Entered :=
  if (Text.trim b.currentLine).isEmpty then .accepted b.text
  else if isComplete b.text then .accepted b.text
  else .editing (b.insert ('\n' :: List.replicate (nextIndent b.text) ' '))

end Conch.Screen
