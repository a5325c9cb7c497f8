import Conch.Code.Check
import Conch.Code.Program
import Conch.Line.Expansion
import Conch.Text.Blank

/-!
# Complete input

Whether what has been typed can be run as it is, or more lines are needed. Input that is wrong in a
way that no further line can mend counts as complete.
-/

namespace Conch.Code

/-- Whether all lines are blank or comments. -/
def isVoid (text : List Char) : Bool := go true text
where
  /-- `atStart` while only blanks have been read on the line. -/
  go : Bool → List Char → Bool
    | _, [] => true
    | atStart, c :: rest =>
      if c = '\n' then go true rest
      else if !atStart then go false rest
      else if Text.isBlank c then go true rest
      else if c = '#' then go false rest
      else false

/-- At a prompt an open block goes on until its end is typed. -/
def promptReading : Reading := ⟨.interactive, false⟩

/-- Whether the text of a program can be run without more lines. -/
def isCompleteProgram (text : String) : Bool :=
  let text := if isVoid text.toList then "pass" else text
  match read promptReading text with
  | .ok _ => true
  | .rejected _ _ =>
    match read promptReading (text ++ "\n") with
    | .ok program => program.fault?.isSome
    | .rejected _ exhausted => !exhausted

/-- Whether a line of the shell, expansions and all, can be run as it is. -/
def isComplete (text : String) : Bool := isCompleteProgram (Line.spliced text).text

end Conch.Code
