import Conch.Line.Quote
import Conch.Shell.Run
import Conch.Text.Blank

/-!
# Commands from within programs

A program runs a command for its effects, for its output or for its whole outcome. A text of several
lines is several commands.
-/

namespace Conch.Shell

open World Line

/-- What a program wants of a command. -/
inductive Capture where
  | nothing
  | output
  | outcome
  /-- Something that commands do not give. -/
  | unknown
  deriving DecidableEq, Repr

/-- What a command gives to a program. -/
inductive Reply where
  | nothing
  /-- A status that is to be remembered. -/
  | status (code : Int)
  /-- The shell is to be left; the status may have to be remembered first. -/
  | leave (code : Int) (remembered : Bool)
  | text (output : String)
  | outcome (captured : Captured)
  deriving DecidableEq, Repr

/-- The lines of a text that are commands. -/
def commandLines (command : List Char) : List String :=
  ((splitLines command).map fun l => String.ofList (Text.trim l)).filter (· ≠ "")

def trimmed (s : String) : String := Text.strip s

/-- Runs lines for their effects, up to one that leaves the shell. -/
def runLines (last : Int) : List String → Act Reply
  | [] => return .status last
  | line :: rest => do
    let s ← run line
    if s.leaves then return .leave s.code false else runLines s.code rest

/-- Captures what lines print. -/
def captureLines (lines : List String) : Act (List Captured) := lines.mapM capture

/-- The outcomes of lines as one: the last status, and all they print. -/
def joinOutcomes (outcomes : List Captured) : Captured :=
  ⟨(outcomes.getLast?.map (·.code)).getD 0, String.join (outcomes.map (·.out)),
    String.join (outcomes.map (·.err))⟩

def invokeLines (wanted : Capture) (lines : List String) : Act Reply := do
  match wanted with
  | .output =>
    let outcomes ← captureLines lines
    return .text ("\n".intercalate (outcomes.map fun c => trimmed c.out))
  | .outcome => return .outcome (joinOutcomes (← captureLines lines))
  | .nothing | .unknown => runLines 0 lines

def replyOf (s : Status) : Reply := if s.leaves then .leave s.code true else .status s.code

/-- Runs one command. One that redirects its output is never captured. -/
def invokeLine (wanted : Capture) (command : String) : Act Reply := do
  if hasRedirect command.toList then
    let s ← run command
    match wanted with
    | .nothing => return replyOf s
    | .output => return .text ""
    | .outcome => return .outcome ⟨s.code, "", ""⟩
    | .unknown => return .nothing
  else match wanted with
    | .nothing => return replyOf (← run command)
    | .output => return .text (trimmed (← capture command).out)
    | .outcome => return .outcome (← capture command)
    | .unknown => return .nothing

/-- Runs a text of one or more commands. -/
def invoke (wanted : Capture) (command : String) : Act Reply :=
  let lines := commandLines command.toList
  if command.toList.contains '\n' && lines.length > 1 then invokeLines wanted lines
  else invokeLine wanted command

end Conch.Shell
