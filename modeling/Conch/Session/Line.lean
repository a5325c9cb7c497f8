import Conch.Eval.Machine
import Conch.Line.Lowering
import Conch.Line.Segment
import Conch.Session.Settle

/-!
# Running a line

The segments of a line are run from left to right. One behind `&&` is passed over unless the status
is zero, and one behind `||` if it is zero; a segment that is run replaces the status if it has one.
-/

namespace Conch.Session

open Eval
open Line (Operator Piece)

/-- How a segment ends. -/
inductive Ending (status : Type) where
  /-- The shell is to be left. -/
  | leave
  | status (value : status)
  /-- Without a status of its own: the one before it stays. -/
  | unchanged

/-- Whether a segment behind an operator is passed over. -/
def passesOver (operator : Option Operator) (isZero : Bool) : Bool :=
  match operator with
  | some .both => !isZero
  | some .either => isZero
  | some .always | none => false

/-- Runs segments one after the other and tells whether the shell is to be left. -/
def runPieces {m : Type → Type} [Monad m] {status : Type} (isZero : status → m Bool)
    (execute : List Char → m (Ending status)) (last : status) : List Piece → m Bool
  | [] => return false
  | p :: rest => do
    let skipped ← match p.operator with
      | some .both | some .either => passesOver p.operator <$> isZero last
      | _ => pure false
    if skipped then runPieces isZero execute last rest
    else
      match ← execute p.text with
      | .leave => return true
      | .status s => runPieces isZero execute s rest
      | .unchanged => runPieces isZero execute last rest

/-- Runs a line of segments; the status is `zero` at first. -/
def runText {m : Type → Type} [Monad m] {status : Type} (isZero : status → m Bool)
    (execute : List Char → m (Ending status)) (zero : status) (line : List Char) : m Bool :=
  runPieces isZero execute zero (Line.segments line)

/-- What is said about a text that cannot be made a program. -/
def loweringMessage : Line.LoweringFault → String
  | .rejected (.fault _) => "SyntaxError"
  | .rejected .nul => nulMessage
  | .unprintable why => why.message
  | .noStatements kind => "object of type '" ++ kind ++ "' has no len()"

def isZero (v : Value) : Run Bool := standardMachine.equal v (.int 0)

/-- The status of the last command, if one was run. -/
def lastStatus (main : Addr) : Run (Option Value) := getGlobal? main Library.statusName

/-- How a segment ends by what the last command left as its status. -/
def endingOf : Value → Ending Value
  | .bool true => .leave
  | .none => .unchanged
  | v => .status v

/-- Runs a segment with the variables of the session. -/
def runSegment (segment : List Char) : Run (Ending Value) := do
  let main := (← get).main
  let names ← entriesAt main
  match Line.lower .module (fun n => (lookupName names n).isSome) (String.ofList segment) with
  | .error why =>
    printErr ("Error: " ++ loweringMessage why ++ "\n")
    return .status (.int 1)
  | .ok program =>
    let _ ← interpret standardMachine main program
    return endingOf ((← lastStatus main).getD (.int 0))

/-- Runs a segment. Code tells of its errors itself; an error that is met in telling of one is told
here, and is a failure of the segment. -/
def executeSegment (segment : List Char) : Run (Ending Value) :=
  settling (catching "Exception" (runSegment segment) fun e => do
    printErr ("Error: " ++ (← formatted standardMachine e "") ++ "\n")
    return .status (.int 1))

/-- Runs a line and tells whether the shell is to be left. -/
def runLine (line : String) : Run Bool := runText isZero executeSegment (.int 0) line.toList

end Conch.Session
