import Conch.Eval.Library.Convert
import Conch.Eval.Machine

/-!
# Data

What goes into a session from outside and what is told about its values: plain data, the outcome of
a command, and the written form of everything else.
-/

namespace Conch.Session

open Eval

inductive Datum where
  | null
  | bool (value : Bool)
  | int (value : Int)
  | text (value : String)
  | list (items : List Datum)
  | tuple (items : List Datum)
  | dict (entries : List (Datum × Datum))
  /-- A number by its text. -/
  | float (written : String)
  | outcome (code out err : Datum)
  /-- Something else, by its written form. -/
  | other (written : String)
  deriving Inhabited

namespace Datum

mutual

/-- Makes the value that a datum stands for. -/
def load (m : Machine) : Datum → Run Value
  | null => return .none
  | bool b => return .bool b
  | int n => return .int n
  | text s => return .text s
  | list items => do make (.list (← loadAll m items))
  | tuple items => do return .tuple (← loadAll m items)
  | dict entries => do make (.dict (← loadEntries m entries))
  | float written => Library.toFloat m [.text written]
  | outcome code out err => do makeResult (← load m code) (← load m out) (← load m err)
  | other written => return .text written

def loadAll (m : Machine) : List Datum → Run (List Value)
  | [] => return []
  | d :: rest => do
    let v ← load m d
    return v :: (← loadAll m rest)

def loadEntries (m : Machine) : List (Datum × Datum) → Run (List (Value × Value))
  | [] => return []
  | (k, d) :: rest => do
    let key ← load m k
    let value ← load m d
    return (key, value) :: (← loadEntries m rest)

end

/-- Tells about a value that is nested no deeper than `depth`. -/
def tell (m : Machine) : Nat → Value → Run Datum
  | 0, v => do return other (← m.shown v)
  | depth + 1, v => do
    match v with
    | .none => return null
    | .bool b => return bool b
    | .int n => return int n
    | .text s => return text s
    | .tuple items => do return list (← items.mapM (tell m depth))
    | v => match ← object? v with
      | some (.list items) => return list (← items.mapM (tell m depth))
      | some (.instance (.type "CommandResult") attrs _) =>
        let part (name : String) : Run Datum := tell m depth ((attrs.get? name).getD .none)
        return outcome (← part "returncode") (← part "stdout") (← part "stderr")
      | _ => return other (← m.shown v)

/-- Deeper than lists are told about. -/
def maxDepth : Nat := 200

def ofValue (m : Machine) (v : Value) : Run Datum := tell m maxDepth v

end Datum

end Conch.Session
