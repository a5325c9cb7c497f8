import Conch.Eval.Stmt

/-!
# The machine

The operations of a program call on one another without end in sight; a machine of `n + 1` levels
does one step and leaves the parts to a machine of `n` levels.
-/

namespace Conch.Eval

/-- A machine that has come to its bound. -/
def Machine.spent : Machine where
  eval := fun _ => throw .exhausted
  exec := fun _ => throw .exhausted
  call := fun _ _ _ => throw .exhausted
  shown := fun _ => throw .exhausted
  equal := fun _ _ => throw .exhausted
  order := fun _ _ _ => throw .exhausted
  advance := fun _ => throw .exhausted

/-- One step of each operation. -/
def Machine.over (inner : Unit → Machine) : Machine where
  eval := fun e => evalExpr (inner ()) e
  exec := fun ss => execAll (inner ()) ss
  call := fun f args keywords => Library.callValue (inner ()) f args keywords
  shown := fun v => showValue (inner ()) v
  equal := fun a b => equalValues (inner ()) a b
  order := fun op a b => orderValues (inner ()) op a b
  advance := fun v => advanceValue (inner ()) v

def machine : Nat → Machine
  | 0 => .spent
  | n + 1 => .over fun _ => machine n

/-- More levels than any program nests. -/
def manyLevels : Nat := Nat.pow 2 40

def standardMachine : Machine := machine manyLevels

end Conch.Eval
