import Conch.Session.Datum
import Conch.World.Setup

/-!
# Starting a session

A session starts in a world, with the variables that programs always find and those that are asked
for.
-/

namespace Conch.Session

open Eval

/-- The variables that programs always find. -/
def initialVars : List (Value × Value) :=
  [(.text "__name__", .text "__main__"), (.text "__builtins__", .module "builtins"),
    (.text "CommandResult", commandResult), (.text "__expand_at", .builtin "expand_at"),
    (.text "__shell", .builtin "shell")]

/-- The dictionary of variables, and a frame that is run with it. -/
def initialStore : Array Object := #[.dict initialVars, .frame (moduleFrame 0)]

def initial (w : World) : Eval.Session := ⟨w, initialStore, 1, [], 0, [], by decide⟩

/-- Sets variables. -/
def setVars (vars : List (String × Datum)) : Run Unit :=
  vars.forM fun (name, d) => do
    let v ← d.load standardMachine
    setGlobal (← get).main name v

def start (w : World) (vars : List (String × Datum)) : Eval.Session :=
  (setVars vars (initial w)).2

end Conch.Session
