import Conch.Eval.Method.File

/-!
# Files that are let go

A file that nothing refers to any more is closed, and what was written to it arrives.
-/

namespace Conch.Session

open Eval

/-- The objects that a value refers to by itself. -/
def referred : Value → List Addr
  | .ref a => [a]
  | .tuple items => referredAll items
  | .slice a b c => referred a ++ referred b ++ referred c
  | .method self _ => referred self
  | _ => []
where
  referredAll : List Value → List Addr
    | [] => []
    | v :: rest => referred v ++ referredAll rest

def referredVars (vs : Vars) : List Addr := vs.flatMap fun (_, v) => referred v

def referredIterator : Iterator → List Addr
  | .items rest failure => rest.flatMap referred ++ (failure.map referred).getD []
  | .cursor list _ => [list]
  | .count .. => []
  | .mapped f sources => referred f ++ sources.flatMap referred
  | .filtered f source => referred f ++ referred source
  | .zipped sources => sources.flatMap referred
  | .enumerated source _ => referred source
  | .comprehension frame _ _ source => frame :: referred source
  | .suspended frame _ => [frame]

/-- The objects that an object refers to. -/
def references : Object → List Addr
  | .list items | .set items _ => items.flatMap referred
  | .dict entries => entries.flatMap fun (k, v) => referred k ++ referred v
  | .function f =>
    f.globals :: f.parent.toList ++ referredVars f.defaults ++ (f.owner.map referred).getD []
  | .cls _ _ bases attrs => bases.flatMap referred ++ referredVars attrs
  | .instance cls attrs args => referred cls ++ referredVars attrs ++ args.flatMap referred
  | .bound self f => referred self ++ referred f
  | .iterator _ state => referredIterator state
  | .file _ => []
  | .frame f => f.globals :: f.parent.toList ++ referredVars f.vars ++ f.yielded.flatMap referred
  | .view _ d => [d]
  | .property g s => referred g ++ referred s
  | .staticMethod f | .classMethod f => referred f
  | .parentView c s => referred c ++ referred s

/-- Marks what can be reached, one object a step. -/
def mark (store : Array Object) : Nat → List Addr → Array Bool → Array Bool
  | 0, _, marked => marked
  | _, [], marked => marked
  | n + 1, a :: rest, marked =>
    if marked.getD a true then mark store n rest marked
    else mark store n (references (store.getD a default) ++ rest) (marked.setIfInBounds a true)

/-- More steps than objects and references among them. -/
def manySteps : Nat := Nat.pow 2 62

def reachable (store : Array Object) (roots : List Addr) : Array Bool :=
  mark store manySteps roots (Array.replicate store.size false)

/-- The files that are open and hold something back. -/
def heldBack (store : Array Object) : List (Addr × OpenFile) :=
  store.toList.zipIdx.filterMap fun (o, a) => match o with
    | .file f => if !f.closed && !f.pending.isEmpty then some (a, f) else none
    | _ => none

/-- Closes the files that cannot be reached from the variables of the session. -/
def settle : Run Unit := do
  let s ← get
  let held := heldBack s.store
  if held.isEmpty then return
  let marked := reachable s.store [s.main]
  for (a, f) in held do
    if !marked.getD a false then
      tryCatch (Method.closeFile a f) fun _ => return ()

/-- Runs a computation and lets files go behind it. -/
def settling {α : Type} (x : Run α) : Run α := finallyDo x settle

end Conch.Session
