import Conch.Eval.Assign
import Conch.Eval.Operator

/-!
# Patterns

A pattern fits a value or does not; names in it are bound as it is gone through.
-/

namespace Conch.Eval

open Code

/-- The items of a value that a sequence pattern can fit. -/
def sequenceItems (v : Value) : Run (Option (List Value)) := do
  match v with
  | .tuple vs => return some vs
  | .range .. => return none
  | v => match ← object? v with
    | some (.list vs) => return some vs
    | _ => return none

def isStarPattern : Pattern → Bool
  | .star _ => true
  | _ => false

/-- The attributes that positional parts of a class pattern stand for. -/
def matchArgs (cls : Value) : Run (List String) := do
  match ← findInClass cls "__match_args__" with
  | some (.tuple vs) => return vs.filterMap fun v => match v with
    | .text t => some t
    | _ => none
  | _ => return []

/-- Classes whose only positional part is the value itself. -/
def selfMatching : List String :=
  ["bool", "bytearray", "bytes", "dict", "float", "frozenset", "int", "list", "set", "str", "tuple"]

/-- The entries whose keys no pattern names. -/
def dropKeys (m : Machine) (es : List (Value × Value)) :
    List KeyPattern → Run (List (Value × Value))
  | [] => return es
  | .mk key _ :: ps => do dropKeys m (← eraseEntry m (← m.eval key) es) ps

mutual

def matchPattern (m : Machine) (v : Value) : Pattern → Run Bool
  | .value e => do m.equal v (← m.eval e)
  | .singleton c =>
    match c, v with
    | .none, .none => return true
    | .bool a, .bool b => return a = b
    | _, _ => return false
  | .capture pattern name => do
    if ← matchOptional m v pattern then
      if let some n := name then assignVar n v
      return true
    else return false
  | .star _ => return true
  | .either ps => matchAny m v ps
  | .sequence ps => do
    match ← sequenceItems v with
    | none => return false
    | some vs =>
      let stars := ps.countP isStarPattern
      if stars = 0 && vs.length ≠ ps.length then return false
      else if stars > 0 && vs.length + 1 < ps.length then return false
      else matchItems m (vs.length + 1 - ps.length) vs ps
  | .mapping items rest => do
    match ← object? v with
    | some (.dict es) =>
      if ← matchKeys m es items then
        if let some n := rest then
          assignVar n (← make (.dict (← dropKeys m es items)))
        return true
      else return false
    | _ => return false
  | .object cls items attributes => do
    let c ← m.eval cls
    if !(← isClass c) then failType "called match pattern must be a class"
    if ← isInstance v c then
      let name ← className c
      let names ← matchArgs c
      if ← matchPositional m v (selfMatching.contains name) name names items then
        matchAttributes m v attributes
      else return false
    else return false

def matchOptional (m : Machine) (v : Value) : Option Pattern → Run Bool
  | none => return true
  | some p => matchPattern m v p

def matchAny (m : Machine) (v : Value) : List Pattern → Run Bool
  | [] => return false
  | p :: ps => do if ← matchPattern m v p then return true else matchAny m v ps

/-- Fits items to patterns; a starred one takes `spare` of them. -/
def matchItems (m : Machine) (spare : Nat) (vs : List Value) : List Pattern → Run Bool
  | [] => return true
  | .star name :: ps => do
    if let some n := name then assignVar n (← make (.list (vs.take spare)))
    matchItems m spare (vs.drop spare) ps
  | p :: ps => do
    match vs with
    | [] => return false
    | x :: rest => if ← matchPattern m x p then matchItems m spare rest ps else return false

def matchKeys (m : Machine) (es : List (Value × Value)) : List KeyPattern → Run Bool
  | [] => return true
  | .mk key p :: ps => do
    match ← findEntry m (← m.eval key) es with
    | some v => if ← matchPattern m v p then matchKeys m es ps else return false
    | none => return false

def matchAttributes (m : Machine) (v : Value) : List NamedPattern → Run Bool
  | [] => return true
  | .mk name p :: ps => do
    match ← attr? m v name with
    | some x => if ← matchPattern m x p then matchAttributes m v ps else return false
    | none => return false

/-- Fits the positional parts of a class pattern: to the value itself if `whole`, else to
attributes. -/
def matchPositional (m : Machine) (v : Value) (whole : Bool) (cls : String) (names : List String) :
    List Pattern → Run Bool
  | [] => return true
  | p :: ps => do
    if whole then matchPattern m v p
    else match names with
      | [] =>
        failType (cls ++ "() accepts 0 positional sub-patterns (" ++ toString (ps.length + 1) ++
          " given)")
      | n :: more => match ← attr? m v n with
        | some x =>
          if ← matchPattern m x p then matchPositional m v whole cls more ps else return false
        | none => return false

end

end Conch.Eval
