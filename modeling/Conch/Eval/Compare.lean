import Conch.Eval.Class
import Conch.Eval.Number

/-!
# Comparing values

Numbers are compared by what they are worth, whatever their kind; sequences item by item. Values
that serve as keys must not be changeable.
-/

namespace Conch.Eval

open Decimal Code

/-- An integer against a float, exactly; nothing compares with what is not a number. -/
def compareMixed (n : Int) (x : Float) : Option Ordering :=
  match shape x with
  | .undefined => none
  | .infinite negative => some (if negative then .gt else .lt)
  | .finite b =>
    let below := Number.floor b
    some (if n < below then .lt else if n > below then .gt
      else if Number.isIntegral b then .eq else .lt)

def compareFloats (x y : Float) : Option Ordering :=
  if x < y then some .lt else if x > y then some .gt else if x == y then some .eq else none

/-- Two numbers by what they are worth; `none` twice over for what is no number. -/
def compareNumbers? (a b : Value) : Option (Option Ordering) :=
  match a, b with
  | .float x, .float y => some (compareFloats x y)
  | .float x, b => (Number.asInt? b).map fun n => (compareMixed n x).map Ordering.swap
  | a, .float y => (Number.asInt? a).map fun n => compareMixed n y
  | a, b => match Number.asInt? a, Number.asInt? b with
    | some m, some n => some (some (compare m n))
    | _, _ => none

def equalLists (m : Machine) : List Value → List Value → Run Bool
  | [], [] => return true
  | a :: as, b :: bs => do
    if identical a b then equalLists m as bs
    else if ← m.equal a b then equalLists m as bs
    else return false
  | _, _ => return false

/-- What is kept under a key. -/
def findEntry (m : Machine) (key : Value) : List (Value × Value) → Run (Option Value)
  | [] => return none
  | (k, v) :: rest => do
    let found ← match key, k with
      | .text a, .text b => pure (decide (a = b))
      | key, k => if identical key k then pure true else m.equal k key
    if found then return some v else findEntry m key rest

def putEntry (m : Machine) (key v : Value) :
    List (Value × Value) → Run (List (Value × Value))
  | [] => return [(key, v)]
  | (k, old) :: rest => do
    let found ← match key, k with
      | .text a, .text b => pure (decide (a = b))
      | key, k => if identical key k then pure true else m.equal k key
    if found then return (k, v) :: rest
    else return (k, old) :: (← putEntry m key v rest)

def eraseEntry (m : Machine) (key : Value) :
    List (Value × Value) → Run (List (Value × Value))
  | [] => return []
  | (k, v) :: rest => do
    if ← (if identical key k then pure true else m.equal k key) then return rest
    else return (k, v) :: (← eraseEntry m key rest)

def contains (m : Machine) (v : Value) : List Value → Run Bool
  | [] => return false
  | x :: rest => do
    if ← (if identical v x then pure true else m.equal x v) then return true
    else contains m v rest

/-- Whether all entries of one dictionary are in another. -/
def entriesWithin (m : Machine) (others : List (Value × Value)) :
    List (Value × Value) → Run Bool
  | [] => return true
  | (k, v) :: rest => do
    match ← findEntry m k others with
    | some w => if ← m.equal v w then entriesWithin m others rest else return false
    | none => return false

def allIn (m : Machine) (others : List Value) : List Value → Run Bool
  | [] => return true
  | v :: rest => do
    if ← contains m v others then allIn m others rest else return false

def rangeLength (start stop step : Int) : Nat :=
  if step > 0 then (Int.fdiv (stop - start + step - 1) step).toNat
  else if step < 0 then (Int.fdiv (start - stop - step - 1) (-step)).toNat
  else 0

def rangeItem (start step : Int) (k : Nat) : Int := start + step * k

/-- Asks the objects of programs' own classes. -/
def askEqual (m : Machine) (a b : Value) : Run (Option Bool) := do
  match ← callSpecial m a "__eq__" [b] with
  | some .notImplemented | none => match ← callSpecial m b "__eq__" [a] with
    | some .notImplemented | none => return none
    | some v => some <$> truth m v
  | some v => some <$> truth m v

def equalObjects (m : Machine) (x y : Object) : Run Bool :=
  match x, y with
  | .list as, .list bs => equalLists m as bs
  | .dict es, .dict fs =>
    if es.length = fs.length then entriesWithin m fs es else return false
  | .set as _, .set bs _ => if as.length = bs.length then allIn m bs as else return false
  | .bound s f, .bound t g => return identical s t && identical f g
  | .view k d, .view l e => do
    let as := viewParts k (← entriesAt d)
    let bs := viewParts l (← entriesAt e)
    if k = "dict_values" then return false
    else if as.length = bs.length then allIn m bs as else return false
  | _, _ => return false
where
  viewParts (kind : String) (entries : List (Value × Value)) : List Value :=
    if kind = "dict_items" then entries.map fun (k, v) => .tuple [k, v] else entries.map (·.1)

def equalValues (m : Machine) (a b : Value) : Run Bool := do
  match compareNumbers? a b with
  | some o => return o == some .eq
  | none => match a, b with
    | .tuple as, .tuple bs => equalLists m as bs
    | .range s t u, .range s' t' u' =>
      let n := rangeLength s t u
      return n = rangeLength s' t' u' && (n = 0 || s = s') && (n ≤ 1 || u = u')
    | .slice s t u, .slice s' t' u' => equalLists m [s, t, u] [s', t', u']
    | .method s n, .method t k => return identical s t && n = k
    | a, b =>
      if identical a b then
        match ← askEqual m a b with
        | some r => return r
        | none => return true
      else match ← object? a, ← object? b with
        | some x, some y => match ← askEqual m a b with
          | some r => return r
          | none => equalObjects m x y
        | some _, none | none, some _ => return (← askEqual m a b).getD false
        | none, none => return false

def orderText : CompareOp → String
  | .lt => "<"
  | .le => "<="
  | .gt => ">"
  | .ge => ">="
  | _ => "=="

def holds (op : CompareOp) (o : Ordering) : Bool :=
  match op with
  | .lt => o == .lt
  | .le => o != .gt
  | .gt => o == .gt
  | .ge => o != .lt
  | _ => o == .eq

def specialName : CompareOp → String
  | .lt => "__lt__"
  | .le => "__le__"
  | .gt => "__gt__"
  | .ge => "__ge__"
  | _ => "__eq__"

def flipped : CompareOp → CompareOp
  | .lt => .gt
  | .le => .ge
  | .gt => .lt
  | .ge => .le
  | op => op

/-- Sequences are ordered by their first difference, and by length when there is none. -/
def orderLists (m : Machine) (op : CompareOp) : List Value → List Value → Run Value
  | [], [] => return .bool (holds op .eq)
  | [], _ :: _ => return .bool (holds op .lt)
  | _ :: _, [] => return .bool (holds op .gt)
  | a :: as, b :: bs => do
    if ← (if identical a b then pure true else m.equal a b) then orderLists m op as bs
    else m.order op a b

def orderSets (m : Machine) (op : CompareOp) (as bs : List Value) : Run Bool := do
  match op with
  | .le => allIn m bs as
  | .lt => return as.length < bs.length && (← allIn m bs as)
  | .ge => allIn m as bs
  | _ => return bs.length < as.length && (← allIn m as bs)

def orderValues (m : Machine) (op : CompareOp) (a b : Value) : Run Value := do
  match compareNumbers? a b with
  | some o => return .bool (o.any (holds op))
  | none => match a, b with
    | .text s, .text t => return .bool (holds op (compare s t))
    | .bytes s, .bytes t => return .bool (holds op (compareBytes s t))
    | .tuple as, .tuple bs => orderLists m op as bs
    | a, b => match ← object? a, ← object? b with
      | some (.list as), some (.list bs) => orderLists m op as bs
      | some (.set as _), some (.set bs _) => return .bool (← orderSets m op as bs)
      | _, _ =>
        match ← callSpecial m a (specialName op) [b] with
        | some .notImplemented | none =>
          match ← callSpecial m b (specialName (flipped op)) [a] with
          | some .notImplemented | none =>
            fail (.incomparable (orderText op) (← typeName a) (← typeName b))
          | some v => return v
        | some v => return v
where
  compareBytes : List UInt8 → List UInt8 → Ordering
    | [], [] => .eq
    | [], _ :: _ => .lt
    | _ :: _, [] => .gt
    | x :: xs, y :: ys => if x < y then .lt else if y < x then .gt else compareBytes xs ys

/-- Whether the first value is less than the second. -/
def isLess (m : Machine) (a b : Value) : Run Bool := do truth m (← m.order .lt a b)

mutual

/-- Fails unless a value can be a key. -/
def ensureKey (v : Value) : Run Unit :=
  match v with
  | .tuple vs => ensureKeys vs
  | .slice .. => fail (.unhashable "slice")
  | v => do match ← object? v with
    | some (.list _) => fail (.unhashable "list")
    | some (.dict _) => fail (.unhashable "dict")
    | some (.set _ false) => fail (.unhashable "set")
    | some (.instance cls _ _) =>
      if (← findInClass cls "__eq__").isSome && (← findInClass cls "__hash__").isNone then
        fail (.unhashable (← className cls))
    | _ => return

def ensureKeys : List Value → Run Unit
  | [] => return
  | v :: vs => do
    ensureKey v
    ensureKeys vs

end

/-- Adds a value to a set. Integers come in ascending order, everything else as it was added. -/
def addToSet (m : Machine) (v : Value) (items : List Value) : Run (List Value) := do
  ensureKey v
  if ← contains m v items then return items
  else match v with
    | .int n => return insertInt n items
    | _ => return items ++ [v]
where
  insertInt (n : Int) : List Value → List Value
    | [] => [.int n]
    | .int k :: rest => if n < k then .int n :: .int k :: rest else .int k :: insertInt n rest
    | other :: rest => other :: insertInt n rest

def setOfList (m : Machine) (vs : List Value) : Run (List Value) :=
  vs.foldlM (fun items v => addToSet m v items) []

/-- Puts a value into a list sorted from the greatest down, in front of those it is not less than.
-/
def insertSorted (before : Value → Value → Run Bool) (v : Value) : List Value → Run (List Value)
  | [] => return [v]
  | x :: rest => do
    if ← before v x then return x :: (← insertSorted before v rest)
    else return v :: x :: rest

/-- A stable sort; it fails as a comparison fails. -/
def sortWith (before : Value → Value → Run Bool) (vs : List Value) : Run (List Value) := do
  let descending ← vs.foldlM (fun done v => insertSorted before v done) []
  return descending.reverse

end Conch.Eval
