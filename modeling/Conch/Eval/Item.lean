import Conch.Eval.Compare

/-!
# Items

Access to the items of sequences and dictionaries, one at a time or by slices. A negative position
counts from the end.
-/

namespace Conch.Eval

/-- A position from the start, if there is one. -/
def position? (size : Nat) (i : Int) : Option Nat :=
  let k := if i < 0 then i + size else i
  if 0 ≤ k && k < size then some k.toNat else none

/-- A bound of a slice, brought between two limits. -/
def clampBound (size : Nat) (low high : Int) (i : Int) : Int :=
  let k := if i < 0 then i + size else i
  if k < low then low else if k > high then high else k

/-- The start, the stop and the step of a slice of something of a given size. -/
def sliceBounds (size : Nat) (start stop : Option Int) (step : Int) : Int × Int × Int :=
  let n : Int := size
  if step > 0 then
    ((start.map (clampBound size 0 n)).getD 0, (stop.map (clampBound size 0 n)).getD n, step)
  else
    ((start.map (clampBound size (-1) (n - 1))).getD (n - 1),
      (stop.map (clampBound size (-1) (n - 1))).getD (-1), step)

/-- The positions that a slice takes, in its order. -/
def slicePositions (bounds : Int × Int × Int) : List Nat :=
  let (start, stop, step) := bounds
  (List.range (rangeLength start stop step)).map fun k => (rangeItem start step k).toNat

def pick {α : Type} (items : List α) (positions : List Nat) : List α :=
  let a := items.toArray
  positions.filterMap fun k => a[k]?

/-- An integer, or an object that stands for one. -/
def index? (m : Machine) (v : Value) : Run (Option Int) := do
  match Number.asInt? v with
  | some n => return some n
  | none => match ← callSpecial m v "__index__" [] with
    | some r => return Number.asInt? r
    | none => return none

def expectIndex (m : Machine) (v : Value) : Run Int := do
  match ← index? m v with
  | some n => return n
  | none => fail (.notInteger (← typeName v))

def sliceBound (m : Machine) (v : Value) : Run (Option Int) := do
  match v with
  | .none => return none
  | v => match ← index? m v with
    | some n => return some n
    | none => failType "slice indices must be integers or None or have an __index__ method"

def boundsOf (m : Machine) (size : Nat) (start stop step : Value) : Run (Int × Int × Int) := do
  let step := (← sliceBound m step).getD 1
  if step = 0 then failValue "slice step cannot be zero"
  let start ← sliceBound m start
  let stop ← sliceBound m stop
  return sliceBounds size start stop step

/-- An item or a slice of a sequence. -/
def itemOf {α : Type} (m : Machine) (container : String) (items : List α) (one : α → Run Value)
    (many : List α → Run Value) (index : Value) : Run Value := do
  match index with
  | .slice a b c => many (pick items (slicePositions (← boundsOf m items.length a b c)))
  | index => match ← index? m index with
    | some i => match (position? items.length i).bind (items[·]?) with
      | some x => one x
      | none => fail (.indexRange container)
    | none => fail (.badIndex container (← typeName index))

def getItem (m : Machine) (v index : Value) : Run Value := do
  match v with
  | .text s =>
    itemOf m "string" s.toList (fun c => return .text c.toString)
      (fun cs => return .text (String.ofList cs)) index
  | .bytes b => itemOf m "index" b (fun x => return .int x.toNat) (fun xs => return .bytes xs) index
  | .tuple vs => itemOf m "tuple" vs (fun x => return x) (fun xs => return .tuple xs) index
  | .range a b c =>
    let size := rangeLength a b c
    match index with
    | .slice x y z =>
      let (s, t, u) ← boundsOf m size x y z
      return .range (a + c * s) (a + c * t) (c * u)
    | index => match ← index? m index with
      | some i => match position? size i with
        | some k => return .int (rangeItem a c k)
        | none => fail (.indexRange "range object")
      | none => fail (.badIndex "range" (← typeName index))
  | .module "os.environ" => match index with
    | .text name => match (← get).world.env[name]? with
      | some value => return .text value
      | none => failKey index
    | index => failType ("str expected, not " ++ (← typeName index))
  | .type name => failType ("type '" ++ name ++ "' is not subscriptable")
  | .ref a => match ← object a with
    | .list vs => itemOf m "list" vs (fun x => return x) (fun xs => make (.list xs)) index
    | .dict es =>
      ensureKey index
      match ← findEntry m index es with
      | some x => return x
      | none => failKey index
    | .instance cls _ _ => match ← callSpecial m v "__getitem__" [index] with
      | some x => return x
      | none => fail (.notSubscriptable (← className cls))
    | _ => fail (.notSubscriptable (← typeName v))
  | v => fail (.notSubscriptable (← typeName v))

/-- Replaces the items at the positions of a slice with a step of its own. -/
def overwrite (items : List Value) (changes : List (Nat × Value)) : List Value :=
  items.zipIdx.map fun (x, k) => (changes.lookup k).getD x

def setSlice (m : Machine) (items : List Value) (start stop step : Value) (new : List Value) :
    Run (List Value) := do
  let (s, t, u) ← boundsOf m items.length start stop step
  if u = 1 then
    let from_ := s.toNat
    return items.take from_ ++ new ++ items.drop (max from_ t.toNat)
  else
    let positions := slicePositions (s, t, u)
    if positions.length ≠ new.length then
      failValue ("attempt to assign sequence of size " ++ toString new.length ++
        " to extended slice of size " ++ toString positions.length)
    return overwrite items (positions.zip new)

/-- Sets an item; `collect` gives the items of what is put in the place of a slice. -/
def setItem (m : Machine) (collect : Value → Run (List Value)) (v index new : Value) :
    Run Unit := do
  match v with
  | .module "os.environ" => match index, new with
    | .text name, .text value =>
      modify fun s => { s with world := { s.world with env := s.world.env.insert name value } }
    | index, new =>
      let bad := match index with
        | .text _ => new
        | _ => index
      failType ("str expected, not " ++ (← typeName bad))
  | .ref a => match ← object a with
    | .list vs => match index with
      | .slice s t u =>
        let isList ← isIterable new
        if !isList then failType "can only assign an iterable"
        let news ← collect new
        update a (.list (← setSlice m vs s t u news))
      | index => match ← index? m index with
        | some i => match position? vs.length i with
          | some k => update a (.list (vs.set k new))
          | none => fail (.badLookup "list assignment index out of range")
        | none => fail (.badIndex "list" (← typeName index))
    | .dict es =>
      ensureKey index
      update a (.dict (← putEntry m index new es))
    | .instance cls _ _ => match ← callSpecial m v "__setitem__" [index, new] with
      | some _ => return
      | none => fail (.noItemAssignment (← className cls))
    | _ => fail (.noItemAssignment (← typeName v))
  | v => fail (.noItemAssignment (← typeName v))
where
  isIterable (v : Value) : Run Bool :=
    match v with
    | .none | .bool _ | .int _ | .float _ | .ellipsis => return false
    | _ => return true

def deleteItem (m : Machine) (v index : Value) : Run Unit := do
  match v with
  | .module "os.environ" => match index with
    | .text name =>
      if (← get).world.env.contains name then
        modify fun s => { s with world := { s.world with env := s.world.env.erase name } }
      else failKey index
    | _ => failKey index
  | .ref a => match ← object a with
    | .list vs => match index with
      | .slice s t u =>
        let gone := slicePositions (← boundsOf m vs.length s t u)
        update a (.list ((vs.zipIdx.filter fun (_, k) => !gone.contains k).map (·.1)))
      | index => match ← index? m index with
        | some i => match position? vs.length i with
          | some k => update a (.list (vs.eraseIdx k))
          | none => fail (.badLookup "list assignment index out of range")
        | none => fail (.badIndex "list" (← typeName index))
    | .dict es =>
      ensureKey index
      match ← findEntry m index es with
      | some _ => update a (.dict (← eraseEntry m index es))
      | none => failKey index
    | .instance cls _ _ => match ← callSpecial m v "__delitem__" [index] with
      | some _ => return
      | none => fail (.noItemDeletion (← className cls))
    | _ => fail (.noItemDeletion (← typeName v))
  | v => fail (.noItemDeletion (← typeName v))

end Conch.Eval
