import Conch.Eval.Compare
import Conch.Eval.Show

/-!
# Going through values

Whatever holds several values gives an iterator over them; an iterator gives them one by one.
-/

namespace Conch.Eval

/-- A bound on the number of rounds of a loop that no loop reaches. -/
def manyRounds : Nat := Nat.pow 2 62

def makeItems (kind : String) (vs : List Value) : Run Value :=
  make (.iterator kind (.items vs none))

/-- An iterator over a value. -/
def iterator (m : Machine) (v : Value) : Run Value := do
  match v with
  | .text s => makeItems "str_iterator" (s.toList.map fun c => .text c.toString)
  | .bytes b => makeItems "bytes_iterator" (b.map fun x => .int x.toNat)
  | .tuple vs => makeItems "tuple_iterator" vs
  | .range a b c => make (.iterator "range_iterator" (.count a b c))
  | .module "os.environ" =>
    makeItems "generator" ((← get).world.env.keys.map Value.text)
  | .ref a => match ← object a with
    | .list _ => make (.iterator "list_iterator" (.cursor a 0))
    | .dict es => makeItems "dict_keyiterator" (es.map (·.1))
    | .set vs _ => makeItems "set_iterator" vs
    | .view kind d =>
      makeItems ((kind.dropEnd 1).toString ++ "iterator") (viewItems kind (← entriesAt d))
    | .iterator .. | .file _ => return v
    | .instance cls _ _ => match ← callSpecial m v "__iter__" [] with
      | some it => match ← object? it with
        | some (.iterator ..) => return it
        | some (.instance c _ _) =>
          if (← findInClass c "__next__").isSome then return it
          else failType ("iter() returned non-iterator of type '" ++ (← className c) ++ "'")
        | _ => failType ("iter() returned non-iterator of type '" ++ (← typeName it) ++ "'")
      | none => fail (.notIterable (← className cls))
    | _ => fail (.notIterable (← typeName v))
  | v => fail (.notIterable (← typeName v))

/-- Folds over what an iterator still gives. -/
def foldIterator {β : Type} (m : Machine) (it : Value) (step : Value → β → Run β) :
    Nat → β → Run β
  | 0, _ => throw .exhausted
  | n + 1, acc => do
    match ← m.advance it with
    | none => return acc
    | some v => foldIterator m it step n (← step v acc)

/-- All values that something gives. -/
def collect (m : Machine) (v : Value) : Run (List Value) := do
  match v with
  | .tuple vs => return vs
  | _ => match ← object? v with
    | some (.list vs) => return vs
    | _ =>
      let it ← iterator m v
      let reversed ← foldIterator m it (fun x acc => return x :: acc) manyRounds []
      return reversed.reverse

/-- The values of something that is taken apart into `count` parts. -/
def unpacked (m : Machine) (v : Value) : Run (List Value) := do
  match v with
  | .none | .bool _ | .int _ | .float _ | .ellipsis | .type _ | .builtin _ | .module _ =>
    fail (.notUnpackable (← typeName v))
  | v => collect m v

/-- The next line of a file as text, and the bytes behind it. -/
def firstLine (cs : List Char) : List Char × List Char :=
  let line := cs.takeWhile (· != '\n')
  match cs.drop line.length with
  | nl :: rest => (line ++ [nl], rest)
  | [] => (line, [])

/-- The text that is left in a file. -/
def unreadText (f : OpenFile) : Run (List Char) :=
  match Text.decode f.unread with
  | .ok s => return Text.unifyNewlines s.toList
  | .error e => do raise (← faultError (.undecodable e))

def encodeChars (cs : List Char) : List UInt8 := Text.encode (String.ofList cs)

/-- How many values something holds. -/
def lengthOf (m : Machine) (v : Value) : Run Nat := do
  match v with
  | .text s => return s.length
  | .bytes b => return b.length
  | .tuple vs => return vs.length
  | .range a b c => return rangeLength a b c
  | .module "os.environ" => return (← get).world.env.size
  | v => match ← object? v with
    | some (.list vs) => return vs.length
    | some (.dict es) => return es.length
    | some (.set vs _) => return vs.length
    | some (.view _ d) => return (← entriesAt d).length
    | some (.instance ..) => match ← callSpecial m v "__len__" [] with
      | some (.int n) => if n < 0 then failValue "__len__() should return >= 0" else return n.toNat
      | some (.bool b) => return if b then 1 else 0
      | some r => fail (.notInteger (← typeName r))
      | none => fail (.noLength (← typeName v))
    | _ => fail (.noLength (← typeName v))

end Conch.Eval
