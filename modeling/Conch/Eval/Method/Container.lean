import Conch.Eval.Call

/-!
# Methods of lists, tuples, dictionaries and sets
-/

namespace Conch.Eval.Method

open Eval

/-- The position of a value in a list. -/
def indexIn (m : Machine) (v : Value) (k : Nat) : List Value → Run (Option Nat)
  | [] => return none
  | x :: rest => do
    if ← (if identical x v then pure true else m.equal x v) then return some k
    else indexIn m v (k + 1) rest

def countIn (m : Machine) (v : Value) (vs : List Value) : Run Value := do
  let found ← vs.filterM fun x => if identical x v then return true else m.equal x v
  return .int found.length

/-- The order of a sort: by the value of a key function, the other way round if `reverse`. -/
def sortValues (m : Machine) (key : Value) (reverse : Bool) (vs : List Value) :
    Run (List Value) := do
  let keyed ← vs.mapM fun v => do
    match key with
    | .none => return .tuple [v, v]
    | key => return .tuple [← m.call key [v] [], v]
  let keyOf (v : Value) : Value := match v with
    | .tuple (k :: _) => k
    | v => v
  let given := if reverse then keyed.reverse else keyed
  let sorted ← sortWith (fun a b => isLess m (keyOf a) (keyOf b)) given
  let sorted := if reverse then sorted.reverse else sorted
  return sorted.filterMap fun v => match v with
    | .tuple [_, x] => some x
    | _ => none

def sortArguments (m : Machine) (name : String) (keywords : Vars) : Run (Value × Bool) := do
  for (k, _) in keywords do
    if k != "key" && k != "reverse" then
      failType ("'" ++ k ++ "' is an invalid keyword argument for " ++ name ++ "()")
  let reverse ← match keywords.get? "reverse" with
    | some v => truth m v
    | none => pure false
  return ((keywords.get? "key").getD .none, reverse)

def listError (name : String) (message : String) : Run Value :=
  failType ("list." ++ name ++ message)

def one (owner name : String) (args : List Value) (keywords : Vars) : Run Value :=
  oneArgument (owner ++ "." ++ name) args keywords

def ofList (m : Machine) (name : String) (a : Addr) (vs : List Value) (args : List Value)
    (keywords : Vars) : Run Value := do
  match name with
  | "append" =>
    let v ← one "list" name args keywords
    update a (.list (vs ++ [v]))
    return .none
  | "extend" =>
    let more ← collect m (← one "list" name args keywords)
    update a (.list (vs ++ more))
    return .none
  | "insert" => match args with
    | [i, v] =>
      let i ← expectIndex m i
      let k := (clampBound vs.length 0 vs.length i).toNat
      update a (.list (vs.take k ++ v :: vs.drop k))
      return .none
    | args => failType ("insert expected 2 arguments, got " ++ toString args.length)
  | "pop" =>
    let args ← someArguments "pop" 0 1 args keywords
    let i ← match args with
      | v :: _ => expectIndex m v
      | [] => pure (-1)
    if vs.isEmpty then fail (.badLookup "pop from empty list")
    match position? vs.length i with
    | some k =>
      update a (.list (vs.eraseIdx k))
      return (vs[k]?).getD .none
    | none => fail (.badLookup "pop index out of range")
  | "remove" =>
    let v ← one "list" name args keywords
    match ← indexIn m v 0 vs with
    | some k =>
      update a (.list (vs.eraseIdx k))
      return .none
    | none => failValue "list.remove(x): x not in list"
  | "clear" =>
    update a (.list [])
    return .none
  | "copy" => make (.list vs)
  | "reverse" =>
    update a (.list vs.reverse)
    return .none
  | "sort" =>
    if !args.isEmpty then failType "sort() takes no positional arguments"
    let (key, reverse) ← sortArguments m "sort" keywords
    update a (.list (← sortValues m key reverse vs))
    return .none
  | "count" => countIn m (← one "list" name args keywords) vs
  | "index" => match args with
    | [] => failType "index expected at least 1 argument, got 0"
    | v :: bounds =>
      let low ← match bounds[0]? with
        | some b => do pure (clampBound vs.length 0 vs.length (← expectIndex m b)).toNat
        | none => pure 0
      let high ← match bounds[1]? with
        | some b => do pure (clampBound vs.length 0 vs.length (← expectIndex m b)).toNat
        | none => pure vs.length
      match ← indexIn m v low ((vs.take high).drop low) with
      | some k => return .int k
      | none => failValue ((← m.shown v) ++ " is not in list")
  | _ => fail (.noAttribute "list" name)

def ofTuple (m : Machine) (name : String) (vs : List Value) (args : List Value) (keywords : Vars) :
    Run Value := do
  match name with
  | "count" => countIn m (← one "tuple" name args keywords) vs
  | "index" => match args with
    | v :: _ => match ← indexIn m v 0 vs with
      | some k => return .int k
      | none => failValue "tuple.index(x): x not in tuple"
    | [] => failType "index expected at least 1 argument, got 0"
  | _ => fail (.noAttribute "tuple" name)

/-- The entries that a mapping, or a succession of pairs, stands for. -/
def entriesOf (m : Machine) (v : Value) : Run (List (Value × Value)) := do
  match ← object? v with
  | some (.dict es) => return es
  | _ =>
    let vs ← collect m v
    vs.zipIdx.mapM fun (pair, k) => do
      let isPlain : Bool := match pair with
        | .none | .bool _ | .int _ | .float _ => true
        | _ => false
      if isPlain then
        failType ("cannot convert dictionary update sequence element #" ++ toString k ++
          " to a sequence")
      match ← collect m pair with
      | [key, value] =>
        ensureKey key
        return (key, value)
      | other =>
        failValue ("dictionary update sequence element #" ++ toString k ++ " has length " ++
          toString other.length ++ "; 2 is required")

def putAll (m : Machine) (es news : List (Value × Value)) : Run (List (Value × Value)) :=
  news.foldlM (fun entries (k, v) => putEntry m k v entries) es

def namedEntries (keywords : Vars) : List (Value × Value) :=
  keywords.map fun (k, v) => (.text k, v)

def ofDict (m : Machine) (name : String) (a : Addr) (es : List (Value × Value)) (args : List Value)
    (keywords : Vars) : Run Value := do
  match name with
  | "get" =>
    let args ← someArguments "get" 1 2 args keywords
    let key := args.headD .none
    ensureKey key
    return (← findEntry m key es).getD ((args[1]?).getD .none)
  | "keys" => make (.view "dict_keys" a)
  | "values" => make (.view "dict_values" a)
  | "items" => make (.view "dict_items" a)
  | "copy" => make (.dict es)
  | "clear" =>
    update a (.dict [])
    return .none
  | "pop" =>
    let args ← someArguments "pop" 1 2 args keywords
    let key := args.headD .none
    ensureKey key
    match ← findEntry m key es with
    | some v =>
      update a (.dict (← eraseEntry m key es))
      return v
    | none => match args[1]? with
      | some v => return v
      | none => failKey key
  | "popitem" => match es.getLast? with
    | some (k, v) =>
      update a (.dict es.dropLast)
      return .tuple [k, v]
    | none => failKey (.text "popitem(): dictionary is empty")
  | "setdefault" =>
    let args ← someArguments "setdefault" 1 2 args keywords
    let key := args.headD .none
    ensureKey key
    match ← findEntry m key es with
    | some v => return v
    | none =>
      let v := (args[1]?).getD .none
      update a (.dict (← putEntry m key v es))
      return v
  | "update" =>
    let news ← match args with
      | [] => pure []
      | v :: _ => entriesOf m v
    update a (.dict (← putAll m (← putAll m es news) (namedEntries keywords)))
    return .none
  | "fromkeys" => match args with
    | keys :: rest =>
      let keys ← collect m keys
      make (.dict (← putAll m [] (keys.map fun k => (k, rest.headD .none))))
    | [] => failType "fromkeys expected at least 1 argument, got 0"
  | _ => fail (.noAttribute "dict" name)

/-- The items of all arguments together, as sets. -/
def setsOf (m : Machine) (args : List Value) : Run (List (List Value)) :=
  args.mapM fun v => do setOfList m (← collect m v)

def combineSets (m : Machine) (op : Code.BinaryOp) (vs : List Value) (others : List (List Value)) :
    Run (List Value) :=
  others.foldlM (fun items other => do return (← setOp m op items other).getD items) vs

def ofSet (m : Machine) (name : String) (a : Addr) (vs : List Value) (frozen : Bool)
    (args : List Value) (keywords : Vars) : Run Value := do
  let put (items : List Value) : Run Value := do
    update a (.set items frozen)
    return .none
  match name with
  | "add" => put (← addToSet m (← one "set" name args keywords) vs)
  | "discard" =>
    let v ← one "set" name args keywords
    ensureKey v
    put (← vs.filterM fun x => return !(← m.equal x v))
  | "remove" =>
    let v ← one "set" name args keywords
    ensureKey v
    if ← contains m v vs then put (← vs.filterM fun x => return !(← m.equal x v))
    else failKey v
  | "pop" => match vs with
    | v :: rest =>
      update a (.set rest frozen)
      return v
    | [] => failKey (.text "pop from an empty set")
  | "clear" => put []
  | "copy" => make (.set vs frozen)
  | "update" => put (← combineSets m .bitOr vs (← setsOf m args))
  | "intersection_update" => put (← combineSets m .bitAnd vs (← setsOf m args))
  | "difference_update" => put (← combineSets m .sub vs (← setsOf m args))
  | "symmetric_difference_update" => put (← combineSets m .bitXor vs (← setsOf m args))
  | "union" => do make (.set (← combineSets m .bitOr vs (← setsOf m args)) frozen)
  | "intersection" => do make (.set (← combineSets m .bitAnd vs (← setsOf m args)) frozen)
  | "difference" => do make (.set (← combineSets m .sub vs (← setsOf m args)) frozen)
  | "symmetric_difference" => do make (.set (← combineSets m .bitXor vs (← setsOf m args)) frozen)
  | "issubset" => do return .bool (← allIn m (← collect m (← one "set" name args keywords)) vs)
  | "issuperset" => do return .bool (← allIn m vs (← collect m (← one "set" name args keywords)))
  | "isdisjoint" =>
    let others ← collect m (← one "set" name args keywords)
    return .bool (← others.filterM fun v => contains m v vs).isEmpty
  | _ => fail (.noAttribute (if frozen then "frozenset" else "set") name)

end Conch.Eval.Method
