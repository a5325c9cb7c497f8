import Conch.Eval.Iterate
import Conch.Eval.Layout

/-!
# Operators

What operators do with values: first what a program's own classes say, then arithmetic, then joining
and repeating sequences.
-/

namespace Conch.Eval

open Code

def opText : BinaryOp → String
  | .add => "+"
  | .sub => "-"
  | .mul => "*"
  | .matMul => "@"
  | .div => "/"
  | .mod => "%"
  | .pow => "** or pow()"
  | .shiftLeft => "<<"
  | .shiftRight => ">>"
  | .bitOr => "|"
  | .bitXor => "^"
  | .bitAnd => "&"
  | .floorDiv => "//"

/-- The sign of an assignment that goes with an operator. -/
def updateText : BinaryOp → String
  | .pow => "**="
  | op => opText op ++ "="

/-- The part of a method's name that stands for an operator. -/
def opName : BinaryOp → String
  | .add => "add"
  | .sub => "sub"
  | .mul => "mul"
  | .matMul => "matmul"
  | .div => "truediv"
  | .mod => "mod"
  | .pow => "pow"
  | .shiftLeft => "lshift"
  | .shiftRight => "rshift"
  | .bitOr => "or"
  | .bitXor => "xor"
  | .bitAnd => "and"
  | .floorDiv => "floordiv"

/-- Bitwise operations on integers of any sign, from those on natural numbers: a negative `n` has
the bits of `-n - 1`, inverted. -/
def bitwise (op : BinaryOp) (a b : Int) : Int :=
  let low (n : Int) : Nat := if n < 0 then (-n - 1).toNat else n.toNat
  let width := max (Nat.log2 (low a)) (Nat.log2 (low b)) + 2
  let size : Nat := Nat.pow 2 width
  let bits (n : Int) : Nat := (Int.emod n size).toNat
  let r : Nat := match op with
    | .bitAnd => bits a &&& bits b
    | .bitOr => bits a ||| bits b
    | _ => bits a ^^^ bits b
  if r ≥ size / 2 then (r : Int) - size else r

def powerFloats (x y : Float) : Run Value :=
  if x == 0.0 && y < 0.0 then fail (.divisionByZero "0.0 cannot be raised to a negative power")
  else if x < 0.0 && x.isFinite && y.isFinite && y.floor != y then
    fail (.unsupportedFeature "complex numbers")
  else
    let r := Float.pow x y
    if r.isInf && x.isFinite && y.isFinite then
      do raise (← makeError "OverflowError" [.int 34, .text "Numerical result out of range"])
    else return .float r

def intOp (op : BinaryOp) (a b : Int) : Run (Option Value) := do
  match op with
  | .add => return some (.int (a + b))
  | .sub => return some (.int (a - b))
  | .mul => return some (.int (a * b))
  | .div => return some (.float (← Number.quotient a b))
  | .floorDiv =>
    if b = 0 then fail (.divisionByZero "integer division or modulo by zero")
    else return some (.int (Int.fdiv a b))
  | .mod =>
    if b = 0 then fail (.divisionByZero "integer modulo by zero")
    else return some (.int (Int.fmod a b))
  | .pow =>
    if b ≥ 0 then return some (.int (Number.powerInts a b.toNat))
    else some <$> powerFloats (← Number.ofInt a) (← Number.ofInt b)
  | .shiftLeft =>
    if b < 0 then failValue "negative shift count" else return some (.int (a * Int.pow 2 b.toNat))
  | .shiftRight =>
    if b < 0 then failValue "negative shift count"
    else return some (.int (Int.fdiv a (Int.pow 2 b.toNat)))
  | .bitAnd | .bitOr | .bitXor => return some (.int (bitwise op a b))
  | .matMul => return none

def floatOp (op : BinaryOp) (x y : Float) : Run (Option Value) :=
  match op with
  | .add => return some (.float (x + y))
  | .sub => return some (.float (x - y))
  | .mul => return some (.float (x * y))
  | .div =>
    if y == 0.0 then fail (.divisionByZero "float division by zero")
    else return some (.float (x / y))
  | .floorDiv =>
    if y == 0.0 then fail (.divisionByZero "float floor division by zero")
    else return some (.float (Number.floorQuotient x y))
  | .mod =>
    if y == 0.0 then fail (.divisionByZero "float modulo")
    else return some (.float (Number.modulo x y))
  | .pow => some <$> powerFloats x y
  | _ => return none

/-- Arithmetic, on two truth values, two integers, or two numbers one of which is a float. -/
def numberOp (op : BinaryOp) (a b : Value) : Run (Option Value) := do
  match op, a, b with
  | .bitAnd, .bool x, .bool y => return some (.bool (x && y))
  | .bitOr, .bool x, .bool y => return some (.bool (x || y))
  | .bitXor, .bool x, .bool y => return some (.bool (x != y))
  | _, _, _ => match Number.asInt? a, Number.asInt? b with
    | some x, some y => intOp op x y
    | _, _ => match Number.asFloat? a, Number.asFloat? b with
      | some x, some y => floatOp op (← x) (← y)
      | _, _ => return none

def repeated {α : Type} (n : Int) (xs : List α) : List α := (List.replicate n.toNat xs).flatten

/-- A sequence repeated a number of times. -/
def repeatValue (v : Value) (n : Int) : Run (Option Value) := do
  match v with
  | .text s => return some (.text (String.ofList (repeated n s.toList)))
  | .bytes b => return some (.bytes (repeated n b))
  | .tuple vs => return some (.tuple (repeated n vs))
  | v => match ← object? v with
    | some (.list vs) => some <$> make (.list (repeated n vs))
    | _ => return none

def setOp (m : Machine) (op : BinaryOp) (as bs : List Value) : Run (Option (List Value)) := do
  match op with
  | .bitOr => some <$> bs.foldlM (fun items v => addToSet m v items) as
  | .bitAnd => some <$> as.filterM fun v => contains m v bs
  | .sub => some <$> as.filterM fun v => return !(← contains m v bs)
  | .bitXor =>
    let onlyLeft ← as.filterM fun v => return !(← contains m v bs)
    let onlyRight ← bs.filterM fun v => return !(← contains m v as)
    some <$> onlyRight.foldlM (fun items v => addToSet m v items) onlyLeft
  | _ => return none

def mergeEntries (m : Machine) (es fs : List (Value × Value)) : Run (List (Value × Value)) :=
  fs.foldlM (fun entries (k, v) => putEntry m k v entries) es

/-- Items of a set or of a view that behaves as one. -/
def asSet? (v : Value) : Run (Option (List Value × Bool)) := do
  match ← object? v with
  | some (.set vs frozen) => return some (vs, frozen)
  | some (.view kind d) =>
    if kind = "dict_values" then return none
    else return some (viewItems kind (← entriesAt d), false)
  | _ => return none

/-- Operators on sequences, sets and dictionaries. -/
def containerOp (m : Machine) (op : BinaryOp) (a b : Value) : Run (Option Value) := do
  match op, a, b with
  | .add, .text s, .text t => return some (.text (s ++ t))
  | .add, .bytes s, .bytes t => return some (.bytes (s ++ t))
  | .add, .tuple s, .tuple t => return some (.tuple (s ++ t))
  | .mod, .text s, v => do return some (.text (← percentFormat m s v))
  | .mul, a, b => match ← index? m b with
    | some n => match ← repeatValue a n with
      | some v => return some v
      | none => swapped
    | none => swapped
  | op, a, b => match ← object? a, ← object? b with
    | some (.list s), some (.list t) =>
      if op = .add then some <$> make (.list (s ++ t)) else return none
    | some (.dict es), some (.dict fs) =>
      if op = .bitOr then do return some (← make (.dict (← mergeEntries m es fs))) else return none
    | _, _ => match ← asSet? a, ← asSet? b with
      | some (s, frozen), some (t, _) => match ← setOp m op s t with
        | some vs => some <$> make (.set vs frozen)
        | none => return none
      | _, _ => return none
where
  swapped : Run (Option Value) := do
    match ← index? m a with
    | some n => repeatValue b n
    | none => return none

/-- The name of a value that can be joined with its like. -/
def sequenceName? (v : Value) : Run (Option String) := do
  match v with
  | .text _ => return some "str"
  | .tuple _ => return some "tuple"
  | .bytes _ => return some "bytes"
  | v => match ← object? v with
    | some (.list _) => return some "list"
    | _ => return none

/-- The report on operands that do not go together. -/
def mismatched {α : Type} (op : BinaryOp) (text : String) (a b : Value) : Run α := do
  let left ← typeName a
  let right ← typeName b
  match op, ← sequenceName? a, ← sequenceName? b with
  | .add, some "bytes", _ => failType ("can't concat " ++ right ++ " to bytes")
  | .add, some name, _ => fail (.concatenation name right)
  | .mul, some _, _ => fail (.repetition right)
  | .mul, none, some _ => fail (.repetition left)
  | _, _, _ => fail (.unsupported text left right)

/-- A method of one operand that is asked about the other. -/
def askOperand (m : Machine) (self : Value) (name : String) (other : Value) :
    Run (Option Value) := do
  match ← callSpecial m self name [other] with
  | some .notImplemented => return none
  | r => return r

def binaryWith (m : Machine) (op : BinaryOp) (text : String) (a b : Value) : Run Value := do
  match ← askOperand m a ("__" ++ opName op ++ "__") b with
  | some v => return v
  | none => match ← numberOp op a b with
    | some v => return v
    | none => match ← askOperand m b ("__r" ++ opName op ++ "__") a with
      | some v => return v
      | none => match ← containerOp m op a b with
        | some v => return v
        | none => mismatched op text a b

def binary (m : Machine) (op : BinaryOp) (a b : Value) : Run Value :=
  binaryWith m op (opText op) a b

/-- Changes a value in place where it can be changed. -/
def updated (m : Machine) (op : BinaryOp) (a b : Value) : Run Value := do
  match ← askOperand m a ("__i" ++ opName op ++ "__") b with
  | some v => return v
  | none => match a, ← object? a with
    | .ref addr, some (.list vs) =>
      match op with
      | .add =>
        let more ← collect m b
        update addr (.list (vs ++ more))
        return a
      | .mul => match ← index? m b with
        | some n =>
          update addr (.list (repeated n vs))
          return a
        | none => fail (.repetition (← typeName b))
      | op => binaryWith m op (updateText op) a b
    | .ref addr, some (.set vs false) => match ← asSet? b with
      | some (others, _) => match ← setOp m op vs others with
        | some items =>
          update addr (.set items false)
          return a
        | none => binaryWith m op (updateText op) a b
      | none => binaryWith m op (updateText op) a b
    | .ref addr, some (.dict es) => match op, ← object? b with
      | .bitOr, some (.dict fs) =>
        update addr (.dict (← mergeEntries m es fs))
        return a
      | op, _ => binaryWith m op (updateText op) a b
    | _, _ => binaryWith m op (updateText op) a b

def unary (m : Machine) (op : UnaryOp) (v : Value) : Run Value := do
  match op with
  | .not => return .bool (!(← truth m v))
  | .minus => match v with
    | .float x => return .float (-x)
    | v => match Number.asInt? v with
      | some n => return .int (-n)
      | none => special "__neg__" "-"
  | .plus => match v with
    | .float x => return .float x
    | v => match Number.asInt? v with
      | some n => return .int n
      | none => special "__pos__" "+"
  | .invert => match Number.asInt? v with
    | some n => return .int (-n - 1)
    | none => special "__invert__" "~"
where
  special (name sign : String) : Run Value := do
    match ← callSpecial m v name [] with
    | some r => return r
    | none => fail (.unsupportedUnary sign (← typeName v))

/-- Whether a value is among those of a container. -/
def isIn (m : Machine) (v container : Value) : Run Bool := do
  match container with
  | .text s => match v with
    | .text part => return Text.occursIn part.toList s.toList
    | v => failType ("'in <string>' requires string as left operand, not " ++ (← typeName v))
  | .tuple vs => contains m v vs
  | .bytes b => match Number.asInt? v with
    | some n => return b.any fun x => (x.toNat : Int) = n
    | none => failType ("a bytes-like object is required, not '" ++ (← typeName v) ++ "'")
  | .range a b c => match Number.asInt? v with
    | some n => return if c > 0 then a ≤ n && n < b && (n - a) % c = 0
        else b < n && n ≤ a && (a - n) % (-c) = 0
    | none => return false
  | .module "os.environ" => match v with
    | .text name => return (← get).world.env.contains name
    | _ => return false
  | .ref a => match ← object a with
    | .list vs => contains m v vs
    | .dict es =>
      ensureKey v
      return (← findEntry m v es).isSome
    | .set vs _ =>
      ensureKey v
      contains m v vs
    | .view kind d => contains m v (viewItems kind (← entriesAt d))
    | .iterator .. | .file _ => contains m v (← collect m container)
    | .instance cls _ _ => match ← callSpecial m container "__contains__" [v] with
      | some r => truth m r
      | none =>
        if (← findInClass cls "__iter__").isSome then contains m v (← collect m container)
        else fail (.noContainment (← className cls))
    | _ => fail (.noContainment (← typeName container))
  | other => fail (.noContainment (← typeName other))

def compareWith (m : Machine) (op : CompareOp) (a b : Value) : Run Value := do
  match op with
  | .eq => return .bool (← m.equal a b)
  | .ne => match ← askOperand m a "__ne__" b with
    | some v => return v
    | none => return .bool (!(← m.equal a b))
  | .is => return .bool (identical a b)
  | .isNot => return .bool (!identical a b)
  | .isIn => return .bool (← isIn m a b)
  | .notIn => return .bool (!(← isIn m a b))
  | op => m.order op a b

end Conch.Eval
