import Conch.Eval.Method.Container
import Conch.Eval.Method.File
import Conch.Eval.Method.Text

/-!
# Methods

A method of a value is looked for by the kind of the value. The methods that stand for operations of
the language do what the operations do.
-/

namespace Conch.Eval.Method

open Eval Code

/-- The operator that a method stands for. -/
def operatorOf? (name : String) : Option BinaryOp :=
  [BinaryOp.add, .sub, .mul, .div, .floorDiv, .mod, .pow].find? fun op =>
    name = "__" ++ opName op ++ "__"

/-- Methods that stand for operations. -/
def ofOperation (m : Machine) (self : Value) (name : String) (args : List Value) : Run Value := do
  let arg : Run Value := match args with
    | [v] => return v
    | vs => failType ("expected 1 argument, got " ++ toString vs.length)
  match operatorOf? name with
  | some op => binary m op self (← arg)
  | none => match name with
    | "__len__" => return .int (← lengthOf m self)
    | "__str__" => .text <$> display m self
    | "__repr__" => .text <$> m.shown self
    | "__eq__" => return .bool (← m.equal self (← arg))
    | "__ne__" => return .bool (!(← m.equal self (← arg)))
    | "__lt__" => do m.order .lt self (← arg)
    | "__gt__" => do m.order .gt self (← arg)
    | "__contains__" => return .bool (← isIn m (← arg) self)
    | "__getitem__" => do getItem m self (← arg)
    | "__setitem__" => match args with
      | [k, v] =>
        setItem m (collect m) self k v
        return .none
      | vs => failType ("expected 2 arguments, got " ++ toString vs.length)
    | "__delitem__" =>
      deleteItem m self (← arg)
      return .none
    | "__iter__" => iterator m self
    | "__next__" => match ← m.advance self with
      | some v => return v
      | none => do raise (← makeError "StopIteration" [])
    | "__bool__" => return .bool (← truth m self)
    | "__neg__" => unary m .minus self
    | "__format__" => match ← arg with
      | .text format => .text <$> formatted m self format
      | _ => failType "__format__() argument must be str"
    | "__init__" =>
      initError m self args
      return .none
    | "__hash__" => return .int 0
    | _ => fail (.noAttribute (← typeName self) name)

def bitLength (n : Nat) : Nat := if n = 0 then 0 else Nat.log2 n + 1

def bitCount (n : Nat) : Nat := ((Nat.toDigits 2 n).filter (· == '1')).length

/-- A float as a fraction in lowest terms. -/
def ratioOf (x : Float) : Run Value :=
  match Decimal.shape x with
  | .finite b =>
    let r := Decimal.Ratio.ofScaled b.mantissa 2 b.exponent
    let g := Nat.gcd r.num r.den
    return .tuple [.int (Number.negative b (r.num / g)), .int (r.den / g : Nat)]
  | .infinite _ => fail (.overflow "cannot convert Infinity to integer ratio")
  | .undefined => failValue "cannot convert NaN to integer ratio"

def ofNumber (self : Value) (name : String) (args : List Value) : Run Value := do
  if !args.isEmpty then
    failType ((← typeName self) ++ "." ++ name ++ "() takes no arguments (" ++
      toString args.length ++
      " given)")
  match self with
  | .float x => match name with
    | "is_integer" => match Decimal.shape x with
      | .finite b => return .bool (Number.isIntegral b)
      | _ => return .bool false
    | "as_integer_ratio" => ratioOf x
    | "conjugate" => return self
    | _ => fail (.noAttribute "float" name)
  | _ =>
    let n := (Number.asInt? self).getD 0
    match name with
    | "bit_length" => return .int (bitLength n.natAbs)
    | "bit_count" => return .int (bitCount n.natAbs)
    | "conjugate" => return .int n
    | "as_integer_ratio" => return .tuple [.int n, .int 1]
    | _ => fail (.noAttribute "int" name)

def ofBytes (name : String) (b : List UInt8) (args : List Value) : Run Value := do
  match name with
  | "decode" => match Text.decode b with
    | .ok s => return .text s
    | .error e => do raise (← faultError (.undecodable e))
  | "hex" => return .text (String.join (b.map fun x => String.ofList (Text.hexDigits 2 x.toNat)))
  | "upper" => return .bytes (b.map fun x => if 97 ≤ x && x ≤ 122 then x - 32 else x)
  | "lower" => return .bytes (b.map fun x => if 65 ≤ x && x ≤ 90 then x + 32 else x)
  | "startswith" => match args with
    | .bytes p :: _ => return .bool (p.isPrefixOf b)
    | _ => failType "startswith first arg must be bytes or a tuple of bytes"
  | "endswith" => match args with
    | .bytes p :: _ => return .bool (p.isSuffixOf b)
    | _ => failType "endswith first arg must be bytes or a tuple of bytes"
  | _ => fail (.unsupportedFeature ("bytes." ++ name))

/-- Calls a method of a value whose class every program knows. -/
def call (m : Machine) (self : Value) (name : String) (args : List Value) (keywords : Vars) :
    Run Value := do
  let type ← typeName self
  if !(methodsOf type).contains name && (operationMethods type).contains name &&
      !(type.startsWith "_io") then
    return ← ofOperation m self name args
  match self with
  | .text s => ofText m name s args keywords
  | .bytes b => ofBytes name b args
  | .tuple vs => ofTuple m name vs args keywords
  | .range .. => ofTuple m name (← collect m self) args keywords
  | .int _ | .bool _ | .float _ => ofNumber self name args
  | .terminal isErr => ofTerminal m isErr name args keywords
  | .ref a => match ← object a with
    | .list vs => ofList m name a vs args keywords
    | .dict es => ofDict m name a es args keywords
    | .set vs frozen => ofSet m name a vs frozen args keywords
    | .file f => ofFile m name a f args keywords
    | .property getter setter => match name, args with
      | "setter", [f] => make (.property getter f)
      | "getter", [f] => make (.property f setter)
      | _, _ => fail (.noAttribute "property" name)
    | .iterator .. => match name with
      | "send" => match ← m.advance self with
        | some v => return v
        | none => do raise (← makeError "StopIteration" [])
      | _ =>
        update a (.iterator "generator" (.items [] none))
        return .none
    | .instance .. => ofOperation m self name args
    | _ => fail (.noAttribute type name)
  | _ => fail (.noAttribute type name)

end Conch.Eval.Method
