import Conch.Eval.Method.Container
import Conch.Eval.Name

/-!
# Making values of known classes

Calling a class that every program knows converts a value or collects several.
-/

namespace Conch.Eval.Library

open Eval

/-- A special method of an object that gives a number. -/
def askNumber (m : Machine) (v : Value) (names : List String) : Run (Option Value) := do
  match names with
  | [] => return none
  | n :: rest => match ← callSpecial m v n [] with
    | some r => return some r
    | none => askNumber m v rest

def toInteger (m : Machine) (args : List Value) (keywords : Vars) : Run Value := do
  match args, keywords.get? "base" with
  | [], none => return .int 0
  | [v], none => match v with
    | .float x => .int <$> Number.toInt Number.truncate x
    | .text s =>
      if s.length > Decimal.maxDigits then
        if (Number.readBase? 10 s).isSome then fail .tooManyDigits
      match Decimal.readInteger? s with
      | some n => return .int n
      | none => fail (.badInteger 10 s)
    | .bytes b => match Decimal.readInteger? (Text.decodeLossy b) with
      | some n => return .int n
      | none => failValue ("invalid literal for int() with base 10: " ++ bytesText b)
    | v => match Number.asInt? v with
      | some n => return .int n
      | none => match ← askNumber m v ["__int__", "__index__", "__trunc__"] with
        | some (.int n) => return .int n
        | some (.bool b) => return .int (if b then 1 else 0)
        | some other => failType ("__int__ returned non-int (type " ++ (← typeName other) ++ ")")
        | none =>
          let message :=
            "int() argument must be a string, a bytes-like object or a real number, not '"
          failType (message ++ (← typeName v) ++ "'")
  | [v], some base => withBase v base
  | [v, base], none => withBase v base
  | args, _ => failType ("int() takes at most 2 arguments (" ++ toString args.length ++ " given)")
where
  withBase (v base : Value) : Run Value := do
    let b ← expectIndex m base
    if b ≠ 0 && (b < 2 || b > 36) then failValue "int() base must be >= 2 and <= 36, or 0"
    match v with
    | .text s => match Number.readBase? b.toNat s with
      | some n => return .int n
      | none => fail (.badInteger b.toNat s)
    | _ => failType "int() can't convert non-string with explicit base"

def toFloat (m : Machine) (args : List Value) : Run Value := do
  match args with
  | [] => return .float 0.0
  | [.text s] => match Number.readFloat? s with
    | some x => return .float x
    | none => fail (.badFloat s)
  | [v] => match Number.asFloat? v with
    | some x => .float <$> x
    | none => match ← askNumber m v ["__float__", "__index__"] with
      | some (.float x) => return .float x
      | some (.int n) => .float <$> Number.ofInt n
      | _ => failType ("float() argument must be a string or a real number, not '" ++
          (← typeName v) ++ "'")
  | args => failType ("float expected at most 1 argument, got " ++ toString args.length)

def toStr (m : Machine) (args : List Value) (keywords : Vars) : Run Value := do
  match args with
  | [] => return (keywords.get? "object").getD (.text "")
  | [v] => .text <$> display m v
  | .bytes b :: _ => match Text.decode b with
    | .ok s => return .text s
    | .error e => do raise (← faultError (.undecodable e))
  | .text _ :: _ => failType "decoding str is not supported"
  | v :: _ => failType ("decoding to str: need a bytes-like object, " ++ (← typeName v) ++ " found")

/-- The values of an optional argument. -/
def collected (m : Machine) (name : String) (args : List Value) (keywords : Vars) :
    Run (List Value) := do
  noKeywords name keywords
  match args with
  | [] => return []
  | [v] => collect m v
  | vs => failType (name ++ " expected at most 1 argument, got " ++ toString vs.length)

def toDict (m : Machine) (args : List Value) (keywords : Vars) : Run Value := do
  let es ← match args with
    | [] => pure []
    | [v] => Method.entriesOf m v
    | vs => failType ("dict expected at most 1 argument, got " ++ toString vs.length)
  make (.dict (← Method.putAll m (← Method.putAll m [] es) (Method.namedEntries keywords)))

def toRange (m : Machine) (args : List Value) (keywords : Vars) : Run Value := do
  noKeywords "range" keywords
  match args with
  | [] => failType "range expected at least 1 argument, got 0"
  | [stop] => return .range 0 (← expectIndex m stop) 1
  | [start, stop] => return .range (← expectIndex m start) (← expectIndex m stop) 1
  | [start, stop, step] =>
    let a ← expectIndex m start
    let b ← expectIndex m stop
    let c ← expectIndex m step
    if c = 0 then failValue "range() arg 3 must not be zero"
    return .range a b c
  | vs => failType ("range expected at most 3 arguments, got " ++ toString vs.length)

def toBytes (m : Machine) (args : List Value) : Run Value := do
  match args with
  | [] => return .bytes []
  | [.text _] => failType "string argument without an encoding"
  | .text s :: _ => return .bytes (Text.encode s)
  | v :: _ => match Number.asInt? v with
    | some n =>
      if n < 0 then failValue "negative count" else return .bytes (List.replicate n.toNat 0)
    | none =>
      let vs ← collect m v
      .bytes <$> vs.mapM fun x => do
        let n ← expectIndex m x
        if n < 0 || n > 255 then failValue "bytes must be in range(0, 256)"
        return n.toNat.toUInt8

/-- The values of something from the last to the first. -/
def toReversed (m : Machine) (v : Value) : Run Value := do
  match v with
  | .text _ | .tuple _ | .range .. => do makeItems "reversed" (← collect m v).reverse
  | v => match ← object? v with
    | some (.list vs) => makeItems "list_reverseiterator" vs.reverse
    | some (.dict es) => makeItems "dict_reversekeyiterator" (es.map (·.1)).reverse
    | some (.view kind d) =>
      makeItems "dict_reversekeyiterator" (viewItems kind (← entriesAt d)).reverse
    | some (.instance ..) => match ← callSpecial m v "__reversed__" [] with
      | some r => return r
      | none => failType ("'" ++ (← typeName v) ++ "' object is not reversible")
    | _ => failType ("'" ++ (← typeName v) ++ "' object is not reversible")

/-- The object that `super()` stands for in a method. -/
def parentOf (args : List Value) : Run Value := do
  match args with
  | [] =>
    let f ← currentFrame
    match f.owner, f.vars.head? with
    | some cls, some (_, self) => make (.parentView cls self)
    | _, _ => fail (.misrun "super(): no arguments")
  | [cls, self] => make (.parentView cls self)
  | _ => fail (.misrun "super(): no arguments")

/-- Makes a value of a class that every program knows. -/
def construct (m : Machine) (type : String) (args : List Value) (keywords : Vars) : Run Value := do
  match type with
  | "int" => toInteger m args keywords
  | "float" => toFloat m args
  | "str" => toStr m args keywords
  | "bool" => match args with
    | [] => return .bool false
    | v :: _ => return .bool (← truth m v)
  | "list" => do make (.list (← collected m type args keywords))
  | "tuple" => return .tuple (← collected m type args keywords)
  | "set" => do make (.set (← setOfList m (← collected m type args keywords)) false)
  | "frozenset" => do make (.set (← setOfList m (← collected m type args keywords)) true)
  | "dict" => toDict m args keywords
  | "range" => toRange m args keywords
  | "bytes" | "bytearray" => toBytes m args
  | "slice" => match ← someArguments type 1 3 args keywords with
    | [stop] => return .slice .none stop .none
    | [start, stop] => return .slice start stop .none
    | start :: stop :: step :: _ => return .slice start stop step
    | [] => return .none
  | "object" => make (.instance (.type "object") [] [])
  | "type" => match args with
    | [v] => classOf v
    | [.text name, .tuple bases, attrs] =>
      let es ← Method.entriesOf m attrs
      make (.cls name name bases (es.filterMap fun (k, v) => match k with
        | .text t => some (t, v)
        | _ => none))
    | _ => failType "type() takes 1 or 3 arguments"
  | "map" => match args with
    | f :: source :: sources =>
      let its ← (source :: sources).mapM (iterator m)
      make (.iterator "map" (.mapped f its))
    | _ => failType "map() must have at least two arguments."
  | "filter" => match ← someArguments type 2 2 args keywords with
    | [f, source] => do make (.iterator "filter" (.filtered f (← iterator m source)))
    | _ => return .none
  | "zip" => do make (.iterator "zip" (.zipped (← args.mapM (iterator m))))
  | "enumerate" =>
    let given ← namedArguments type ["iterable", "start"] args keywords
    match given.get? "iterable" with
    | some source =>
      let start ← match given.get? "start" with
        | some v => expectIndex m v
        | none => pure 0
      make (.iterator "enumerate" (.enumerated (← iterator m source) start))
    | none => failType "enumerate() missing required argument 'iterable' (pos 1)"
  | "reversed" => match ← someArguments type 1 1 args keywords with
    | v :: _ => toReversed m v
    | [] => return .none
  | "property" => make (.property (args.headD .none) ((args[1]?).getD .none))
  | "staticmethod" => make (.staticMethod (args.headD .none))
  | "classmethod" => make (.classMethod (args.headD .none))
  | "super" => parentOf args
  | "CommandResult" =>
    let vars ← bindPlain "CommandResult.__init__" ["self", "returncode", "stdout", "stderr"] []
      (.none :: args) keywords
    makeResult ((vars.get? "returncode").getD .none) ((vars.get? "stdout").getD .none)
      ((vars.get? "stderr").getD .none)
  | type =>
    if isErrorClass type then
      if !keywords.isEmpty then failType (type ++ "() takes no keyword arguments")
      let self ← make (.instance (.type type) [] args)
      initError m self args
      return self
    else if type = "NoneType" then return .none
    else failType ("cannot create '" ++ type ++ "' instances")

end Conch.Eval.Library
