import Conch.Eval.Library.Convert
import Conch.Eval.Library.Json
import Conch.Eval.Library.Math
import Conch.Eval.Library.Shell
import Conch.Eval.Library.System
import Conch.Eval.Method.Basic

/-!
# Functions that every program knows
-/

namespace Conch.Eval.Library

open Eval Code

/-- Writes to where a program prints. -/
def writeTo (m : Machine) (file : Value) (s : String) : Run Unit := do
  match file with
  | .none | .terminal false => printOut s
  | .terminal true => printErr s
  | file => match ← attr? m file "write" with
    | some write =>
      let _ ← m.call write [.text s] []
    | none => fail (.noAttribute (← typeName file) "write")

def separator (name : String) (default : String) (v : Option Value) : Run String := do
  match v with
  | none | some .none => return default
  | some (.text s) => return s
  | some v => failType (name ++ " must be None or a string, not " ++ (← typeName v))

def print (m : Machine) (args : List Value) (keywords : Vars) : Run Value := do
  for (k, _) in keywords do
    if !(["sep", "end", "file", "flush"].contains k) then
      failType ("'" ++ k ++ "' is an invalid keyword argument for print()")
  let sep ← separator "sep" " " (keywords.get? "sep")
  let stop ← separator "end" "\n" (keywords.get? "end")
  let parts ← args.mapM (display m)
  writeTo m ((keywords.get? "file").getD .none) (sep.intercalate parts ++ stop)
  return .none

/-- The greatest or least of some values by a key. -/
def extreme (m : Machine) (op : CompareOp) (key : Value) (best : Value × Value) :
    List Value → Run Value
  | [] => return best.2
  | v :: rest => do
    let k ← match key with
      | .none => pure v
      | key => m.call key [v] []
    if ← truth m (← m.order op k best.1) then extreme m op key (k, v) rest
    else extreme m op key best rest

def extremum (m : Machine) (name : String) (op : CompareOp) (args : List Value) (keywords : Vars) :
    Run Value := do
  for (k, _) in keywords do
    if k != "key" && k != "default" then
      failType (name ++ "() got an unexpected keyword argument '" ++ k ++ "'")
  let vs ← match args with
    | [] => failType (name ++ " expected at least 1 argument, got 0")
    | [v] => collect m v
    | vs => pure vs
  let key := (keywords.get? "key").getD .none
  match vs with
  | [] => match keywords.get? "default" with
    | some v => return v
    | none => failValue (name ++ "() arg is an empty sequence")
  | v :: rest =>
    let k ← match key with
      | .none => pure v
      | key => m.call key [v] []
    extreme m op key (k, v) rest

def sum (m : Machine) (args : List Value) (keywords : Vars) : Run Value := do
  let given ← namedArguments "sum" ["iterable", "start"] args keywords
  match given.get? "iterable" with
  | none => failType "sum() takes at least 1 positional argument (0 given)"
  | some v =>
    let start := (given.get? "start").getD (.int 0)
    match start with
    | .text _ => failType "sum() can't sum strings [use ''.join(seq) instead]"
    | start =>
      let vs ← collect m v
      vs.foldlM (fun acc x => binary m .add acc x) start

def round (m : Machine) (args : List Value) (keywords : Vars) : Run Value := do
  let given ← namedArguments "round" ["number", "ndigits"] args keywords
  match given.get? "number" with
  | none => failType "round() missing required argument 'number' (pos 1)"
  | some v =>
    let places : Option Int ← match given.get? "ndigits" with
      | none | some .none => pure none
      | some p => some <$> expectIndex m p
    match v with
    | .float x => match places with
      | none => .int <$> Number.toInt Number.nearest x
      | some p => return .float (Number.roundPlaces x p)
    | v => match Number.asInt? v with
      | some n => match places with
        | some p => return .int (if p ≥ 0 then n else Number.roundTens n (-p).toNat)
        | none => return .int n
      | none => match ← callSpecial m v "__round__" [] with
        | some r => return r
        | none => failType ("type " ++ (← typeName v) ++ " doesn't define __round__ method")

/-- Whether a value is of one of some classes, given as a class or a tuple of such. -/
def isOneOf (test : Value → Run Bool) (bad : String) (depth : Nat) (classes : Value) :
    Run Bool :=
  match depth with
  | 0 => failType bad
  | d + 1 => do
    match classes with
    | .tuple cs => cs.anyM (isOneOf test bad d)
    | cls => if ← isClass cls then test cls else failType bad

def absolute (m : Machine) (v : Value) : Run Value := do
  match v with
  | .float x => return .float x.abs
  | v => match Number.asInt? v with
    | some n => return .int n.natAbs
    | none => match ← callSpecial m v "__abs__" [] with
      | some r => return r
      | none => failType ("bad operand type for abs(): '" ++ (← typeName v) ++ "'")

def inRadix (m : Machine) (mark : String) (base : Nat) (v : Value) : Run Value := do
  let n ← expectIndex m v
  return .text ((if n < 0 then "-" else "") ++ mark ++ Number.inBase base n.natAbs)

/-- A power modulo a number. -/
def powerModulo (base : Int) (modulus : Int) (n : Nat) : Int :=
  if n = 0 then Int.fmod 1 modulus
  else
    let half := powerModulo base modulus (n / 2)
    let square := Int.fmod (half * half) modulus
    if n % 2 = 1 then Int.fmod (square * base) modulus else square
termination_by n
decreasing_by omega

/-- The greatest common divisor of two numbers, with the multiple of the first that it comes from:
each remainder on the way is followed by its coefficient. -/
def bezout (a b : Nat) (x y : Int) : Nat × Int :=
  if b = 0 then (a, x) else bezout b (a % b) y (x - (a / b : Nat) * y)
termination_by b
decreasing_by exact Nat.mod_lt _ (by omega)

/-- What a number is multiplied with to leave one, modulo another. -/
def inverse? (n modulus : Int) : Option Int :=
  match bezout (n % modulus).toNat modulus.natAbs 1 0 with
  | (1, x) => some (Int.fmod x modulus)
  | _ => none

def power (m : Machine) (args : List Value) (keywords : Vars) : Run Value := do
  let given ← namedArguments "pow" ["base", "exp", "mod"] args keywords
  match given.get? "base", given.get? "exp", (given.get? "mod").getD .none with
  | some a, some b, .none => binary m .pow a b
  | some a, some b, c => match Number.asInt? a, Number.asInt? b, Number.asInt? c with
    | some x, some y, some z =>
      if z = 0 then failValue "pow() 3rd argument cannot be 0"
      if y < 0 then match inverse? x z with
        | some x => return .int (powerModulo x z y.natAbs)
        | none => failValue "base is not invertible for the given modulus"
      else return .int (powerModulo x z y.toNat)
    | _, _, _ => failType "pow() 3rd argument not allowed unless all arguments are integers"
  | _, _, _ => failType "pow() missing required argument 'exp' (pos 2)"

def divmod (args : List Value) (keywords : Vars) : Run Value := do
  match ← someArguments "divmod" 2 2 args keywords with
  | [a, b] => match Number.asInt? a, Number.asInt? b with
    | some _, some 0 => fail (.divisionByZero "integer division or modulo by zero")
    | some x, some y => return .tuple [.int (Int.fdiv x y), .int (Int.fmod x y)]
    | _, _ => match Number.asFloat? a, Number.asFloat? b with
      | some x, some y =>
        let x ← x
        let y ← y
        if y == 0.0 then fail (.divisionByZero "float divmod()")
        return .tuple [.float (Number.floorQuotient x y), .float (Number.modulo x y)]
      | _, _ => fail (.unsupported "divmod()" (← typeName a) (← typeName b))
  | _ => return .none

/-- The frame that code handed to a function runs in: the variables of the caller, or those given.
-/
def sourceFrame (args : List Value) : Run Frame := do
  let f ← currentFrame
  match args with
  | .ref a :: rest => match ← object a with
    | .dict _ => match rest with
      | .ref b :: _ => match ← object b with
        | .dict es =>
          let vars : Vars := es.filterMap fun (k, v) => match k with
            | .text t => some (t, v)
            | _ => none
          if a = b then return moduleFrame a
          else return { moduleFrame a with kind := .cls, vars := vars }
        | _ => failType "locals must be a mapping"
      | _ => return moduleFrame a
    | _ => failType "eval() globals must be a dict, not list"
  | .none :: _ | [] =>
    if f.kind = .module then return moduleFrame f.globals
    else return { moduleFrame f.globals with kind := .cls, vars := ← localVars f }
  | v :: _ => failType ("globals must be a dict, not " ++ (← typeName v))

def runText (m : Machine) (name : String) (args : List Value) : Run Value := do
  match args with
  | [] => failType (name ++ " expected at least 1 argument, got 0")
  | .text s :: rest =>
    let frame ← sourceFrame rest
    if name = "eval" then evalSource m frame s
    else
      execSource m frame s
      return .none
  | _ => failType (name ++ "() arg 1 must be a string, bytes or code object")

def localsDict : Run Value := do
  let f ← currentFrame
  if f.kind = .module then return .ref f.globals else varsDict (← localVars f)

def namesOf (v : Value) : Run (List String) := do
  match v with
  | .module _ => return []
  | v => match ← object? v with
    | some (.instance _ attrs _) => return attrs.map (·.1)
    | some (.cls _ _ _ attrs) => return attrs.map (·.1)
    | _ => return methodsOf (← typeName v)

def getAttribute (m : Machine) (args : List Value) (keywords : Vars) : Run Value := do
  match ← someArguments "getattr" 2 3 args keywords with
  | v :: .text name :: rest => match rest with
    | [] => getAttr m v name
    | default :: _ => catching "AttributeError" (getAttr m v name) fun _ => return default
  | _ => failType "attribute name must be string, not 'int'"

def nextValue (m : Machine) (args : List Value) (keywords : Vars) : Run Value := do
  match ← someArguments "next" 1 2 args keywords with
  | it :: rest => match ← m.advance it with
    | some v => return v
    | none => match rest with
      | v :: _ => return v
      | [] => do raise (← makeError "StopIteration" [])
  | [] => return .none

def openPath (args : List Value) (keywords : Vars) : Run Value := do
  let given ← namedArguments "open"
    ["file", "mode", "buffering", "encoding", "errors", "newline", "closefd", "opener"]
    args keywords
  let mode ← match given.get? "mode" with
    | none => pure "r"
    | some (.text s) => pure s
    | some v => failType ("open() argument 'mode' must be str, not " ++ (← typeName v))
  match given.get? "file" with
  | some (.text path) => Method.openFile path mode
  | some v => failType ("expected str, bytes or os.PathLike object, not " ++ (← typeName v))
  | none => failType "open() missing required argument 'file' (pos 1)"

def anyTrue (m : Machine) (it : Value) : Nat → Run Bool
  | 0 => throw .exhausted
  | n + 1 => do
    match ← m.advance it with
    | none => return false
    | some v => if ← truth m v then return true else anyTrue m it n

def allTrue (m : Machine) (it : Value) : Nat → Run Bool
  | 0 => throw .exhausted
  | n + 1 => do
    match ← m.advance it with
    | none => return true
    | some v => if ← truth m v then allTrue m it n else return false

def hashOf (v : Value) : Run Value := do
  ensureKey v
  match Number.asInt? v with
  | some n =>
    let r := Int.tmod n (Int.pow 2 61 - 1)
    return .int (if r = -1 then -2 else r)
  | none => return .int 0

def addressOf (v : Value) : Value :=
  match v with
  | .ref a => .int (16 * a + 0x7f0000001000)
  | .int n => .int (9793088 + 32 * n)
  | _ => .int 9000000

def isCallable (v : Value) : Run Bool := do
  match v with
  | .type _ | .builtin _ | .method .. => return true
  | v => match ← object? v with
    | some (.function _) | some (.cls ..) | some (.bound ..) => return true
    | some (.instance cls _ _) => return (← findInClass cls "__call__").isSome
    | _ => return false

/-- Calls a function that every program knows. -/
def callPlain (m : Machine) (name : String) (args : List Value) (keywords : Vars) : Run Value := do
  let arg : Run Value := oneArgument name args keywords
  match name with
  | "print" => print m args keywords
  | "len" => do return .int (← lengthOf m (← arg))
  | "repr" => do return .text (← m.shown (← arg))
  | "ascii" => do return .text (Text.quotedAscii (← m.shown (← arg)))
  | "abs" => do absolute m (← arg)
  | "any" => do return .bool (← anyTrue m (← iterator m (← arg)) manyRounds)
  | "all" => do return .bool (← allTrue m (← iterator m (← arg)) manyRounds)
  | "bin" => do inRadix m "0b" 2 (← arg)
  | "oct" => do inRadix m "0o" 8 (← arg)
  | "hex" => do inRadix m "0x" 16 (← arg)
  | "chr" =>
    let n ← expectIndex m (← arg)
    if n < 0 || n > 0x10FFFF then failValue "chr() arg not in range(0x110000)"
    return .text (Char.ofNat n.toNat).toString
  | "ord" => match ← arg with
    | .text s => match s.toList with
      | [c] => return .int c.toNat
      | cs => failType ("ord() expected a character, but string of length " ++ toString cs.length ++
          " found")
    | .bytes [b] => return .int b.toNat
    | v => failType ("ord() expected string of length 1, but " ++ (← typeName v) ++ " found")
  | "max" => extremum m name .gt args keywords
  | "min" => extremum m name .lt args keywords
  | "sum" => sum m args keywords
  | "sorted" => match args with
    | [v] =>
      let (key, reverse) ← Method.sortArguments m "sort" keywords
      make (.list (← Method.sortValues m key reverse (← collect m v)))
    | vs => failType ("sorted expected 1 argument, got " ++ toString vs.length)
  | "round" => round m args keywords
  | "pow" => power m args keywords
  | "divmod" => divmod args keywords
  | "isinstance" => match ← someArguments name 2 2 args keywords with
    | [v, classes] =>
      let cls ← classOf v
      return .bool (← isOneOf (isSubclass cls)
        "isinstance() arg 2 must be a type, a tuple of types, or a union" 32 classes)
    | _ => return .none
  | "issubclass" => match ← someArguments name 2 2 args keywords with
    | [cls, classes] =>
      if !(← isClass cls) then failType "issubclass() arg 1 must be a class"
      return .bool (← isOneOf (isSubclass cls)
        "issubclass() arg 2 must be a class, a tuple of classes, or a union" 32 classes)
    | _ => return .none
  | "getattr" => getAttribute m args keywords
  | "hasattr" => match ← someArguments name 2 2 args keywords with
    | [v, .text n] => return .bool (← attr? m v n).isSome
    | _ => failType "attribute name must be string, not 'int'"
  | "setattr" => match ← someArguments name 3 3 args keywords with
    | [v, .text n, x] =>
      setAttr m v n x
      return .none
    | _ => failType "attribute name must be string, not 'int'"
  | "delattr" => match ← someArguments name 2 2 args keywords with
    | [v, .text n] =>
      deleteAttr v n
      return .none
    | _ => failType "attribute name must be string, not 'int'"
  | "callable" => do return .bool (← isCallable (← arg))
  | "iter" => do iterator m (← arg)
  | "next" => nextValue m args keywords
  | "format" => match ← someArguments name 1 2 args keywords with
    | [v] => .text <$> formatted m v ""
    | [v, .text s] => .text <$> formatted m v s
    | _ => failType "format() argument 2 must be str, not int"
  | "open" => openPath args keywords
  | "exit" | "quit" => System.leave [args.headD ((keywords.get? "code").getD .none)]
  | "eval" | "exec" => runText m name args
  | "globals" => do return .ref (← currentFrame).globals
  | "locals" => localsDict
  | "vars" => match args with
    | [] => localsDict
    | v :: _ => match ← attr? m v "__dict__" with
      | some d => return d
      | none => failType "vars() argument must have __dict__ attribute"
  | "dir" => match args with
    | [] => match ← localsDict with
      | .ref a =>
        let names := (← entriesAt a).filterMap fun (k, _) => match k with
          | .text t => some t
          | _ => none
        make (.list ((names.mergeSort (· ≤ ·)).map Value.text))
      | v => return v
    | v :: _ => do make (.list (((← namesOf v).mergeSort (· ≤ ·)).map Value.text))
  | "hash" => do hashOf (← arg)
  | "id" => do return addressOf (← arg)
  | "input" =>
    printOut (← match args with
      | v :: _ => display m v
      | [] => pure "")
    fail .noMoreInput
  | "__import__" => match args with
    | .text module :: _ =>
      if isModule module then return .module module else fail (.noModule module)
    | _ => failType "__import__() argument 1 must be str"
  | "expand_at" => valueFunction m args keywords
  | "shell" => shellFunction m args keywords
  | _ => fail (.unsupportedFeature (name ++ "()"))

/-- A function of a module, or a method seen from its class: the part in front of the last dot and
the part behind it. -/
def dotted? (name : String) : Option (String × String) :=
  let cs := name.toList
  let last := (cs.reverse.takeWhile (· != '.')).reverse
  if last.length = cs.length then none
  else some (String.ofList (cs.take (cs.length - last.length - 1)), String.ofList last)

/-- Calls a method of a class with the object as its first argument. -/
def callUnbound (m : Machine) (type name : String) (args : List Value) (keywords : Vars) :
    Run Value := do
  match name, args with
  | "maketrans", _ | "fromkeys", _ =>
    let empty : Value ← if type = "dict" then make (.dict []) else pure (.text "")
    Method.call m empty name args keywords
  | _, [] => failType ("unbound method " ++ type ++ "." ++ name ++ "() needs an argument")
  | _, self :: rest =>
    if ← isInstance self (.type type) then Method.call m self name rest keywords
    else failType ("descriptor '" ++ name ++ "' for '" ++ type ++ "' objects doesn't apply to a " ++
      "'" ++
      (← typeName self) ++ "' object")

def callBuiltin (m : Machine) (name : String) (args : List Value) (keywords : Vars) :
    Run Value := do
  match dotted? name with
  | none => callPlain m name args keywords
  | some (front, last) => match front with
    | "math" => Math.call m last args keywords
    | "json" =>
      if last = "loads" then Json.load (← oneArgument "loads" args keywords)
      else Json.dump m args keywords
    | "os" => System.osFunction last args keywords
    | "os.path" => System.pathFunction last args
    | "environ" => System.environment last args
    | "sys" => System.sysFunction last args
    | type => callUnbound m type last args keywords

/-- Calls a value. -/
def callValue (m : Machine) (f : Value) (args : List Value) (keywords : Vars) : Run Value := do
  match f with
  | .builtin name => callBuiltin m name args keywords
  | .type name => construct m name args keywords
  | .method self name => Method.call m self name args keywords
  | .ref a => match ← object a with
    | .function fn => callFunction m fn args keywords
    | .cls .. => instantiate m f args keywords
    | .bound self fn => m.call fn (self :: args) keywords
    | .staticMethod fn => m.call fn args keywords
    | .instance cls _ _ => match ← findInClass cls "__call__" with
      | some fn => m.call fn (f :: args) keywords
      | none => fail (.notCallable (← className cls))
    | _ => fail (.notCallable (← typeName f))
  | f => fail (.notCallable (← typeName f))

end Conch.Eval.Library
