import Conch.Eval.Store

/-!
# Classes

Every value has a class. A class has classes behind it, in a line that ends in `object`; what is
looked up in a class is looked up along that line.
-/

namespace Conch.Eval

/-- Functions that are written in the language itself. -/
def libraryFunctions : List String := ["expand_at", "shell"]

/-- The name of a class. -/
def className (cls : Value) : Run String := do
  match cls with
  | .type name => return name
  | .ref a => match ← object a with
    | .cls name _ _ _ => return name
    | _ => return "object"
  | _ => return "object"

def objectTypeName (o : Object) : Run String :=
  match o with
  | .list _ => return "list"
  | .dict _ => return "dict"
  | .set _ frozen => return if frozen then "frozenset" else "set"
  | .function _ => return "function"
  | .cls .. => return "type"
  | .instance cls _ _ => className cls
  | .bound .. => return "method"
  | .iterator kind _ => return kind
  | .file f => return if f.binary then "_io.BufferedReader" else "_io.TextIOWrapper"
  | .frame _ => return "frame"
  | .view kind _ => return kind
  | .property .. => return "property"
  | .staticMethod _ => return "staticmethod"
  | .classMethod _ => return "classmethod"
  | .parentView .. => return "super"

/-- The name of a value's class. -/
def typeName (v : Value) : Run String :=
  match v with
  | .none => return "NoneType"
  | .ellipsis => return "ellipsis"
  | .notImplemented => return "NotImplementedType"
  | .bool _ => return "bool"
  | .int _ => return "int"
  | .float _ => return "float"
  | .text _ => return "str"
  | .bytes _ => return "bytes"
  | .tuple _ => return "tuple"
  | .range .. => return "range"
  | .slice .. => return "slice"
  | .type _ => return "type"
  | .builtin name =>
    return if libraryFunctions.contains name then "function"
      else if name = "exit" || name = "quit" then "Quitter"
      else "builtin_function_or_method"
  | .method .. => return "builtin_function_or_method"
  | .module _ => return "module"
  | .terminal _ => return "_io.TextIOWrapper"
  | .ref a => do objectTypeName (← object a)

/-- The class of a value. -/
def classOf (v : Value) : Run Value := do
  match ← object? v with
  | some (.instance cls _ _) => return cls
  | _ => return .type (← typeName v)

def sameClass : Value → Value → Bool
  | .type a, .type b => a = b
  | .ref a, .ref b => a = b
  | _, _ => false

/-- Keeps the last of several mentions of a class. -/
def lastMentions : List Value → List Value
  | [] => []
  | c :: rest => if rest.any (sameClass c) then lastMentions rest else c :: lastMentions rest

/-- A class of a program and those behind it, where `behind` gives the line of each of its bases. -/
def lineageFrom (behind : Value → Run (List Value)) (cls : Value) : Run (List Value) := do
  match ← object? cls with
  | some (.cls _ _ bases _) =>
    let lines ← bases.mapM behind
    let root : List Value := if bases.isEmpty then [.type "object"] else []
    return cls :: lastMentions (lines.flatten ++ root)
  | _ => return [cls]

/-- A class and those behind it, in the order of look-up; `depth` bounds how many classes of a program
stand behind one another. -/
def lineage : Nat → Value → Run (List Value)
  | _, .type name => return (ancestors name).map .type
  | 0, cls => return [cls]
  | depth + 1, cls => lineageFrom (lineage depth) cls

def lineageOf (cls : Value) : Run (List Value) := lineage 64 cls

def isSubclass (cls above : Value) : Run Bool := do
  return (← lineageOf cls).any (sameClass above)

def isInstance (v cls : Value) : Run Bool := do isSubclass (← classOf v) cls

def isClass (v : Value) : Run Bool := do
  match v with
  | .type _ => return true
  | _ => match ← object? v with
    | some (.cls ..) => return true
    | _ => return false

/-- Whether a class is one of errors. -/
def isErrorType (cls : Value) : Run Bool := isSubclass cls (.type "BaseException")

def isError (v : Value) : Run Bool := do
  match ← object? v with
  | some (.instance cls _ _) => isErrorType cls
  | _ => return false

/-- What the classes of a line keep under a name, with the class that keeps it. -/
def findAlong (name : String) : List Value → Run (Option Value)
  | [] => return none
  | c :: rest => do
    match ← object? c with
    | some (.cls _ _ _ attrs) => match attrs.get? name with
      | some v => return some v
      | none => findAlong name rest
    | _ => findAlong name rest

def findInClass (cls : Value) (name : String) : Run (Option Value) := do
  findAlong name (← lineageOf cls)

/-- What is found in a class, as an attribute of an object of it. -/
def bindTo (m : Machine) (self cls v : Value) : Run Value := do
  match ← object? v with
  | some (.function _) => make (.bound self v)
  | some (.staticMethod f) => return f
  | some (.classMethod f) => make (.bound cls f)
  | some (.property getter _) => m.call getter [self] []
  | _ => return v

/-- Calls a method of a program's own class if there is one of that name. -/
def callSpecial (m : Machine) (self : Value) (name : String) (args : List Value) :
    Run (Option Value) := do
  match ← object? self with
  | some (.instance cls _ _) => match ← findInClass cls name with
    | some f => some <$> m.call f (self :: args) []
    | none => return none
  | _ => return none

def commandResult : Value := .type "CommandResult"

/-- Whether a value counts as true. -/
def truth (m : Machine) (v : Value) : Run Bool := do
  match v with
  | .none => return false
  | .bool b => return b
  | .int n => return n ≠ 0
  | .float x => return x != 0.0
  | .text s => return !s.isEmpty
  | .bytes b => return !b.isEmpty
  | .tuple vs => return !vs.isEmpty
  | .range a b c => return if c > 0 then a < b else b < a
  | .ref a => match ← object a with
    | .list vs => return !vs.isEmpty
    | .dict es => return !es.isEmpty
    | .set vs _ => return !vs.isEmpty
    | .view _ d => return !(← entriesAt d).isEmpty
    | .instance cls attrs _ =>
      if sameClass cls commandResult then
        m.equal ((attrs.get? "returncode").getD .none) (.int 0)
      else match ← callSpecial m v "__bool__" [] with
        | some (.bool b) => return b
        | some other => failType ("__bool__ should return bool, returned " ++ (← typeName other))
        | none => match ← callSpecial m v "__len__" [] with
          | some (.int n) => return n ≠ 0
          | some _ => return true
          | none => return true
    | _ => return true
  | _ => return true

/-- Whether two values are one and the same. -/
def identical : Value → Value → Bool
  | .none, .none | .ellipsis, .ellipsis | .notImplemented, .notImplemented => true
  | .bool a, .bool b => a = b
  | .int a, .int b => a = b
  | .float a, .float b => a == b
  | .text a, .text b => a = b
  | .bytes a, .bytes b => a = b
  | .tuple [], .tuple [] => true
  | .type a, .type b => a = b
  | .builtin a, .builtin b => a = b
  | .module a, .module b => a = b
  | .terminal a, .terminal b => a = b
  | .ref a, .ref b => a = b
  | _, _ => false

end Conch.Eval
