import Conch.Eval.Class
import Conch.Eval.Number

/-!
# Texts of values

A value has a text that stands for it in a program, and a text that it is printed as. A container
that holds itself is shown as dots inside.
-/

namespace Conch.Eval

/-- Classes that live in a module, with their full names. -/
def qualifiedClasses : List (String × String) :=
  [("CommandResult", "app.types.CommandResult"),
    ("JSONDecodeError", "json.decoder.JSONDecodeError"),
    ("UnsupportedOperation", "io.UnsupportedOperation"), ("Quitter", "_sitebuiltins.Quitter"),
    ("SubprocessError", "subprocess.SubprocessError"),
    ("TimeoutExpired", "subprocess.TimeoutExpired")]

/-- Where an object is, as far as anyone can tell. -/
def place (a : Addr) : String :=
  "0x7f" ++ String.ofList (Text.hexDigits 10 (16 * a + 0x1000))

def byteText (b : UInt8) : String :=
  let c := Char.ofNat b.toNat
  if c == '\n' then "\\n" else if c == '\r' then "\\r" else if c == '\t' then "\\t"
  else if c == '\\' then "\\\\"
  else if 32 ≤ b && b < 127 then c.toString
  else "\\x" ++ String.ofList (Text.hexDigits 2 b.toNat)

def bytesText (bs : List UInt8) : String :=
  let quote := if bs.contains 39 && !bs.contains 34 then "\"" else "'"
  "b" ++ quote ++ String.join (bs.map fun b =>
    if b == 39 && quote == "'" then "\\'" else byteText b) ++ quote

def leaveText (name : String) : String := "Use " ++ name ++ "() or Ctrl-D (i.e. EOF) to exit"

/-- The text of a function that every program knows; those of a class or a module have a dot in
their names. -/
def builtinText (name : String) : String :=
  if name = "exit" || name = "quit" then leaveText name
  else if name = "help" then
    "Type help() for interactive help, or help(object) for help about object."
  else if name = "license" then "Type license() to see the full license text"
  else if libraryFunctions.contains name then functionAt name
  else match World.Path.cut '.' [] name.toList with
    | [] | [_] => "<built-in function " ++ name ++ ">"
    | [owner, own] =>
      if ["math", "sys", "os"].contains owner then "<built-in function " ++ own ++ ">"
      else if owner = "json" then functionAt own
      else "<method '" ++ own ++ "' of '" ++ owner ++ "' objects>"
    | parts => functionAt (parts.getLast?.getD name)
where
  functionAt (name : String) : String := "<function " ++ name ++ " at " ++ place 0 ++ ">"

/-- Modules that are part of the interpreter without being built into it. -/
def frozenModules : List (String × String) := [("os", "os"), ("os.path", "posixpath")]

def moduleText (name : String) : String :=
  match frozenModules.lookup name with
  | some own => "<module '" ++ own ++ "' (frozen)>"
  | none => "<module '" ++ name ++ "' (built-in)>"

/-- Shows a container unless it is being shown already. -/
def guarded (a : Addr) (dots : String) (x : Run String) : Run String := do
  let s ← get
  if s.showing.contains a then return dots
  else
    set { s with showing := a :: s.showing }
    finallyDo x (modify fun t => { t with showing := s.showing })

def commaSeparated (parts : List String) : String := ", ".intercalate parts

def showPair (m : Machine) (entry : Value × Value) : Run String := do
  return (← m.shown entry.1) ++ ": " ++ (← m.shown entry.2)

/-- A text, or the error that a method gave something else. -/
def expectText (method : String) (v : Value) : Run String := do
  match v with
  | .text s => return s
  | v => failType (method ++ " returned non-string (type " ++ (← typeName v) ++ ")")

def functionName (f : Value) : Run String := do
  match ← object? f with
  | some (.function fn) => return fn.fullName
  | _ => return "?"

/-- The parts of a dictionary that a view shows. -/
def viewItems (kind : String) (entries : List (Value × Value)) : List Value :=
  if kind = "dict_keys" then entries.map (·.1)
  else if kind = "dict_values" then entries.map (·.2)
  else entries.map fun (k, v) => .tuple [k, v]

def classText (cls : Value) : Run String := do
  match cls with
  | .type name => return "<class '" ++ (qualifiedClasses.lookup name).getD name ++ "'>"
  | _ => match ← object? cls with
    | some (.cls _ fullName _ _) => return "<class '__main__." ++ fullName ++ "'>"
    | _ => return "<class 'object'>"

def instanceText (m : Machine) (self : Value) (a : Addr) (cls : Value) (attrs : Vars)
    (args : List Value) : Run String := do
  match ← callSpecial m self "__repr__" [] with
  | some v => expectText "__repr__" v
  | none =>
    let name ← className cls
    if sameClass cls commandResult then
      match attrs.get? "returncode" with
      | some (.text s) => return "CommandResult(returncode=" ++ s ++ ")"
      | some v => return "CommandResult(returncode=" ++ (← m.shown v) ++ ")"
      | none => fail (.noAttribute name "returncode")
    else if ← isErrorType cls then
      return name ++ "(" ++ commaSeparated (← args.mapM m.shown) ++ ")"
    else match cls with
      | .type n => return "<" ++ n ++ " object at " ++ place a ++ ">"
      | _ => match ← object? cls with
        | some (.cls _ fullName _ _) =>
          return "<__main__." ++ fullName ++ " object at " ++ place a ++ ">"
        | _ => return "<object object at " ++ place a ++ ">"

def objectText (m : Machine) (self : Value) (a : Addr) (o : Object) : Run String :=
  match o with
  | .list vs => guarded a "[...]" do return "[" ++ commaSeparated (← vs.mapM m.shown) ++ "]"
  | .dict es => guarded a "\x7b...\x7d" do
      return "\x7b" ++ commaSeparated (← es.mapM (showPair m)) ++ "\x7d"
  | .set vs frozen => do
    let inside := "\x7b" ++ commaSeparated (← vs.mapM m.shown) ++ "\x7d"
    return if frozen then (if vs.isEmpty then "frozenset()" else "frozenset(" ++ inside ++ ")")
      else if vs.isEmpty then "set()" else inside
  | .function f => return "<function " ++ f.fullName ++ " at " ++ place a ++ ">"
  | .cls .. => classText self
  | .instance cls attrs args => instanceText m self a cls attrs args
  | .bound receiver f => do
    return "<bound method " ++ (← functionName f) ++ " of " ++ (← m.shown receiver) ++ ">"
  | .iterator kind (.comprehension ..) =>
    return "<" ++ kind ++ " object <genexpr> at " ++ place a ++ ">"
  | .iterator kind _ => return "<" ++ kind ++ " object at " ++ place a ++ ">"
  | .file f =>
    if f.binary then return "<_io.BufferedReader name=" ++ Text.quoted f.name ++ ">"
    else return "<_io.TextIOWrapper name=" ++ Text.quoted f.name ++
      " mode=" ++ Text.quoted f.mode ++
      " encoding='UTF-8'>"
  | .view kind d => guarded a "..." do
    return kind ++ "([" ++
      commaSeparated (← (viewItems kind (← entriesAt d)).mapM m.shown) ++ "])"
  | .parentView cls _ => do return "<super: " ++ (← classText cls) ++ ">"
  | o => do return "<" ++ (← objectTypeName o) ++ " object at " ++ place a ++ ">"

/-- The text that stands for a value in a program. -/
def showValue (m : Machine) (v : Value) : Run String :=
  match v with
  | .none => return "None"
  | .ellipsis => return "Ellipsis"
  | .notImplemented => return "NotImplemented"
  | .bool b => return if b then "True" else "False"
  | .int n => Number.intText n
  | .float x => return Decimal.render true x
  | .text s => return Text.quoted s
  | .bytes b => return bytesText b
  | .tuple [x] => do return "(" ++ (← m.shown x) ++ ",)"
  | .tuple vs => do return "(" ++ commaSeparated (← vs.mapM m.shown) ++ ")"
  | .range a b c =>
    return "range(" ++ toString a ++ ", " ++ toString b ++
      (if c = 1 then "" else ", " ++ toString c) ++ ")"
  | .slice a b c => do
    return "slice(" ++ commaSeparated (← [a, b, c].mapM m.shown) ++ ")"
  | .type _ => classText v
  | .builtin name => return builtinText name
  | .method self name => do
    return "<built-in method " ++ name ++ " of " ++ (← typeName self) ++
      " object at " ++ place 0 ++ ">"
  | .module name => return moduleText name
  | .terminal isErr =>
    return "<_io.TextIOWrapper name='<" ++ (if isErr then "stderr" else "stdout") ++
      ">' mode='w' encoding='utf-8'>"
  | .ref a => do objectText m v a (← object a)

/-- Where a syntax error is, as far as it knows: the last name of a file, and a line. -/
def syntaxPlace : Option Value → Option Value → String
  | some (.text file), some (.int line) =>
    " (" ++ fileName file ++ ", line " ++ toString line ++ ")"
  | some (.text file), _ => " (" ++ fileName file ++ ")"
  | _, some (.int line) => " (line " ++ toString line ++ ")"
  | _, _ => ""
where
  fileName (file : String) : String :=
    String.ofList (file.toList.reverse.takeWhile (· != '/')).reverse

/-- The message of an error: its only argument, or all of them. -/
def errorText (m : Machine) (str : Value → Run String) (cls : Value) (attrs : Vars)
    (args : List Value) : Run String := do
  if ← isSubclass cls (.type "SyntaxError") then
    let msg ← str ((attrs.get? "msg").getD .none)
    return msg ++ syntaxPlace (attrs.get? "filename") (attrs.get? "lineno")
  else if ← isSubclass cls (.type "OSError") then
    match args with
    | [.int n, text] => return "[Errno " ++ toString n ++ "] " ++ (← str text)
    | .int n :: text :: file :: _ =>
      return "[Errno " ++ toString n ++ "] " ++ (← str text) ++ ": " ++ (← m.shown file)
    | _ => plain
  else match args with
    | [x] => if ← isSubclass cls (.type "KeyError") then m.shown x else str x
    | _ => plain
where
  plain : Run String := do
    match args with
    | [] => return ""
    | [x] => str x
    | args => m.shown (.tuple args)

/-- The text that a value is printed as; `depth` bounds how deep an error may hold errors. -/
def displayFrom (m : Machine) (depth : Nat) (v : Value) : Run String := do
  match v with
  | .text s => return s
  | .ref a => match ← object a with
    | .instance cls attrs args =>
      match ← callSpecial m v "__str__" [] with
      | some r => expectText "__str__" r
      | none =>
        if sameClass cls commandResult then
          match attrs.get? "stdout" with
          | some out => expectText "__str__" out
          | none => fail (.noAttribute "CommandResult" "stdout")
        else if ← isErrorType cls then
          match depth with
          | 0 => m.shown v
          | d + 1 => errorText m (displayFrom m d) cls attrs args
        else m.shown v
    | _ => m.shown v
  | v => m.shown v

def display (m : Machine) (v : Value) : Run String := displayFrom m 16 v

end Conch.Eval
