import Conch.Eval.Show

/-!
# Attributes

What stands behind a dot: variables of an object, methods of its class, or parts of a module.
-/

namespace Conch.Eval

def textMethods : List String :=
  ["capitalize", "casefold", "center", "count", "encode", "endswith", "expandtabs", "find",
    "format", "format_map", "index", "isalnum", "isalpha", "isascii", "isdecimal", "isdigit",
    "isidentifier", "islower", "isnumeric", "isprintable", "isspace", "istitle", "isupper", "join",
    "ljust", "lower", "lstrip", "maketrans", "partition", "removeprefix", "removesuffix",
    "replace", "rfind", "rindex", "rjust", "rpartition", "rsplit", "rstrip", "split", "splitlines",
    "startswith", "strip", "swapcase", "title", "translate", "upper", "zfill"]

def listMethods : List String :=
  ["append", "clear", "copy", "count", "extend", "index", "insert", "pop", "remove", "reverse",
    "sort"]

def dictMethods : List String :=
  ["clear", "copy", "fromkeys", "get", "items", "keys", "pop", "popitem", "setdefault", "update",
    "values"]

def frozenSetMethods : List String :=
  ["copy", "difference", "intersection", "isdisjoint", "issubset", "issuperset",
    "symmetric_difference", "union"]

def setMethods : List String :=
  frozenSetMethods ++ ["add", "clear", "difference_update", "discard", "intersection_update", "pop",
    "remove", "symmetric_difference_update", "update"]

def fileMethods : List String :=
  ["close", "fileno", "flush", "isatty", "read", "readable", "readline", "readlines", "seekable",
    "writable", "write", "writelines"]

/-- The methods of the classes that every program knows. -/
def methodsOf (type : String) : List String :=
  match type with
  | "str" => textMethods
  | "list" => listMethods
  | "tuple" | "range" => ["count", "index"]
  | "dict" => dictMethods
  | "set" => setMethods
  | "frozenset" => frozenSetMethods
  | "int" | "bool" =>
    ["as_integer_ratio", "bit_count", "bit_length", "conjugate", "to_bytes"]
  | "float" => ["as_integer_ratio", "conjugate", "hex", "is_integer"]
  | "bytes" => ["count", "decode", "endswith", "find", "hex", "join", "lower", "replace", "split",
      "startswith", "strip", "upper"]
  | "_io.TextIOWrapper" | "_io.BufferedReader" => fileMethods
  | "generator" => ["close", "send", "throw"]
  | _ => []

/-- Methods that stand for operations of the language itself. -/
def operationMethods (type : String) : List String :=
  let every := ["__eq__", "__ne__", "__hash__", "__repr__", "__str__", "__init__", "__format__",
    "__sizeof__", "__dir__"]
  let sized := ["__len__", "__iter__", "__contains__", "__getitem__"]
  match type with
  | "str" | "tuple" | "bytes" | "range" =>
    every ++ sized ++ ["__add__", "__mul__", "__lt__", "__gt__"]
  | "list" =>
    every ++ sized ++ ["__add__", "__mul__", "__lt__", "__gt__", "__setitem__", "__delitem__"]
  | "dict" => every ++ sized ++ ["__setitem__", "__delitem__"]
  | "set" | "frozenset" => every ++ ["__len__", "__iter__", "__contains__"]
  | "int" | "float" | "bool" =>
    every ++ ["__add__", "__sub__", "__mul__", "__truediv__", "__floordiv__", "__mod__", "__pow__",
      "__neg__", "__abs__", "__bool__", "__lt__", "__gt__", "__int__", "__float__"]
  | "generator" | "list_iterator" | "map" | "filter" | "zip" | "enumerate" | "reversed" =>
    every ++ ["__iter__", "__next__"]
  | "_io.TextIOWrapper" | "_io.BufferedReader" => every ++ ["__enter__", "__exit__", "__iter__"]
  | _ => every

def hasMethod (type name : String) : Bool :=
  (methodsOf type).contains name || (operationMethods type).contains name

def mathFunctions : List String :=
  ["ceil", "cos", "exp", "fabs", "factorial", "floor", "fmod", "gcd", "hypot", "isclose",
    "isfinite", "isinf", "isnan", "isqrt", "lcm", "log", "log10", "log2", "pow", "prod", "sin",
    "sqrt", "tan", "trunc"]

def osFunctions : List String :=
  ["chdir", "getcwd", "getenv", "listdir", "makedirs", "mkdir", "remove", "rename", "rmdir",
    "unlink"]

def pathFunctions : List String :=
  ["abspath", "basename", "dirname", "exists", "expanduser", "getsize", "isabs", "isdir", "isfile",
    "join", "normpath", "split", "splitext"]

/-- Modules that can be imported but have nothing in them that is known here. -/
def otherModules : List String :=
  ["abc", "argparse", "array", "ast", "asyncio", "base64", "bisect", "calendar", "cmath", "code",
    "codecs", "collections", "contextlib", "copy", "csv", "dataclasses", "datetime", "decimal",
    "difflib", "dis", "enum", "errno", "fnmatch", "fractions", "functools", "gc", "getpass",
    "glob", "gzip", "hashlib", "heapq", "html", "http", "importlib", "inspect", "io", "itertools",
    "keyword", "linecache", "locale", "logging", "multiprocessing", "numbers", "operator",
    "pathlib", "pickle", "platform", "pprint", "queue", "random", "re", "secrets", "select",
    "shlex", "shutil", "signal", "site", "socket", "sqlite3", "stat", "statistics", "string",
    "struct", "subprocess", "tempfile", "textwrap", "threading", "time", "timeit", "token",
    "tokenize", "traceback", "types", "typing", "unicodedata", "unittest", "urllib", "uuid",
    "warnings", "weakref", "zipfile", "zlib"]

def isModule (name : String) : Bool :=
  ["math", "json", "os", "os.path", "posixpath", "sys", "builtins"].contains name ||
    otherModules.contains name

def moduleAttr? (module name : String) : Option Value :=
  let function (known : List String) (front : String) : Option Value :=
    if known.contains name then some (.builtin (front ++ "." ++ name)) else none
  if name = "__name__" then some (.text module)
  else match module with
    | "math" =>
      match name with
      | "pi" => some (.float 3.141592653589793)
      | "e" => some (.float 2.718281828459045)
      | "tau" => some (.float 6.283185307179586)
      | "inf" => some (.float (1.0 / 0.0))
      | "nan" => some (.float (0.0 / 0.0))
      | _ => function mathFunctions "math"
    | "json" =>
      if name = "JSONDecodeError" then some (.type name) else function ["dumps", "loads"] "json"
    | "os" =>
      match name with
      | "path" => some (.module "posixpath")
      | "environ" => some (.module "os.environ")
      | "sep" => some (.text "/")
      | "pathsep" => some (.text ":")
      | "linesep" => some (.text "\n")
      | "curdir" => some (.text ".")
      | "pardir" => some (.text "..")
      | "name" => some (.text "posix")
      | "devnull" => some (.text "/dev/null")
      | "error" => some (.type "OSError")
      | _ => function osFunctions "os"
    | "posixpath" => if name = "sep" then some (.text "/") else function pathFunctions "os.path"
    | "os.environ" =>
      function ["get", "keys", "copy", "pop", "setdefault", "items", "values"] "environ"
    | "sys" =>
      match name with
      | "stdout" => some (.terminal false)
      | "stderr" => some (.terminal true)
      | "maxsize" => some (.int 9223372036854775807)
      | "byteorder" => some (.text "little")
      | "platform" => some (.text "linux")
      | _ => function ["exit", "getrecursionlimit", "getsizeof"] "sys"
    | "builtins" => none
    | _ => none

/-- An attribute of an error that is kept among its arguments. -/
def errorAttr? (cls : Value) (args : List Value) (name : String) : Run (Option Value) := do
  let is (above : String) : Run Bool := isSubclass cls (.type above)
  match name with
  | "args" => return some (.tuple args)
  | "__cause__" | "__context__" | "__traceback__" => return some .none
  | "errno" => if ← is "OSError" then return some ((args.take 1).head?.getD .none) else return none
  | "strerror" =>
    if ← is "OSError" then return some ((args.drop 1).head?.getD .none) else return none
  | "filename" =>
    if ← is "OSError" then return some ((args.drop 2).head?.getD .none)
    else if ← is "SyntaxError" then return some .none
    else return none
  | "code" =>
    if ← is "SystemExit" then
      return some (match args with
        | [] => .none
        | [v] => v
        | vs => .tuple vs)
    else return none
  | "value" => if ← is "StopIteration" then return some (args.head?.getD .none) else return none
  | "msg" =>
    if ← is "SyntaxError" then return some .none
    else if ← is "ImportError" then return some (args.head?.getD .none)
    else return none
  | "text" | "offset" | "lineno" | "end_lineno" | "end_offset" =>
    if ← is "SyntaxError" then return some .none else return none
  | _ => return none

/-- The class of a line that every program knows and that has a method of that name. -/
def knownMethod? (line : List Value) (name : String) : Option String :=
  line.findSome? fun c => match c with
    | .type n => if hasMethod n name then some n else none
    | _ => none

/-- What is found for an object along a line of classes. -/
def attrAlong (m : Machine) (self cls : Value) (line : List Value) (name : String) :
    Run (Option Value) := do
  match ← findAlong name line with
  | some v => some <$> bindTo m self cls v
  | none => match knownMethod? line name with
    | some _ => return some (.method self name)
    | none => return none

def isProperty (v : Option Value) : Run Bool := do
  match v with
  | some v => match ← object? v with
    | some (.property ..) => return true
    | _ => return false
  | none => return false

def varsDict (vs : Vars) : Run Value := make (.dict (vs.map fun (n, v) => (.text n, v)))

def instanceAttr? (m : Machine) (self cls : Value) (attrs : Vars) (args : List Value)
    (name : String) : Run (Option Value) := do
  let inClass ← findInClass cls name
  if ← isProperty inClass then
    return ← attrAlong m self cls (← lineageOf cls) name
  match attrs.get? name with
  | some v => return some v
  | none => match name with
    | "__class__" => return some cls
    | "__dict__" => some <$> varsDict attrs
    | _ =>
      let fromError ← if ← isErrorType cls then errorAttr? cls args name else pure none
      match fromError with
      | some v =>
        if inClass.isSome then attrAlong m self cls (← lineageOf cls) name else return some v
      | none => match ← attrAlong m self cls (← lineageOf cls) name with
        | some v => return some v
        | none => match ← findInClass cls "__getattr__" with
          | some f => some <$> m.call f [self, .text name] []
          | none => return none

def classAttr? (cls : Value) (name : String) : Run (Option Value) := do
  match name with
  | "__name__" => return some (.text (← className cls))
  | "__qualname__" => match ← object? cls with
    | some (.cls _ fullName _ _) => return some (.text fullName)
    | _ => return some (.text (← className cls))
  | "__module__" => match cls with
    | .type _ => return some (.text "builtins")
    | _ => return some (.text "__main__")
  | "__mro__" => return some (.tuple (← lineageOf cls))
  | "__bases__" => match ← object? cls with
    | some (.cls _ _ bases _) =>
      return some (.tuple (if bases.isEmpty then [.type "object"] else bases))
    | _ => return some (.tuple (((← lineageOf cls).drop 1).take 1))
  | "__class__" => return some (.type "type")
  | _ =>
    let line ← lineageOf cls
    match ← findAlong name line with
    | some v => match ← object? v with
      | some (.staticMethod f) => return some f
      | some (.classMethod f) => some <$> make (.bound cls f)
      | _ => return some v
    | none => match name with
      | "__doc__" => return some .none
      | "__dict__" => match ← object? cls with
        | some (.cls _ _ _ attrs) => some <$> varsDict attrs
        | _ => some <$> varsDict []
      | _ => match knownMethod? line name with
        | some type => return some (.builtin (type ++ "." ++ name))
        | none => return none

def functionAttr? (f : Function) (name : String) : Run (Option Value) :=
  match name with
  | "__name__" => return some (.text f.name)
  | "__qualname__" => return some (.text f.fullName)
  | "__module__" => return some (.text "__main__")
  | "__defaults__" =>
    return some (if f.defaults.isEmpty then .none else .tuple (f.defaults.map (·.2)))
  | "__dict__" => some <$> varsDict []
  | "__doc__" => match f.body with
    | .block (.expr (.constant (.text doc _)) :: _) => return some (.text doc)
    | _ => return some .none
  | _ => return none

/-- An attribute of a value, if it has one of that name. -/
def attr? (m : Machine) (v : Value) (name : String) : Run (Option Value) := do
  match v with
  | .module module => return moduleAttr? module name
  | .type _ => classAttr? v name
  | .ref a => match ← object a with
    | .cls .. => classAttr? v name
    | .instance cls attrs args => instanceAttr? m v cls attrs args name
    | .function f => functionAttr? f name
    | .bound self f => match name with
      | "__self__" => return some self
      | "__func__" => return some f
      | _ => match ← object? f with
        | some (.function fn) => functionAttr? fn name
        | _ => return none
    | .parentView cls self =>
      let line ← lineageOf (← classOf self)
      let rest := (line.dropWhile fun c => !sameClass c cls).drop 1
      attrAlong m self (← classOf self) rest name
    | .file f => match name with
      | "closed" => return some (.bool f.closed)
      | "name" => return some (.text f.name)
      | "mode" => return some (.text f.mode)
      | _ => plain
    | .property getter setter => match name with
      | "fget" => return some getter
      | "fset" => return some setter
      | "setter" => return some (.method v "setter")
      | "getter" => return some (.method v "getter")
      | _ => plain
    | _ => plain
  | .int _ | .bool _ => match name with
    | "real" | "numerator" => return some (.int ((Number.asInt? v).getD 0))
    | "imag" => return some (.int 0)
    | "denominator" => return some (.int 1)
    | _ => plain
  | .float x => match name with
    | "real" => return some (.float x)
    | "imag" => return some (.float 0.0)
    | _ => plain
  | .range a b c => match name with
    | "start" => return some (.int a)
    | "stop" => return some (.int b)
    | "step" => return some (.int c)
    | _ => plain
  | .slice a b c => match name with
    | "start" => return some a
    | "stop" => return some b
    | "step" => return some c
    | _ => plain
  | .builtin f => match name with
    | "__name__" | "__qualname__" => return some (.text f)
    | _ => plain
  | _ => plain
where
  plain : Run (Option Value) := do
    let type ← typeName v
    match name with
    | "__class__" => return some (.type type)
    | "__doc__" => return some .none
    | _ => return if hasMethod type name then some (.method v name) else none

def noAttr {α : Type} (v : Value) (name : String) : Run α := do
  match v with
  | .module module => fail (.noModuleAttribute module name)
  | _ =>
    if ← isClass v then fail (.noClassAttribute (← className v) name)
    else match ← object? v with
      | some (.parentView ..) => fail (.noAttribute "super" name)
      | _ => fail (.noAttribute (← typeName v) name)

def getAttr (m : Machine) (v : Value) (name : String) : Run Value := do
  match ← attr? m v name with
  | some r => return r
  | none => noAttr v name

def setAttr (m : Machine) (v : Value) (name : String) (new : Value) : Run Unit := do
  match ← object? v, v with
  | some (.instance cls attrs args), .ref a =>
    match ← findInClass cls name with
    | some p => match ← object? p with
      | some (.property _ .none) =>
        fail (.noAttribute (← className cls) name)
      | some (.property _ setter) =>
        let _ ← m.call setter [v, new] []
      | _ => plainSet a cls attrs args
    | none => plainSet a cls attrs args
  | some (.cls n q bases attrs), .ref a => update a (.cls n q bases (attrs.set name new))
  | _, .type cls =>
    failType ("cannot set '" ++ name ++ "' attribute of immutable type '" ++ cls ++ "'")
  | _, .module module => fail (.noModuleAttribute module name)
  | _, v =>
    if (← attr? m v name).isSome then
      failType ("'" ++ (← typeName v) ++ "' object attribute '" ++ name ++ "' is read-only")
    else fail (.noAttribute (← typeName v) name)
where
  plainSet (a : Addr) (cls : Value) (attrs : Vars) (args : List Value) : Run Unit := do
    if name = "args" && (← isErrorType cls) then
      match new with
      | .tuple vs => update a (.instance cls attrs vs)
      | _ => update a (.instance cls attrs args)
    else match ← findInClass cls "__setattr__" with
      | some f =>
        let _ ← m.call f [v, .text name, new] []
      | none => update a (.instance cls (attrs.set name new) args)

def deleteAttr (v : Value) (name : String) : Run Unit := do
  match ← object? v, v with
  | some (.instance cls attrs args), .ref a =>
    if attrs.contains name then update a (.instance cls (attrs.erase name) args)
    else fail (.noAttribute (← className cls) name)
  | some (.cls n q bases attrs), .ref a =>
    if attrs.contains name then update a (.cls n q bases (attrs.erase name))
    else fail (.noClassAttribute n name)
  | _, v => fail (.noAttribute (← typeName v) name)

end Conch.Eval
