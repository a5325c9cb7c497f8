import Conch.Eval.Value

/-!
# What goes wrong in a computation

A `Trouble` is why an operation has no result. It belongs to a class of errors, `Trouble.kind`, and
its wording is `Trouble.message`. Classes of errors form a tree.
-/

namespace Conch.Eval

inductive Trouble where
  | unbound (name : String)
  | unboundLocal (name : String)
  | unboundFree (name : String)
  | noAttribute (type name : String)
  | noClassAttribute (cls name : String)
  | noModuleAttribute (module name : String)
  | unsupported (op left right : String)
  | unsupportedUnary (op type : String)
  | incomparable (op left right : String)
  | notCallable (type : String)
  | notIterable (type : String)
  | notIterator (type : String)
  | notUnpackable (type : String)
  | notSubscriptable (type : String)
  | noItemAssignment (type : String)
  | noItemDeletion (type : String)
  | noContainment (type : String)
  | noLength (type : String)
  | noManager (type : String)
  | notInteger (type : String)
  | unhashable (type : String)
  | badIndex (container type : String)
  | concatenation (container type : String)
  | repetition (type : String)
  | tooFewValues (expected got : Nat) (atLeast : Bool)
  | tooManyValues (expected : Nat)
  | indexRange (container : String)
  | divisionByZero (what : String)
  | badInteger (base : Nat) (text : String)
  | badFloat (text : String)
  | tooManyDigits
  | noModule (name : String)
  | cannotImport (name module : String)
  | notRaisable
  | notCatchable
  | nothingToRaise
  | tooDeep
  | unsupportedFeature (what : String)
  | badType (message : String)
  | badValue (message : String)
  | badLookup (message : String)
  | overflow (message : String)
  | misrun (message : String)
  | noMoreInput
  | unsupportedOperation (message : String)
  deriving DecidableEq, Repr

namespace Trouble

/-- The class of errors that a trouble belongs to. -/
def kind : Trouble → String
  | unbound _ | unboundFree _ => "NameError"
  | unboundLocal _ => "UnboundLocalError"
  | noAttribute .. | noClassAttribute .. | noModuleAttribute .. => "AttributeError"
  | tooFewValues .. | tooManyValues _ | badInteger .. | badFloat _ | tooManyDigits | badValue _ =>
    "ValueError"
  | indexRange _ | badLookup _ => "IndexError"
  | divisionByZero _ => "ZeroDivisionError"
  | noModule _ => "ModuleNotFoundError"
  | cannotImport .. => "ImportError"
  | nothingToRaise | misrun _ => "RuntimeError"
  | tooDeep => "RecursionError"
  | unsupportedFeature _ => "NotImplementedError"
  | overflow _ => "OverflowError"
  | noMoreInput => "EOFError"
  | unsupportedOperation _ => "UnsupportedOperation"
  | _ => "TypeError"

def plural (n : Nat) (word : String) : String :=
  toString n ++ " " ++ word ++ (if n = 1 then "" else "s")

def message : Trouble → String
  | unbound name => "name '" ++ name ++ "' is not defined"
  | unboundLocal name =>
    "cannot access local variable '" ++ name ++ "' where it is not associated with a value"
  | unboundFree name =>
    "cannot access free variable '" ++ name ++
      "' where it is not associated with a value in enclosing scope"
  | noAttribute type name => "'" ++ type ++ "' object has no attribute '" ++ name ++ "'"
  | noClassAttribute cls name => "type object '" ++ cls ++ "' has no attribute '" ++ name ++ "'"
  | noModuleAttribute module name => "module '" ++ module ++ "' has no attribute '" ++ name ++ "'"
  | unsupported op left right =>
    "unsupported operand type(s) for " ++ op ++ ": '" ++ left ++ "' and '" ++ right ++ "'"
  | unsupportedUnary op type => "bad operand type for unary " ++ op ++ ": '" ++ type ++ "'"
  | incomparable op left right =>
    "'" ++ op ++ "' not supported between instances of '" ++ left ++ "' and '" ++ right ++ "'"
  | notCallable type => "'" ++ type ++ "' object is not callable"
  | notIterable type => "'" ++ type ++ "' object is not iterable"
  | notIterator type => "'" ++ type ++ "' object is not an iterator"
  | notUnpackable type => "cannot unpack non-iterable " ++ type ++ " object"
  | notSubscriptable type => "'" ++ type ++ "' object is not subscriptable"
  | noItemAssignment type => "'" ++ type ++ "' object does not support item assignment"
  | noItemDeletion type => "'" ++ type ++ "' object doesn't support item deletion"
  | noContainment type => "argument of type '" ++ type ++ "' is not iterable"
  | noLength type => "object of type '" ++ type ++ "' has no len()"
  | noManager type => "'" ++ type ++ "' object does not support the context manager protocol"
  | notInteger type => "'" ++ type ++ "' object cannot be interpreted as an integer"
  | unhashable type => "unhashable type: '" ++ type ++ "'"
  | badIndex container type =>
    if container = "string" then "string indices must be integers, not '" ++ type ++ "'"
    else container ++ " indices must be integers or slices, not " ++ type
  | concatenation container type =>
    "can only concatenate " ++ container ++ " (not \"" ++ type ++ "\") to " ++ container
  | repetition type => "can't multiply sequence by non-int of type '" ++ type ++ "'"
  | tooFewValues expected got atLeast =>
    "not enough values to unpack (expected " ++ (if atLeast then "at least " else "") ++
      toString expected ++ ", got " ++ toString got ++ ")"
  | tooManyValues expected => "too many values to unpack (expected " ++ toString expected ++ ")"
  | indexRange container => container ++ " index out of range"
  | divisionByZero what => what
  | badInteger base text =>
    "invalid literal for int() with base " ++ toString base ++ ": " ++ Text.quoted text
  | badFloat text => "could not convert string to float: " ++ Text.quoted text
  | tooManyDigits =>
    "Exceeds the limit (4300 digits) for integer string conversion; " ++
      "use sys.set_int_max_str_digits() to increase the limit"
  | noModule name => "No module named '" ++ name ++ "'"
  | cannotImport name module =>
    "cannot import name '" ++ name ++ "' from '" ++ module ++ "' (unknown location)"
  | notRaisable => "exceptions must derive from BaseException"
  | notCatchable =>
    "catching classes that do not inherit from BaseException is not allowed"
  | nothingToRaise => "No active exception to reraise"
  | tooDeep => "maximum recursion depth exceeded"
  | unsupportedFeature what => what
  | badType m | badValue m | badLookup m | overflow m | misrun m | unsupportedOperation m => m
  | noMoreInput => "EOF when reading a line"

end Trouble

/-- The class of errors that each class of errors is a part of. -/
def errorParents : List (String × String) :=
  [("BaseException", "object"), ("Exception", "BaseException"), ("SystemExit", "BaseException"),
    ("KeyboardInterrupt", "BaseException"), ("GeneratorExit", "BaseException"),
    ("BaseExceptionGroup", "BaseException"), ("ExceptionGroup", "Exception"),
    ("ArithmeticError", "Exception"), ("AssertionError", "Exception"),
    ("AttributeError", "Exception"), ("BufferError", "Exception"), ("EOFError", "Exception"),
    ("ImportError", "Exception"), ("ModuleNotFoundError", "ImportError"),
    ("LookupError", "Exception"), ("IndexError", "LookupError"), ("KeyError", "LookupError"),
    ("MemoryError", "Exception"), ("NameError", "Exception"), ("UnboundLocalError", "NameError"),
    ("OSError", "Exception"), ("BlockingIOError", "OSError"), ("ChildProcessError", "OSError"),
    ("ConnectionError", "OSError"), ("BrokenPipeError", "ConnectionError"),
    ("ConnectionAbortedError", "ConnectionError"), ("ConnectionRefusedError", "ConnectionError"),
    ("ConnectionResetError", "ConnectionError"), ("FileExistsError", "OSError"),
    ("FileNotFoundError", "OSError"), ("InterruptedError", "OSError"),
    ("IsADirectoryError", "OSError"), ("NotADirectoryError", "OSError"),
    ("PermissionError", "OSError"), ("ProcessLookupError", "OSError"), ("TimeoutError", "OSError"),
    ("ReferenceError", "Exception"), ("RuntimeError", "Exception"),
    ("NotImplementedError", "RuntimeError"), ("RecursionError", "RuntimeError"),
    ("StopAsyncIteration", "Exception"), ("StopIteration", "Exception"),
    ("SyntaxError", "Exception"), ("IndentationError", "SyntaxError"),
    ("TabError", "IndentationError"), ("SystemError", "Exception"), ("TypeError", "Exception"),
    ("ValueError", "Exception"), ("UnicodeError", "ValueError"),
    ("UnicodeDecodeError", "UnicodeError"), ("UnicodeEncodeError", "UnicodeError"),
    ("UnicodeTranslateError", "UnicodeError"), ("FloatingPointError", "ArithmeticError"),
    ("OverflowError", "ArithmeticError"), ("ZeroDivisionError", "ArithmeticError"),
    ("Warning", "Exception"), ("BytesWarning", "Warning"), ("DeprecationWarning", "Warning"),
    ("EncodingWarning", "Warning"), ("FutureWarning", "Warning"), ("ImportWarning", "Warning"),
    ("PendingDeprecationWarning", "Warning"), ("ResourceWarning", "Warning"),
    ("RuntimeWarning", "Warning"), ("SyntaxWarning", "Warning"), ("UnicodeWarning", "Warning"),
    ("UserWarning", "Warning"), ("JSONDecodeError", "ValueError"),
    ("UnsupportedOperation", "OSError"), ("SubprocessError", "Exception"),
    ("TimeoutExpired", "SubprocessError"), ("bool", "int")]

/-- Classes of errors that live in a module of their own. -/
def qualifiedErrors : List String :=
  ["JSONDecodeError", "UnsupportedOperation", "SubprocessError", "TimeoutExpired"]

/-- Other names of classes of errors. -/
def errorAliases : List (String × String) :=
  [("IOError", "OSError"), ("EnvironmentError", "OSError")]

def isErrorClass (name : String) : Bool :=
  (errorParents.lookup name).isSome && name != "bool"

/-- A class that every program knows and those it is a part of, up to `object`. -/
def classChain : Nat → String → List String
  | 0, name => [name]
  | n + 1, name =>
    if name = "object" then [name]
    else name :: classChain n ((errorParents.lookup name).getD "object")

def ancestors (name : String) : List String := classChain 8 name

end Conch.Eval
