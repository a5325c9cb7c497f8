/-!
# Words of code

The words that are coloured in code by what they say.
-/

namespace Conch.Screen

def keywordWords : List String :=
  ["assert", "async", "await", "break", "continue", "del", "elif", "else", "except", "finally",
    "for", "global", "if", "lambda", "pass", "raise", "nonlocal", "return", "try", "while",
    "yield", "yield from", "as", "with"]

/-- Keywords that occur within expressions. -/
def expressionWords : List String :=
  ["async for", "await", "else", "for", "if", "lambda", "yield", "yield from"]

def constantWords : List String := ["True", "False", "None"]

def operatorWords : List String := ["in", "is", "and", "or", "not"]

def builtinWords : List String :=
  ["__import__", "abs", "aiter", "all", "any", "bin", "bool", "bytearray", "breakpoint", "bytes",
    "callable", "chr", "classmethod", "compile", "complex", "delattr", "dict", "dir", "divmod",
    "enumerate", "eval", "filter", "float", "format", "frozenset", "getattr", "globals", "hasattr",
    "hash", "hex", "id", "input", "int", "isinstance", "issubclass", "iter", "len", "list",
    "locals", "map", "max", "memoryview", "min", "next", "object", "oct", "open", "ord", "pow",
    "print", "property", "range", "repr", "reversed", "round", "set", "setattr", "slice", "sorted",
    "staticmethod", "str", "sum", "super", "tuple", "type", "vars", "zip"]

def pseudoWords : List String := ["self", "Ellipsis", "NotImplemented", "cls"]

def exceptionWords : List String :=
  ["ArithmeticError", "AssertionError", "AttributeError", "BaseException", "BufferError",
    "BytesWarning", "DeprecationWarning", "EOFError", "EnvironmentError", "Exception",
    "FloatingPointError", "FutureWarning", "GeneratorExit", "IOError", "ImportError",
    "ImportWarning", "IndentationError", "IndexError", "KeyError", "KeyboardInterrupt",
    "LookupError", "MemoryError", "NameError", "NotImplementedError", "OSError", "OverflowError",
    "PendingDeprecationWarning", "ReferenceError", "ResourceWarning", "RuntimeError",
    "RuntimeWarning", "StopIteration", "SyntaxError", "SyntaxWarning", "SystemError", "SystemExit",
    "TabError", "TypeError", "UnboundLocalError", "UnicodeDecodeError", "UnicodeEncodeError",
    "UnicodeError", "UnicodeTranslateError", "UnicodeWarning", "UserWarning", "ValueError",
    "VMSError", "Warning", "WindowsError", "ZeroDivisionError", "BlockingIOError",
    "ChildProcessError", "ConnectionError", "BrokenPipeError", "ConnectionAbortedError",
    "ConnectionRefusedError", "ConnectionResetError", "FileExistsError", "FileNotFoundError",
    "InterruptedError", "IsADirectoryError", "NotADirectoryError", "PermissionError",
    "ProcessLookupError", "TimeoutError", "StopAsyncIteration", "ModuleNotFoundError",
    "RecursionError", "EncodingWarning"]

/-- Methods that the language itself calls, without the underscores around them. -/
def magicFunctionStems : List String :=
  ["abs", "add", "aenter", "aexit", "aiter", "and", "anext", "await", "bool", "bytes", "call",
    "complex", "contains", "del", "delattr", "delete", "delitem", "dir", "divmod", "enter", "eq",
    "exit", "float", "floordiv", "format", "ge", "get", "getattr", "getattribute", "getitem", "gt",
    "hash", "iadd", "iand", "ifloordiv", "ilshift", "imatmul", "imod", "imul", "index", "init",
    "instancecheck", "int", "invert", "ior", "ipow", "irshift", "isub", "iter", "itruediv", "ixor",
    "le", "len", "length_hint", "lshift", "lt", "matmul", "missing", "mod", "mul", "ne", "neg",
    "new", "next", "or", "pos", "pow", "prepare", "radd", "rand", "rdivmod", "repr", "reversed",
    "rfloordiv", "rlshift", "rmatmul", "rmod", "rmul", "ror", "round", "rpow", "rrshift", "rshift",
    "rsub", "rtruediv", "rxor", "set", "setattr", "setitem", "str", "sub", "subclasscheck",
    "truediv", "xor"]

def magicVariableStems : List String :=
  ["annotations", "bases", "class", "closure", "code", "defaults", "dict", "doc", "file", "func",
    "globals", "kwdefaults", "module", "mro", "name", "objclass", "qualname", "self", "slots",
    "weakref"]

def magicName (stem : String) : String := "__" ++ stem ++ "__"

/-- Words that cannot follow `match` or `case` where these are keywords. -/
def statementWords : List String :=
  ["and", "as", "assert", "async", "await", "break", "class", "continue", "def", "del", "elif",
    "else", "except", "finally", "for", "from", "global", "if", "import", "in", "is", "lambda",
    "nonlocal", "not", "or", "pass", "raise", "return", "try", "while", "with", "yield"]

end Conch.Screen
