import Conch.Code.Names
import Conch.Code.Printer
import Conch.Code.Program
import Conch.Line.Expansion
import Conch.Text.Blank

/-!
# From lines to code

A line is code or a command. It is code if it is a program once its expansions are replaced by
names, unless it is a single expression with a name that nobody has defined; then, and where it is
no program and does not look like one, it is a command. Code is printed again with a call in the
place of each expansion, and a command becomes a call with the whole line as its argument.
-/

namespace Conch.Line

open Code

/-- Names that every program knows. -/
def builtinNames : List String :=
  ["ArithmeticError", "AssertionError", "AttributeError", "BaseException", "BaseExceptionGroup",
    "BlockingIOError", "BrokenPipeError", "BufferError", "BytesWarning", "ChildProcessError",
    "ConnectionAbortedError", "ConnectionError", "ConnectionRefusedError", "ConnectionResetError",
    "DeprecationWarning", "EOFError", "Ellipsis", "EncodingWarning", "EnvironmentError",
    "Exception", "ExceptionGroup", "False", "FileExistsError", "FileNotFoundError",
    "FloatingPointError", "FutureWarning", "GeneratorExit", "IOError", "ImportError",
    "ImportWarning", "IndentationError", "IndexError", "InterruptedError", "IsADirectoryError",
    "KeyError", "KeyboardInterrupt", "LookupError", "MemoryError", "ModuleNotFoundError",
    "NameError", "None", "NotADirectoryError", "NotImplemented", "NotImplementedError", "OSError",
    "OverflowError", "PendingDeprecationWarning", "PermissionError", "ProcessLookupError",
    "RecursionError", "ReferenceError", "ResourceWarning", "RuntimeError", "RuntimeWarning",
    "StopAsyncIteration", "StopIteration", "SyntaxError", "SyntaxWarning", "SystemError",
    "SystemExit", "TabError", "TimeoutError", "True", "TypeError", "UnboundLocalError",
    "UnicodeDecodeError", "UnicodeEncodeError", "UnicodeError", "UnicodeTranslateError",
    "UnicodeWarning", "UserWarning", "ValueError", "Warning", "ZeroDivisionError", "abs", "aiter",
    "all", "anext", "any", "ascii", "bin", "bool", "breakpoint", "bytearray", "bytes", "callable",
    "chr", "classmethod", "compile", "complex", "copyright", "credits", "delattr", "dict", "dir",
    "divmod", "enumerate", "eval", "exec", "exit", "filter", "float", "format", "frozenset",
    "getattr", "globals", "hasattr", "hash", "help", "hex", "id", "input", "int", "isinstance",
    "issubclass", "iter", "len", "license", "list", "locals", "map", "max", "memoryview", "min",
    "next", "object", "oct", "open", "ord", "pow", "print", "property", "quit", "range", "repr",
    "reversed", "round", "set", "setattr", "slice", "sorted", "staticmethod", "str", "sum",
    "super", "tuple", "type", "vars", "zip"]

def startsWithTwoUnderscores (name : String) : Bool := ['_', '_'].isPrefixOf name.toList

/-- Whether a name has a meaning: it is special, defined, or known to every program. -/
def isKnown (defined : String → Bool) (name : String) : Bool :=
  startsWithTwoUnderscores name || defined name || builtinNames.contains name

/-- Whether an expression that stands alone is rather a command: some name in it has no meaning.
Comprehensions are never commands. -/
def isCommandExpr (defined : String → Bool) : Expr → Bool
  | .listComp .. | .setComp .. | .dictComp .. | .generator .. => false
  | e => e.names.any fun name => !isKnown defined name

def isCommandBody (defined : String → Bool) : List Stmt → Bool
  | [.expr e] => isCommandExpr defined e
  | _ => false

/-- Whether a text that is no program was meant to be one: its first word is a keyword, it assigns,
or its brackets do not balance. -/
def looksLikeCode (text : List Char) : Bool :=
  match Text.words text with
  | [] => false
  | first :: _ =>
    let opens := text.countP fun c => c == '(' || c == '[' || c == '\x7b'
    let closes := text.countP fun c => c == ')' || c == ']' || c == '\x7d'
    isKeyword (String.ofList first) || (text.contains '=' && text.head? != some '=') ||
      opens != closes

/-- What an expansion is given: an expression to evaluate if its content is one, else its text. -/
def contentExpr (sigil : Sigil) (content : String) : Expr :=
  match sigil with
  | .value =>
    match parse .expression content with
    | .ok (.expression e) => e
    | _ => .constant (.text content false)
  | _ => .constant (.text content false)

/-- The calls that a program makes to the shell around it. -/
def valueCall : String := "__expand_at"

def shellCall : String := "__shell"

def captureCall (content : Expr) (capture : String) : Expr :=
  .call (.name shellCall) [content] [.named "capture" (.constant (.text capture false))]

/-- The call for an expansion with its content. -/
def expansionCall (sigil : Sigil) (content : Expr) : Expr :=
  match sigil with
  | .value => .call (.name valueCall) [content] []
  | .output => captureCall content "stdout"
  | .outcome => captureCall content "full"

/-- A command as code. -/
def commandCall (line : String) : String := shellCall ++ "(" ++ Text.quoted line ++ ")"

inductive LoweringFault where
  | rejected (why : Rejection)
  | unprintable (why : Printer.PrintFault)
  /-- A lone expression is no list of statements. -/
  | noStatements (kind : String)

/-- What each placeholder stands for. -/
def replacement (mapping : List (String × Expansion)) (id : String) : Option Expr :=
  (mapping.lookup id).map fun e =>
    expansionCall e.sigil (contentExpr e.sigil (String.ofList e.content))

/-- A program with calls in the place of its placeholders, printed; or the line as a command. -/
def lowerProgram (defined : String → Bool) (line : String) (mapping : List (String × Expansion))
    (program : Program) : Except LoweringFault String :=
  let print (p : Program) : Except LoweringFault String :=
    match Printer.program (p.replace (replacement mapping)) with
    | .ok text => .ok text
    | .error why => .error (.unprintable why)
  match program with
  | .expression e => .error (.noStatements e.kindName)
  | .module body | .interactive body =>
    if isCommandBody defined body then .ok (commandCall line) else print program

/-- The code that a line stands for. -/
def lower (mode : Mode) (defined : String → Bool) (text : String) : Except LoweringFault String :=
  let line := Text.strip text
  let s := spliced line
  match parse mode s.text with
  | .ok program => lowerProgram defined line s.mapping program
  | .error why =>
    if looksLikeCode line.toList then .error (.rejected why) else .ok (commandCall line)

end Conch.Line
