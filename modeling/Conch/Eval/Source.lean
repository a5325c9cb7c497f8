import Conch.Code.Check
import Conch.Code.Program
import Conch.Eval.Name
import Conch.Eval.Operator

/-!
# Program texts

A text is read, checked and run with a dictionary of variables, as an expression or as statements. A
text that is no program fails with a syntax error that knows where it is.
-/

namespace Conch.Eval

open Code

/-- The line of a text that a fault is on. -/
def faultyLine (text : String) (line : Nat) : String :=
  let lines := World.Path.cut '\n' [] (Scan.unifyLines text.toList)
  (lines[line - 1]?).getD ""

def errorClass (c : Cause) : String :=
  match c.family with
  | .general => "SyntaxError"
  | .indentation => "IndentationError"
  | .tabs => "TabError"

/-- The error that a fault of a text is raised as. -/
def makeSyntaxError (text : String) (f : Fault) : Run Value := do
  let msg : Value := .text f.cause.message
  let (line, column) : Value × Value :=
    if f.cause.showsLine then (.text (faultyLine text f.line), .int f.column) else (.none, .none)
  make (.instance (.type (errorClass f.cause))
    [("msg", msg), ("lineno", .int f.line), ("offset", column), ("text", line),
      ("filename", .text "<string>")]
    [msg, .tuple [.text "<string>", .int f.line, column, line]])

/-- What is said of a text that holds the NUL character. -/
def nulMessage : String := "source code string cannot contain null bytes"

def reject {α : Type} (text : String) (why : Rejection) : Run α := do
  match why with
  | .fault f => raise (← makeSyntaxError text f)
  | .nul =>
    -- no place in the text is named
    raise (← make (.instance (.type "SyntaxError") [("msg", .text nulMessage)] [.text nulMessage]))

/-- Reads a text and checks the rules that its form does not show. -/
def compileSource (mode : Mode) (text : String) : Run Program := do
  match parse mode text with
  | .error why => reject text why
  | .ok program => match program.fault? with
    | some cause => reject text (.fault ⟨cause, 1, 1⟩)
    | none => return program

/-- Runs statements to their end. -/
def execBlock (m : Machine) (statements : List Stmt) : Run Unit := do
  let _ ← m.exec statements

/-- A text without the blanks and tabs in front of it. -/
def unindented (text : String) : String :=
  String.ofList (text.toList.dropWhile fun c => c == ' ' || c == '\t')

/-- Evaluates a text as an expression; blanks and tabs in front of it do not count. -/
def evalSource (m : Machine) (frame : Frame) (text : String) : Run Value := do
  match ← compileSource .expression (unindented text) with
  | .expression e =>
    let a ← alloc (.frame frame)
    withFrame a (m.eval e)
  | _ => return .none

/-- Runs a text as statements. -/
def execSource (m : Machine) (frame : Frame) (text : String) : Run Unit := do
  match ← compileSource .module text with
  | .module body =>
    let a ← alloc (.frame frame)
    withFrame a (execBlock m body)
  | _ => return

/-- Whether an error belongs to a class that every program knows. -/
def errorIs (e : Value) (cls : String) : Run Bool := isInstance e (.type cls)

/-- Handles errors of a class; others pass. -/
def catching {α : Type} (cls : String) (x : Run α) (handler : Value → Run α) : Run α :=
  tryCatch x fun r => do
    match r with
    | .exception e => if ← errorIs e cls then handler e else throw r
    | .exhausted => throw r

/-- Runs a computation while an error is being handled. -/
def whileHandling {α : Type} (e : Value) (x : Run α) : Run α := do
  let before := (← get).handling
  modify fun s => { s with handling := e :: s.handling }
  finallyDo x (modify fun s => { s with handling := before })

/-- Runs a text with a dictionary of variables: as an expression whose value is put to some use, and
as statements if that meets a syntax error. -/
def runSource (m : Machine) (globals : Addr) (text : String) (use : Value → Run Value) :
    Run Value :=
  catching "SyntaxError" (do use (← evalSource m (moduleFrame globals) text)) fun e =>
    whileHandling e do
      execSource m (moduleFrame globals) text
      return .none

/-- What a syntax error says. -/
def syntaxMessage (m : Machine) (e : Value) : Run String := do
  formatted m (← getAttr m e "msg") ""

/-- Runs something for the text that holds it; all errors are reported as wrong values. -/
def blaming (m : Machine) (text : String) (x : Run Value) : Run Value :=
  tryCatch x fun r => do
    match r with
    | .exhausted => throw r
    | .exception e =>
      if ← errorIs e "KeyboardInterrupt" then failValue "Interrupted"
      else if ← errorIs e "SyntaxError" then failValue ("SyntaxError: " ++ (← syntaxMessage m e))
      else if ← errorIs e "Exception" then
        failValue ("Error evaluating '" ++ text ++ "': " ++ (← formatted m e ""))
      else throw r

/-- Evaluates a text for another one that holds it. -/
def evaluateSource (m : Machine) (globals : Addr) (text : String) : Run Value :=
  blaming m text (runSource m globals text pure)

/-- The class of an error as reports name it. -/
def errorName (e : Value) : Run String := do
  match ← object? e with
  | some (.instance cls _ _) => match ← object? cls with
    | some (.cls _ fullName _ _) => return fullName
    | _ => className cls
  | _ => typeName e

/-- The report on an error: its class and what it says. -/
def errorReport (m : Machine) (e : Value) : Run String := do
  let name ← errorName e
  let message ← tryCatch (display m e) fun _ => return "<exception str() failed>"
  return if message.isEmpty then name else name ++ ": " ++ message

/-- Tells of a syntax error: the line with a mark below the place, if both are known, and what is
wrong. What the error holds need not be a text and a number; then telling of it fails as well. -/
def reportSyntax (m : Machine) (e : Value) : Run Unit := do
  let known ←
    if ← truth m (← getAttr m e "text") then truth m (← getAttr m e "offset") else pure false
  if known then
    let line ← m.call (← getAttr m (← getAttr m e "text") "rstrip") [] []
    printErr ("  " ++ (← formatted m line "") ++ "\n")
    let indent ← binary m .mul (.text " ") (← binary m .sub (← getAttr m e "offset") (.int 1))
    printErr ("  " ++ (← formatted m indent "") ++ "^\n")
  printErr ("SyntaxError: " ++ (← syntaxMessage m e) ++ "\n")

/-- Prints a value unless it is none. -/
def showResult (m : Machine) (v : Value) : Run Value := do
  match v with
  | .none => return .none
  | v =>
    printOut ((← display m v) ++ "\n")
    return .none

/-- Runs something for the user and reports its error. Tells whether it went well. -/
def reporting (m : Machine) (x : Run Value) : Run Bool :=
  tryCatch (do
    let _ ← x
    return true) fun r => do
    match r with
    | .exhausted => throw r
    | .exception e =>
      if ← errorIs e "KeyboardInterrupt" then
        printErr "\nKeyboardInterrupt\n"
        return false
      else if ← errorIs e "SyntaxError" then
        reportSyntax m e
        return false
      else if ← errorIs e "Exception" then
        printErr ((← errorReport m e) ++ "\n")
        return false
      else throw r

/-- Runs a text for the user and shows its value. -/
def interpret (m : Machine) (globals : Addr) (text : String) : Run Bool :=
  reporting m (runSource m globals text (showResult m))

end Conch.Eval
