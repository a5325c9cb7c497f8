import Conch.Eval.Call
import Conch.Eval.Source
import Conch.Shell.Expand
import Conch.Shell.Invoke
import Conch.Text.Search

/-!
# Commands in programs

Two functions that programs use without writing them: one puts a value into a command, the other
runs a command after performing the expansions in it. Expansions see the variables of the code that
runs the command, but what they set is forgotten.
-/

namespace Conch.Eval.Library

open Eval
open Line (Sigil)
open Shell (Capture Reply)

/-- The text that a value is put into a command as: the items of a list with blanks between them. -/
def commandText (m : Machine) (v : Value) : Run String := do
  let items : Option (List Value) ← match v with
    | .tuple vs => pure (some vs)
    | v => match ← object? v with
      | some (.list vs) => pure (some vs)
      | _ => pure none
  match items with
  | some vs => do return " ".intercalate (← vs.mapM (display m))
  | none => display m v

/-- What an error in an expansion says: without the words that the evaluation of code puts in front.
-/
def innerMessage (message : List Char) : List Char :=
  if Text.occursIn "Error evaluating".toList message then
    (Text.cut ": ".toList message 1).getLast?.getD []
  else message

/-- The report on an error in an expansion. -/
def expansionMessage (sigil : Sigil) (content message : List Char) : List Char :=
  sigil.char :: '(' :: content ++ ")".toList ++ ": ".toList ++ innerMessage message

/-- Performs expansions, given how code is evaluated and how commands are run for their output. An
error that programs may handle is reported with the expansion that it was met in. -/
def performerOf (m : Machine) (evaluate : List Char → Run Value)
    (capture : List Char → Run Shell.Captured) : Shell.Performer Raised Session where
  value := fun code => do return (← commandText m (← evaluate code)).toList
  output := fun command => do return Text.trim (← capture command).out.toList
  report := fun sigil content r => do
    match r with
    | .exhausted => return r
    | .exception e =>
      if ← errorIs e "Exception" then
        let message ← display m e
        return .exception (← makeError "RuntimeError"
          [.text (String.ofList (expansionMessage sigil content message.toList))])
      else return r

/-- Performs expansions with a dictionary of variables. -/
def performer (m : Machine) (globals : Addr) : Shell.Performer Raised Session :=
  performerOf m (fun code => evaluateSource m globals (String.ofList code))
    fun command => act (Shell.capture (String.ofList command))

/-- Performs the expansions of a text. -/
def expandText (m : Machine) (globals : Addr) (text : String) : Run String := do
  return String.ofList (← (performer m globals).expand text.toList)

/-- The name that the status of the last command is kept under. -/
def statusName : String := "__last_returncode__"

def wantedOf (v : Value) : Capture :=
  match v with
  | .none => .nothing
  | .text "stdout" => .output
  | .text "full" => .outcome
  | _ => .unknown

/-- Turns what a command gives into a value. -/
def receive (globals : Addr) (r : Reply) : Run Value := do
  match r with
  | .nothing => return .none
  | .status code =>
    setGlobal globals statusName (.int code)
    return .none
  | .leave code remembered =>
    if remembered then setGlobal globals statusName (.int code)
    raise (← makeError "SystemExit" [.int code])
  | .text s => return .text s
  | .outcome c => makeResult (.int c.code) (.text c.out) (.text c.err)

/-- A command template must be a text. -/
def templateText (m : Machine) (v : Value) : Run String := do
  match v with
  | .text s => return s
  | v =>
    let _ ← lengthOf m v
    failType ("expected string or bytes-like object, got '" ++ (← typeName v) ++ "'")

/-- Runs a command as seen from the current frame. -/
def runCommand (m : Machine) (template : String) (wanted : Capture) : Run Value := do
  let frame ← currentFrame
  let scope ← alloc (.dict (← visibleVars frame))
  let command ← expandText m scope template
  receive frame.globals (← act (Shell.invoke wanted command))

def shellFunction (m : Machine) (args : List Value) (keywords : Vars) : Run Value := do
  let vars ← bindPlain "shell" ["cmd_template", "capture"] [("capture", .none)] args keywords
  let template ← templateText m ((vars.get? "cmd_template").getD .none)
  runCommand m template (wantedOf ((vars.get? "capture").getD .none))

def valueFunction (m : Machine) (args : List Value) (keywords : Vars) : Run Value := do
  let vars ← bindPlain "expand_at" ["value"] [] args keywords
  .text <$> commandText m ((vars.get? "value").getD .none)

end Conch.Eval.Library
