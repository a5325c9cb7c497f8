import Conch.Line.Stage
import Conch.Screen.Completion
import Conch.Screen.Keys
import Conch.Session.Loop
import Conch.Session.Start

/-!
# Steps of a session

A session is asked to do one thing after the other. Each answer tells what came of it, what reached
the terminal meanwhile, and the status of the last command.
-/

namespace Conch.Session

open Eval
open Shell (Capture)

inductive Step where
  /-- Runs a line. -/
  | run (line : String)
  /-- Runs a command as a program does. -/
  | shell (command : String) (wanted : Value)
  /-- Runs a command for the user, or captures it. -/
  | command (text : String) (captured : Bool)
  | pipeline (stages : List Line.Stage) (captured : Bool)
  /-- Runs code for the user, or evaluates it. -/
  | code (text : String) (interactive : Bool)
  | builtin (name : String) (args : List String)
  /-- Reads the only stage of a pipeline and prepares its redirections. -/
  | stage (text : String)
  /-- Performs the expansions of a text. -/
  | expand (text : String)
  | prompt
  | environment
  | variable (name : String)
  | complete (text : String)
  | loop (inputs : List Input)
  | keys (text : String)

/-- What a step gives. -/
inductive Reply where
  | datum (value : Datum)
  | parts (parts : List Screen.Part)
  | completions (offered : List Screen.Completion)
  /-- The number of prompts, and the code that the loop was left with. -/
  | prompts (count : Nat) (code : Option Datum)
  | typed (inputs : List Screen.Typed)

/-- How a step ends. -/
inductive Result where
  | reply (value : Reply)
  /-- The shell was left. -/
  | left (code : Datum)
  /-- An error, by its class and what it says; one in the form of a program says nothing. -/
  | failed (kind : String) (message : Option String)
  /-- The bound on the length of a computation was reached. -/
  | exhausted

structure Report where
  result : Result
  out : String
  err : String
  status : Datum

def ofCaptured (c : Shell.Captured) : Datum := .list [.int c.code, .text c.out, .text c.err]

def textOrNull : Option String → Datum
  | some s => .text s
  | none => .null

/-- The last redirection of a stream, with its path as it is opened. -/
def redirectDatum (w : World) (rs : List Line.Redirect) : Datum :=
  match rs.getLast? with
  | none => .null
  | some r => .list [.text (w.expandHome r.path), .text r.mode.text]

/-- The command, the arguments and the redirections of a stage, once the earlier ones are opened. -/
def prepareStage (text : String) : World.Act Datum := do
  match Line.pipeline text with
  | [] => throw .noStage
  | s :: _ =>
    let args ← Shell.expandArgs (s.words.drop 1)
    Shell.primeStage s
    let w ← get
    return .list [textOrNull s.words.head?, .list (args.map .text), redirectDatum w s.out,
      redirectDatum w s.err]

/-- Runs a builtin; a name that is none does nothing. -/
def runBuiltin (name : String) (args : List String) : World.Act Datum := do
  match Shell.Builtin.ofName? name with
  | none => return .list [.bool false, .int 0]
  | some b =>
    let ran ← b.perform args .terminal .terminal
    return .list [.bool ran.leaves, .int ran.status]

/-- The code that an error leaves the shell with. -/
def exitCode? (e : Raised) : Run (Option Value) := do
  match e with
  | .exhausted => return none
  | .exception v =>
    if ← errorIs v "SystemExit" then
      match ← object? v with
      | some (.instance _ attrs args) =>
        match attrs.get? "code" with
        | some code => return some code
        | none => return some (match args with
          | [] => .none
          | [code] => code
          | many => .tuple many)
      | _ => return some .none
    else return none

def perform (m : Machine) : Step → Run Reply
  | .run line => do return .datum (.bool (← runLine line))
  | .shell command wanted => do
    let s ← get
    let a ← alloc (.frame (moduleFrame s.main))
    let v ← withFrame a do
      m.call (← lookupGlobal s.main "__shell") [.text command] [("capture", wanted)]
    return .datum (← Datum.ofValue m v)
  | .command text captured => do
    if captured then return .datum (ofCaptured (← act (Shell.capture text)))
    else
      let s ← act (Shell.run text)
      return .datum (.list [.bool s.leaves, .int s.code])
  | .pipeline stages captured => do
    if captured then return .datum (ofCaptured (← act (Shell.capturePipeline stages)))
    else return .datum (.int (← act (Shell.runPipeline stages)))
  | .code text interactive => do
    let main := (← get).main
    if interactive then return .datum (.bool (← settling (interpret m main text)))
    else return .datum (← Datum.ofValue m (← settling (evaluateSource m main text)))
  | .builtin name args => do return .datum (← act (runBuiltin name args))
  | .stage text => do return .datum (← act (prepareStage text))
  | .expand text => do
    let copy ← alloc (.dict (← entriesAt (← get).main))
    return .datum (.text (← settling (Library.expandText m copy text)))
  | .prompt => do return .parts (← showPrompt)
  | .environment => do return .datum (textOrNull (Screen.environmentName (← get).world))
  | .variable name => do return .datum (textOrNull (← get).world.env[name]?)
  | .complete text => do return .completions (Screen.completions (← get).world text)
  | .loop inputs => do
    match ← Session.loop 0 inputs with
    | (count, none) => return .prompts count none
    | (count, some e) =>
      match ← exitCode? e with
      | some code => return .prompts count (some (← Datum.ofValue m code))
      | none => throw e
  | .keys text => return .typed (Screen.typeText Screen.isCompleteText text.toList)

/-- How an error that a step ends with is told. -/
def resultOf (m : Machine) (e : Raised) : Run Result := do
  match e with
  | .exhausted => return .exhausted
  | .exception v =>
    match ← exitCode? e with
    | some code => return .left (← Datum.ofValue m code)
    | none =>
      if ← errorIs v "SyntaxError" then return .failed "SyntaxError" none
      else
        let cls ← className (← classOf v)
        return .failed cls (some (← display m v))

/-- Does a step; errors become results. -/
def attempt (m : Machine) (step : Step) : Run Result :=
  tryCatch (Result.reply <$> perform m step) (resultOf m)

/-- The status of the last command as it is told. -/
def tellStatus (m : Machine) : Run Datum := do
  match ← lastStatus (← get).main with
  | some v => Datum.ofValue m v
  | none => return .null

def written (bytes : List UInt8) : String := Text.decodeLossy bytes

/-- Does a step and reports on it. -/
def report (step : Step) (s : Eval.Session) : Report × Eval.Session :=
  let m := standardMachine
  let s := { s with world := { s.world with out := [], err := [] }, handling := [], depth := 0 }
  let (result, s) := attempt m step s
  let (status, s) := tellStatus m s
  (⟨match result with
      | .ok r => r
      | .error _ => .exhausted,
    written s.world.out, written s.world.err, match status with
      | .ok d => d
      | .error _ => .null⟩, s)

def Report.isLast (r : Report) : Bool :=
  match r.result with
  | .left _ => true
  | _ => false

/-- Does steps one after the other, up to one that leaves the shell. -/
def reports (s : Eval.Session) : List Step → List Report × Eval.Session
  | [] => ([], s)
  | step :: rest =>
    let (r, s) := report step s
    if r.isLast then ([r], s)
    else
      let (rs, s) := reports s rest
      (r :: rs, s)

end Conch.Session
