import Conch.Shell.Builtin
import Conch.Shell.Redirect

/-!
# Running commands

A command is a pipeline. One that runs for the user writes to the terminal and gives a status; one
that is captured gives its output as text as well. A single command is a builtin or a program of its
own. The stages of a longer pipeline stand one after the other here: each reads all that the one
before it wrote, once that is done. Effects that stages of a running pipeline have on one another
while they run, such as a reader that ends before its writer, are left out.
-/

namespace Conch.Shell

open World Line
open Text (Bytes)

/-- Whether the shell is to be left, and a status. -/
structure Status where
  leaves : Bool
  code : Int
  deriving DecidableEq, Repr

structure Captured where
  code : Int
  out : String
  err : String
  deriving DecidableEq, Repr

/-- Arguments with their home directories filled in. -/
def expandArgs (args : List String) : Act (List String) := do
  let w ← get
  return args.map w.expandHome

def complain (s : String) : Act Unit := modify fun w => w.printErr (Text.encode s)

/-- Runs a builtin and sends what it writes to the given places. -/
def Builtin.perform (b : Builtin) (args : List String) (out err : Sink) : Act Ran := do
  let (ran, w) := b.run args (← get)
  let w := w.printOut (Text.encode ran.shown)
  let w := w.emitOut (Text.encode ran.out) out
  set (w.emitErr (Text.encode ran.err) err)
  return ran

/-- Fails when a stream that is closed still had to be written to a full device. -/
def checkClosed (text : String) (sink : Sink) : Act Unit := do
  if sink.refuses (Text.encode text) then throw (.os .noSpace none)

/-- A builtin with its redirections. -/
def runBuiltinStage (b : Builtin) (s : Stage) : Act Status := do
  let args ← expandArgs (s.words.drop 1)
  primeStage s
  let out ← activeSink s.out
  let err ← activeSink s.err
  let ran ← b.perform args out err
  checkClosed ran.out out
  checkClosed ran.err err
  return ⟨ran.leaves, ran.status⟩

/-- Opens both streams of a program; a failure to open is reported and not raised. -/
def openBoth (s : Stage) : Act (Except Fault (Sink × Sink)) :=
  tryCatch (do
    let out ← activeSink s.out
    let err ← activeSink s.err
    return .ok (out, err))
    fun f => match f with
      | .os _ _ => return .error f
      | f => throw f

/-- The name that a stage runs; a stage without words has none. -/
def stageCommand (s : Stage) : Act String :=
  match s.words with
  | [] => throw .noCommand
  | name :: _ => return name

/-- A program with its redirections. -/
def runProgramStage (s : Stage) : Act Int := do
  let args ← expandArgs (s.words.drop 1)
  primeStage s
  match ← openBoth s with
  | .error f =>
    complain ("Redirect error: " ++ f.message ++ "\n")
    return 1
  | .ok (out, err) =>
    let name ← stageCommand s
    let done ← tryCatch (Except.ok <$> spawn name args []) fun f => match f with
      | .os .noEntry _ => do
        complain (name ++ ": command not found\n")
        return .error 127
      | .os .denied _ => do
        complain (name ++ ": Permission denied\n")
        return .error 126
      | .os e path => do
        complain (name ++ ": " ++ Fault.osText e path ++ "\n")
        return .error 126
      | f => throw f
    match done with
    | .error code => return code
    | .ok r =>
      modify fun w => (w.emitOut r.out out).emitErr r.err err
      return r.ending.status

/-- Runs the only stage of a command for the user. -/
def runSingle (s : Stage) : Act Status := do
  match s.words.head?.bind Builtin.ofName? with
  | some b => runBuiltinStage b s
  | none => return ⟨false, ← runProgramStage s⟩

/-- What is known while the stages of a pipeline are started. -/
structure Progress where
  /-- What the next stage reads. -/
  input : Bytes
  /-- The status of the last program that was started. -/
  program : Option Int
  /-- The status of the last builtin that was started. -/
  builtin : Option Int
  interrupted : Bool

/-- Where the output of a stage goes: on to the next stage, or to the place of the last one. -/
def pass (isLast : Bool) (out : Bytes) (sink : Sink) : Act Bytes := do
  if isLast then
    modify fun w => w.emitOut out sink
    return []
  else return out

def runPipelineStage (isLast : Bool) (p : Progress) (s : Stage) : Act Progress := do
  match s.words with
  | [] => return { p with input := [] }
  | name :: rest =>
    let args ← expandArgs rest
    primeStage s
    let out ← if isLast then activeSink s.out else pure .terminal
    let err ← if isLast then activeSink s.err else pure .terminal
    match Builtin.ofName? name with
    | some b =>
      let (ran, w) := b.run args (← get)
      set ((w.printOut (Text.encode ran.shown)).emitErr (Text.encode ran.err) err)
      let input ← pass isLast (Text.encode ran.out) out
      return { p with input := input, builtin := some ran.status }
    | none =>
      let done ← tryCatch (some <$> spawn name args p.input) fun f => match f with
        | .os .noEntry _ => do
          complain (name ++ ": command not found\n")
          return none
        | f => throw f
      match done with
      | none => return { p with input := [] }
      | some r =>
        modify fun w => w.emitErr r.err err
        let input ← pass isLast r.out out
        return { p with
          input := input, program := some r.ending.status,
          interrupted := p.interrupted || r.ending == .interrupt }

def runPipelineFrom (p : Progress) : List Stage → Act Progress
  | [] => return p
  | [s] => runPipelineStage true p s
  | s :: rest => do
    let p ← runPipelineStage false p s
    runPipelineFrom p rest

/-- The first stage that may not stand in a pipeline. -/
def misplaced? (stages : List Stage) : Option String :=
  stages.findSome? fun s => match s.words with
    | "cd" :: _ => some "cd"
    | "exit" :: _ => some "exit"
    | _ => none

/-- Runs a pipeline for the user: the status is that of the last program that was started, or else
that of the last builtin. -/
def runPipeline (stages : List Stage) : Act Int := do
  if stages.isEmpty then return 0
  match if stages.length > 1 then misplaced? stages else none with
  | some name =>
    complain (name ++ ": cannot be used in pipeline\n")
    return 1
  | none =>
    let p ← runPipelineFrom ⟨[], none, none, false⟩ stages
    if p.interrupted then throw .interrupted
    return (p.program.or p.builtin).getD 0

/-- Runs a command for the user. -/
def run (command : String) : Act Status := do
  match pipeline command with
  | [] => throw .noStage
  | [s] => runSingle s
  | stages => return ⟨false, ← runPipeline stages⟩

/-- Captured bytes as text. -/
def capturedText (bytes : Bytes) : Act String :=
  match Text.decode bytes with
  | .ok s => return String.ofList (Text.unifyNewlines s.toList)
  | .error f => throw (.undecodable f)

/-- Runs a pipeline in the system's shell and captures what it writes. Its words are written down as
a line, in quotes where that is needed. -/
def capturePipeline (stages : List Stage) : Act Captured := do
  let line := render (stages.map (·.words))
  if line.isEmpty then return ⟨0, "", ""⟩
  let r ← runShell line
  if r.ending == .interrupt then throw .interrupted
  return ⟨r.ending.status, ← capturedText r.out, ← capturedText r.err⟩

/-- What a program that ran for its output gives. One that is not done in time is stopped, and an
interrupted one gives nothing. -/
def capturedOutcome (words : List String) (r : Finished) : Act Captured := do
  match r.stopped timeLimit with
  | some files =>
    modify fun w => { w with files := files }
    throw (.timedOut words)
  | none =>
    if r.ending == .interrupt then return ⟨130, "", ""⟩
    return ⟨r.ending.status, ← capturedText r.out, ← capturedText r.err⟩

/-- Runs the only stage of a command and captures what it writes; `command` is the whole text. -/
def captureSingle (command : String) (s : Stage) : Act Captured := do
  match s.words.head?.bind Builtin.ofName? with
  | some b =>
    if s.out.isEmpty && s.err.isEmpty then
      let args ← expandArgs (s.words.drop 1)
      let (ran, w) := b.run args (← get)
      set (w.printOut (Text.encode ran.shown))
      return ⟨ran.status, ran.out, ran.err⟩
    else
      let status ← runBuiltinStage b s
      return ⟨status.code, "", ""⟩
  | none =>
    let args ← expandArgs (s.words.drop 1)
    primeStage s
    let name ← stageCommand s
    let done ← tryCatch (some <$> spawn name args []) fun f => match f with
      | .os .noEntry _ => return none
      | f => throw f
    match done with
    | none => return ⟨127, "", command ++ ": command not found\n"⟩
    | some r => capturedOutcome (name :: args) r

/-- Runs a command and captures what it writes. -/
def capture (command : String) : Act Captured :=
  match pipeline command with
  | [s] => captureSingle command s
  | stages => capturePipeline stages

end Conch.Shell
