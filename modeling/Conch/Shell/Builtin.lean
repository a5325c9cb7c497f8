import Conch.Decimal.Integer
import Conch.World.Basic

/-!
# Builtin commands

Commands that the shell runs itself. A builtin acts on the world and says what it writes to its
output and to its error stream; what it shows on the terminal no matter where its streams go is kept
apart.
-/

namespace Conch.Shell

open World

inductive Builtin where
  | exit
  | echo
  | type
  | pwd
  | cd
  | history
  | about
  | activate
  | deactivate
  | true
  | false
  deriving DecidableEq, Repr

namespace Builtin

def all : List Builtin :=
  [exit, echo, type, pwd, cd, history, about, activate, deactivate, true, false]

def name : Builtin → String
  | exit => "exit"
  | echo => "echo"
  | type => "type"
  | pwd => "pwd"
  | cd => "cd"
  | history => "history"
  | about => "about"
  | activate => "activate"
  | deactivate => "deactivate"
  | true => "true"
  | false => "false"

def ofName? (s : String) : Option Builtin := all.find? fun b => b.name == s

def description : Builtin → String
  | exit => "Exit the shell"
  | echo => "Prints the provided arguments"
  | type => "Displays the type of the provided argument"
  | pwd => "Prints the current working directory"
  | cd => "Changes the current directory"
  | history => "Displays the command history"
  | about => "Display help information for builtins"
  | activate => "Activate a Python virtual environment"
  | deactivate => "Deactivate the current virtual environment"
  | true => "Returns success (exit code 0)"
  | false => "Returns failure (exit code 1)"

def usage : Builtin → String
  | exit => "exit"
  | echo => "echo [args...]"
  | type => "type [arg]"
  | pwd => "pwd"
  | cd => "cd [directory]"
  | history => "history"
  | about => "about [builtin_name]"
  | activate => "activate [venv_path]"
  | deactivate => "deactivate"
  | true => "true"
  | false => "false"

/-- All builtins by name. -/
def sorted : List Builtin :=
  [about, activate, cd, deactivate, echo, exit, false, history, pwd, true, type]

end Builtin

/-- What came of a builtin. -/
structure Ran where
  out : String
  err : String
  /-- Shown on the terminal, wherever the output goes. -/
  shown : String
  leaves : Bool
  status : Int
  deriving DecidableEq, Repr

namespace Ran

def quiet (status : Int) : Ran := ⟨"", "", "", Bool.false, status⟩

def printing (out : String) (status : Int) : Ran := ⟨out, "", "", Bool.false, status⟩

def complaining (err : String) (status : Int) : Ran := ⟨"", err, "", Bool.false, status⟩

def showing (shown : String) (status : Int) : Ran := ⟨"", "", shown, Bool.false, status⟩

/-- A builtin that broke off. -/
def broken (message : String) : Ran := complaining ("Builtin error: " ++ message ++ "\n") 1

end Ran

abbrev Step := StateM World

def padLeft (width : Nat) (s : String) : String :=
  String.ofList (List.replicate (width - s.length) ' ') ++ s

def padRight (width : Nat) (s : String) : String :=
  s ++ String.ofList (List.replicate (width - s.length) ' ')

def typeOf (arg : String) : Step Ran := do
  let w ← get
  if (Builtin.ofName? arg).isSome then return .printing (arg ++ " is a shell builtin\n") 0
  else match w.which arg with
    | some path => return .printing (arg ++ " is " ++ path ++ "\n") 0
    | none => return .printing (arg ++ ": not found\n") 1

def workingDirectory : Step Ran := do
  let w ← get
  if w.files.isDirectory w.cwd then return .printing (w.cwd.text ++ "\n") 0
  else return .broken (Fault.osText .noEntry none)

def changeDirectory (arg : String) : Step Ran := do
  let w ← get
  let arg := w.expandHome arg
  let missing := Ran.complaining ("cd: " ++ arg ++ ": No such file or directory\n") 1
  if arg.toList.contains '\x00' then return missing
  else match w.files.node w.cwd arg with
    | .ok (p, .directory) =>
      set { w with cwd := p }
      return .quiet 0
    | _ => return missing

def deactivate : Step Ran := do
  let w ← get
  if w.env.contains "VIRTUAL_ENV" then
    let env := match w.savedPath with
      | some p => w.env.insert "PATH" p
      | none => w.env
    set { w with env := env.erase "VIRTUAL_ENV", savedPath := none }
    return .quiet 0
  else return .showing "deactivate: no virtual environment is active\n" 1

/-- The absolute form of a path; a relative one needs a working directory that exists. -/
def absolute? (w : World) (path : String) : Option String :=
  if Path.isAbsolute path || w.files.isDirectory w.cwd then some (Path.absolute w.cwd path)
  else none

def activate (args : List String) : Step Ran := do
  let w ← get
  let path := match args with
    | [] => ".venv"
    | a :: _ => w.expandHome a
  match absolute? w path with
  | none => return .broken (Fault.osText .noEntry none)
  | some venv =>
    let bin := Path.join venv "bin"
    if !w.files.isDirectoryAt w.cwd bin then
      return .showing ("activate: '" ++ venv ++ "' is not a valid virtual environment\n") 1
    if w.env.contains "VIRTUAL_ENV" then
      let _ ← deactivate
    let w ← get
    match w.env["PATH"]? with
    | none => return .broken (Text.quoted "PATH")
    | some path =>
      let env := (w.env.insert "PATH" (bin ++ ":" ++ path)).insert "VIRTUAL_ENV" venv
      set { w with env := env.erase "PYTHONHOME", savedPath := some path }
      return .quiet 0

def about (args : List String) : Ran :=
  match args with
  | [] =>
    let rows := Builtin.sorted.map fun b =>
      "  " ++ padRight 12 b.name ++ " - " ++ b.description ++ "\n"
    .printing ("Available builtins:\n" ++ String.join rows ++
      "\nUse 'about <builtin>' for more information on a specific builtin.\n") 0
  | arg :: _ =>
    match Builtin.ofName? arg with
    | some b => .printing (arg ++ ": " ++ b.description ++ "\nUsage: " ++ b.usage ++ "\n") 0
    | none => .printing ("about: no help topics match '" ++ arg ++ "'.\n") 1

/-- Cuts a text at its line feeds; one at the end closes the last line. -/
def historyLines (line : List Char) : List Char → List (List Char)
  | [] => if line.isEmpty then [] else [line.reverse]
  | c :: rest =>
    if c = '\n' then line.reverse :: historyLines [] rest else historyLines (c :: line) rest

/-- The commands in a history file: lines that start with `+` go on with a command, and a line that
starts with `#` ends one. Each command is the list of its lines. -/
def historyCommands (current : List (List Char)) : List (List Char) → List (List (List Char))
  | [] => if current.isEmpty then [] else [current.reverse]
  | line :: rest =>
    match line with
    | '#' :: _ =>
      if current.isEmpty then historyCommands [] rest
      else current.reverse :: historyCommands [] rest
    | '+' :: text => historyCommands (text :: current) rest
    | _ => historyCommands current rest

/-- The last `limit` entries; zero stands for all, and a negative limit leaves out the first ones.
-/
def lastEntries {α : Type} (limit : Int) (entries : List α) : List α :=
  if limit > 0 then entries.drop (entries.length - limit.toNat) else entries.drop (-limit).toNat

def historyTable (commands : List (List (List Char))) : String :=
  String.join (commands.zipIdx.map fun (c, k) =>
    padLeft 5 (toString (k + 1)) ++ "  " ++ String.ofList (c.headD []) ++ "\n")

def history (args : List String) : Step Ran := do
  let w ← get
  let data : Except Fault (List UInt8) := match w.files.readAt w.cwd w.historyFile with
    | .ok d => .ok d
    | .error .noEntry => .ok []
    | .error e => .error (.os e (some w.historyFile))
  match data with
  | .error f => return .broken f.message
  | .ok bytes =>
    match Text.decode bytes with
    | .error f => return .broken f.message
    | .ok text =>
      let commands := historyCommands [] (historyLines [] (Text.unifyNewlines text.toList))
      let limited := match args with
        | [] => commands
        | a :: _ => match Decimal.readInteger? a with
          | some n => lastEntries n commands
          | none => commands
      return .printing (historyTable limited) 0

/-- Runs a builtin with its arguments. -/
def Builtin.run (b : Builtin) (args : List String) : Step Ran :=
  match b with
  | .exit => return ⟨"", "", "", Bool.true, 0⟩
  | .echo => return .printing (" ".intercalate args ++ "\n") 0
  | .type => match args with
    | [] => return .quiet 0
    | a :: _ => typeOf a
  | .pwd => workingDirectory
  | .cd => match args with
    | [] => return .quiet 0
    | a :: _ => changeDirectory a
  | .history => Shell.history args
  | .about => return Shell.about args
  | .activate => Shell.activate args
  | .deactivate => Shell.deactivate
  | .true => return .quiet 0
  | .false => return .quiet 1

end Conch.Shell
