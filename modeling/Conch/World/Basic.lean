import Conch.Text.Quoted
import Conch.World.Program

/-!
# The world of the shell

What commands act on: the file tree, the working directory, the environment, and a terminal that
remembers what was written to it. An action may end in a fault; what it did up to then stays done.
-/

namespace Conch.World

/-- Whom and what the prompt names. -/
structure Identity where
  user : String
  host : String
  home : String
  deriving DecidableEq, Repr

end Conch.World

namespace Conch

open World in
/-- All that commands act on. -/
structure World where
  files : Files
  cwd : Path
  env : Env
  /-- The search path from before a virtual environment was activated. -/
  savedPath : Option String
  historyFile : String
  host : String
  /-- The virtual environment that the shell itself is installed in. -/
  installedIn : Option String
  /-- Found for the first prompt and kept for those after it. -/
  identity : Option Identity
  /-- What each command does. -/
  programs : String → Program
  /-- The system's own shell, which is handed a line behind the word `-c`. -/
  shell : Program
  /-- The directories of users that the system knows, by name; the empty name is for one's own. -/
  homes : String → Option String
  /-- What reached the terminal as output and as error messages. -/
  out : Text.Bytes
  err : Text.Bytes

end Conch

namespace Conch.World

open Text (Bytes)

/-- The seconds that a captured program may take. -/
def timeLimit : Nat := 300

/-- What stops a command short of a status. -/
inductive Fault where
  | os (error : Errno) (path : Option String)
  /-- A process without a command name. -/
  | noCommand
  /-- A line without a single stage. -/
  | noStage
  | undecodable (fault : Text.Utf8Fault)
  | embeddedNul
  | interrupted
  /-- A captured program, with its words, did not end in time. -/
  | timedOut (words : List String)
  deriving DecidableEq, Repr

namespace Fault

/-- The class of error that a fault is reported as. -/
def kind : Fault → String
  | os .noEntry _ => "FileNotFoundError"
  | os .denied _ => "PermissionError"
  | os .exists _ => "FileExistsError"
  | os .notDirectory _ => "NotADirectoryError"
  | os .isDirectory _ => "IsADirectoryError"
  | os _ _ => "OSError"
  | noCommand => "TypeError"
  | noStage => "IndexError"
  | undecodable _ => "UnicodeDecodeError"
  | embeddedNul => "ValueError"
  | interrupted => "KeyboardInterrupt"
  | timedOut _ => "TimeoutExpired"

def osText (error : Errno) (path : Option String) : String :=
  "[Errno " ++ toString error.number ++ "] " ++ error.text ++ match path with
    | some p => ": " ++ Text.quoted p
    | none => ""

def message : Fault → String
  | os error path => osText error path
  | noCommand => "expected str, bytes or os.PathLike object, not NoneType"
  | noStage => "list index out of range"
  | undecodable fault => fault.message
  | embeddedNul => "embedded null byte"
  | interrupted => ""
  | timedOut words =>
    "Command '[" ++ ", ".intercalate (words.map Text.quoted) ++ "]' timed out after " ++
      toString timeLimit ++ " seconds"

end Fault

/-- An action on the world, which may end in a fault. -/
abbrev Act := ExceptT Fault (StateM World)

def printOut (w : World) (s : Bytes) : World := { w with out := w.out ++ s }

def printErr (w : World) (s : Bytes) : World := { w with err := w.err ++ s }

/-- The directory of a user; one's own is a variable of the environment if that is set. -/
def homeOf (w : World) (user : String) : Option String :=
  if user.isEmpty then (w.env["HOME"]?).or (w.homes "") else w.homes user

def expandHome (w : World) (path : String) : String := Path.expandHome w.homeOf path

/-- The file that a command name stands for, if it can be run. -/
def which (w : World) (name : String) : Option String := w.files.which w.cwd w.env name

/-- The program that a command name starts. -/
def command (w : World) (name : String) : Except Errno String := w.files.command w.cwd w.env name

/-- Runs a command by its name and words with some input. -/
def spawn (name : String) (args : List String) (input : Bytes) : Act Finished := do
  let w ← get
  if (name :: args).any fun s => s.toList.contains '\x00' then throw .embeddedNul
  match w.command name with
  | .error e => throw (.os e (some name))
  | .ok program =>
    let done := w.programs program ⟨args, input, w.cwd, w.env, w.files⟩
    set { w with files := done.files }
    return done

/-- Hands a line to the system's shell. -/
def runShell (line : String) : Act Finished := do
  let w ← get
  if line.toList.contains '\x00' then throw .embeddedNul
  let done := w.shell ⟨["-c", line], [], w.cwd, w.env, w.files⟩
  set { w with files := done.files }
  return done

/-- Where a stream of a command goes. -/
inductive Sink where
  | terminal
  | target (target : Files.Target)
  deriving DecidableEq, Repr

/-- Writes bytes as the whole of a stream: to the terminal's output, or from the start of a file. -/
def emitOut (w : World) (s : Bytes) : Sink → World
  | .terminal => w.printOut s
  | .target (.file p append) => { w with files := w.files.write p append 0 s }
  | .target (.device _) => w

def emitErr (w : World) (s : Bytes) : Sink → World
  | .terminal => w.printErr s
  | .target (.file p append) => { w with files := w.files.write p append 0 s }
  | .target (.device _) => w

/-- Whether writing some bytes fails for want of space. -/
def Sink.refuses (s : Bytes) : Sink → Bool
  | .target (.device true) => !s.isEmpty
  | _ => false

/-- Opens a file to write to. -/
def openTarget (path : String) (append : Bool) : Act Files.Target := do
  let w ← get
  if path.toList.contains '\x00' then throw .embeddedNul
  match w.files.openWrite w.cwd path append with
  | .error e => throw (.os e (some path))
  | .ok (files, target) =>
    set { w with files := files }
    return target

end Conch.World
