import Conch.World.Files

/-!
# Programs

A program is started with words, input, a directory, an environment and the file tree, and ends with
what it wrote, how it ended and the file tree it leaves.
-/

namespace Conch.World

open Text (Bytes)

/-- Variables by name. -/
abbrev Env := Std.ExtTreeMap String String

/-- The directories that commands are looked for in. -/
def Env.searchPath (env : Env) : List String :=
  match env["PATH"]? with
  | some p => Path.cut ':' [] p.toList
  | none => ["/bin", "/usr/bin"]

namespace Files

/-- The file that a command name stands for, if it can be run. -/
def which (fs : Files) (cwd : Path) (env : Env) (name : String) : Option String :=
  if Path.hasDirectory name then
    if fs.isExecutableAt cwd name then some name else none
  else
    let directories := if env["PATH"]? == some "" then [] else env.searchPath
    directories.findSome? fun d =>
      let file := Path.join d name
      if fs.isExecutableAt cwd file then some file else none

/-- What starting the file at a path comes to. -/
def executable (fs : Files) (cwd : Path) (file : String) : Except Errno String :=
  match fs.node cwd file with
  | .error e => .error e
  | .ok (_, .program name) => .ok name
  | .ok (_, .file _ true) => .error .execFormat
  | .ok _ => .error .denied

/-- What went wrong, if anything did. -/
def failure? : Except Errno String → Option Errno
  | .error e => some e
  | .ok _ => none

/-- The program that a command name starts: the first that can be started; else the first error that
is more than its absence, or the last one if there is none. -/
def command (fs : Files) (cwd : Path) (env : Env) (name : String) : Except Errno String :=
  if Path.hasDirectory name then fs.executable cwd name
  else
    let tried := env.searchPath.map fun d => fs.executable cwd (Path.join d name)
    match tried.findSome? Except.toOption with
    | some p => .ok p
    | none =>
      let serious := (tried.filterMap failure?).find? fun e => e != .noEntry && e != .notDirectory
      .error ((serious.or (tried.getLast?.bind failure?)).getD .noEntry)

end Files

structure Invocation where
  args : List String
  input : Bytes
  cwd : Path
  env : Env
  files : Files

inductive Ending where
  | exit (code : Nat)
  | signal (number : Nat)
  /-- The user interrupts while it runs. -/
  | interrupt
  deriving DecidableEq, Repr

/-- The status that a process is waited for with: its code, or the signal with a minus sign. -/
def Ending.status : Ending → Int
  | .exit code => code
  | .signal number => -number
  | .interrupt => 130

structure Finished where
  out : Bytes
  err : Bytes
  ending : Ending
  files : Files
  /-- The files that it leaves if it is stopped after some seconds, unless it ends before that. -/
  stopped : Nat → Option Files

abbrev Program := Invocation → Finished

namespace Program

/-- Ends with some output and a code, and leaves the files as they are. -/
def finish (i : Invocation) (out err : Bytes) (code : Nat) : Finished :=
  ⟨out, err, .exit code, i.files, fun _ => none⟩

/-- Lines without their ends; a missing last line feed still ends a line. -/
def linesFrom (line : Bytes) : Bytes → List Bytes
  | [] => if line.isEmpty then [] else [line.reverse]
  | b :: rest => if b = 10 then line.reverse :: linesFrom [] rest else linesFrom (b :: line) rest

def lines (data : Bytes) : List Bytes := linesFrom [] data

def unlines (ls : List Bytes) : Bytes := ls.flatMap (· ++ [10])

def infixOf (part : Bytes) : Bytes → Bool
  | [] => part.isEmpty
  | b :: rest => part.isPrefixOf (b :: rest) || infixOf part rest

def bytesLe : Bytes → Bytes → Bool
  | [], _ => true
  | _ :: _, [] => false
  | a :: as, b :: bs => if a = b then bytesLe as bs else a < b

/-- A decimal integer with an optional sign. -/
def readInt (s : String) : Int :=
  match s.toList with
  | '-' :: ds => -(digits ds : Int)
  | '+' :: ds => digits ds
  | ds => digits ds
where
  digits (ds : List Char) : Nat :=
    (ds.filter Char.isDigit).foldl (fun n d => n * 10 + (d.toNat - 48)) 0

/-- Exit codes are kept modulo 256. -/
def exitCode (s : String) : Nat := (Int.emod (readInt s) 256).toNat

def cat : Program := fun i =>
  if i.args.isEmpty then finish i i.input [] 0
  else
    let (out, err) := i.args.foldl (fun (out, err) f =>
      match i.files.readAt i.cwd f with
      | .ok data => (out ++ data, err)
      | .error .isDirectory => (out, err ++ Text.encode ("cat: " ++ f ++ ": Is a directory\n"))
      | .error _ => (out, err ++ Text.encode ("cat: " ++ f ++ ": No such file or directory\n")))
      (([], []) : Bytes × Bytes)
    finish i out err (if err.isEmpty then 0 else 1)

def grep : Program := fun i =>
  let (invert, args) : Bool × List String := match i.args with
    | "-v" :: rest => (true, rest)
    | args => (false, args)
  match args with
  | [] => finish i [] (Text.encode "grep: no pattern\n") 2
  | pattern :: _ =>
    let kept := (lines i.input).filter fun l => infixOf (Text.encode pattern) l != invert
    finish i (unlines kept) [] (if kept.isEmpty then 1 else 0)

def wc : Program := fun i =>
  finish i (Text.encode (toString (i.input.countP (· == 10)) ++ "\n")) [] 0

def sort : Program := fun i => finish i (unlines ((lines i.input).mergeSort bytesLe)) [] 0

def upper : Program := fun i =>
  finish i (i.input.map fun b => if 97 ≤ b && b ≤ 122 then b - 32 else b) [] 0

/-- Makes a file unless something stands there already. -/
def touchOne (cwd : Path) (fs : Files) (f : String) : Option Files :=
  if f.toList.contains '\x00' then none
  else match fs.node cwd f with
    | .ok _ => some fs
    | .error _ => match fs.openWrite cwd f true with
      | .ok (fs', _) => some fs'
      | .error _ => none

def touch : Program := fun i =>
  let (fs, err) := i.args.foldl (fun (fs, err) f =>
    match touchOne i.cwd fs f with
    | some fs' => (fs', err)
    | none => (fs, err ++ Text.encode ("touch: " ++ f ++ ": cannot touch\n")))
    ((i.files, []) : Files × Bytes)
  ⟨[], err, .exit (if err.isEmpty then 0 else 1), fs, fun _ => none⟩

def args : Program := fun i =>
  finish i (i.args.flatMap fun a => Text.encode ("[" ++ a ++ "]\n")) [] 0

def fail : Program := fun i =>
  match i.args with
  | [] => finish i [] [] 1
  | [n] => finish i [] [] (exitCode n)
  | n :: words => finish i [] (Text.encode (" ".intercalate words ++ "\n")) (exitCode n)

def both : Program := fun i =>
  let line (k : Nat) : Bytes := match i.args[k]? with
    | some w => Text.encode (w ++ "\n")
    | none => []
  finish i (line 0) (line 1) (match i.args[2]? with
    | some n => exitCode n
    | none => 0)

def hexPairs : List Char → Bytes
  | a :: b :: rest => (hexOf a * 16 + hexOf b).toUInt8 :: hexPairs rest
  | _ => []
where
  hexOf (c : Char) : Nat :=
    if c.isDigit then c.toNat - 48
    else if 'a' ≤ c && c ≤ 'f' then c.toNat - 87
    else if 'A' ≤ c && c ≤ 'F' then c.toNat - 55
    else 0

def hex : Program := fun i => finish i (i.args.flatMap fun a => hexPairs a.toList) [] 0

/-- A directory that is gone has nothing in it. -/
def ls : Program := fun i =>
  let directory := i.args.headD "."
  match i.files.node i.cwd directory with
  | .ok (p, .directory) =>
    let names := (i.files.children p).filter fun n => n.toList.head? != some '.'
    finish i (names.flatMap fun n => Text.encode (n ++ "\n")) [] 0
  | _ => finish i [] (Text.encode ("ls: " ++ directory ++ ": No such directory\n")) 2

def getenv : Program := fun i =>
  match i.args with
  | [] => finish i [] [] 1
  | name :: _ => match i.env[name]? with
    | some v => finish i (Text.encode (v ++ "\n")) [] 0
    | none => finish i [] [] 1

def sig : Program := fun i =>
  ⟨[], [], .signal (readInt (i.args.headD "0")).toNat, i.files, fun _ => none⟩

def intr : Program := fun i => ⟨[], [], .interrupt, i.files, fun _ => none⟩

def succeed : Program := fun i => finish i [] [] 0

/-- The commands that a machine is equipped with. -/
def standard : List (String × Program) :=
  [("args", args), ("both", both), ("cat", cat), ("fail", fail), ("getenv", getenv), ("grep", grep),
    ("hex", hex), ("intr", intr), ("ls", ls), ("sig", sig), ("sort", sort), ("touch", touch),
    ("upper", upper), ("wc", wc)]

/-- The command of a name; an unknown one just succeeds. -/
def ofName (name : String) : Program := (standard.lookup name).getD succeed

end Program

end Conch.World
