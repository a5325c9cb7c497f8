import Conch.World.Basic
import Conch.World.Posix

/-!
# Setting up a world

A machine as a session finds it: three directories below a root, for work, for the user and for
commands, and whatever else is asked for. Afterwards the tree below the root can be listed.
-/

namespace Conch.World

/-- What is asked for. Paths are seen from the directory for work; `~/` is the user's own. -/
structure Setup where
  /-- The directory that everything is below. -/
  root : Path
  /-- Variables with their values; one without a value is unset. -/
  env : List (String × Option String)
  directories : List String
  files : List (String × String)
  /-- Files that have leave to be run and are no programs. -/
  executables : List (String × String)
  /-- Where commands are placed; each does what its name says. -/
  tools : List String
  cwd : Option String
  host : String
  installedIn : Option String

namespace Setup

/-- Nothing but the standard directories. -/
def plain (root : Path) : Setup := ⟨root, [], [], [], [], [], none, "box", none⟩

def work (s : Setup) : Path := s.root ++ ["work"]

def home (s : Setup) : Path := s.root ++ ["home"]

def bin (s : Setup) : Path := s.root ++ ["bin"]

/-- The place that a path stands for. -/
def place (s : Setup) (path : String) : Path :=
  match path.toList with
  | '~' :: '/' :: rest => Path.resolveDots s.home.reverse (Path.names (String.ofList rest))
  | _ =>
    Path.resolveDots (if Path.isAbsolute path then [] else s.work.reverse) (Path.names path)

/-- What a tool does: its name, without a leading `my`. -/
def toolName (p : Path) : String :=
  let name := p.getLast?.getD ""
  match name.toList with
  | 'm' :: 'y' :: rest => String.ofList rest
  | _ => name

/-- Puts something into the tree, and the directories above it. -/
def putAt (fs : Files) (p : Path) (n : Node) : Files := (fs.makeParents p).put p n

/-- Makes a directory unless there is one. -/
def makeDirectory (fs : Files) (p : Path) : Files :=
  if fs.isDirectory p then fs else putAt fs p .directory

/-- What stands on every machine. -/
def system : List (Path × Node) :=
  [(["bin", "true"], .program "true"), (["dev", "null"], .device false),
    (["dev", "full"], .device true), (["tmp"], .directory)]

def tree (s : Setup) : Files :=
  let fs := system.foldl (fun fs (p, n) => putAt fs p n) (⟨∅⟩ : Files)
  let fs := [s.work, s.home, s.bin].foldl makeDirectory fs
  let fs := Program.standard.foldl (fun fs (name, _) => fs.put (s.bin ++ [name]) (.program name)) fs
  let fs := s.directories.foldl (fun fs d => makeDirectory fs (s.place d)) fs
  let fs := s.files.foldl (fun fs (f, text) =>
    putAt fs (s.place f) (.file (Text.encode text) false)) fs
  let fs := s.executables.foldl (fun fs (f, text) =>
    putAt fs (s.place f) (.file (Text.encode text) true)) fs
  s.tools.foldl (fun fs t => putAt fs (s.place t) (.program (toolName (s.place t)))) fs

def environment (s : Setup) : Env :=
  let base : Env := ((((∅ : Env).insert "HOME" s.home.text).insert "PATH" s.bin.text).insert
    "USER" "tester")
  s.env.foldl (fun env (name, value) => match value with
    | some v => env.insert name v
    | none => env.erase name) base

/-- The users known where a setup is made, the first of whom is oneself, with their directories. -/
def users : List (String × String) := [("", "/root"), ("root", "/root")]

def world (s : Setup) : World where
  files := s.tree
  cwd := (s.cwd.map s.place).getD s.work
  env := s.environment
  savedPath := none
  historyFile := Path.text (s.home ++ [".pynix_history"])
  host := s.host
  installedIn := s.installedIn
  identity := none
  programs := Program.ofName
  shell := Posix.shell Program.ofName
  homes := fun user => users.lookup user
  out := []
  err := []

/-- What is below the root by its path from there: the text of a file, and nothing for a directory.
Commands are left out. -/
def listing (s : Setup) (w : World) : List (String × Option String) :=
  let hidden := s.tools.map s.place
  let rows := w.files.nodes.toList.filterMap fun (p, n) =>
    let below := p.drop s.root.length
    if p.take s.root.length != s.root || below.isEmpty || below.head? == some "bin" ||
      hidden.contains p then none
    else
      let name := "/".intercalate below
      match n with
      | .directory => some (name ++ "/", none)
      | .file data _ => some (name, some (Text.decodeLossy data))
      | .program _ | .device _ => some (name, some "")
  rows.mergeSort fun a b => a.1 ≤ b.1

end Setup

end Conch.World
