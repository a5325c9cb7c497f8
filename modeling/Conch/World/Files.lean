import Std.Data.ExtTreeMap
import Conch.Text.Utf8
import Conch.World.Path

/-!
# The file tree

What stands at each path: a directory, a file with its bytes, a program, or a device. Two trees are
the same when they hold the same at every path.
-/

namespace Conch.World

open Text (Bytes)

inductive Node where
  | directory
  | file (data : Bytes) (executable : Bool)
  /-- A command that can be run, by the name of what it does. -/
  | program (name : String)
  /-- A device that swallows what is written to it, or refuses it for want of space. -/
  | device (full : Bool)
  deriving DecidableEq, Repr

/-- Errors of the system. -/
inductive Errno where
  | noEntry
  | execFormat
  | denied
  | exists
  | notDirectory
  | isDirectory
  | invalid
  | noSpace
  | nameTooLong
  | notEmpty
  deriving DecidableEq, Repr

namespace Errno

def number : Errno → Nat
  | noEntry => 2
  | execFormat => 8
  | denied => 13
  | «exists» => 17
  | notDirectory => 20
  | isDirectory => 21
  | invalid => 22
  | noSpace => 28
  | nameTooLong => 36
  | notEmpty => 39

def text : Errno → String
  | noEntry => "No such file or directory"
  | execFormat => "Exec format error"
  | denied => "Permission denied"
  | «exists» => "File exists"
  | notDirectory => "Not a directory"
  | isDirectory => "Is a directory"
  | invalid => "Invalid argument"
  | noSpace => "No space left on device"
  | nameTooLong => "File name too long"
  | notEmpty => "Directory not empty"

end Errno

structure Files where
  nodes : Std.ExtTreeMap Path Node

namespace Files

/-- The root is always a directory. -/
def get? (fs : Files) (p : Path) : Option Node :=
  if p.isEmpty then some .directory else fs.nodes[p]?

def put (fs : Files) (p : Path) (n : Node) : Files := ⟨fs.nodes.insert p n⟩

def erase (fs : Files) (p : Path) : Files := ⟨fs.nodes.erase p⟩

def isDirectory (fs : Files) (p : Path) : Bool := fs.get? p == some .directory

/-- A path found by walking: where it leads and whether it must be a directory. -/
structure Place where
  path : Path
  asDirectory : Bool
  deriving DecidableEq, Repr

/-- The greatest length of a name, in bytes. -/
def maxName : Nat := 255

/-- What keeps one from walking on to a name. A place that one walks on from must be a directory; only
where one starts may be gone, whatever stands in its place by now, and then just `.` and `..` lead
on. -/
def barrier? (fs : Files) (atStart : Bool) (here : Path) (n : String) : Option Errno :=
  let tooLong := if n.utf8ByteSize > maxName then some .nameTooLong else none
  if fs.isDirectory here then tooLong
  else if atStart then if n = "." ∨ n = ".." then tooLong else some .noEntry
  else if (fs.get? here).isSome then some .notDirectory
  else some .noEntry

/-- Walks down names from a place. -/
def walk (fs : Files) (atStart : Bool) (here : Path) : List String → Except Errno Path
  | [] => .ok here
  | n :: rest =>
    match fs.barrier? atStart here n with
    | some e => .error e
    | none =>
      walk fs false (if n = "." then here else if n = ".." then here.dropLast else here ++ [n]) rest

/-- Where a path leads from a directory. -/
def find (fs : Files) (cwd : Path) (s : String) : Except Errno Place :=
  if s.isEmpty then .error .noEntry
  else
    let start := if Path.isAbsolute s then [] else cwd
    let last := s.toList.getLast?
    (walk fs true start (Path.names s)).map fun p =>
      ⟨p, last == some '/' || (Path.names s).getLast?.any fun n => n == "." || n == ".."⟩

/-- The node at a path. -/
def node (fs : Files) (cwd : Path) (s : String) : Except Errno (Path × Node) :=
  match fs.find cwd s with
  | .error e => .error e
  | .ok place =>
    match fs.get? place.path with
    | some n =>
      if place.asDirectory ∧ n ≠ .directory then .error .notDirectory else .ok (place.path, n)
    | none =>
      -- a directory that is gone can still be reached as the one that one is in
      if place.asDirectory ∧ place.path = cwd ∧ !Path.isAbsolute s then .ok (place.path, .directory)
      else .error .noEntry

def pathExists (fs : Files) (cwd : Path) (s : String) : Bool :=
  !s.toList.contains '\x00' && (fs.node cwd s).toOption.isSome

def isDirectoryAt (fs : Files) (cwd : Path) (s : String) : Bool :=
  !s.toList.contains '\x00' &&
    match fs.node cwd s with
    | .ok (_, .directory) => true
    | _ => false

/-- Whether a path leads to a file that can be run. -/
def isExecutableAt (fs : Files) (cwd : Path) (s : String) : Bool :=
  !s.toList.contains '\x00' &&
    match fs.node cwd s with
    | .ok (_, .program _) | .ok (_, .file _ true) => true
    | _ => false

/-- The names in a directory, in order. -/
def children (fs : Files) (p : Path) : List String :=
  (fs.nodes.keys.filter fun k => k.length == p.length + 1 && k.dropLast == p).filterMap (·.getLast?)

/-- Makes the directories on the way to a path that are missing. -/
def makeParents (fs : Files) (p : Path) : Files :=
  (List.range p.length).foldl (fun fs k =>
    let q := p.take k
    if q.isEmpty || (fs.get? q).isSome then fs else fs.put q .directory) fs

/-- What is written to. -/
inductive Target where
  | file (path : Path) (append : Bool)
  | device (full : Bool)
  deriving DecidableEq, Repr

/-- Opens a file for writing: it is made if it is missing, and emptied unless one writes to its
end. An emptied program does nothing any more. -/
def openWrite (fs : Files) (cwd : Path) (s : String) (append : Bool) :
    Except Errno (Files × Target) :=
  match fs.find cwd s with
  | .error e => .error e
  | .ok place =>
    match fs.get? place.path with
    | some .directory => .error .isDirectory
    | some (.device full) =>
      if place.asDirectory then .error .notDirectory else .ok (fs, .device full)
    | some (.file data x) =>
      if place.asDirectory then .error .notDirectory
      else .ok (fs.put place.path (.file (if append then data else []) x), .file place.path append)
    | some (.program name) =>
      if place.asDirectory then .error .notDirectory
      else .ok (fs.put place.path (if append then .program name else .file [] true),
        .file place.path append)
    | none =>
      if place.asDirectory then .error .isDirectory
      else if fs.isDirectory place.path.dropLast then
        .ok (fs.put place.path (.file [] false), .file place.path append)
      else .error .noEntry

/-- Overwrites bytes from an offset on; a gap is filled with zeros. -/
def overlay (data : Bytes) (offset : Nat) (new : Bytes) : Bytes :=
  data.take offset ++ List.replicate (offset - data.length) 0 ++ new ++
    data.drop (offset + new.length)

/-- Writes at an offset, or at the end of what is opened so. -/
def write (fs : Files) (p : Path) (append : Bool) (offset : Nat) (new : Bytes) : Files :=
  match fs.get? p with
  | some (.file data x) =>
    if append then fs.put p (.file (data ++ new) x)
    else fs.put p (.file (overlay data offset new) x)
  | _ => fs

/-- The bytes of a file. -/
def readAt (fs : Files) (cwd : Path) (s : String) : Except Errno Bytes :=
  match fs.node cwd s with
  | .error e => .error e
  | .ok (_, .directory) => .error .isDirectory
  | .ok (_, .file data _) => .ok data
  | .ok _ => .ok []

end Files

end Conch.World
