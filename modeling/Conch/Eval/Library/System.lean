import Conch.Eval.Call

/-!
# The system as seen from programs

Directories, files and variables of the environment.
-/

namespace Conch.Eval.System

open Eval

/-- An argument that names a file. -/
def pathArgument (function : String) (v : Value) : Run String := do
  match v with
  | .text s =>
    if s.toList.contains '\x00' then failValue (function ++ ": embedded null character in path")
    return s
  | v => failType (function ++ ": path should be string, bytes, os.PathLike or integer, not " ++
      (← typeName v))

def plainPath (v : Value) : Run String := do
  match v with
  | .text s => return s
  | v => failType ("expected str, bytes or os.PathLike object, not " ++ (← typeName v))

def osError {α : Type} (e : World.Errno) (path : Option String) : Run α := do
  raise (← faultError (.os e path))

def setFiles (files : World.Files) : Run Unit :=
  modify fun s => { s with world := { s.world with files := files } }

def workingDirectory : Run String := do
  let w := (← get).world
  if w.files.isDirectory w.cwd then return w.cwd.text else osError .noEntry none

/-- A directory that is to be removed or listed. -/
def directoryAt (path : String) : Run World.Path := do
  let w := (← get).world
  match w.files.node w.cwd path with
  | .error e => osError e (some path)
  | .ok (p, .directory) => return p
  | .ok _ => osError .notDirectory (some path)

def makeDirectory (path : String) : Run Unit := do
  let w := (← get).world
  match w.files.find w.cwd path with
  | .error e => osError e (some path)
  | .ok place => match w.files.get? place.path with
    | some _ => osError .exists (some path)
    | none =>
      if w.files.isDirectory place.path.dropLast then setFiles (w.files.put place.path .directory)
      else osError .noEntry (some path)

def removeDirectory (path : String) : Run Unit := do
  let p ← directoryAt path
  let w := (← get).world
  if !(w.files.children p).isEmpty then osError .notEmpty (some path)
  setFiles (w.files.erase p)

def removeFile (path : String) : Run Unit := do
  let w := (← get).world
  match w.files.node w.cwd path with
  | .error e => osError e (some path)
  | .ok (_, .directory) => osError .isDirectory (some path)
  | .ok (p, _) => setFiles (w.files.erase p)

def changeDirectory (path : String) : Run Unit := do
  let p ← directoryAt path
  modify fun s => { s with world := { s.world with cwd := p } }

def text (s : String) : Value := .text s

/-- What stands behind the last slash, and what in front of it without slashes at its end. -/
def splitPath (s : String) : String × String :=
  let cs := s.toList
  let tail := (cs.reverse.takeWhile (· != '/')).reverse
  let head := cs.take (cs.length - tail.length)
  let trimmed := (head.reverse.dropWhile (· == '/')).reverse
  (String.ofList (if trimmed.isEmpty then head else trimmed), String.ofList tail)

/-- A name and its last suffix; leading dots start no suffix. -/
def splitSuffix (s : String) : String × String :=
  let (_, tail) := splitPath s
  let cs := tail.toList
  let suffix := (cs.reverse.takeWhile (· != '.')).reverse
  let front := cs.take (cs.length - suffix.length)
  if front.dropLast.all (· == '.') then (s, "")
  else
    let size := suffix.length + 1
    (String.ofList (s.toList.take (s.length - size)), "." ++ String.ofList suffix)

/-- A path without `.`, `..` and doubled slashes. -/
def normalized (s : String) : String :=
  if s.isEmpty then "."
  else
    let rooted := World.Path.isAbsolute s
    let names := (World.Path.names s).foldl (fun (done : List String) (n : String) =>
      if n = "." then done
      else if n = ".." && (!done.isEmpty || rooted) && done.head? != some ".." then done.drop 1
      else n :: done) []
    let body := "/".intercalate names.reverse
    if rooted then "/" ++ body else if body.isEmpty then "." else body

def pathFunction (name : String) (args : List Value) : Run Value := do
  let w := (← get).world
  let arg : Run String := match args with
    | v :: _ => plainPath v
    | [] => failType (name ++ "() missing 1 required positional argument: 'path'")
  match name with
  | "exists" => match args with
    | .text s :: _ => return .bool (w.files.pathExists w.cwd s)
    | [] => failType "exists() missing 1 required positional argument: 'path'"
    | v :: _ =>
      if (Number.asInt? v).isSome then return .bool false
      else failType ("stat: path should be string, bytes, os.PathLike or integer, not " ++
        (← typeName v))
  | "isdir" => return .bool (w.files.isDirectoryAt w.cwd (← arg))
  | "isfile" =>
    let s ← arg
    return .bool (w.files.pathExists w.cwd s && !w.files.isDirectoryAt w.cwd s)
  | "join" =>
    let parts ← args.mapM plainPath
    match parts with
    | [] => failType "join() missing 1 required positional argument: 'a'"
    | p :: ps => return text (ps.foldl World.Path.join p)
  | "basename" => return text (splitPath (← arg)).2
  | "dirname" => return text (splitPath (← arg)).1
  | "split" =>
    let (a, b) := splitPath (← arg)
    return .tuple [text a, text b]
  | "splitext" =>
    let (a, b) := splitSuffix (← arg)
    return .tuple [text a, text b]
  | "abspath" =>
    let s ← arg
    if World.Path.isAbsolute s then return text (normalized s)
    else return text (normalized (World.Path.join (← workingDirectory) s))
  | "normpath" => return text (normalized (← arg))
  | "isabs" => return .bool (World.Path.isAbsolute (← arg))
  | "expanduser" => return text (w.expandHome (← arg))
  | "getsize" =>
    let s ← arg
    match w.files.node w.cwd s with
    | .ok (_, .file data _) => return .int data.length
    | .ok _ => return .int 4096
    | .error e => osError e (some s)
  | _ => fail (.noModuleAttribute "posixpath" name)

def environment (name : String) (args : List Value) : Run Value := do
  let env := (← get).world.env
  match name, args with
  | "get", .text k :: rest => return ((env[k]?).map Value.text).getD (rest.headD .none)
  | "keys", _ => make (.list (env.keys.map Value.text))
  | "values", _ => make (.list (env.values.map Value.text))
  | "items", _ => make (.list (env.toList.map fun (k, v) => .tuple [.text k, .text v]))
  | "copy", _ => make (.dict (env.toList.map fun (k, v) => (.text k, .text v)))
  | "pop", .text k :: rest => match env[k]? with
    | some v =>
      modify fun s => { s with world := { s.world with env := s.world.env.erase k } }
      return .text v
    | none => match rest with
      | v :: _ => return v
      | [] => failKey (.text k)
  | "setdefault", .text k :: .text v :: _ => match env[k]? with
    | some old => return .text old
    | none =>
      modify fun s => { s with world := { s.world with env := s.world.env.insert k v } }
      return .text v
  | _, _ => failType "str expected"

def osFunction (name : String) (args : List Value) (keywords : Vars) : Run Value := do
  let path : Run String := match args with
    | v :: _ => pathArgument name v
    | [] => failType (name ++ "() missing required argument 'path' (pos 1)")
  match name with
  | "getcwd" =>
    if !args.isEmpty then
      failType ("posix.getcwd() takes no arguments (" ++ toString args.length ++ " given)")
    return text (← workingDirectory)
  | "chdir" =>
    changeDirectory (← path)
    return .none
  | "rmdir" =>
    removeDirectory (← path)
    return .none
  | "mkdir" =>
    makeDirectory (← path)
    return .none
  | "makedirs" =>
    let s ← path
    let w := (← get).world
    let fine : Bool := match keywords.get? "exist_ok" with
      | some (.bool b) => b
      | _ => false
    if w.files.pathExists w.cwd s then
      if fine && w.files.isDirectoryAt w.cwd s then return .none else osError .exists (some s)
    match w.files.find [] (World.Path.absolute w.cwd s) with
    | .ok place =>
      setFiles ((w.files.makeParents place.path).put place.path .directory)
      return .none
    | .error _ =>
      let names := World.Path.names (World.Path.absolute w.cwd s)
      setFiles ((w.files.makeParents names).put names .directory)
      return .none
  | "remove" | "unlink" =>
    removeFile (← path)
    return .none
  | "listdir" =>
    let s ← match args with
      | [] => pure "."
      | v :: _ => pathArgument name v
    let p ← directoryAt s
    make (.list (((← get).world.files.children p).map Value.text))
  | "rename" => match args with
    | [.text a, .text b] =>
      let w := (← get).world
      match w.files.node w.cwd a, w.files.find w.cwd b with
      | .ok (p, node), .ok place =>
        setFiles ((w.files.erase p).put place.path node)
        return .none
      | .error e, _ | _, .error e => osError e (some a)
    | _ => failType "rename() missing required argument 'dst' (pos 2)"
  | "getenv" => environment "get" args
  | _ => fail (.noModuleAttribute "os" name)

def leave {α : Type} (args : List Value) : Run α := do raise (← makeError "SystemExit" args)

def sysFunction (name : String) (args : List Value) : Run Value := do
  match name with
  | "exit" => match args with
    | [] => leave []
    | [.none] => leave []
    | [.tuple vs] => leave vs
    | [v] => leave [v]
    | vs => failType ("exit expected at most 1 argument, got " ++ toString vs.length)
  | "getrecursionlimit" => return .int 1000
  | _ => fail (.unsupportedFeature ("sys." ++ name))

end Conch.Eval.System
