import Conch.Eval.Call

/-!
# Files

A file that is open. What is written to it is kept back until the file is flushed or closed.
-/

namespace Conch.Eval.Method

open Eval

/-- Hands over what was written. -/
def flushFile (a : Addr) (f : OpenFile) : Run OpenFile := do
  if f.pending.isEmpty then return f
  match f.target with
  | some (.file path append) =>
    modify fun s => { s with world :=
      { s.world with files := s.world.files.write path append f.position f.pending } }
    let f := { f with pending := [], position := f.position + f.pending.length }
    update a (.file f)
    return f
  | some (.device true) =>
    update a (.file { f with pending := [] })
    raise (← faultError (.os .noSpace none))
  | _ =>
    let f := { f with pending := [] }
    update a (.file f)
    return f

def closeFile (a : Addr) (f : OpenFile) : Run Unit := do
  if f.closed then return
  update a (.file { f with closed := true })
  let f ← flushFile a { f with closed := true }
  update a (.file { f with closed := true })

/-- The first `n` of some things, or all of them for a negative number. -/
def takeSome {α : Type} (n : Option Int) (xs : List α) : List α × List α :=
  match n with
  | some k => if k < 0 then (xs, []) else (xs.take k.toNat, xs.drop k.toNat)
  | none => (xs, [])

def readFile (m : Machine) (a : Addr) (f : OpenFile) (args : List Value) : Run Value := do
  let limit ← match args with
    | [] | .none :: _ => pure none
    | v :: _ => some <$> expectIndex m v
  if f.binary then
    let (got, rest) := takeSome limit f.unread
    update a (.file { f with unread := rest })
    return .bytes got
  else
    let (got, rest) := takeSome limit (← unreadText f)
    update a (.file { f with unread := encodeChars rest })
    return .text (String.ofList got)

/-- All lines that are left; a text has at most as many as characters. -/
def linesOf : Nat → List Char → List (List Char)
  | 0, _ => []
  | n + 1, cs =>
    let (line, rest) := firstLine cs
    if line.isEmpty then [] else line :: linesOf n rest

def writeFile (a : Addr) (f : OpenFile) (v : Value) : Run Value := do
  match v with
  | .text s =>
    if f.binary then failType "a bytes-like object is required, not 'str'"
    update a (.file { f with pending := f.pending ++ Text.encode s })
    return .int s.length
  | .bytes b =>
    if !f.binary then failType "write() argument must be str, not bytes"
    update a (.file { f with pending := f.pending ++ b })
    return .int b.length
  | v =>
    if f.binary then failType ("a bytes-like object is required, not '" ++ (← typeName v) ++ "'")
    else failType ("write() argument must be str, not " ++ (← typeName v))

def mustRead (f : OpenFile) : Run Unit := do
  if !f.readable then fail (.unsupportedOperation "not readable")

def mustWrite (f : OpenFile) : Run Unit := do
  if f.target.isNone then fail (.unsupportedOperation "not writable")

def ofFile (m : Machine) (name : String) (a : Addr) (f : OpenFile) (args : List Value)
    (keywords : Vars) : Run Value := do
  if f.closed && name != "close" && name != "__exit__" then
    failValue "I/O operation on closed file."
  match name with
  | "read" =>
    mustRead f
    readFile m a f args
  | "readline" =>
    mustRead f
    let (line, rest) := firstLine (← unreadText f)
    update a (.file { f with unread := encodeChars rest })
    return .text (String.ofList line)
  | "readlines" =>
    mustRead f
    let text ← unreadText f
    update a (.file { f with unread := [] })
    make (.list ((linesOf (text.length + 1) text).map fun l => .text (String.ofList l)))
  | "write" =>
    mustWrite f
    writeFile a f (← oneArgument "TextIOWrapper.write" args keywords)
  | "writelines" =>
    mustWrite f
    for v in ← collect m (← oneArgument "TextIOBase.writelines" args keywords) do
      if let .file f := ← object a then
        let _ ← writeFile a f v
    return .none
  | "flush" =>
    let _ ← flushFile a f
    return .none
  | "close" =>
    closeFile a f
    return .none
  | "readable" => return .bool f.readable
  | "writable" => return .bool f.target.isSome
  | "seekable" => return .bool true
  | "isatty" => return .bool false
  | "fileno" => return .int 3
  | "__enter__" => return .ref a
  | "__exit__" =>
    closeFile a f
    return .none
  | _ => fail (.noAttribute "_io.TextIOWrapper" name)

/-- Methods of the terminal's streams. -/
def ofTerminal (m : Machine) (isErr : Bool) (name : String) (args : List Value) (keywords : Vars) :
    Run Value := do
  let write (v : Value) : Run Nat := do
    match v with
    | .text s =>
      if isErr then printErr s else printOut s
      return s.length
    | v => failType ("write() argument must be str, not " ++ (← typeName v))
  match name with
  | "write" => do return .int (← write (← oneArgument "TextIOWrapper.write" args keywords))
  | "writelines" =>
    for v in ← collect m (← oneArgument "TextIOBase.writelines" args keywords) do
      let _ ← write v
    return .none
  | "flush" | "close" => return .none
  | "isatty" | "readable" | "seekable" => return .bool false
  | "writable" => return .bool true
  | "fileno" => return .int (if isErr then 2 else 1)
  | _ => fail (.unsupportedOperation "not readable")

/-- Opens a file by name. -/
def openFile (path mode : String) : Run Value := do
  let has (c : Char) : Bool := mode.toList.contains c
  let kinds := mode.toList.filter fun c => "rwax".toList.contains c
  if mode.toList.any fun c => !"rwaxbt+U".toList.contains c then
    failValue ("invalid mode: " ++ Text.quoted mode)
  if has 'b' && has 't' then failValue "can't have text and binary mode at once"
  if kinds.length ≠ 1 then
    failValue (if kinds.isEmpty && !mode.isEmpty && !has '+'
      then "Must have exactly one of create/read/write/append mode and at most one plus"
      else if kinds.length > 1 then "must have exactly one of create/read/write/append mode"
      else "Must have exactly one of create/read/write/append mode and at most one plus")
  if path.toList.contains '\x00' then failValue "embedded null byte"
  let s ← get
  let base : OpenFile := ⟨path, mode, none, false, has 'b', [], [], 0, false⟩
  if has 'r' then
    match s.world.files.node s.world.cwd path with
    | .error e => raise (← faultError (.os e (some path)))
    | .ok (_, .directory) => raise (← faultError (.os .isDirectory (some path)))
    | .ok (place, node) =>
      let data := match node with
        | .file data _ => data
        | _ => []
      let target : Option World.Files.Target := if has '+' then some (.file place false) else none
      make (.file { base with readable := true, unread := data, target := target })
  else
    if has 'x' && s.world.files.pathExists s.world.cwd path then
      raise (← faultError (.os .exists (some path)))
    let target ← act (World.openTarget path (has 'a'))
    make (.file { base with target := some target, readable := has '+' })

end Conch.Eval.Method
