import Conch.Eval.Trouble

/-!
# The store

Objects are made in a store, read and replaced there. Errors are objects too: a computation that
fails makes one and raises it.
-/

namespace Conch.Eval

/-- Puts a new object into the store. -/
def alloc (o : Object) : Run Addr := do
  let s ← get
  set { s with store := s.store.push o, nonempty := by simp }
  return s.store.size

def make (o : Object) : Run Value := .ref <$> alloc o

def object (a : Addr) : Run Object := do
  return (← get).store.getD a default

/-- Replaces an object. -/
def update (a : Addr) (o : Object) : Run Unit :=
  modify fun s => { s with
    store := s.store.setIfInBounds a o, nonempty := by simpa using s.nonempty }

/-- The object that a value refers to. -/
def object? (v : Value) : Run (Option Object) :=
  match v with
  | .ref a => some <$> object a
  | _ => return none

def raise {α : Type} (error : Value) : Run α := throw (.exception error)

/-- An error of a class that every program knows. -/
def makeError (kind : String) (args : List Value) : Run Value :=
  make (.instance (.type kind) [] args)

/-- The text as an argument of an error; no text is no argument. -/
def messageArgs (message : String) : List Value := if message.isEmpty then [] else [.text message]

def fail {α : Type} (t : Trouble) : Run α := do raise (← makeError t.kind (messageArgs t.message))

/-- Fails for want of a key. -/
def failKey {α : Type} (key : Value) : Run α := do raise (← makeError "KeyError" [key])

def failType {α : Type} (message : String) : Run α := fail (.badType message)

def failValue {α : Type} (message : String) : Run α := fail (.badValue message)

/-- The error that a fault of the world is raised as. -/
def faultError (f : World.Fault) : Run Value :=
  match f with
  | .os e path =>
    makeError f.kind ([.int e.number, .text e.text] ++ (path.map Value.text).toList)
  | f => makeError f.kind (messageArgs f.message)

/-- Acts on the world. -/
def act {α : Type} (x : World.Act α) : Run α := do
  let s ← get
  let (result, w) := x s.world
  set { s with world := w }
  match result with
  | .ok a => return a
  | .error f => raise (← faultError f)

/-- Runs a computation in another frame and comes back whatever happens. -/
def withFrame {α : Type} (a : Addr) (x : Run α) : Run α := do
  let s ← get
  if s.depth ≥ 1000 then fail .tooDeep
  else
    set { s with frame := a, depth := s.depth + 1 }
    let (result, after) := x (← get)
    set { after with frame := s.frame, depth := s.depth }
    match result with
    | .ok v => return v
    | .error e => throw e

def currentFrame : Run Frame := do
  match ← object (← get).frame with
  | .frame f => return f
  | _ => fail (.misrun "no frame")

def frameAt (a : Addr) : Run Frame := do
  match ← object a with
  | .frame f => return f
  | _ => fail (.misrun "no frame")

def printOut (s : String) : Run Unit :=
  modify fun session => { session with world := session.world.printOut (Text.encode s) }

def printErr (s : String) : Run Unit :=
  modify fun session => { session with world := session.world.printErr (Text.encode s) }

/-- Runs a computation and, whatever happens, another one behind it. -/
def finallyDo {α : Type} (x : Run α) (after : Run Unit) : Run α := do
  let result : Except Raised α ← tryCatch (.ok <$> x) fun e => return .error e
  after
  match result with
  | .ok a => return a
  | .error e => throw e

/-- What is kept under a name in a dictionary of variables. -/
def lookupName (entries : List (Value × Value)) (name : String) : Option Value :=
  entries.findSome? fun (k, v) => match k with
    | .text t => if t = name then some v else none
    | _ => none

def setName (name : String) (v : Value) : List (Value × Value) → List (Value × Value)
  | [] => [(.text name, v)]
  | (k, old) :: rest =>
    match k with
    | .text t => if t = name then (k, v) :: rest else (k, old) :: setName name v rest
    | _ => (k, old) :: setName name v rest

def eraseName (entries : List (Value × Value)) (name : String) : List (Value × Value) :=
  entries.filter fun (k, _) => match k with
    | .text t => t ≠ name
    | _ => true

/-- The entries of a dictionary; of anything else, none. -/
def entriesAt (a : Addr) : Run (List (Value × Value)) := do
  match ← object a with
  | .dict es => return es
  | _ => return []

def getGlobal? (globals : Addr) (name : String) : Run (Option Value) := do
  return lookupName (← entriesAt globals) name

def setGlobal (globals : Addr) (name : String) (v : Value) : Run Unit := do
  update globals (.dict (setName name v (← entriesAt globals)))

end Conch.Eval
