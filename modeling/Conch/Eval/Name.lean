import Conch.Eval.Store

/-!
# Names

A name in a function is one of its own, one of a function around it, or one of the module. A class
body has names of its own that the functions in it do not see, and a comprehension is a small
function.
-/

namespace Conch.Eval

def builtinTypes : List String :=
  ["int", "float", "str", "bool", "list", "tuple", "dict", "set", "frozenset", "bytes", "bytearray",
    "complex", "object", "type", "range", "slice", "map", "filter", "zip", "enumerate", "reversed",
    "property", "staticmethod", "classmethod", "super", "memoryview"]

def builtinFunctions : List String :=
  ["abs", "all", "any", "ascii", "bin", "breakpoint", "callable", "chr", "compile", "delattr",
    "dir", "divmod", "eval", "exec", "exit", "format", "getattr", "globals", "hasattr", "hash",
    "help", "hex", "id", "input", "isinstance", "issubclass", "iter", "len", "license", "locals",
    "max", "min", "next", "oct", "open", "ord", "pow", "print", "quit", "repr", "round", "setattr",
    "sorted", "sum", "vars", "__import__"]

/-- What every program knows under a name. -/
def builtinValue? (name : String) : Option Value :=
  if builtinTypes.contains name then some (.type name)
  else if builtinFunctions.contains name then some (.builtin name)
  else if qualifiedErrors.contains name then none
  else if isErrorClass name then some (.type name)
  else match errorAliases.lookup name with
    | some other => some (.type other)
    | none =>
      if name = "Ellipsis" then some .ellipsis
      else if name = "NotImplemented" then some .notImplemented
      else if name = "__debug__" then some (.bool true)
      else none

/-- A name that is none of a function's. -/
def lookupGlobal (globals : Addr) (name : String) : Run Value := do
  match ← getGlobal? globals name with
  | some v => return v
  | none => match builtinValue? name with
    | some v => return v
    | none => fail (.unbound name)

/-- The frame of a function around, from a frame on outwards, that a name belongs to. A function may
leave a name to the module, for itself and for all that is in it. -/
def owningFrame (name : String) (depth : Nat) (at? : Option Addr) : Run (Option Addr) :=
  match depth, at? with
  | 0, _ | _, none => return none
  | d + 1, some a => do
    let f ← frameAt a
    match f.kind with
    | .module => return none
    | .cls => owningFrame name d f.parent
    | _ =>
      if f.scope.locals.contains name then return some a
      else if f.scope.globals.contains name then return none
      else owningFrame name d f.parent

/-- A bound on the frames from one on outwards, each of which is older than the one before. -/
def nesting : Option Addr → Nat
  | none => 0
  | some a => a + 1

/-- A name of a function around, or of the module. -/
def lookupOuter (f : Frame) (name : String) : Run Value := do
  match ← owningFrame name (nesting f.parent) f.parent with
  | some a => match (← frameAt a).vars.get? name with
    | some v => return v
    | none => fail (.unboundFree name)
  | none => lookupGlobal f.globals name

def lookupVar (name : String) : Run Value := do
  let f ← currentFrame
  if f.kind = .module then lookupGlobal f.globals name
  else if f.kind = .cls then
    match f.vars.get? name with
    | some v => return v
    | none =>
      if f.scope.globals.contains name then lookupGlobal f.globals name else lookupOuter f name
  else if f.scope.locals.contains name then
    match f.vars.get? name with
    | some v => return v
    | none => fail (.unboundLocal name)
  else if f.scope.globals.contains name then lookupGlobal f.globals name
  else lookupOuter f name

/-- Sets a name as seen from a frame. -/
def assignVarAt (a : Addr) (name : String) (v : Value) : Run Unit := do
  let f ← frameAt a
  if f.kind = .module || f.scope.globals.contains name then setGlobal f.globals name v
  else if f.scope.outer.contains name then
    match ← owningFrame name (nesting f.parent) f.parent with
    | some b =>
      let g ← frameAt b
      update b (.frame { g with vars := g.vars.set name v })
    | none => setGlobal f.globals name v
  else update a (.frame { f with vars := f.vars.set name v })

def assignVar (name : String) (v : Value) : Run Unit := do assignVarAt (← get).frame name v

/-- The frame that a comprehension stands in. -/
def outsideComprehension : Nat → Addr → Run Addr
  | 0, a => return a
  | d + 1, a => do
    let f ← frameAt a
    match f.kind, f.parent with
    | .comprehension, some b => outsideComprehension d b
    | _, _ => return a

/-- Sets a name from within an expression: what a comprehension sets belongs to what is around it.
-/
def assignNamed (name : String) (v : Value) : Run Unit := do
  let a := (← get).frame
  assignVarAt (← outsideComprehension (nesting (some a)) a) name v

def deleteVar (name : String) : Run Unit := do
  let a := (← get).frame
  let f ← currentFrame
  if f.kind = .module || f.scope.globals.contains name then
    let entries ← entriesAt f.globals
    match lookupName entries name with
    | some _ => update f.globals (.dict (eraseName entries name))
    | none => fail (.unbound name)
  else if f.vars.contains name then update a (.frame { f with vars := f.vars.erase name })
  else if f.kind = .cls then fail (.unbound name)
  else fail (.unboundLocal name)

/-- The names that a frame's own code can see as local: its own, and those that it takes from the
functions around it. -/
def localVars (f : Frame) : Run Vars := do
  match f.kind with
  | .module => return []
  | .cls => return f.vars
  | _ =>
    let own := f.vars.filter fun (n, _) => f.scope.locals.contains n
    let taken ← f.scope.free.eraseDups.filterMapM fun name => do
      match ← owningFrame name (nesting f.parent) f.parent with
      | some a => return (((← frameAt a).vars.get? name).map fun v => (name, v))
      | none => return none
    return own ++ taken

/-- A dictionary of all that a frame's code sees by name; local names hide others. -/
def visibleVars (f : Frame) : Run (List (Value × Value)) := do
  let globals ← entriesAt f.globals
  return (← localVars f).foldl (fun entries (n, v) => setName n v entries) globals

/-- A frame for code that is run with a dictionary of variables. -/
def moduleFrame (globals : Addr) : Frame := ⟨.module, globals, none, [], .empty, [], none, ""⟩

end Conch.Eval
