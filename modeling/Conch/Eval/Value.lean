import Conch.Code.Tree
import Conch.World.Basic

/-!
# Values

What programs compute with. Numbers, texts and tuples are values in themselves; what can change, and
what has an identity, is an object in a store and is referred to by its address there.
-/

namespace Conch.Eval

open Code

abbrev Addr := Nat

inductive Value where
  | none
  | ellipsis
  | notImplemented
  | bool (value : Bool)
  | int (value : Int)
  | float (value : Float)
  | text (value : String)
  | bytes (value : List UInt8)
  | tuple (items : List Value)
  | range (start stop step : Int)
  | slice (start stop step : Value)
  /-- A class that every program knows, by its name. -/
  | type (name : String)
  /-- A function that every program knows, by its name. -/
  | builtin (name : String)
  /-- A method of a value whose class every program knows. -/
  | method (self : Value) (name : String)
  | module (name : String)
  /-- The terminal, as output or for error messages. -/
  | terminal (isErr : Bool)
  | ref (addr : Addr)
  deriving Inhabited

/-- Variables or attributes, in the order in which they were first set. -/
abbrev Vars := List (String × Value)

namespace Vars

def get? (vs : Vars) (name : String) : Option Value := vs.lookup name

def set (vs : Vars) (name : String) (v : Value) : Vars :=
  match vs with
  | [] => [(name, v)]
  | (n, old) :: rest => if n = name then (n, v) :: rest else (n, old) :: set rest name v

def erase (vs : Vars) (name : String) : Vars := vs.filter fun entry => entry.1 ≠ name

def contains (vs : Vars) (name : String) : Bool := vs.any fun entry => entry.1 = name

end Vars

/-- Where the names of a function belong: to itself, to the functions around it (`outer` when it may
set them too), or to the module. -/
structure Scope where
  locals : List String
  free : List String
  outer : List String
  globals : List String

def Scope.empty : Scope := ⟨[], [], [], []⟩

inductive Body where
  | block (statements : List Stmt)
  | result (value : Expr)

structure Function where
  name : String
  /-- The name behind those of the functions and classes around it. -/
  fullName : String
  params : Params
  defaults : Vars
  body : Body
  globals : Addr
  /-- The frame of the function that this one was made in. -/
  parent : Option Addr
  scope : Scope
  yields : Bool
  /-- The class that the function was written in. -/
  owner : Option Value

inductive FrameKind where
  | module
  | function
  | comprehension
  | cls
  deriving DecidableEq, Repr

/-- A scope that is being run. The variables of a module are in a dictionary, at `globals`. -/
structure Frame where
  kind : FrameKind
  globals : Addr
  parent : Option Addr
  vars : Vars
  scope : Scope
  /-- What a generator has given so far, last one first. -/
  yielded : List Value
  owner : Option Value
  /-- What the names of functions made here start with. -/
  label : String

/-- What is left of a succession of values. -/
inductive Iterator where
  | items (rest : List Value) (failure : Option Value)
  /-- A list that may still change, and a position in it. -/
  | cursor (list : Addr) (index : Nat)
  | count (next stop step : Int)
  | mapped (function : Value) (sources : List Value)
  | filtered (function source : Value)
  | zipped (sources : List Value)
  | enumerated (source : Value) (index : Int)
  /-- A generator expression, its first source evaluated and its frame made. -/
  | comprehension (frame : Addr) (element : Expr) (clauses : List Clause) (source : Value)
  /-- The call of a generator function that has not been started. -/
  | suspended (frame : Addr) (statements : List Stmt)

structure OpenFile where
  name : String
  mode : String
  target : Option World.Files.Target
  readable : Bool
  binary : Bool
  /-- What is left to read. -/
  unread : List UInt8
  /-- What has been written and not yet handed over. -/
  pending : List UInt8
  position : Nat
  closed : Bool

inductive Object where
  | list (items : List Value)
  | dict (entries : List (Value × Value))
  | set (items : List Value) (frozen : Bool)
  | function (function : Function)
  | cls (name fullName : String) (bases : List Value) (attrs : Vars)
  /-- An object of a class; an exception has arguments too. -/
  | instance (cls : Value) (attrs : Vars) (args : List Value)
  | bound (self function : Value)
  | iterator (kind : String) (state : Iterator)
  | file (file : OpenFile)
  | frame (frame : Frame)
  /-- The keys, values or items of a dictionary. -/
  | view (kind : String) (dict : Addr)
  | property (getter setter : Value)
  | staticMethod (function : Value)
  | classMethod (function : Value)
  /-- An object seen as one of the classes behind a class. -/
  | parentView (cls self : Value)

instance : Inhabited Object := ⟨.list []⟩

/-- The state of a session. -/
structure Session where
  world : World
  store : Array Object
  /-- The frame that is being run. -/
  frame : Addr
  /-- The errors that are being handled, innermost first. -/
  handling : List Value
  /-- How many calls are open. -/
  depth : Nat
  /-- The containers whose texts are being made. -/
  showing : List Addr
  /-- The first object is always there. -/
  nonempty : 0 < store.size

/-- The dictionary of the variables that lines are run with, which is the first object. -/
def Session.main (_ : Session) : Addr := 0

/-- How a computation fails to give a value. -/
inductive Raised where
  | exception (value : Value)
  /-- The bound on the length of a computation is reached. -/
  | exhausted
  deriving Inhabited

abbrev Run := ExceptT Raised (StateM Session)

/-- How a block of statements ends. -/
inductive Flow where
  | next
  | stop
  | again
  | ret (value : Value)

/-- The operations that call on one another. -/
structure Machine where
  eval : Expr → Run Value
  exec : List Stmt → Run Flow
  call : Value → List Value → Vars → Run Value
  /-- The text that stands for a value in a program. -/
  shown : Value → Run String
  equal : Value → Value → Run Bool
  /-- One of the comparisons by size. -/
  order : CompareOp → Value → Value → Run Value
  /-- The next of a succession of values. -/
  advance : Value → Run (Option Value)

end Conch.Eval
