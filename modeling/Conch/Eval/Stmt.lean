import Conch.Eval.Expr
import Conch.Eval.Match

/-!
# Statements
-/

namespace Conch.Eval

open Code

/-- The rounds of a loop over values; `next` at the end of the values. -/
def forRounds (m : Machine) (it : Value) (target : Expr) (body : List Stmt) : Nat → Run Flow
  | 0 => throw .exhausted
  | n + 1 => do
    match ← m.advance it with
    | none => return .next
    | some v =>
      assignTo m target v
      match ← m.exec body with
      | .next | .again => forRounds m it target body n
      | .stop => return .stop
      | .ret r => return .ret r

/-- The rounds of a loop with a condition; `next` when the condition fails. -/
def whileRounds (m : Machine) (test : Expr) (body : List Stmt) : Nat → Run Flow
  | 0 => throw .exhausted
  | n + 1 => do
    if ← truth m (← m.eval test) then
      match ← m.exec body with
      | .next | .again => whileRounds m test body n
      | .stop => return .stop
      | .ret r => return .ret r
    else return .next

/-- What follows the rounds of a loop: its other part unless it was left. -/
def afterLoop (m : Machine) (orelse : List Stmt) (flow : Flow) : Run Flow :=
  match flow with
  | .next => m.exec orelse
  | .stop => return .next
  | flow => return flow

def decorate (m : Machine) (decorators : List Value) (v : Value) : Run Value :=
  decorators.reverse.foldlM (fun v d => m.call d [v] []) v

/-- Makes a class: its body is run in a frame whose variables become the attributes. -/
def makeClass (m : Machine) (name : String) (bases : List Value) (body : List Stmt) :
    Run Value := do
  let frame ← currentFrame
  let fullName := frame.label ++ name
  let a ← alloc (.cls name fullName bases [])
  let usage := usageInBody body
  let inner ← alloc (.frame
    ⟨.cls, frame.globals, some (← get).frame, [], ⟨[], [], usage.nonlocals, usage.globals⟩, [],
      some (.ref a), fullName ++ "."⟩)
  let _ ← withFrame inner (m.exec body)
  update a (.cls name fullName bases (← frameAt inner).vars)
  return .ref a

/-- The error that a raised value stands for. -/
def raisable (m : Machine) (v : Value) : Run Value := do
  if ← isError v then return v
  else if (← isClass v) && (← isErrorType v) then
    let e ← m.call v [] []
    if ← isError e then return e else fail .notRaisable
  else fail .notRaisable

/-- Whether an error is of one of some classes; `depth` bounds tuples in tuples. -/
def caughtBy (e : Value) (depth : Nat) (classes : Value) : Run Bool :=
  match depth with
  | 0 => fail .notCatchable
  | d + 1 => do
    match classes with
    | .tuple cs => cs.anyM (caughtBy e d)
    | cls =>
      if (← isClass cls) && (← isErrorType cls) then isInstance e cls else fail .notCatchable

/-- The body of the first handler for an error, and the name that it gives it. -/
def findHandler (m : Machine) (e : Value) : List Handler → Run (Option (Option String × List Stmt))
  | [] => return none
  | .mk type name body :: rest => do
    match type with
    | none => return some (name, body)
    | some t =>
      if ← caughtBy e 32 (← m.eval t) then return some (name, body) else findHandler m e rest

/-- Forgets the name of an error that was handled. -/
def forgetName (name : String) : Run Unit :=
  tryCatch (deleteVar name) fun _ => return

def handle (m : Machine) (e : Value) (name : Option String) (body : List Stmt) : Run Flow :=
  whileHandling e do
    match name with
    | none => m.exec body
    | some n =>
      assignVar n e
      finallyDo (m.exec body) (forgetName n)

/-- Runs statements and the handlers for their errors. -/
def attempt (m : Machine) (body : List Stmt) (handlers : List Handler) (orelse : List Stmt) :
    Run Flow := do
  let result : Except Value Flow ← tryCatch (.ok <$> m.exec body) fun r => match r with
    | .exception e => return .error e
    | .exhausted => throw r
  match result with
  | .ok .next => m.exec orelse
  | .ok flow => return flow
  | .error e =>
    match ← whileHandling e (findHandler m e handlers) with
    | some (name, body) => handle m e name body
    | none => raise e

/-- Runs statements in any case behind a computation; if they leave, that counts. -/
def withFinal (m : Machine) (final : List Stmt) (x : Run Flow) : Run Flow := do
  let result : Except Raised Flow ← tryCatch (.ok <$> x) fun r => return .error r
  match result with
  | .ok flow => match ← m.exec final with
    | .next => return flow
    | other => return other
  | .error .exhausted => throw .exhausted
  | .error (.exception e) => match ← whileHandling e (m.exec final) with
    | .next => raise e
    | other => return other

/-- Enters a context: the value it gives, and what is done when it is left, with or without an
error. -/
def enterContext (m : Machine) (v : Value) : Run (Value × (Option Value → Run Bool)) := do
  match v, ← object? v with
  | .ref a, some (.file f) =>
    if f.closed then failValue "I/O operation on closed file."
    return (v, fun _ => do
      if let .file f := ← object a then Method.closeFile a f
      return false)
  | _, some (.instance cls _ _) =>
    match ← findInClass cls "__enter__", ← findInClass cls "__exit__" with
    | some enter, some exit =>
      let given ← m.call enter [v] []
      return (given, fun e => do
        let args ← match e with
          | some e => do pure [← classOf e, e, .none]
          | none => pure [.none, .none, .none]
        truth m (← m.call exit (v :: args) []))
    | some _, none => failType ("'" ++ (← className cls) ++
        "' object does not support the context manager protocol (missed __exit__ method)")
    | _, _ => fail (.noManager (← className cls))
  | _, _ => fail (.noManager (← typeName v))

def withItems (m : Machine) (body : List Stmt) : List WithItem → Run Flow
  | [] => m.exec body
  | item :: rest => do
    let v ← m.eval item.context
    let (given, leave) ← enterContext m v
    let inside : Run Flow := do
      if let some target := item.target then assignTo m target given
      withItems m body rest
    let result : Except Raised Flow ← tryCatch (.ok <$> inside) fun r => return .error r
    match result with
    | .ok flow =>
      let _ ← leave none
      return flow
    | .error .exhausted => throw .exhausted
    | .error (.exception e) =>
      if ← whileHandling e (leave (some e)) then return .next else raise e

def importModule (a : Alias) : Run Unit := do
  let first := String.ofList (a.name.toList.takeWhile (· != '.'))
  if !isModule first then fail (.noModule first)
  if !isModule a.name then
    let message := "No module named '" ++ a.name ++ "'"
    let known := ["os", "json", "collections", "importlib", "urllib", "http", "unittest"]
    raise (← makeError "ModuleNotFoundError"
      [.text (if known.contains first then message
        else message ++ "; '" ++ first ++ "' is not a package")])
  match a.asName with
  | some n => assignVar n (if a.name = "os.path" then .module "posixpath" else .module a.name)
  | none => assignVar first (.module first)

def importNamesFrom (module : String) (names : List Alias) : Run Unit := do
  if !isModule module then fail (.noModule module)
  let module := if module = "os.path" then "posixpath" else module
  for a in names do
    match moduleAttr? module a.name with
    | some v => assignVar (a.asName.getD a.name) v
    | none => if a.name = "*" then return else fail (.cannotImport a.name module)

/-- Changes what a target stands for by an operator. -/
def augment (m : Machine) (target : Expr) (op : BinaryOp) (value : Expr) : Run Unit := do
  match target with
  | .name id =>
    let old ← lookupVar id
    assignVar id (← updated m op old (← m.eval value))
  | .attribute e name =>
    let v ← m.eval e
    let old ← getAttr m v name
    setAttr m v name (← updated m op old (← m.eval value))
  | .subscript e index =>
    let v ← m.eval e
    let i ← m.eval index
    let old ← getItem m v i
    setItem m (collect m) v i (← updated m op old (← m.eval value))
  | _ => fail (.misrun "no target")

def runCases (m : Machine) (v : Value) : List Case → Run Flow
  | [] => return .next
  | .mk pattern guard body :: rest => do
    if ← matchPattern m v pattern then
      let passes ← match guard with
        | some g => do truth m (← m.eval g)
        | none => pure true
      if passes then m.exec body else runCases m v rest
    else runCases m v rest

def execStmt (m : Machine) (s : Stmt) : Run Flow := do
  match s with
  | .expr e =>
    let _ ← m.eval e
    return .next
  | .assign targets value =>
    let v ← m.eval value
    for t in targets do assignTo m t v
    return .next
  | .augAssign target op value =>
    augment m target op value
    return .next
  | .annAssign target hint value simple =>
    let frame ← currentFrame
    if let some e := value then assignTo m target (← m.eval e)
    if frame.kind != .function || !simple then
      let _ ← m.eval hint
    return .next
  | .branch test body orelse =>
    if ← truth m (← m.eval test) then m.exec body else m.exec orelse
  | .forLoop isAsync target source body orelse =>
    if isAsync then fail (.unsupportedFeature "async for")
    let it ← iterator m (← m.eval source)
    afterLoop m orelse (← forRounds m it target body manyRounds)
  | .whileLoop test body orelse => do
    afterLoop m orelse (← whileRounds m test body manyRounds)
  | .function isAsync name params body decorators _ =>
    let ds ← decorators.mapM m.eval
    let f ← makeFunction m name params (.block body) (usageInBody body) (isAsync || yieldsIn body)
    assignVar name (← decorate m ds f)
    return .next
  | .cls name bases _ body decorators =>
    let ds ← decorators.mapM m.eval
    let bs ← evalItems m bases
    let c ← makeClass m name bs body
    assignVar name (← decorate m ds c)
    return .next
  | .ret value => do return .ret (← evalOptional m value)
  | .delete targets =>
    deleteAll m targets
    return .next
  | .withBlock isAsync items body =>
    if isAsync then fail (.unsupportedFeature "async with")
    withItems m body items
  | .matchOn subject cases => do runCases m (← m.eval subject) cases
  | .raise none _ => match (← get).handling with
    | e :: _ => raise e
    | [] => fail .nothingToRaise
  | .raise (some e) cause =>
    let v ← m.eval e
    let error ← raisable m v
    if let some c := cause then
      let _ ← m.eval c
    raise error
  | .attempt grouped body handlers orelse final =>
    if grouped then fail (.unsupportedFeature "except*")
    if final.isEmpty then attempt m body handlers orelse
    else withFinal m final (attempt m body handlers orelse)
  | .assertion test message =>
    if ← truth m (← m.eval test) then return .next
    else
      let args ← match message with
        | some e => do pure [← m.eval e]
        | none => pure []
      raise (← makeError "AssertionError" args)
  | .importNames names =>
    for a in names do importModule a
    return .next
  | .importFrom module names level =>
    if level > 0 then
      raise (← makeError "ImportError"
        [.text "attempted relative import with no known parent package"])
    importNamesFrom (module.getD "") names
    return .next
  | .global _ | .nonlocal _ | .pass => return .next
  | .stop => return .stop
  | .next => return .again

/-- Runs statements one after the other until one of them leads elsewhere. -/
def execAll (m : Machine) : List Stmt → Run Flow
  | [] => return .next
  | s :: ss => do
    match ← execStmt m s with
    | .next => execAll m ss
    | flow => return flow

end Conch.Eval
