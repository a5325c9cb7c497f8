import Conch.Code.Yield
import Conch.Eval.Comprehension
import Conch.Eval.Library.Function

/-!
# Expressions
-/

namespace Conch.Eval

open Code

def constantValue (c : Constant) : Run Value :=
  match c with
  | .none => return .none
  | .bool b => return .bool b
  | .ellipsis => return .ellipsis
  | .int n => return .int n
  | .float x => return .float x
  | .imaginary _ => fail (.unsupportedFeature "complex numbers")
  | .text s _ => return .text s
  | .bytes b => return .bytes b

/-- The first operand that decides, or the last. -/
def evalBoolean (m : Machine) (op : BoolOp) : List Expr → Run Value
  | [] => return .none
  | [e] => m.eval e
  | e :: es => do
    let v ← m.eval e
    if (← truth m v) == (op = .or) then return v else evalBoolean m op es

def evalLinks (m : Machine) (left : Value) : List Link → Run Value
  | [] => return left
  | [.mk op e] => do compareWith m op left (← m.eval e)
  | .mk op e :: rest => do
    let right ← m.eval e
    let r ← compareWith m op left right
    if ← truth m r then evalLinks m right rest else return r

/-- Values of a list, where starred ones stand for several. -/
def evalItems (m : Machine) : List Expr → Run (List Value)
  | [] => return []
  | .starred e :: es => do
    let v ← m.eval e
    let it ← catching "TypeError" (iterator m v) fun _ => do
      failType ("Value after * must be an iterable, not " ++ (← typeName v))
    let vs ← collect m it
    return vs ++ (← evalItems m es)
  | e :: es => do
    let v ← m.eval e
    return v :: (← evalItems m es)

def evalEntries (m : Machine) (entries : List (Value × Value)) :
    List DictItem → Run (List (Value × Value))
  | [] => return entries
  | .pair k v :: items => do
    let key ← m.eval k
    let value ← m.eval v
    ensureKey key
    evalEntries m (← putEntry m key value entries) items
  | .spread e :: items => do
    let v ← m.eval e
    match ← object? v with
    | some (.dict es) => evalEntries m (← Method.putAll m entries es) items
    | _ => failType ("'" ++ (← typeName v) ++ "' object is not a mapping")

def evalKeywords (m : Machine) (keywords : Vars) : List Keyword → Run Vars
  | [] => return keywords
  | .named name e :: rest => do
    let v ← m.eval e
    evalKeywords m (keywords ++ [(name, v)]) rest
  | .spread e :: rest => do
    let v ← m.eval e
    match ← object? v with
    | some (.dict es) =>
      let more ← es.mapM fun (k, v) => do
        match k with
        | .text t => return (t, v)
        | _ => failType "keywords must be strings"
      match more.find? fun (k, _) => keywords.contains k with
      | some (k, _) =>
        failType ("got multiple values for keyword argument '" ++ k ++ "'")
      | none => evalKeywords m (keywords ++ more) rest
    | _ => failType ("argument after ** must be a mapping, not " ++ (← typeName v))

def evalOptional (m : Machine) (e : Option Expr) : Run Value :=
  match e with
  | some e => m.eval e
  | none => return .none

/-- The parts of a template joined to one text. -/
def evalParts (m : Machine) (done : String) : List Expr → Run String
  | [] => return done
  | e :: es => do
    match ← m.eval e with
    | .text s => evalParts m (done ++ s) es
    | v => do evalParts m (done ++ (← display m v)) es

def paramDefaults (m : Machine) : List Param → Run Vars
  | [] => return []
  | .mk name _ default :: ps => do
    match default with
    | some e =>
      let v ← m.eval e
      return (name, v) :: (← paramDefaults m ps)
    | none => paramDefaults m ps

/-- Makes a function in the current frame. -/
def makeFunction (m : Machine) (name : String) (params : Params) (body : Body) (usage : Usage)
    (yields : Bool) : Run Value := do
  let .mk positional plain _ keywordOnly _ := params
  let defaults ← paramDefaults m (positional ++ plain ++ keywordOnly)
  let frame ← currentFrame
  let names := params.paramNames
  let scope : Scope := ⟨usage.locals names, usage.free names, usage.nonlocals, usage.globals⟩
  let owner := if frame.kind = .cls then frame.owner else none
  make (.function
    ⟨name, frame.label ++ name, params, defaults, body, frame.globals, some (← get).frame, scope,
      yields, owner⟩)

/-- Gives all values of another succession. -/
def giveAll (m : Machine) (v : Value) : Run Value := do
  let it ← iterator m v
  foldIterator m it (fun x _ => giveValue x) manyRounds ()
  return .none

/-- Evaluates an expression, its parts by `m`. -/
def evalExpr (m : Machine) (e : Expr) : Run Value := do
  match e with
  | .constant c => constantValue c
  | .name id => lookupVar id
  | .boolean op values => evalBoolean m op values
  | .named target value =>
    let v ← m.eval value
    match target with
    | .name id =>
      assignNamed id v
      return v
    | _ => return v
  | .binary op left right =>
    let a ← m.eval left
    let b ← m.eval right
    binary m op a b
  | .unary op operand => do unary m op (← m.eval operand)
  | .lambda params body => makeFunction m "<lambda>" params (.result body) body.usage false
  | .conditional test body orelse =>
    if ← truth m (← m.eval test) then m.eval body else m.eval orelse
  | .dict items => do make (.dict (← evalEntries m [] items))
  | .set items => do make (.set (← setOfList m (← evalItems m items)) false)
  | .listComp element clauses => do
    make (.list (← comprehend m element.usage clauses (m.eval element)))
  | .setComp element clauses => do
    let vs ← comprehend m element.usage clauses (m.eval element)
    make (.set (← setOfList m vs) false)
  | .dictComp key value clauses => do
    let pairs ← comprehend m (key.usage ++ value.usage) clauses (do
      let k ← m.eval key
      ensureKey k
      return .tuple [k, ← m.eval value])
    make (.dict (← Method.putAll m [] (pairs.filterMap fun p => match p with
      | .tuple [k, v] => some (k, v)
      | _ => none)))
  | .generator element clauses => do
    let (it, frame) ← enterComprehension m element.usage clauses
    make (.iterator "generator" (.comprehension frame element clauses it))
  | .await _ => fail (.unsupportedFeature "await")
  | .yield value =>
    giveValue (← evalOptional m value)
    return .none
  | .yieldFrom value => do giveAll m (← m.eval value)
  | .compare left links => do evalLinks m (← m.eval left) links
  | .call function args keywords =>
    let f ← m.eval function
    let vs ← evalItems m args
    let ks ← evalKeywords m [] keywords
    m.call f vs ks
  | .field value conversion format =>
    let v ← m.eval value
    let v ← converted m conversion v
    let spec ← match format with
      | none => pure ""
      | some e => do match ← m.eval e with
        | .text s => pure s
        | other => display m other
    .text <$> formatted m v spec
  | .template parts => .text <$> evalParts m "" parts
  | .attribute value name => do getAttr m (← m.eval value) name
  | .subscript value index =>
    let v ← m.eval value
    getItem m v (← m.eval index)
  | .starred _ => fail (.misrun "starred expression")
  | .list items => do make (.list (← evalItems m items))
  | .tuple items => do return .tuple (← evalItems m items)
  | .slice lower upper step =>
    let a ← evalOptional m lower
    let b ← evalOptional m upper
    return .slice a b (← evalOptional m step)

end Conch.Eval
