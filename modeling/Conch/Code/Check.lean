import Conch.Code.Fault
import Conch.Code.Scope

/-!
# Rules beyond the grammar

A text that fits the grammar may still break a rule of the language: `return` belongs into a
function, `break` into a loop, a parameter has one name. Rules on names are checked for the whole
program before rules on places.
-/

namespace Conch.Code

/-- Where a statement stands. -/
structure Place where
  inFunction : Bool
  isAsync : Bool
  inLoop : Bool

def Place.top : Place := ⟨false, false, false⟩

/-- What an expression does to the function around it. -/
inductive Flow where
  | yields
  | awaits
  deriving DecidableEq, Repr

mutual

/-- The effects of an expression on the function that it stands in, in order; a lambda is a function
of its own. -/
def Expr.flows : Expr → List Flow
  | .boolean _ values => flowsIn values
  | .named _ value => value.flows
  | .binary _ left right => left.flows ++ right.flows
  | .unary _ operand => operand.flows
  | .lambda _ _ => []
  | .conditional test body orelse => test.flows ++ body.flows ++ orelse.flows
  | .dict items => flowsInItems items
  | .set items => flowsIn items
  | .listComp element clauses => flowsInClauses clauses ++ element.flows
  | .setComp element clauses => flowsInClauses clauses ++ element.flows
  | .dictComp key value clauses => flowsInClauses clauses ++ key.flows ++ value.flows
  | .generator element clauses => flowsInClauses clauses ++ element.flows
  | .await value => .awaits :: value.flows
  | .yield value => .yields :: flowsInOption value
  | .yieldFrom value => .yields :: value.flows
  | .compare left links => left.flows ++ flowsInLinks links
  | .call function args keywords => function.flows ++ flowsIn args ++ flowsInKeywords keywords
  | .field value _ format => value.flows ++ flowsInOption format
  | .template parts => flowsIn parts
  | .constant _ => []
  | .attribute value _ => value.flows
  | .subscript value index => value.flows ++ index.flows
  | .starred value => value.flows
  | .name _ => []
  | .list items => flowsIn items
  | .tuple items => flowsIn items
  | .slice lower upper step => flowsInOption lower ++ flowsInOption upper ++ flowsInOption step

def flowsIn : List Expr → List Flow
  | [] => []
  | e :: es => e.flows ++ flowsIn es

def flowsInOption : Option Expr → List Flow
  | none => []
  | some e => e.flows

def flowsInItems : List DictItem → List Flow
  | [] => []
  | .pair key value :: items => key.flows ++ value.flows ++ flowsInItems items
  | .spread value :: items => value.flows ++ flowsInItems items

def flowsInLinks : List Link → List Flow
  | [] => []
  | .mk _ right :: links => right.flows ++ flowsInLinks links

def flowsInKeywords : List Keyword → List Flow
  | [] => []
  | .named _ value :: keywords => value.flows ++ flowsInKeywords keywords
  | .spread value :: keywords => value.flows ++ flowsInKeywords keywords

def flowsInClauses : List Clause → List Flow
  | [] => []
  | .mk isAsync _ source conditions :: clauses =>
    (if isAsync then [.awaits] else []) ++ source.flows ++ flowsIn conditions ++
      flowsInClauses clauses

end

mutual

/-- The parameter lists inside an expression: those of its lambdas. -/
def Expr.signatures : Expr → List (List String)
  | .boolean _ values => signaturesIn values
  | .named _ value => value.signatures
  | .binary _ left right => left.signatures ++ right.signatures
  | .unary _ operand => operand.signatures
  | .lambda params body => params.paramNames :: body.signatures
  | .conditional test body orelse => test.signatures ++ body.signatures ++ orelse.signatures
  | .dict items => signaturesInItems items
  | .set items => signaturesIn items
  | .listComp element _ => element.signatures
  | .setComp element _ => element.signatures
  | .dictComp key value _ => key.signatures ++ value.signatures
  | .generator element _ => element.signatures
  | .await value => value.signatures
  | .yield value => signaturesInOption value
  | .yieldFrom value => value.signatures
  | .compare left links => left.signatures ++ signaturesInLinks links
  | .call function args keywords =>
    function.signatures ++ signaturesIn args ++ signaturesInKeywords keywords
  | .field value _ _ => value.signatures
  | .template parts => signaturesIn parts
  | .constant _ => []
  | .attribute value _ => value.signatures
  | .subscript value index => value.signatures ++ index.signatures
  | .starred value => value.signatures
  | .name _ => []
  | .list items => signaturesIn items
  | .tuple items => signaturesIn items
  | .slice _ _ _ => []

def signaturesIn : List Expr → List (List String)
  | [] => []
  | e :: es => e.signatures ++ signaturesIn es

def signaturesInOption : Option Expr → List (List String)
  | none => []
  | some e => e.signatures

def signaturesInItems : List DictItem → List (List String)
  | [] => []
  | .pair key value :: items => key.signatures ++ value.signatures ++ signaturesInItems items
  | .spread value :: items => value.signatures ++ signaturesInItems items

def signaturesInLinks : List Link → List (List String)
  | [] => []
  | .mk _ right :: links => right.signatures ++ signaturesInLinks links

def signaturesInKeywords : List Keyword → List (List String)
  | [] => []
  | .named _ value :: keywords => value.signatures ++ signaturesInKeywords keywords
  | .spread value :: keywords => value.signatures ++ signaturesInKeywords keywords

end

/-- The first name that occurs twice. -/
def repeated? : List String → Option String
  | [] => none
  | n :: ns => if ns.contains n then some n else repeated? ns

def duplicateParam? (names : List String) : Option Cause :=
  (repeated? names).map fun n =>
    .misplaced ("duplicate argument '" ++ n ++ "' in function definition")

def exprNameFault? (e : Expr) : Option Cause := e.signatures.findSome? duplicateParam?

def optionNameFault? (e : Option Expr) : Option Cause := e.bind exprNameFault?

/-- The scopes around a place: whether one is in a function, and the names that the functions around
it keep. -/
structure Enclosing where
  inFunction : Bool
  names : List String

mutual

/-- A broken rule on names. -/
def Stmt.nameFault? (around : Enclosing) : Stmt → Option Cause
  | .function _ _ params body decorators returns =>
    (decorators.findSome? exprNameFault?).or <| (optionNameFault? returns).or <|
      (duplicateParam? params.paramNames).or <|
        nameFaultIn? ⟨true, (usageInBody body).locals params.paramNames ++ around.names⟩ body
  | .cls _ bases _ body decorators =>
    (decorators.findSome? exprNameFault?).or <| (bases.findSome? exprNameFault?).or <|
      nameFaultIn? ⟨true, around.names⟩ body
  | .nonlocal names =>
    if !around.inFunction then
      some (.misplaced "nonlocal declaration not allowed at module level")
    else (names.find? fun n => !around.names.contains n).map fun n =>
      .misplaced ("no binding for nonlocal '" ++ n ++ "' found")
  | .importFrom _ names _ =>
    if around.inFunction && names.any (·.name == "*") then
      some (.misplaced "import * only allowed at module level")
    else none
  | .ret value => optionNameFault? value
  | .assign targets value => (targets.findSome? exprNameFault?).or (exprNameFault? value)
  | .augAssign _ _ value => exprNameFault? value
  | .annAssign _ _ value _ => optionNameFault? value
  | .forLoop _ _ source body orelse =>
    (exprNameFault? source).or <| (nameFaultIn? around body).or (nameFaultIn? around orelse)
  | .whileLoop test body orelse =>
    (exprNameFault? test).or <| (nameFaultIn? around body).or (nameFaultIn? around orelse)
  | .branch test body orelse =>
    (exprNameFault? test).or <| (nameFaultIn? around body).or (nameFaultIn? around orelse)
  | .withBlock _ items body =>
    (items.findSome? fun i => exprNameFault? i.context).or (nameFaultIn? around body)
  | .matchOn subject cases => (exprNameFault? subject).or (nameFaultInCases? around cases)
  | .attempt _ body handlers orelse final =>
    (nameFaultIn? around body).or <| (nameFaultInHandlers? around handlers).or <|
      (nameFaultIn? around orelse).or (nameFaultIn? around final)
  | .assertion test _ => exprNameFault? test
  | .raise exception _ => optionNameFault? exception
  | .expr value => exprNameFault? value
  | .delete _ | .importNames _ | .global _ | .pass | .stop | .next => none

def nameFaultIn? (around : Enclosing) : List Stmt → Option Cause
  | [] => none
  | s :: ss => (s.nameFault? around).or (nameFaultIn? around ss)

def nameFaultInCases? (around : Enclosing) : List Case → Option Cause
  | [] => none
  | .mk _ _ body :: cases => (nameFaultIn? around body).or (nameFaultInCases? around cases)

def nameFaultInHandlers? (around : Enclosing) : List Handler → Option Cause
  | [] => none
  | .mk _ _ body :: handlers =>
    (nameFaultIn? around body).or (nameFaultInHandlers? around handlers)

end

def flowFault? (place : Place) (flows : List Flow) : Option Cause :=
  flows.findSome? fun f => match f with
    | .yields => if place.inFunction then none else some (.misplaced "'yield' outside function")
    | .awaits =>
      if !place.inFunction then some (.misplaced "'await' outside function")
      else if !place.isAsync then some (.misplaced "'await' outside async function")
      else none

def exprFault? (place : Place) (e : Expr) : Option Cause := flowFault? place e.flows

def exprsFault? (place : Place) (es : List Expr) : Option Cause := flowFault? place (flowsIn es)

def optionFault? (place : Place) (e : Option Expr) : Option Cause :=
  flowFault? place (flowsInOption e)

def asyncFault? (place : Place) (isAsync : Bool) (what : String) : Option Cause :=
  if isAsync && !place.isAsync then
    some (.misplaced ("'async " ++ what ++ "' outside async function"))
  else none

mutual

/-- A broken rule on places. -/
def Stmt.placeFault? (place : Place) : Stmt → Option Cause
  | .function isAsync _ _ body decorators _ =>
    (exprsFault? place decorators).or (placeFaultIn? ⟨true, isAsync, false⟩ body)
  | .cls _ bases _ body decorators =>
    (exprsFault? place decorators).or <| (exprsFault? place bases).or
      (placeFaultIn? ⟨false, false, false⟩ body)
  | .ret value =>
    if !place.inFunction then some (.misplaced "'return' outside function")
    else optionFault? place value
  | .delete targets => exprsFault? place targets
  | .assign targets value => (exprFault? place value).or (exprsFault? place targets)
  | .augAssign target _ value => exprsFault? place [target, value]
  | .annAssign _ _ value _ => optionFault? place value
  | .forLoop isAsync _ source body orelse =>
    (asyncFault? place isAsync "for").or <| (exprFault? place source).or <|
      (placeFaultIn? { place with inLoop := true } body).or (placeFaultIn? place orelse)
  | .whileLoop test body orelse =>
    (exprFault? place test).or <|
      (placeFaultIn? { place with inLoop := true } body).or (placeFaultIn? place orelse)
  | .branch test body orelse =>
    (exprFault? place test).or <| (placeFaultIn? place body).or (placeFaultIn? place orelse)
  | .withBlock isAsync items body =>
    (asyncFault? place isAsync "with").or <|
      (exprsFault? place (items.map (·.context))).or (placeFaultIn? place body)
  | .matchOn subject cases => (exprFault? place subject).or (placeFaultInCases? place cases)
  | .raise exception cause => (optionFault? place exception).or (optionFault? place cause)
  | .attempt _ body handlers orelse final =>
    (placeFaultIn? place body).or <| (placeFaultInHandlers? place handlers).or <|
      (placeFaultIn? place orelse).or (placeFaultIn? place final)
  | .assertion test message => (exprFault? place test).or (optionFault? place message)
  | .expr value => exprFault? place value
  | .stop => if place.inLoop then none else some (.misplaced "'break' outside loop")
  | .next =>
    if place.inLoop then none else some (.misplaced "'continue' not properly in loop")
  | .importNames _ | .importFrom _ _ _ | .global _ | .nonlocal _ | .pass => none

def placeFaultIn? (place : Place) : List Stmt → Option Cause
  | [] => none
  | s :: ss => (s.placeFault? place).or (placeFaultIn? place ss)

def placeFaultInCases? (place : Place) : List Case → Option Cause
  | [] => none
  | .mk _ _ body :: cases => (placeFaultIn? place body).or (placeFaultInCases? place cases)

def placeFaultInHandlers? (place : Place) : List Handler → Option Cause
  | [] => none
  | .mk _ _ body :: handlers =>
    (placeFaultIn? place body).or (placeFaultInHandlers? place handlers)

end

/-- The first rule beyond the grammar that a program breaks. -/
def Program.fault? : Program → Option Cause
  | .module body | .interactive body =>
    (nameFaultIn? ⟨false, []⟩ body).or (placeFaultIn? Place.top body)
  | .expression e => (exprNameFault? e).or (exprFault? Place.top e)

end Conch.Code
