import Conch.Code.Grammar.Pattern

/-!
# The grammar of statements

Simple statements stand on a line, separated by semicolons. A compound statement ends in a block:
the rest of its line or the indented lines below it.
-/

namespace Conch.Code.Grammar

open Reader

variable (g : Grammar)

def augmented : List (String × BinaryOp) :=
  [("+=", .add), ("-=", .sub), ("*=", .mul), ("@=", .matMul), ("/=", .div), ("%=", .mod),
    ("&=", .bitAnd), ("|=", .bitOr), ("^=", .bitXor), ("<<=", .shiftLeft), (">>=", .shiftRight),
    ("**=", .pow), ("//=", .floorDiv)]

def yieldOrStar : Reader Expr := do
  if ← nextWord "yield" then g.yieldExpression g.starExpressions else g.starExpressions

/-- Whether an expression binds at least as tightly as `|`, and so reads as one side of `==`. -/
def isOperand : Expr → Bool
  | .boolean .. | .compare .. | .conditional .. | .lambda .. | .starred _ | .tuple _ | .list _
  | .generator .. | .unary .not _ | .constant .none | .constant (.bool _) | .named .. | .yield _
  | .yieldFrom _ => false
  | _ => true

/-- Refuses a left-hand side that nothing can be assigned to. -/
def checkTarget (start : Token) (e : Expr) : Reader Unit :=
  match wrongTarget? e with
  | none => return ()
  | some wrong =>
    if isOperand wrong then fault (.cannotAssignHere wrong.targetName) start
    else fault (.cannotAssign wrong.targetName) start

/-- A chain of assignments behind its first left-hand side. -/
def assignment (start : Token) (first : Expr) : Reader Stmt := do
  let (targets, value) ← extend (([] : List Expr), first) fun (targets, last) => do
    if ← nextMark "=" then
      checkTarget start last
      drop
      return some (targets ++ [last], ← g.yieldOrStar)
    else return none
  return .assign targets value

def isSingleTarget : Expr → Bool
  | .name _ | .attribute .. | .subscript .. => true
  | _ => false

/-- An expression that stands alone or starts an assignment. -/
def expressionStatement : Reader Stmt := do
  let start ← peek
  let first ← g.starExpressions
  if ← nextMark "=" then g.assignment start first
  else if ← nextMark ":" then
    unless isSingleTarget first do mismatch
    drop
    let hint ← g.expressionStep
    let value ← if ← mark? "=" then some <$> g.yieldOrStar else pure none
    let simple := match first with
      | .name _ => start.kind == .word
      | _ => false
    return .annAssign first hint value simple
  else match ← markIn? augmented with
    | some op =>
      unless isSingleTarget first do
        fault (.badLiteral ("'" ++ first.targetName ++
          "' is an illegal expression for augmented assignment")) start
      return .augAssign first op (← g.yieldOrStar)
    | none => return .expr first

def dotted : Reader String := do
  let first ← name
  extend first fun n => do
    if ← mark? "." then return some (n ++ "." ++ (← name)) else return none

def importedName (n : Reader String) : Reader Alias := do
  let first ← n
  let asName ← if ← word? "as" then some <$> name else pure none
  return ⟨first, asName⟩

def importDots : Reader Nat := do
  let counts ← many do
    if ← mark? "." then return some 1
    else if ← mark? "..." then return some 3
    else return none
  return counts.foldl (· + ·) 0

def importFrom : Reader Stmt := do
  word "from"
  let level ← importDots
  let module ← if ← nextWord "import" then pure none else some <$> dotted
  if level == 0 && module.isNone then mismatch
  word "import"
  if ← mark? "*" then return .importFrom module [⟨"*", none⟩] level
  if ← mark? "(" then
    let (names, _) ← commaSeparated (importedName name)
    mark ")"
    return .importFrom module names level
  let (names, comma) ← commaSeparated (importedName name)
  if comma then mismatch
  return .importFrom module names level

def importNames : Reader Stmt := do
  word "import"
  let (names, comma) ← commaSeparated (importedName dotted)
  if comma then mismatch
  return .importNames names

def nameList : Reader (List String) := do
  let (names, comma) ← commaSeparated name
  if comma then mismatch
  return names

def deletion : Reader Stmt := do
  word "del"
  let start ← peek
  let item : Reader Expr := do
    if ← mark? "*" then return .starred (← g.bitwiseOr)
    g.expressionStep
  let (targets, _) ← commaSeparated item
  let wrong := targets.findSome? fun t => match t with
    | .starred e => some (.starred e)
    | t => wrongTarget? t
  match wrong with
  | some w => fault (.cannotDelete w.targetName) start
  | none =>
    unless (← nextMark ";") || (← peek).kind == .newline do mismatch
    return .delete targets

def raising : Reader Stmt := do
  word "raise"
  let t ← peek
  if t.kind == .newline || isMark t ";" then return .raise none none
  let e ← attempt g.expressionStep
  match e with
  | none => return .raise none none
  | some e =>
    if ← word? "from" then return .raise (some e) (some (← g.expressionStep))
    return .raise (some e) none

def simpleStatement : Reader Stmt := do
  let t ← peek
  if t.kind == .word then
    match t.text with
    | "pass" => drop; return .pass
    | "break" => drop; return .stop
    | "continue" => drop; return .next
    | "return" => drop; return .ret (← attempt g.starExpressions)
    | "raise" => g.raising
    | "del" => g.deletion
    | "yield" => return .expr (← g.yieldExpression g.starExpressions)
    | "assert" =>
      drop
      let test ← g.expressionStep
      let message ← if ← mark? "," then some <$> g.expressionStep else pure none
      return .assertion test message
    | "global" => drop; return .global (← nameList)
    | "nonlocal" => drop; return .nonlocal (← nameList)
    | "import" => importNames
    | "from" => importFrom
    | _ => g.expressionStatement
  else g.expressionStatement

/-- The statements of a line and the line end. -/
def simpleLine : Reader (List Stmt) := do
  let first ← g.simpleStatement
  let rest ← many do
    if ← mark? ";" then
      if (← peek).kind == .newline then return none
      return some (← g.simpleStatement)
    else return none
  kind .newline
  return first :: rest

def statementsUntilDedent : Reader (List Stmt) := do
  let first ← g.statement
  let rest ← many do
    if (← peek).kind == .dedent then return none
    return some (← g.statement)
  return first ++ rest.flatten

def block : Reader (List Stmt) := do
  mark ":"
  if (← peek).kind == .newline then
    drop
    kind .indent
    let body ← g.statementsUntilDedent
    kind .dedent
    return body
  g.simpleLine

def elseBlock : Reader (List Stmt) := do
  if ← word? "else" then g.block else return []

def decorators : Reader (List Expr) := many do
  if ← mark? "@" then
    let e ← g.namedExpression
    kind .newline
    return some e
  else return none

def functionDef (isAsync : Bool) (decorators : List Expr) : Reader Stmt := do
  word "def"
  let n ← name
  mark "("
  let ps ← g.params (g.defParam g.bitwiseOr) ")"
  mark ")"
  let returns ← if ← mark? "->" then some <$> g.expressionStep else pure none
  return .function isAsync n ps (← g.block) decorators returns

def classDef (decorators : List Expr) : Reader Stmt := do
  word "class"
  let n ← name
  let (bases, kws) ← if ← mark? "(" then g.plainArguments else pure ([], [])
  return .cls n bases kws (← g.block) decorators

/-- `else` and `elif` parts, the last one first: each `elif` nests in the one before. -/
def elifParts : Reader (List (Expr × List Stmt)) := many do
  if ← word? "elif" then
    let test ← g.namedExpression
    return some (test, ← g.block)
  else return none

def branch : Reader Stmt := do
  word "if"
  let test ← g.namedExpression
  let body ← g.block
  let parts ← g.elifParts
  let last ← g.elseBlock
  let orelse := parts.foldr (fun (t, b) rest => [Stmt.branch t b rest]) last
  return .branch test body orelse

def whileLoop : Reader Stmt := do
  word "while"
  let test ← g.namedExpression
  let body ← g.block
  return .whileLoop test body (← g.elseBlock)

def forLoop (isAsync : Bool) : Reader Stmt := do
  word "for"
  let target ← loopTargets g.primary
  word "in"
  let source ← g.starExpressions
  let body ← g.block
  return .forLoop isAsync target source body (← g.elseBlock)

def withItem : Reader WithItem := do
  let e ← g.expressionStep
  let target ← attempt do
    word "as"
    let starred ← mark? "*"
    let t ← g.primary
    unless wrongTarget? t |>.isNone do mismatch
    unless (← nextMark ",") || (← nextMark ")") || (← nextMark ":") do mismatch
    return if starred then Expr.starred t else t
  return ⟨e, target⟩

def withBlock (isAsync : Bool) : Reader Stmt := do
  word "with"
  let grouped : Reader (List WithItem) := do
    mark "("
    let (items, _) ← commaSeparated g.withItem
    mark ")"
    unless ← nextMark ":" do mismatch
    return items
  let plain : Reader (List WithItem) := do
    let (items, comma) ← commaSeparated g.withItem
    if comma then mismatch
    return items
  let items ← if ← nextMark "(" then orElse grouped plain else plain
  return .withBlock isAsync items (← g.block)

structure HandlersRead where
  handlers : List Handler
  grouped : Bool

def handler (grouped : Bool) : Reader Handler := do
  if grouped then mark "*"
  if ← nextMark ":" then
    if grouped then mismatch
    return .mk none none (← g.block)
  let e ← g.expressionStep
  let n ← if ← word? "as" then some <$> name else pure none
  return .mk (some e) n (← g.block)

def attemptBlock : Reader Stmt := do
  word "try"
  let body ← g.block
  if ← word? "finally" then return .attempt false body [] [] (← g.block)
  word "except"
  let grouped ← nextMark "*"
  let first ← g.handler grouped
  let rest ← many do
    if ← word? "except" then return some (← g.handler grouped) else return none
  let orelse ← g.elseBlock
  let final ← if ← word? "finally" then g.block else pure []
  return .attempt grouped body (first :: rest) orelse final

def subject : Reader Expr := do
  let item : Reader Expr := do
    if ← mark? "*" then return .starred (← g.bitwiseOr)
    g.namedExpression
  let (items, comma) ← commaSeparated item
  match items, comma with
  | [.starred _], false => mismatch
  | [e], false => return e
  | es, _ => return .tuple es

def caseBlock : Reader Case := do
  word "case"
  let p ← g.openPattern
  let guard ← if ← word? "if" then some <$> g.namedExpression else pure none
  return .mk p guard (← g.block)

def matchOn : Reader Stmt := do
  word "match"
  let s ← g.subject
  mark ":"
  kind .newline
  kind .indent
  let first ← g.caseBlock
  let rest ← many do
    if ← nextWord "case" then return some (← g.caseBlock) else return none
  kind .dedent
  return .matchOn s (first :: rest)

def compound? : Reader (Option Stmt) := do
  let t ← peek
  if isMark t "@" then
    let ds ← g.decorators
    if ← nextWord "class" then return some (← g.classDef ds)
    let isAsync ← word? "async"
    return some (← g.functionDef isAsync ds)
  else if t.kind == .word then
    match t.text with
    | "def" => return some (← g.functionDef false [])
    | "if" => return some (← g.branch)
    | "class" => return some (← g.classDef [])
    | "with" => return some (← g.withBlock false)
    | "for" => return some (← g.forLoop false)
    | "try" => return some (← g.attemptBlock)
    | "while" => return some (← g.whileLoop)
    | "async" =>
      drop
      if ← nextWord "def" then return some (← g.functionDef true [])
      else if ← nextWord "with" then return some (← g.withBlock true)
      else return some (← g.forLoop true)
    | "match" => attempt g.matchOn
    | _ => return none
  else return none

def statementStep : Reader (List Stmt) := do
  match ← g.compound? with
  | some s => return [s]
  | none => g.simpleLine

/-- All statements up to the end of the text. -/
def moduleBody : Reader (List Stmt) := do
  let body ← many do
    match (← peek).kind with
    | .finish _ => return none
    | _ => return some (← g.statementStep)
  return body.flatten

/-- What is typed at a prompt. -/
def promptBody : Reader (List Stmt) := do
  match (← peek).kind with
  | .newline => drop; return [.pass]
  | _ =>
    match ← g.compound? with
    | some s => kind .newline; return [s]
    | none => g.simpleLine

/-- An expression and nothing more. -/
def wholeExpression : Reader Expr := do
  let (items, comma) ← commaSeparated g.expressionStep
  let _ ← many do
    if (← peek).kind == .newline then drop; return some () else return none
  match (← peek).kind with
  | .finish _ =>
    match items, comma with
    | [e], false => return e
    | es, _ => return .tuple es
  | _ => mismatch

end Conch.Code.Grammar

namespace Conch.Code

/-- The grammar for so many levels of nesting. -/
def grammar : Nat → Grammar
  | 0 => ⟨Reader.mismatch, Reader.mismatch, Reader.mismatch, Reader.mismatch, Reader.mismatch⟩
  | n + 1 =>
    let g := grammar n
    ⟨g.expressionStep, g.inversionStep, g.factorStep, g.patternStep, g.statementStep⟩

end Conch.Code
