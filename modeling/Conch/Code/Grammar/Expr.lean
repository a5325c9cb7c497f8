import Conch.Code.Grammar.Template
import Conch.Code.Reader

/-!
# The grammar of expressions

One reader per level of precedence. Where a rule comes back to itself below a token it goes through
a `Grammar`, the readers of one level less of nesting, so that no reader here is recursive.
-/

namespace Conch.Code

open Reader

/-- The readers that rules refer back to. -/
structure Grammar where
  expression : Reader Expr
  inversion : Reader Expr
  factor : Reader Expr
  pattern : Reader Pattern
  statement : Reader (List Stmt)

namespace Grammar

variable (g : Grammar)

def binaryLevel (ops : List (String × BinaryOp)) (operand : Reader Expr) : Reader Expr := do
  extend (← operand) fun left => do
    match ← markIn? ops with
    | none => return none
    | some op => return some (.binary op left (← operand))

/-- Words that start a comprehension. -/
def nextClause : Reader Bool := return (← nextWord "for") || (← nextWord "async")

def namedExpression : Reader Expr := do
  let t ← peek
  if isName t then
    if isMark (← peekSecond) ":=" then
      drop
      drop
      return .named (.name t.text) (← g.expression)
  let e ← g.expression
  if ← nextMark ":=" then mismatch
  return e

/-- What keeps an expression from being a left-hand side. -/
def wrongTarget? : Expr → Option Expr
  | .name _ | .attribute .. | .subscript .. => none
  | .starred e => wrongTarget? e
  | .tuple es | .list es => firstWrong? es
  | e => some e
where
  firstWrong? : List Expr → Option Expr
    | [] => none
    | e :: es => match wrongTarget? e with
      | some w => some w
      | none => firstWrong? es

def yieldExpression (starExpressions : Reader Expr) : Reader Expr := do
  word "yield"
  if ← word? "from" then return .yieldFrom (← g.expression)
  return .yield (← attempt starExpressions)

/-- The literals that stand side by side. -/
def literals : Reader (List Token) := many do
  let t ← peek
  if t.kind == .literal then
    drop
    return some t
  else return none

/-- Reads the expression of a replacement field, as if in parentheses. -/
def fieldExpression (text : List Char) : Except Cause Expr :=
  let tokens := Scan.tokens (Scan.unifyLines ('(' :: text ++ [')']))
  match (g.expression.run ⟨tokens, 0, 0⟩).1 with
  | .ok e => .ok e
  | .error (.fault f) => .error (.badTemplate f.cause.message)
  | .error .mismatch => .error (.badTemplate "invalid syntax")

def strings : Reader Expr := do
  let first ← peek
  let ts ← literals
  match Template.join g.fieldExpression (ts.map fun t => t.text.toList) with
  | .ok e => return e
  | .error cause => fault cause first

def number : Reader Expr := do
  let t ← peek
  match Literal.numberValue t.text with
  | .ok c => drop; return .constant c
  | .error cause => fault cause t

def lambdaParam (name : String) : Reader Param := return .mk name none none

/-- A parameter with its hint; only after `*` may that be starred. -/
def defParam (bitwiseOr : Reader Expr) (starHint : Bool) (name : String) : Reader Param := do
  if ← mark? ":" then
    if starHint then
      if ← mark? "*" then return .mk name (some (.starred (← bitwiseOr))) none
    return .mk name (some (← g.expression)) none
  else return .mk name none none

/-- What has been read of a parameter list. -/
structure ParamsRead where
  positional : List Param
  plain : List Param
  rest : Option Param
  keywordOnly : List Param
  keywordRest : Option Param
  /-- A parameter with a default has been seen. -/
  defaulted : Bool
  /-- A star has been seen. -/
  starred : Bool
  /-- A bare star still needs a parameter behind it. -/
  bare : Bool
  slashed : Bool

def withDefault (p : Param) (d : Option Expr) : Param :=
  match p with
  | .mk name hint _ => .mk name hint d

/-- One item of a parameter list. -/
def paramItem (param : Bool → String → Reader Param) (r : ParamsRead) : Reader ParamsRead := do
  if r.keywordRest.isSome then mismatch
  if ← mark? "**" then
    if r.bare then mismatch
    let p ← param false (← name)
    return { r with keywordRest := some p }
  else if ← mark? "*" then
    if r.starred then mismatch
    if ← nextMark "," then return { r with starred := true, bare := true }
    let p ← param true (← name)
    return { r with starred := true, rest := some p }
  else if ← mark? "/" then
    if r.slashed || r.starred || r.plain.isEmpty then mismatch
    return { r with slashed := true, positional := r.plain, plain := [] }
  else
    let p ← param false (← name)
    let d ← if ← mark? "=" then some <$> g.expression else pure none
    if r.starred then
      return { r with keywordOnly := r.keywordOnly ++ [withDefault p d], bare := false }
    else if d.isNone && r.defaulted then mismatch
    else
      return { r with plain := r.plain ++ [withDefault p d], defaulted := r.defaulted || d.isSome }

/-- A parameter list up to its closing mark, which stays. -/
def params (param : Bool → String → Reader Param) (closing : String) : Reader Params := do
  let start : ParamsRead := ⟨[], [], none, [], none, false, false, false, false⟩
  if ← nextMark closing then return .mk [] [] none [] none
  let first ← g.paramItem param start
  let all ← extend first fun r => do
    if ← mark? "," then
      if ← nextMark closing then return none
      return some (← g.paramItem param r)
    else return none
  if all.bare then mismatch
  unless ← nextMark closing do mismatch
  return .mk all.positional all.plain all.rest all.keywordOnly all.keywordRest

def lambda : Reader Expr := do
  word "lambda"
  let ps ← g.params (fun _ n => lambdaParam n) ":"
  mark ":"
  return .lambda ps (← g.expression)

/-- Positional and named arguments as far as they have been read. -/
structure ArgsRead where
  args : List Expr
  keywords : List Keyword
  spread : Bool

def keywordName? : Reader (Option String) := do
  let t ← peek
  if isName t then
    if isMark (← peekSecond) "=" then
      drop
      drop
      return some t.text
  return none

def argItem (r : ArgsRead) : Reader ArgsRead := do
  if ← mark? "**" then
    return { r with keywords := r.keywords ++ [.spread (← g.expression)], spread := true }
  else if ← mark? "*" then
    if r.spread then mismatch
    return { r with args := r.args ++ [.starred (← g.expression)] }
  else
    match ← keywordName? with
    | some n => return { r with keywords := r.keywords ++ [.named n (← g.expression)] }
    | none =>
      if !r.keywords.isEmpty then mismatch
      let e ← g.namedExpression
      return { r with args := r.args ++ [e] }

/-- The targets of a loop: what may stand between `for` and `in`. -/
def loopTargets (primary : Reader Expr) : Reader Expr := do
  let item : Reader Expr := do
    let starred ← mark? "*"
    let e ← primary
    unless wrongTarget? e |>.isNone do mismatch
    match e with
    | .starred _ => mismatch
    | _ => return if starred then .starred e else e
  let (items, comma) ← commaSeparated item
  match items, comma with
  | [e], false => return e
  | es, _ => return .tuple es

def compareOp? : Reader (Option CompareOp) := do
  let table : List (String × CompareOp) :=
    [("==", .eq), ("!=", .ne), ("<=", .le), ("<", .lt), (">=", .ge), (">", .gt)]
  match ← markIn? table with
  | some op => return some op
  | none =>
    if ← nextWord "not" then
      if isWord (← peekSecond) "in" then
        drop
        drop
        return some .notIn
      else return none
    else if ← word? "in" then return some .isIn
    else if ← word? "is" then
      if ← word? "not" then return some .isNot else return some .is
    else return none

def conjunction (inversion : Reader Expr) : Reader Expr := do
  let first ← inversion
  let rest ← many do
    if ← word? "and" then return some (← inversion) else return none
  return if rest.isEmpty then first else .boolean .and (first :: rest)

def disjunctionOf (inversion : Reader Expr) : Reader Expr := do
  let first ← conjunction inversion
  let rest ← many do
    if ← word? "or" then return some (← conjunction inversion) else return none
  return if rest.isEmpty then first else .boolean .or (first :: rest)

def clause (primary : Reader Expr) : Reader (Option Clause) := do
  let isAsync ← word? "async"
  unless ← word? "for" do
    if isAsync then mismatch
    return none
  let target ← loopTargets primary
  word "in"
  let source ← disjunctionOf g.inversion
  let conditions ← many do
    if ← word? "if" then return some (← disjunctionOf g.inversion) else return none
  return some (.mk isAsync target source conditions)

def clauses (primary : Reader Expr) : Reader (List Clause) := many (g.clause primary)

/-- Arguments behind a first one, up to and with the closing parenthesis. -/
def moreArguments (first : ArgsRead) : Reader (List Expr × List Keyword) := do
  let all ← extend first fun r => do
    if ← mark? "," then
      if ← nextMark ")" then return none
      return some (← g.argItem r)
    else return none
  mark ")"
  return (all.args, all.keywords)

/-- Arguments behind an opening parenthesis, up to and with the closing one. -/
def plainArguments : Reader (List Expr × List Keyword) := do
  if ← mark? ")" then return ([], [])
  g.moreArguments (← g.argItem ⟨[], [], false⟩)

/-- Arguments of a call, which may also be one comprehension without parentheses of its own. -/
def arguments (primary : Reader Expr) : Reader (List Expr × List Keyword) := do
  if ← mark? ")" then return ([], [])
  let first ← g.argItem ⟨[], [], false⟩
  if ← nextClause then
    match first with
    | ⟨[e], [], _⟩ =>
      match e with
      | .starred _ => mismatch
      | _ =>
        let cs ← g.clauses primary
        mark ")"
        return ([.generator e cs], [])
    | _ => mismatch
  g.moreArguments first

def sliceItem : Reader Expr := do
  if ← mark? "*" then return .starred (← g.expression)
  let lower ← if ← nextMark ":" then pure none else some <$> g.namedExpression
  let plain ← match lower with
    | some (.named ..) => pure true
    | some _ => pure !(← nextMark ":")
    | none => pure false
  match plain, lower with
  | true, some e => return e
  | _, _ =>
    mark ":"
    let isBound : Reader Bool := return !(← nextMark ":") && !(← nextMark ",") && !(← nextMark "]")
    let upper ← if ← isBound then some <$> g.expression else pure none
    let step ← if ← mark? ":" then
        if ← isBound then some <$> g.expression else pure none
      else pure none
    return .slice lower upper step

def slices : Reader Expr := do
  let (items, comma) ← commaSeparated g.sliceItem
  match items, comma with
  | [.starred e], false => return .tuple [.starred e]
  | [e], false => return e
  | es, _ => return .tuple es

def starNamed (bitwiseOr : Reader Expr) : Reader Expr := do
  if ← mark? "*" then return .starred (← bitwiseOr)
  g.namedExpression

def isStarred : Expr → Bool
  | .starred _ => true
  | _ => false

/-- The items behind a first one and its comma, up to a closing mark, which stays. -/
def moreItems (item : Reader Expr) (closing : String) : Reader (List Expr) := do
  if ← nextMark closing then return []
  return (← commaSeparated item).1

def parenthesized (bitwiseOr primary : Reader Expr) (starExpressions : Reader Expr) :
    Reader Expr := do
  if ← mark? ")" then return .tuple []
  if ← nextWord "yield" then
    let e ← g.yieldExpression starExpressions
    mark ")"
    return e
  let first ← g.starNamed bitwiseOr
  if ← mark? "," then
    let more ← moreItems (g.starNamed bitwiseOr) ")"
    mark ")"
    return .tuple (first :: more)
  if isStarred first then mismatch
  if ← nextClause then
    let cs ← g.clauses primary
    mark ")"
    return .generator first cs
  mark ")"
  return first

def bracketed (bitwiseOr primary : Reader Expr) : Reader Expr := do
  if ← mark? "]" then return .list []
  let first ← g.starNamed bitwiseOr
  if ← nextClause then
    if isStarred first then mismatch
    let cs ← g.clauses primary
    mark "]"
    return .listComp first cs
  let more ← if ← mark? "," then moreItems (g.starNamed bitwiseOr) "]" else pure []
  mark "]"
  return .list (first :: more)

def dictItem (bitwiseOr : Reader Expr) : Reader DictItem := do
  if ← mark? "**" then return .spread (← bitwiseOr)
  let key ← g.expression
  mark ":"
  return .pair key (← g.expression)

def moreDictItems (bitwiseOr : Reader Expr) : Reader (List DictItem) := do
  if ← mark? "," then
    if ← nextMark "\x7d" then return []
    return (← commaSeparated (g.dictItem bitwiseOr)).1
  return []

def braced (bitwiseOr primary : Reader Expr) : Reader Expr := do
  if ← mark? "\x7d" then return .dict []
  if ← nextMark "**" then
    let first ← g.dictItem bitwiseOr
    let more ← g.moreDictItems bitwiseOr
    mark "\x7d"
    return .dict (first :: more)
  let first ← g.starNamed bitwiseOr
  let isKey := match first with
    | .starred _ | .named .. => false
    | _ => true
  if isKey then
    if ← mark? ":" then
      let value ← g.expression
      if ← nextClause then
        let cs ← g.clauses primary
        mark "\x7d"
        return .dictComp first value cs
      let more ← g.moreDictItems bitwiseOr
      mark "\x7d"
      return .dict (.pair first value :: more)
  if ← nextClause then
    if isStarred first then mismatch
    let cs ← g.clauses primary
    mark "\x7d"
    return .setComp first cs
  let more ← if ← mark? "," then moreItems (g.starNamed bitwiseOr) "\x7d" else pure []
  mark "\x7d"
  return .set (first :: more)

def atom (bitwiseOr primary starExpressions : Reader Expr) : Reader Expr := do
  let t ← peek
  match t.kind with
  | .word =>
    if t.text == "True" then drop; return .constant (.bool true)
    else if t.text == "False" then drop; return .constant (.bool false)
    else if t.text == "None" then drop; return .constant .none
    else return .name (← name)
  | .number => number
  | .literal => g.strings
  | .mark =>
    if t.text == "(" then drop; g.parenthesized bitwiseOr primary starExpressions
    else if t.text == "[" then drop; g.bracketed bitwiseOr primary
    else if t.text == "\x7b" then drop; g.braced bitwiseOr primary
    else if t.text == "..." then drop; return .constant .ellipsis
    else mismatch
  | _ => mismatch

/-- An attribute, a call or a subscript of an expression that has been read. -/
def suffix (primaryIn : Reader Expr) (e : Expr) : Reader (Option Expr) := do
  if ← mark? "." then return some (.attribute e (← name))
  else if ← mark? "(" then
    let (args, kws) ← g.arguments primaryIn
    return some (.call e args kws)
  else if ← mark? "[" then
    let index ← g.slices
    mark "]"
    return some (.subscript e index)
  else return none

/-- An atom with the attributes, calls and subscripts behind it. `primaryIn`, `bitwiseOrIn` and
`starIn` read what may stand inside the brackets. -/
def primaryOf (bitwiseOrIn primaryIn starIn : Reader Expr) : Reader Expr := do
  extend (← g.atom bitwiseOrIn primaryIn starIn) (g.suffix primaryIn)

/-- Operands of `**` and above, given the operand of unary operators. -/
def termOf (factor : Reader Expr) : Reader Expr :=
  binaryLevel [("*", .mul), ("/", .div), ("//", .floorDiv), ("%", .mod), ("@", .matMul)] factor

def bitwiseOrOf (factor : Reader Expr) : Reader Expr :=
  let sum := binaryLevel [("+", .add), ("-", .sub)] (termOf factor)
  let shift := binaryLevel [("<<", .shiftLeft), (">>", .shiftRight)] sum
  let band := binaryLevel [("&", .bitAnd)] shift
  let bxor := binaryLevel [("^", .bitXor)] band
  binaryLevel [("|", .bitOr)] bxor

/-- One or more expressions between commas, any of them starred; a comma makes a tuple. -/
def starExpressionsOf (factor : Reader Expr) (expression : Reader Expr) : Reader Expr := do
  let item : Reader Expr := do
    if ← mark? "*" then return .starred (← bitwiseOrOf factor)
    expression
  let (items, comma) ← commaSeparated item
  match items, comma with
  | [e], false => return e
  | es, _ => return .tuple es

/-- The readers inside brackets: everything there is one level deeper. -/
def innerBitwiseOr : Reader Expr := bitwiseOrOf g.factor

def innerStarExpressions : Reader Expr := starExpressionsOf g.factor g.expression

/-- A primary read one level deeper, found as a factor that is one. -/
def innerPrimary : Reader Expr := g.factor

def primary : Reader Expr := g.primaryOf g.innerBitwiseOr g.innerPrimary g.innerStarExpressions

def power : Reader Expr := do
  let base ← if ← word? "await" then Expr.await <$> g.primary else g.primary
  if ← mark? "**" then return .binary .pow base (← g.factor)
  return base

def factorStep : Reader Expr := do
  match ← markIn? [("+", UnaryOp.plus), ("-", .minus), ("~", .invert)] with
  | some op => return .unary op (← g.factor)
  | none => g.power

def bitwiseOr : Reader Expr := bitwiseOrOf g.factorStep

def comparison : Reader Expr := do
  let left ← g.bitwiseOr
  let links ← many do
    match ← compareOp? with
    | some op => return some (Link.mk op (← g.bitwiseOr))
    | none => return none
  return if links.isEmpty then left else .compare left links

def inversionStep : Reader Expr := do
  if ← word? "not" then return .unary .not (← g.inversion)
  g.comparison

def disjunction : Reader Expr := disjunctionOf g.inversionStep

def expressionStep : Reader Expr := do
  if ← nextWord "lambda" then g.lambda
  else
    let body ← g.disjunction
    if ← word? "if" then
      let test ← g.disjunction
      word "else"
      return .conditional test body (← g.expression)
    return body

def starExpressions : Reader Expr := starExpressionsOf g.factorStep g.expressionStep

end Grammar

end Conch.Code
