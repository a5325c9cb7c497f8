import Conch.Code.Quoting

/-!
# Printing programs

A tree as a program text, one statement a line, with parentheses only where a part binds less
tightly than its place asks for.
-/

namespace Conch.Code.Printer

/-- How tightly an expression binds, from the loosest to the tightest. -/
abbrev Level := Nat

namespace Level

def named : Level := 1
def tuple : Level := 2
def yield : Level := 3
def test : Level := 4
def or : Level := 5
def and : Level := 6
def not : Level := 7
def compare : Level := 8
def bitOr : Level := 9
def bitXor : Level := 10
def bitAnd : Level := 11
def shift : Level := 12
def sum : Level := 13
def term : Level := 14
def factor : Level := 15
def power : Level := 16
def await : Level := 17
def atom : Level := 18

/-- The next tighter level. -/
def next (l : Level) : Level := min (l + 1) atom

end Level

inductive PrintFault where
  /-- A replacement field would need a backslash. -/
  | backslash
  /-- A template holds something other than text and fields. -/
  | strayPart
  deriving DecidableEq, Repr

def PrintFault.message : PrintFault → String
  | .backslash => "Unable to avoid backslash in f-string expression part"
  | .strayPart => "Unexpected node inside JoinedStr"

abbrev Print := Except PrintFault

def parens (condition : Bool) (s : String) : String := if condition then "(" ++ s ++ ")" else s

def commas (items : List String) : String := ", ".intercalate items

/-- Items of a tuple: a single one has a comma behind it. -/
def tupleItems : List String → String
  | [item] => item ++ ","
  | items => commas items

def unaryText : UnaryOp → String
  | .invert => "~"
  | .not => "not "
  | .plus => "+"
  | .minus => "-"

def unaryLevel : UnaryOp → Level
  | .not => Level.not
  | _ => Level.factor

def binaryText : BinaryOp → String
  | .add => "+"
  | .sub => "-"
  | .mul => "*"
  | .matMul => "@"
  | .div => "/"
  | .mod => "%"
  | .pow => "**"
  | .shiftLeft => "<<"
  | .shiftRight => ">>"
  | .bitOr => "|"
  | .bitXor => "^"
  | .bitAnd => "&"
  | .floorDiv => "//"

def binaryLevel : BinaryOp → Level
  | .add | .sub => Level.sum
  | .mul | .matMul | .div | .mod | .floorDiv => Level.term
  | .pow => Level.power
  | .shiftLeft | .shiftRight => Level.shift
  | .bitOr => Level.bitOr
  | .bitXor => Level.bitXor
  | .bitAnd => Level.bitAnd

def compareText : CompareOp → String
  | .eq => "=="
  | .ne => "!="
  | .lt => "<"
  | .le => "<="
  | .gt => ">"
  | .ge => ">="
  | .is => "is"
  | .isNot => "is not"
  | .isIn => "in"
  | .notIn => "not in"

def boolLevel : BoolOp → Level
  | .and => Level.and
  | .or => Level.or

def boolText : BoolOp → String
  | .and => " and "
  | .or => " or "

/-- Whether a value is an integer literal, behind which a dot would be read as a decimal point. -/
def isInteger : Expr → Bool
  | .constant (.int _) | .constant (.bool _) => true
  | _ => false

/-- The place of an index: there a tuple needs no parentheses. -/
def indexLevel : Expr → Level
  | .tuple _ => Level.tuple
  | _ => Level.test

def doubleBraces (s : String) : List Char :=
  s.toList.flatMap fun c => if c == '\x7b' || c == '\x7d' then [c, c] else [c]

def isText : Expr → Bool
  | .constant _ => true
  | _ => false

/-- A replacement field from its printed expression. -/
def fieldText (value : String) (conversion : Option Char) (format : List Char) :
    Print (List Char) :=
  let cs := value.toList
  if cs.contains '\\' then .error .backslash
  else
    let gap := if cs.head? == some '\x7b' then [' '] else []
    let conv := match conversion with
      | some c => ['!', c]
      | none => []
    .ok ('\x7b' :: gap ++ cs ++ conv ++ format ++ ['\x7d'])

/-- The marks around the parameters of a function. -/
def joinParams (positional plain : List String) (rest : Option String) (keywordOnly : List String)
    (keywordRest : Option String) : String :=
  let slash := if positional.isEmpty then [] else ["/"]
  let star := match rest with
    | some r => ["*" ++ r]
    | none => if keywordOnly.isEmpty then [] else ["*"]
  let last := match keywordRest with
    | some r => ["**" ++ r]
    | none => []
  commas (positional ++ slash ++ plain ++ star ++ keywordOnly ++ last)

mutual

/-- An expression in a place of the given level; `avoid` inside replacement fields. -/
def expr (avoid : Bool) (level : Level) : Expr → Print String
  | .boolean op values => do
    let items ← rising avoid (Level.next (boolLevel op)) values
    return parens (level > boolLevel op) ((boolText op).intercalate items)
  | .named target value => do
    let t ← expr avoid Level.atom target
    let v ← expr avoid Level.atom value
    return parens (level > Level.named) (t ++ " := " ++ v)
  | .binary op left right => do
    let own := binaryLevel op
    let rightAssoc := op == .pow
    let l ← expr avoid (if rightAssoc then Level.next own else own) left
    let r ← expr avoid (if rightAssoc then own else Level.next own) right
    return parens (level > own) (l ++ " " ++ binaryText op ++ " " ++ r)
  | .unary op operand => do
    let o ← expr avoid (unaryLevel op) operand
    return parens (level > unaryLevel op) (unaryText op ++ o)
  | .lambda ps body => do
    let p ← params avoid ps
    let b ← expr avoid Level.test body
    let shown := if p.isEmpty then "" else " " ++ p
    return parens (level > Level.test) ("lambda" ++ shown ++ ": " ++ b)
  | .conditional test body orelse => do
    let b ← expr avoid (Level.next Level.test) body
    let t ← expr avoid (Level.next Level.test) test
    let o ← expr avoid Level.test orelse
    return parens (level > Level.test) (b ++ " if " ++ t ++ " else " ++ o)
  | .dict items => return "\x7b" ++ commas (← dictItems avoid items) ++ "\x7d"
  | .set [] => return "\x7b*()\x7d"
  | .set items => return "\x7b" ++ commas (← exprs avoid Level.test items) ++ "\x7d"
  | .listComp element cs => do
    return "[" ++ (← expr avoid Level.test element) ++ (← clauses avoid cs) ++ "]"
  | .setComp element cs => do
    return "\x7b" ++ (← expr avoid Level.test element) ++ (← clauses avoid cs) ++ "\x7d"
  | .dictComp key value cs => do
    let k ← expr avoid Level.test key
    let v ← expr avoid Level.test value
    return "\x7b" ++ k ++ ": " ++ v ++ (← clauses avoid cs) ++ "\x7d"
  | .generator element cs => do
    return "(" ++ (← expr avoid Level.test element) ++ (← clauses avoid cs) ++ ")"
  | .await value => do
    return parens (level > Level.await) ("await " ++ (← expr avoid Level.atom value))
  | .yield value => do
    let v ← optional avoid Level.atom " " value
    return parens (level > Level.yield) ("yield" ++ v)
  | .yieldFrom value => do
    return parens (level > Level.yield) ("yield from " ++ (← expr avoid Level.atom value))
  | .compare left ls => do
    let l ← expr avoid (Level.next Level.compare) left
    return parens (level > Level.compare) (l ++ (← links avoid ls))
  | .call function args kws => do
    let f ← expr avoid Level.atom function
    let as ← exprs avoid Level.test args
    let ks ← keywords avoid kws
    return f ++ "(" ++ commas (as ++ ks) ++ ")"
  | .field value conversion format => do
    let v ← expr true Level.or value
    let f ← formatText format
    return String.ofList (← fieldText v conversion f)
  | .template ps => do
    let written ← parts ps
    if avoid then
      return "f" ++ String.ofList (Quoting.fitted Quoting.allQuotes (written.map (·.1)).flatten)
    else return "f" ++ String.ofList (Quoting.template written)
  | .constant c => return Quoting.constant avoid c
  | .attribute value name => do
    let v ← expr avoid Level.atom value
    return v ++ (if isInteger value then " ." else ".") ++ name
  | .subscript value index => do
    let v ← expr avoid Level.atom value
    let i ← expr avoid (indexLevel index) index
    return v ++ "[" ++ i ++ "]"
  | .starred value => do return "*" ++ (← expr avoid Level.bitOr value)
  | .name id => return id
  | .list items => return "[" ++ commas (← exprs avoid Level.test items) ++ "]"
  | .tuple items => do
    let is ← exprs avoid Level.test items
    return parens (is.isEmpty || level > Level.tuple) (tupleItems is)
  | .slice lower upper step => do
    let l ← optional avoid Level.test "" lower
    let u ← optional avoid Level.test "" upper
    let s ← optional avoid Level.test ":" step
    return l ++ ":" ++ u ++ s

def exprs (avoid : Bool) (level : Level) : List Expr → Print (List String)
  | [] => return []
  | e :: es => return (← expr avoid level e) :: (← exprs avoid level es)

/-- Operands that each ask for a tighter level than the one before. -/
def rising (avoid : Bool) (level : Level) : List Expr → Print (List String)
  | [] => return []
  | e :: es => return (← expr avoid level e) :: (← rising avoid (Level.next level) es)

/-- Nothing, or an expression behind a lead. -/
def optional (avoid : Bool) (level : Level) (lead : String) : Option Expr → Print String
  | none => return ""
  | some e => return lead ++ (← expr avoid level e)

def links (avoid : Bool) : List Link → Print String
  | [] => return ""
  | .mk op right :: ls => do
    let r ← expr avoid (Level.next Level.compare) right
    return " " ++ compareText op ++ " " ++ r ++ (← links avoid ls)

def keywords (avoid : Bool) : List Keyword → Print (List String)
  | [] => return []
  | .named name value :: ks => do
    let v ← expr avoid Level.test value
    return (name ++ "=" ++ v) :: (← keywords avoid ks)
  | .spread value :: ks => do
    let v ← expr avoid Level.test value
    return ("**" ++ v) :: (← keywords avoid ks)

def dictItems (avoid : Bool) : List DictItem → Print (List String)
  | [] => return []
  | .pair key value :: items => do
    let k ← expr avoid Level.test key
    let v ← expr avoid Level.test value
    return (k ++ ": " ++ v) :: (← dictItems avoid items)
  | .spread value :: items => do
    let v ← expr avoid Level.bitOr value
    return ("**" ++ v) :: (← dictItems avoid items)

def clauses (avoid : Bool) : List Clause → Print String
  | [] => return ""
  | .mk isAsync target source conditions :: cs => do
    let t ← expr avoid Level.tuple target
    let s ← expr avoid (Level.next Level.test) source
    let ifs ← exprs avoid (Level.next Level.test) conditions
    return (if isAsync then " async for " else " for ") ++ t ++ " in " ++ s ++
      String.join (ifs.map (" if " ++ ·)) ++ (← clauses avoid cs)

def param (avoid : Bool) : Param → Print String
  | .mk name hint default => do
    return name ++ (← optional avoid Level.test ": " hint) ++
      (← optional avoid Level.test "=" default)

def paramList (avoid : Bool) : List Param → Print (List String)
  | [] => return []
  | p :: ps => return (← param avoid p) :: (← paramList avoid ps)

def optionalParam (avoid : Bool) : Option Param → Print (Option String)
  | none => return none
  | some p => return some (← param avoid p)

def params (avoid : Bool) : Params → Print String
  | .mk positional plain rest keywordOnly keywordRest => do
    return joinParams (← paramList avoid positional) (← paramList avoid plain)
      (← optionalParam avoid rest) (← paramList avoid keywordOnly)
      (← optionalParam avoid keywordRest)

/-- The format of a field behind its colon. -/
def formatText : Option Expr → Print (List Char)
  | none => return []
  | some e => return ':' :: (← inner e)

/-- What stands inside the quotes of a template for one of its parts. -/
def inner : Expr → Print (List Char)
  | .template ps => return (← parts ps).flatMap (·.1)
  | .constant (.text s _) => return doubleBraces s
  | .field value conversion format => do
    let v ← expr true Level.or value
    let f ← formatText format
    fieldText v conversion f
  | _ => .error .strayPart

def parts : List Expr → Print (List (List Char × Bool))
  | [] => return []
  | e :: es => return (← inner e, isText e) :: (← parts es)

end

/-- A text alone in a statement at the start of a body. -/
def docText (value : String) (marked : Bool) : String :=
  (if marked then "u" else "") ++ String.ofList (Quoting.fitted Quoting.longQuotes value.toList)

mutual

/-- A pattern in a place of the given level. -/
def pattern (level : Level) : Pattern → Print String
  | .value e => expr false Level.test e
  | .singleton c => return Quoting.constant false c
  | .sequence items => return "[" ++ commas (← patterns Level.test items) ++ "]"
  | .mapping items rest => do
    let is ← keyPatterns items
    let last := match rest with
      | some n => ["**" ++ n]
      | none => []
    return "\x7b" ++ commas (is ++ last) ++ "\x7d"
  | .object cls items attributes => do
    let c ← expr false Level.atom cls
    let is ← patterns Level.test items
    let as ← namedPatterns attributes
    return c ++ "(" ++ commas (is ++ as) ++ ")"
  | .star name => return "*" ++ name.getD "_"
  | .capture p name =>
    match name with
    | none => return "_"
    | some n => do
      match ← optionalPattern p with
      | none => return n
      | some text => return parens (level > Level.test) (text ++ " as " ++ n)
  | .either items => do
    let is ← patterns (Level.next Level.bitOr) items
    return parens (level > Level.bitOr) (" | ".intercalate is)

def optionalPattern : Option Pattern → Print (Option String)
  | none => return none
  | some p => return some (← pattern Level.bitOr p)

def patterns (level : Level) : List Pattern → Print (List String)
  | [] => return []
  | p :: ps => return (← pattern level p) :: (← patterns level ps)

def keyPatterns : List KeyPattern → Print (List String)
  | [] => return []
  | .mk key p :: ps => do
    let k ← expr false Level.test key
    return (k ++ ": " ++ (← pattern Level.test p)) :: (← keyPatterns ps)

def namedPatterns : List NamedPattern → Print (List String)
  | [] => return []
  | .mk name p :: ps => return (name ++ "=" ++ (← pattern Level.test p)) :: (← namedPatterns ps)

end

/-- A new line of a block at some depth. -/
def line (depth : Nat) (text : String) : String :=
  "\n" ++ String.ofList (List.replicate (4 * depth) ' ') ++ text

def importedName (a : Alias) : String :=
  a.name ++ match a.asName with
    | some n => " as " ++ n
    | none => ""

def plain (e : Expr) : Print String := expr false Level.test e

def plainOptional (lead : String) (e : Option Expr) : Print String :=
  optional false Level.test lead e

def withItem (i : WithItem) : Print String := do
  return (← plain i.context) ++ (← plainOptional " as " i.target)

def decorators (depth : Nat) (ds : List Expr) : Print String := do
  return String.join (← ds.mapM fun d => do return line depth ("@" ++ (← plain d)))

def assignTargets (targets : List Expr) : Print String := do
  return String.join (← targets.mapM fun t => do return (← expr false Level.tuple t) ++ " = ")

def annTarget (target : Expr) (simple : Bool) : Print String := do
  let isName := match target with
    | .name _ => true
    | _ => false
  return parens (!simple && isName) (← plain target)

mutual

/-- A statement with the line feeds in front of its lines. -/
def stmt (depth : Nat) : Stmt → Print String
  | .function isAsync name ps body ds returns => do
    let head := (if isAsync then "async def " else "def ") ++ name ++ "(" ++ (← params false ps) ++
      ")" ++ (← plainOptional " -> " returns) ++ ":"
    return "\n" ++ (← decorators depth ds) ++ line depth head ++ (← documented (depth + 1) body)
  | .cls name bases kws body ds => do
    let args := (← exprs false Level.test bases) ++ (← keywords false kws)
    let head := "class " ++ name ++ parens (!args.isEmpty) (commas args) ++ ":"
    return "\n" ++ (← decorators depth ds) ++ line depth head ++ (← documented (depth + 1) body)
  | .ret value => return line depth ("return" ++ (← plainOptional " " value))
  | .delete targets => return line depth ("del " ++ commas (← exprs false Level.test targets))
  | .assign targets value => return line depth ((← assignTargets targets) ++ (← plain value))
  | .augAssign target op value => do
    return line depth ((← plain target) ++ " " ++ binaryText op ++ "= " ++ (← plain value))
  | .annAssign target hint value simple => do
    return line depth ((← annTarget target simple) ++ ": " ++ (← plain hint) ++
      (← plainOptional " = " value))
  | .forLoop isAsync target source body orelse => do
    let head := (if isAsync then "async for " else "for ") ++ (← expr false Level.tuple target) ++
      " in " ++ (← plain source) ++ ":"
    return line depth head ++ (← stmts (depth + 1) body) ++ (← elsePart depth orelse)
  | .whileLoop test body orelse => do
    return line depth ("while " ++ (← plain test) ++ ":") ++ (← stmts (depth + 1) body) ++
      (← elsePart depth orelse)
  | .branch test body orelse => do
    return line depth ("if " ++ (← plain test) ++ ":") ++ (← stmts (depth + 1) body) ++
      (← elifPart depth orelse)
  | .withBlock isAsync items body => do
    let head := (if isAsync then "async with " else "with ") ++
      commas (← items.mapM withItem) ++ ":"
    return line depth head ++ (← stmts (depth + 1) body)
  | .matchOn subject cs => do
    return line depth ("match " ++ (← plain subject) ++ ":") ++ (← cases (depth + 1) cs)
  | .raise exception cause =>
    match exception with
    | none => return line depth "raise"
    | some e => return line depth ("raise " ++ (← plain e) ++ (← plainOptional " from " cause))
  | .attempt grouped body hs orelse final => do
    let last ← if final.isEmpty then pure "" else
      pure (line depth "finally:" ++ (← stmts (depth + 1) final))
    return line depth "try:" ++ (← stmts (depth + 1) body) ++ (← handlers depth grouped hs) ++
      (← elsePart depth orelse) ++ last
  | .assertion test message => do
    return line depth ("assert " ++ (← plain test) ++ (← plainOptional ", " message))
  | .importNames names => return line depth ("import " ++ commas (names.map importedName))
  | .importFrom module names level => do
    return line depth ("from " ++ String.ofList (List.replicate level '.') ++ module.getD "" ++
      " import " ++ commas (names.map importedName))
  | .global names => return line depth ("global " ++ commas names)
  | .nonlocal names => return line depth ("nonlocal " ++ commas names)
  | .expr value => return line depth (← expr false Level.yield value)
  | .pass => return line depth "pass"
  | .stop => return line depth "break"
  | .next => return line depth "continue"

def stmts (depth : Nat) : List Stmt → Print String
  | [] => return ""
  | s :: ss => return (← stmt depth s) ++ (← stmts depth ss)

/-- A body whose first statement is a description if it is a text alone. -/
def documented (depth : Nat) : List Stmt → Print String
  | .expr (.constant (.text s marked)) :: ss =>
    return line depth (docText s marked) ++ (← stmts depth ss)
  | s :: ss => return (← stmt depth s) ++ (← stmts depth ss)
  | [] => return ""

def elsePart (depth : Nat) : List Stmt → Print String
  | [] => return ""
  | s :: ss =>
    return line depth "else:" ++ (← stmt (depth + 1) s) ++ (← stmts (depth + 1) ss)

def elifPart (depth : Nat) : List Stmt → Print String
  | [.branch test body orelse] => do
    return line depth ("elif " ++ (← plain test) ++ ":") ++ (← stmts (depth + 1) body) ++
      (← elifPart depth orelse)
  | s :: ss =>
    return line depth "else:" ++ (← stmt (depth + 1) s) ++ (← stmts (depth + 1) ss)
  | [] => return ""

def cases (depth : Nat) : List Case → Print String
  | [] => return ""
  | .mk p guard body :: cs => do
    let head := "case " ++ (← pattern Level.test p) ++ (← plainOptional " if " guard) ++ ":"
    return line depth head ++ (← stmts (depth + 1) body) ++ (← cases depth cs)

def handlers (depth : Nat) (grouped : Bool) : List Handler → Print String
  | [] => return ""
  | .mk type name body :: hs => do
    let head := (if grouped then "except*" else "except") ++ (← plainOptional " " type) ++
      (match name with
        | some n => " as " ++ n
        | none => "") ++ ":"
    return line depth head ++ (← stmts (depth + 1) body) ++ (← handlers depth grouped hs)

end

def dropNewlines (s : String) : String := String.ofList (s.toList.dropWhile (· == '\n'))

/-- The text of a program. Of what is typed at a prompt only the last statement is written. -/
def program : Program → Print String
  | .module body => return dropNewlines (← documented 0 body)
  | .interactive body =>
    match body.getLast? with
    | some s => return dropNewlines (← stmt 0 s)
    | none => return ""
  | .expression e => plain e

end Conch.Code.Printer
