/-!
# Program trees

The syntax trees of the language: expressions, patterns and statements. A tree keeps what a program
means and not where its parts stood in the text.
-/

namespace Conch.Code

inductive Constant where
  | none
  | bool (value : Bool)
  | ellipsis
  | int (value : Nat)
  | float (value : Float)
  /-- The imaginary number `value * i`. -/
  | imaginary (value : Float)
  /-- A text; `marked` when its literal is written with a leading `u`. -/
  | text (value : String) (marked : Bool)
  | bytes (value : List UInt8)
  deriving Repr, Inhabited

inductive UnaryOp where
  | invert
  | not
  | plus
  | minus
  deriving DecidableEq, Repr

inductive BinaryOp where
  | add
  | sub
  | mul
  | matMul
  | div
  | mod
  | pow
  | shiftLeft
  | shiftRight
  | bitOr
  | bitXor
  | bitAnd
  | floorDiv
  deriving DecidableEq, Repr

inductive BoolOp where
  | and
  | or
  deriving DecidableEq, Repr

inductive CompareOp where
  | eq
  | ne
  | lt
  | le
  | gt
  | ge
  | is
  | isNot
  | isIn
  | notIn
  deriving DecidableEq, Repr

mutual

inductive Expr where
  | boolean (op : BoolOp) (values : List Expr)
  /-- `target := value` -/
  | named (target value : Expr)
  | binary (op : BinaryOp) (left right : Expr)
  | unary (op : UnaryOp) (operand : Expr)
  | lambda (params : Params) (body : Expr)
  | conditional (test body orelse : Expr)
  | dict (items : List DictItem)
  | set (items : List Expr)
  | listComp (element : Expr) (clauses : List Clause)
  | setComp (element : Expr) (clauses : List Clause)
  | dictComp (key value : Expr) (clauses : List Clause)
  | generator (element : Expr) (clauses : List Clause)
  | await (value : Expr)
  | yield (value : Option Expr)
  | yieldFrom (value : Expr)
  | compare (left : Expr) (links : List Link)
  | call (function : Expr) (args : List Expr) (keywords : List Keyword)
  /-- A replacement field of a template: a value, a conversion and a format. -/
  | field (value : Expr) (conversion : Option Char) (format : Option Expr)
  | template (parts : List Expr)
  | constant (value : Constant)
  | attribute (value : Expr) (name : String)
  | subscript (value index : Expr)
  | starred (value : Expr)
  | name (id : String)
  | list (items : List Expr)
  | tuple (items : List Expr)
  | slice (lower upper step : Option Expr)

inductive DictItem where
  | pair (key value : Expr)
  | spread (value : Expr)

/-- One further comparison of a chain. -/
inductive Link where
  | mk (op : CompareOp) (right : Expr)

inductive Keyword where
  | named (name : String) (value : Expr)
  | spread (value : Expr)

/-- `for target in source if condition …` -/
inductive Clause where
  | mk (isAsync : Bool) (target source : Expr) (conditions : List Expr)

inductive Param where
  | mk (name : String) (hint default : Option Expr)

inductive Params where
  | mk (positional plain : List Param) (rest : Option Param) (keywordOnly : List Param)
      (keywordRest : Option Param)

end

instance : Inhabited Expr := ⟨.constant .none⟩

instance : Inhabited Params := ⟨.mk [] [] none [] none⟩

mutual

inductive Pattern where
  | value (value : Expr)
  | singleton (value : Constant)
  | sequence (items : List Pattern)
  | mapping (items : List KeyPattern) (rest : Option String)
  | object (cls : Expr) (items : List Pattern) (attributes : List NamedPattern)
  | star (name : Option String)
  | capture (pattern : Option Pattern) (name : Option String)
  | either (items : List Pattern)

inductive KeyPattern where
  | mk (key : Expr) (pattern : Pattern)

inductive NamedPattern where
  | mk (name : String) (pattern : Pattern)

end

instance : Inhabited Pattern := ⟨.star none⟩

structure Alias where
  name : String
  asName : Option String
  deriving DecidableEq, Repr

structure WithItem where
  context : Expr
  target : Option Expr

mutual

inductive Stmt where
  | function (isAsync : Bool) (name : String) (params : Params) (body : List Stmt)
      (decorators : List Expr) (returns : Option Expr)
  | cls (name : String) (bases : List Expr) (keywords : List Keyword) (body : List Stmt)
      (decorators : List Expr)
  | ret (value : Option Expr)
  | delete (targets : List Expr)
  | assign (targets : List Expr) (value : Expr)
  | augAssign (target : Expr) (op : BinaryOp) (value : Expr)
  /-- An annotated assignment; `simple` for a bare name. -/
  | annAssign (target hint : Expr) (value : Option Expr) (simple : Bool)
  | forLoop (isAsync : Bool) (target source : Expr) (body orelse : List Stmt)
  | whileLoop (test : Expr) (body orelse : List Stmt)
  | branch (test : Expr) (body orelse : List Stmt)
  | withBlock (isAsync : Bool) (items : List WithItem) (body : List Stmt)
  | matchOn (subject : Expr) (cases : List Case)
  | raise (exception cause : Option Expr)
  /-- `grouped` for `except*`. -/
  | attempt (grouped : Bool) (body : List Stmt) (handlers : List Handler)
      (orelse final : List Stmt)
  | assertion (test : Expr) (message : Option Expr)
  | importNames (names : List Alias)
  | importFrom (module : Option String) (names : List Alias) (level : Nat)
  | global (names : List String)
  | nonlocal (names : List String)
  | expr (value : Expr)
  | pass
  | stop
  | next

inductive Case where
  | mk (pattern : Pattern) (guard : Option Expr) (body : List Stmt)

inductive Handler where
  | mk (type : Option Expr) (name : Option String) (body : List Stmt)

end

instance : Inhabited Stmt := ⟨.pass⟩

/-- What a text is read as. -/
inductive Program where
  /-- Statements in sequence. -/
  | module (body : List Stmt)
  /-- What is typed at a prompt: one statement line. -/
  | interactive (body : List Stmt)
  | expression (body : Expr)

inductive Mode where
  | module
  | expression
  | interactive
  deriving DecidableEq, Repr

/-- The name of an expression's kind. -/
def Expr.kindName : Expr → String
  | .boolean .. => "BoolOp"
  | .named .. => "NamedExpr"
  | .binary .. => "BinOp"
  | .unary .. => "UnaryOp"
  | .lambda .. => "Lambda"
  | .conditional .. => "IfExp"
  | .dict .. => "Dict"
  | .set .. => "Set"
  | .listComp .. => "ListComp"
  | .setComp .. => "SetComp"
  | .dictComp .. => "DictComp"
  | .generator .. => "GeneratorExp"
  | .await .. => "Await"
  | .yield .. => "Yield"
  | .yieldFrom .. => "YieldFrom"
  | .compare .. => "Compare"
  | .call .. => "Call"
  | .field .. => "FormattedValue"
  | .template .. => "JoinedStr"
  | .constant .. => "Constant"
  | .attribute .. => "Attribute"
  | .subscript .. => "Subscript"
  | .starred .. => "Starred"
  | .name .. => "Name"
  | .list .. => "List"
  | .tuple .. => "Tuple"
  | .slice .. => "Slice"

/-- How an expression is called in a report on a wrong target. -/
def Expr.targetName : Expr → String
  | .attribute .. => "attribute"
  | .subscript .. => "subscript"
  | .starred .. => "starred"
  | .name .. => "name"
  | .list .. => "list"
  | .tuple .. => "tuple"
  | .lambda .. => "lambda"
  | .call .. => "function call"
  | .boolean .. | .binary .. | .unary .. => "expression"
  | .generator .. => "generator expression"
  | .yield .. | .yieldFrom .. => "yield expression"
  | .await .. => "await expression"
  | .listComp .. => "list comprehension"
  | .setComp .. => "set comprehension"
  | .dictComp .. => "dict comprehension"
  | .dict .. => "dict literal"
  | .set .. => "set display"
  | .template .. | .field .. => "f-string expression"
  | .constant .none => "None"
  | .constant (.bool true) => "True"
  | .constant (.bool false) => "False"
  | .constant .ellipsis => "ellipsis"
  | .constant _ => "literal"
  | .compare .. => "comparison"
  | .conditional .. => "conditional expression"
  | .named .. => "named expression"
  | .slice .. => "slice"

end Conch.Code
