import Conch.Code.Tree

/-!
# Names in a tree

The names that stand as expressions anywhere in a tree, and the tree with some of them replaced by
other expressions. Names that are part of a construct, such as those of parameters, attributes and
imports, are no expressions.
-/

namespace Conch.Code

mutual

def Expr.names : Expr → List String
  | .boolean _ values => namesIn values
  | .named target value => target.names ++ value.names
  | .binary _ left right => left.names ++ right.names
  | .unary _ operand => operand.names
  | .lambda params body => params.names ++ body.names
  | .conditional test body orelse => test.names ++ body.names ++ orelse.names
  | .dict items => namesInItems items
  | .set items => namesIn items
  | .listComp element clauses => element.names ++ namesInClauses clauses
  | .setComp element clauses => element.names ++ namesInClauses clauses
  | .dictComp key value clauses => key.names ++ value.names ++ namesInClauses clauses
  | .generator element clauses => element.names ++ namesInClauses clauses
  | .await value => value.names
  | .yield value => namesInOption value
  | .yieldFrom value => value.names
  | .compare left links => left.names ++ namesInLinks links
  | .call function args keywords => function.names ++ namesIn args ++ namesInKeywords keywords
  | .field value _ format => value.names ++ namesInOption format
  | .template parts => namesIn parts
  | .constant _ => []
  | .attribute value _ => value.names
  | .subscript value index => value.names ++ index.names
  | .starred value => value.names
  | .name id => [id]
  | .list items => namesIn items
  | .tuple items => namesIn items
  | .slice lower upper step => namesInOption lower ++ namesInOption upper ++ namesInOption step

def namesIn : List Expr → List String
  | [] => []
  | e :: es => e.names ++ namesIn es

def namesInOption : Option Expr → List String
  | none => []
  | some e => e.names

def DictItem.names : DictItem → List String
  | .pair key value => key.names ++ value.names
  | .spread value => value.names

def namesInItems : List DictItem → List String
  | [] => []
  | i :: is => i.names ++ namesInItems is

def Link.names : Link → List String
  | .mk _ right => right.names

def namesInLinks : List Link → List String
  | [] => []
  | l :: ls => l.names ++ namesInLinks ls

def Keyword.names : Keyword → List String
  | .named _ value => value.names
  | .spread value => value.names

def namesInKeywords : List Keyword → List String
  | [] => []
  | k :: ks => k.names ++ namesInKeywords ks

def Clause.names : Clause → List String
  | .mk _ target source conditions => target.names ++ source.names ++ namesIn conditions

def namesInClauses : List Clause → List String
  | [] => []
  | c :: cs => c.names ++ namesInClauses cs

def Param.names : Param → List String
  | .mk _ hint default => namesInOption hint ++ namesInOption default

def namesInParams : List Param → List String
  | [] => []
  | p :: ps => p.names ++ namesInParams ps

def namesInParam : Option Param → List String
  | none => []
  | some p => p.names

def Params.names : Params → List String
  | .mk positional plain rest keywordOnly keywordRest =>
    namesInParams positional ++ namesInParams plain ++ namesInParam rest ++
      namesInParams keywordOnly ++ namesInParam keywordRest

end

mutual

def Pattern.names : Pattern → List String
  | .value value => value.names
  | .singleton _ => []
  | .sequence items => namesInPatterns items
  | .mapping items _ => namesInKeyPatterns items
  | .object cls items attributes =>
    cls.names ++ namesInPatterns items ++ namesInNamedPatterns attributes
  | .star _ => []
  | .capture pattern _ => namesInPattern pattern
  | .either items => namesInPatterns items

def namesInPattern : Option Pattern → List String
  | none => []
  | some p => p.names

def namesInPatterns : List Pattern → List String
  | [] => []
  | p :: ps => p.names ++ namesInPatterns ps

def KeyPattern.names : KeyPattern → List String
  | .mk key pattern => key.names ++ pattern.names

def namesInKeyPatterns : List KeyPattern → List String
  | [] => []
  | p :: ps => p.names ++ namesInKeyPatterns ps

def NamedPattern.names : NamedPattern → List String
  | .mk _ pattern => pattern.names

def namesInNamedPatterns : List NamedPattern → List String
  | [] => []
  | p :: ps => p.names ++ namesInNamedPatterns ps

end

def WithItem.names (i : WithItem) : List String := i.context.names ++ namesInOption i.target

mutual

def Stmt.names : Stmt → List String
  | .function _ _ params body decorators returns =>
    params.names ++ namesInBody body ++ namesIn decorators ++ namesInOption returns
  | .cls _ bases keywords body decorators =>
    namesIn bases ++ namesInKeywords keywords ++ namesInBody body ++ namesIn decorators
  | .ret value => namesInOption value
  | .delete targets => namesIn targets
  | .assign targets value => namesIn targets ++ value.names
  | .augAssign target _ value => target.names ++ value.names
  | .annAssign target hint value _ => target.names ++ hint.names ++ namesInOption value
  | .forLoop _ target source body orelse =>
    target.names ++ source.names ++ namesInBody body ++ namesInBody orelse
  | .whileLoop test body orelse => test.names ++ namesInBody body ++ namesInBody orelse
  | .branch test body orelse => test.names ++ namesInBody body ++ namesInBody orelse
  | .withBlock _ items body => items.flatMap WithItem.names ++ namesInBody body
  | .matchOn subject cases => subject.names ++ namesInCases cases
  | .raise exception cause => namesInOption exception ++ namesInOption cause
  | .attempt _ body handlers orelse final =>
    namesInBody body ++ namesInHandlers handlers ++ namesInBody orelse ++ namesInBody final
  | .assertion test message => test.names ++ namesInOption message
  | .importNames _ => []
  | .importFrom _ _ _ => []
  | .global _ => []
  | .nonlocal _ => []
  | .expr value => value.names
  | .pass => []
  | .stop => []
  | .next => []

def namesInBody : List Stmt → List String
  | [] => []
  | s :: ss => s.names ++ namesInBody ss

def Case.names : Case → List String
  | .mk pattern guard body => pattern.names ++ namesInOption guard ++ namesInBody body

def namesInCases : List Case → List String
  | [] => []
  | c :: cs => c.names ++ namesInCases cs

def Handler.names : Handler → List String
  | .mk type _ body => namesInOption type ++ namesInBody body

def namesInHandlers : List Handler → List String
  | [] => []
  | h :: hs => h.names ++ namesInHandlers hs

end

def Program.names : Program → List String
  | .module body => namesInBody body
  | .interactive body => namesInBody body
  | .expression e => e.names

mutual

/-- The expression with every name that `f` knows replaced. What is put in is not searched again. -/
def Expr.replace (f : String → Option Expr) : Expr → Expr
  | .boolean op values => .boolean op (replaceIn f values)
  | .named target value => .named (target.replace f) (value.replace f)
  | .binary op left right => .binary op (left.replace f) (right.replace f)
  | .unary op operand => .unary op (operand.replace f)
  | .lambda params body => .lambda (params.replace f) (body.replace f)
  | .conditional test body orelse =>
    .conditional (test.replace f) (body.replace f) (orelse.replace f)
  | .dict items => .dict (replaceInItems f items)
  | .set items => .set (replaceIn f items)
  | .listComp element clauses => .listComp (element.replace f) (replaceInClauses f clauses)
  | .setComp element clauses => .setComp (element.replace f) (replaceInClauses f clauses)
  | .dictComp key value clauses =>
    .dictComp (key.replace f) (value.replace f) (replaceInClauses f clauses)
  | .generator element clauses => .generator (element.replace f) (replaceInClauses f clauses)
  | .await value => .await (value.replace f)
  | .yield value => .yield (replaceInOption f value)
  | .yieldFrom value => .yieldFrom (value.replace f)
  | .compare left links => .compare (left.replace f) (replaceInLinks f links)
  | .call function args keywords =>
    .call (function.replace f) (replaceIn f args) (replaceInKeywords f keywords)
  | .field value conversion format => .field (value.replace f) conversion (replaceInOption f format)
  | .template parts => .template (replaceIn f parts)
  | .constant c => .constant c
  | .attribute value name => .attribute (value.replace f) name
  | .subscript value index => .subscript (value.replace f) (index.replace f)
  | .starred value => .starred (value.replace f)
  | .name id => (f id).getD (.name id)
  | .list items => .list (replaceIn f items)
  | .tuple items => .tuple (replaceIn f items)
  | .slice lower upper step =>
    .slice (replaceInOption f lower) (replaceInOption f upper) (replaceInOption f step)

def replaceIn (f : String → Option Expr) : List Expr → List Expr
  | [] => []
  | e :: es => e.replace f :: replaceIn f es

def replaceInOption (f : String → Option Expr) : Option Expr → Option Expr
  | none => none
  | some e => some (e.replace f)

def DictItem.replace (f : String → Option Expr) : DictItem → DictItem
  | .pair key value => .pair (key.replace f) (value.replace f)
  | .spread value => .spread (value.replace f)

def replaceInItems (f : String → Option Expr) : List DictItem → List DictItem
  | [] => []
  | i :: is => i.replace f :: replaceInItems f is

def Link.replace (f : String → Option Expr) : Link → Link
  | .mk op right => .mk op (right.replace f)

def replaceInLinks (f : String → Option Expr) : List Link → List Link
  | [] => []
  | l :: ls => l.replace f :: replaceInLinks f ls

def Keyword.replace (f : String → Option Expr) : Keyword → Keyword
  | .named name value => .named name (value.replace f)
  | .spread value => .spread (value.replace f)

def replaceInKeywords (f : String → Option Expr) : List Keyword → List Keyword
  | [] => []
  | k :: ks => k.replace f :: replaceInKeywords f ks

def Clause.replace (f : String → Option Expr) : Clause → Clause
  | .mk isAsync target source conditions =>
    .mk isAsync (target.replace f) (source.replace f) (replaceIn f conditions)

def replaceInClauses (f : String → Option Expr) : List Clause → List Clause
  | [] => []
  | c :: cs => c.replace f :: replaceInClauses f cs

def Param.replace (f : String → Option Expr) : Param → Param
  | .mk name hint default => .mk name (replaceInOption f hint) (replaceInOption f default)

def replaceInParams (f : String → Option Expr) : List Param → List Param
  | [] => []
  | p :: ps => p.replace f :: replaceInParams f ps

def replaceInParam (f : String → Option Expr) : Option Param → Option Param
  | none => none
  | some p => some (p.replace f)

def Params.replace (f : String → Option Expr) : Params → Params
  | .mk positional plain rest keywordOnly keywordRest =>
    .mk (replaceInParams f positional) (replaceInParams f plain) (replaceInParam f rest)
      (replaceInParams f keywordOnly) (replaceInParam f keywordRest)

end

mutual

def Pattern.replace (f : String → Option Expr) : Pattern → Pattern
  | .value value => .value (value.replace f)
  | .singleton c => .singleton c
  | .sequence items => .sequence (replaceInPatterns f items)
  | .mapping items rest => .mapping (replaceInKeyPatterns f items) rest
  | .object cls items attributes =>
    .object (cls.replace f) (replaceInPatterns f items) (replaceInNamedPatterns f attributes)
  | .star name => .star name
  | .capture pattern name => .capture (replaceInPattern f pattern) name
  | .either items => .either (replaceInPatterns f items)

def replaceInPattern (f : String → Option Expr) : Option Pattern → Option Pattern
  | none => none
  | some p => some (p.replace f)

def replaceInPatterns (f : String → Option Expr) : List Pattern → List Pattern
  | [] => []
  | p :: ps => p.replace f :: replaceInPatterns f ps

def KeyPattern.replace (f : String → Option Expr) : KeyPattern → KeyPattern
  | .mk key pattern => .mk (key.replace f) (pattern.replace f)

def replaceInKeyPatterns (f : String → Option Expr) : List KeyPattern → List KeyPattern
  | [] => []
  | p :: ps => p.replace f :: replaceInKeyPatterns f ps

def NamedPattern.replace (f : String → Option Expr) : NamedPattern → NamedPattern
  | .mk name pattern => .mk name (pattern.replace f)

def replaceInNamedPatterns (f : String → Option Expr) : List NamedPattern → List NamedPattern
  | [] => []
  | p :: ps => p.replace f :: replaceInNamedPatterns f ps

end

def WithItem.replace (f : String → Option Expr) (i : WithItem) : WithItem :=
  ⟨i.context.replace f, replaceInOption f i.target⟩

mutual

def Stmt.replace (f : String → Option Expr) : Stmt → Stmt
  | .function isAsync name params body decorators returns =>
    .function isAsync name (params.replace f) (replaceInBody f body) (replaceIn f decorators)
      (replaceInOption f returns)
  | .cls name bases keywords body decorators =>
    .cls name (replaceIn f bases) (replaceInKeywords f keywords) (replaceInBody f body)
      (replaceIn f decorators)
  | .ret value => .ret (replaceInOption f value)
  | .delete targets => .delete (replaceIn f targets)
  | .assign targets value => .assign (replaceIn f targets) (value.replace f)
  | .augAssign target op value => .augAssign (target.replace f) op (value.replace f)
  | .annAssign target hint value simple =>
    .annAssign (target.replace f) (hint.replace f) (replaceInOption f value) simple
  | .forLoop isAsync target source body orelse =>
    .forLoop isAsync (target.replace f) (source.replace f) (replaceInBody f body)
      (replaceInBody f orelse)
  | .whileLoop test body orelse =>
    .whileLoop (test.replace f) (replaceInBody f body) (replaceInBody f orelse)
  | .branch test body orelse =>
    .branch (test.replace f) (replaceInBody f body) (replaceInBody f orelse)
  | .withBlock isAsync items body =>
    .withBlock isAsync (items.map (WithItem.replace f)) (replaceInBody f body)
  | .matchOn subject cases => .matchOn (subject.replace f) (replaceInCases f cases)
  | .raise exception cause => .raise (replaceInOption f exception) (replaceInOption f cause)
  | .attempt grouped body handlers orelse final =>
    .attempt grouped (replaceInBody f body) (replaceInHandlers f handlers) (replaceInBody f orelse)
      (replaceInBody f final)
  | .assertion test message => .assertion (test.replace f) (replaceInOption f message)
  | .importNames names => .importNames names
  | .importFrom module names level => .importFrom module names level
  | .global names => .global names
  | .nonlocal names => .nonlocal names
  | .expr value => .expr (value.replace f)
  | .pass => .pass
  | .stop => .stop
  | .next => .next

def replaceInBody (f : String → Option Expr) : List Stmt → List Stmt
  | [] => []
  | s :: ss => s.replace f :: replaceInBody f ss

def Case.replace (f : String → Option Expr) : Case → Case
  | .mk pattern guard body =>
    .mk (pattern.replace f) (replaceInOption f guard) (replaceInBody f body)

def replaceInCases (f : String → Option Expr) : List Case → List Case
  | [] => []
  | c :: cs => c.replace f :: replaceInCases f cs

def Handler.replace (f : String → Option Expr) : Handler → Handler
  | .mk type name body => .mk (replaceInOption f type) name (replaceInBody f body)

def replaceInHandlers (f : String → Option Expr) : List Handler → List Handler
  | [] => []
  | h :: hs => h.replace f :: replaceInHandlers f hs

end

def Program.replace (f : String → Option Expr) : Program → Program
  | .module body => .module (replaceInBody f body)
  | .interactive body => .interactive (replaceInBody f body)
  | .expression e => .expression (e.replace f)

end Conch.Code
