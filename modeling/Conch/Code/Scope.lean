import Conch.Code.Tree

/-!
# Scopes

Which names a piece of program binds and which it uses. A function, a lambda or a comprehension is a
scope of its own: what it uses and does not bind counts as a use in the scope around it. An
assignment expression inside a comprehension binds in the scope around the comprehension.
-/

namespace Conch.Code

structure Usage where
  bound : List String
  used : List String
  globals : List String
  nonlocals : List String

namespace Usage

def empty : Usage := ⟨[], [], [], []⟩

def binds (names : List String) : Usage := ⟨names, [], [], []⟩

def uses (names : List String) : Usage := ⟨[], names, [], []⟩

def append (a b : Usage) : Usage :=
  ⟨a.bound ++ b.bound, a.used ++ b.used, a.globals ++ b.globals, a.nonlocals ++ b.nonlocals⟩

instance : Append Usage := ⟨append⟩

/-- The names that a function with these parameters keeps for itself. -/
def locals (params : List String) (u : Usage) : List String :=
  (params ++ u.bound).filter fun n => !u.globals.contains n && !u.nonlocals.contains n

/-- The names that a function with these parameters takes from the scopes around it. -/
def free (params : List String) (u : Usage) : List String :=
  (u.used ++ u.nonlocals).filter fun n =>
    !(u.locals params).contains n && !u.globals.contains n

end Usage

def Param.name : Param → String
  | .mk name _ _ => name

def Params.paramNames : Params → List String
  | .mk positional plain rest keywordOnly keywordRest =>
    positional.map Param.name ++ plain.map Param.name ++ rest.toList.map Param.name ++
      keywordOnly.map Param.name ++ keywordRest.toList.map Param.name

/-- The names that a target binds. -/
def Expr.targetNames : Expr → List String
  | .name id => [id]
  | .starred e => e.targetNames
  | .tuple es => targetNamesIn es
  | .list es => targetNamesIn es
  | _ => []
where
  targetNamesIn : List Expr → List String
    | [] => []
    | e :: es => e.targetNames ++ targetNamesIn es

/-- The use of a comprehension from that of its inside: its targets stay inside, other bindings go
out. -/
def comprehension (targets : List String) (inside : Usage) : Usage :=
  ⟨inside.bound, (inside.used ++ inside.bound).filter (!targets.contains ·), [], []⟩

def clauseTargets (cs : List Clause) : List String :=
  cs.flatMap fun c => match c with
    | .mk _ target _ _ => target.targetNames

mutual

/-- What an expression binds and uses. A target does not use the names that it is made of. -/
def Expr.usageAs (asTarget : Bool) : Expr → Usage
  | .boolean _ values => usageInAs false values
  | .named target value =>
    .binds target.targetNames ++ target.usageAs true ++ value.usageAs false
  | .binary _ left right => left.usageAs false ++ right.usageAs false
  | .unary _ operand => operand.usageAs false
  | .lambda params body => params.usage ++ .uses ((body.usageAs false).free params.paramNames)
  | .conditional test body orelse =>
    test.usageAs false ++ body.usageAs false ++ orelse.usageAs false
  | .dict items => usageInItems items
  | .set items => usageInAs false items
  | .listComp element clauses =>
    firstSource clauses ++
      comprehension (clauseTargets clauses) (element.usageAs false ++ usageInClauses true clauses)
  | .setComp element clauses =>
    firstSource clauses ++
      comprehension (clauseTargets clauses) (element.usageAs false ++ usageInClauses true clauses)
  | .dictComp key value clauses =>
    firstSource clauses ++
      comprehension (clauseTargets clauses)
        (key.usageAs false ++ value.usageAs false ++ usageInClauses true clauses)
  | .generator element clauses =>
    firstSource clauses ++
      comprehension (clauseTargets clauses) (element.usageAs false ++ usageInClauses true clauses)
  | .await value => value.usageAs false
  | .yield value => usageInOption value
  | .yieldFrom value => value.usageAs false
  | .compare left links => left.usageAs false ++ usageInLinks links
  | .call function args keywords =>
    function.usageAs false ++ usageInAs false args ++ usageInKeywords keywords
  | .field value _ format => value.usageAs false ++ usageInOption format
  | .template parts => usageInAs false parts
  | .constant _ => .empty
  | .attribute value _ => value.usageAs false
  | .subscript value index => value.usageAs false ++ index.usageAs false
  | .starred value => value.usageAs asTarget
  | .name id => if asTarget then .empty else .uses [id]
  | .list items => usageInAs asTarget items
  | .tuple items => usageInAs asTarget items
  | .slice lower upper step => usageInOption lower ++ usageInOption upper ++ usageInOption step

def usageInAs (asTarget : Bool) : List Expr → Usage
  | [] => .empty
  | e :: es => e.usageAs asTarget ++ usageInAs asTarget es

def usageInOption : Option Expr → Usage
  | none => .empty
  | some e => e.usageAs false

def usageInItems : List DictItem → Usage
  | [] => .empty
  | .pair key value :: items => key.usageAs false ++ value.usageAs false ++ usageInItems items
  | .spread value :: items => value.usageAs false ++ usageInItems items

def usageInLinks : List Link → Usage
  | [] => .empty
  | .mk _ right :: links => right.usageAs false ++ usageInLinks links

def usageInKeywords : List Keyword → Usage
  | [] => .empty
  | .named _ value :: keywords => value.usageAs false ++ usageInKeywords keywords
  | .spread value :: keywords => value.usageAs false ++ usageInKeywords keywords

/-- The source of the first clause, which is evaluated outside the comprehension. -/
def firstSource : List Clause → Usage
  | [] => .empty
  | .mk _ _ source _ :: _ => source.usageAs false

/-- The uses inside a comprehension, without the source of its first clause. -/
def usageInClauses (first : Bool) : List Clause → Usage
  | [] => .empty
  | .mk _ target source conditions :: clauses =>
    target.usageAs true ++ (if first then .empty else source.usageAs false) ++
      usageInAs false conditions ++ usageInClauses false clauses

def Param.usage : Param → Usage
  | .mk _ hint default => usageInOption hint ++ usageInOption default

def usageInParams : List Param → Usage
  | [] => .empty
  | p :: ps => p.usage ++ usageInParams ps

def usageInParam : Option Param → Usage
  | none => .empty
  | some p => p.usage

def Params.usage : Params → Usage
  | .mk positional plain rest keywordOnly keywordRest =>
    usageInParams positional ++ usageInParams plain ++ usageInParam rest ++
      usageInParams keywordOnly ++ usageInParam keywordRest

end

def Expr.usage (e : Expr) : Usage := e.usageAs false

def usageIn (es : List Expr) : Usage := usageInAs false es

/-- What a target binds and uses. -/
def targetUsage (e : Expr) : Usage := .binds e.targetNames ++ e.usageAs true

mutual

def Pattern.usage : Pattern → Usage
  | .value value => value.usage
  | .singleton _ => .empty
  | .sequence items => usageInPatterns items
  | .mapping items rest => usageInKeyPatterns items ++ .binds rest.toList
  | .object cls items attributes =>
    cls.usage ++ usageInPatterns items ++ usageInNamedPatterns attributes
  | .star name => .binds name.toList
  | .capture pattern name => usageInPattern pattern ++ .binds name.toList
  | .either items => usageInPatterns items

def usageInPattern : Option Pattern → Usage
  | none => .empty
  | some p => p.usage

def usageInPatterns : List Pattern → Usage
  | [] => .empty
  | p :: ps => p.usage ++ usageInPatterns ps

def usageInKeyPatterns : List KeyPattern → Usage
  | [] => .empty
  | .mk key p :: ps => key.usage ++ p.usage ++ usageInKeyPatterns ps

def usageInNamedPatterns : List NamedPattern → Usage
  | [] => .empty
  | .mk _ p :: ps => p.usage ++ usageInNamedPatterns ps

end

/-- The name that an import binds: an alias, or the first part of a dotted name. -/
def Alias.bound (a : Alias) : String :=
  match a.asName with
  | some n => n
  | none => String.ofList (a.name.toList.takeWhile (· != '.'))

def usageInTarget : Option Expr → Usage
  | none => .empty
  | some e => targetUsage e

def WithItem.usage (i : WithItem) : Usage := i.context.usage ++ usageInTarget i.target

def usageInTargets (es : List Expr) : Usage := es.foldl (fun u e => u ++ targetUsage e) .empty

mutual

def Stmt.usage : Stmt → Usage
  | .function _ name params body decorators returns =>
    .binds [name] ++ usageIn decorators ++ params.usage ++ usageInOption returns ++
      .uses ((usageInBody body).free params.paramNames)
  | .cls name bases keywords body decorators =>
    .binds [name] ++ usageIn decorators ++ usageIn bases ++ usageInKeywords keywords ++
      .uses (usageInBody body).used
  | .ret value => usageInOption value
  | .delete targets => usageInTargets targets ++ usageIn targets
  | .assign targets value => usageInTargets targets ++ value.usage
  | .augAssign target _ value => targetUsage target ++ target.usage ++ value.usage
  | .annAssign target hint value _ => targetUsage target ++ hint.usage ++ usageInOption value
  | .forLoop _ target source body orelse =>
    targetUsage target ++ source.usage ++ usageInBody body ++ usageInBody orelse
  | .whileLoop test body orelse => test.usage ++ usageInBody body ++ usageInBody orelse
  | .branch test body orelse => test.usage ++ usageInBody body ++ usageInBody orelse
  | .withBlock _ items body =>
    items.foldl (fun u i => u ++ i.usage) .empty ++ usageInBody body
  | .matchOn subject cases => subject.usage ++ usageInCases cases
  | .raise exception cause => usageInOption exception ++ usageInOption cause
  | .attempt _ body handlers orelse final =>
    usageInBody body ++ usageInHandlers handlers ++ usageInBody orelse ++ usageInBody final
  | .assertion test message => test.usage ++ usageInOption message
  | .importNames names => .binds (names.map Alias.bound)
  | .importFrom _ names _ =>
    .binds ((names.filter (·.name != "*")).map fun a => a.asName.getD a.name)
  | .global names => ⟨[], [], names, []⟩
  | .nonlocal names => ⟨[], [], [], names⟩
  | .expr value => value.usage
  | .pass => .empty
  | .stop => .empty
  | .next => .empty

def usageInBody : List Stmt → Usage
  | [] => .empty
  | s :: ss => s.usage ++ usageInBody ss

def usageInCases : List Case → Usage
  | [] => .empty
  | .mk pattern guard body :: cases =>
    pattern.usage ++ usageInOption guard ++ usageInBody body ++ usageInCases cases

def usageInHandlers : List Handler → Usage
  | [] => .empty
  | .mk type name body :: handlers =>
    usageInOption type ++ .binds name.toList ++ usageInBody body ++ usageInHandlers handlers

end

end Conch.Code
