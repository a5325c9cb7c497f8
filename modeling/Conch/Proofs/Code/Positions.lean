import Mathlib
import Conch.Code.Names
import Conch.Proofs.Code.Words

/-!
# Nodes and positions of program trees

A tree is an expression, a statement or any other part of a program. Its node consists of a head,
which says what it is and holds the names and literals that are its own, and of fields, each with
trees in it in a fixed order. Head and fields make up the whole tree. Every part of a tree has a
position, which leads down to it field by field.

Replacing names is a matter of nodes: it keeps the head of every tree that is not replaced itself,
and goes on in each of its fields.
-/

namespace Conch.Code

/-- Any part of a program that is a tree. -/
inductive Tree where
  | expr (e : Expr)
  | item (i : DictItem)
  | link (l : Link)
  | keyword (k : Keyword)
  | clause (c : Clause)
  | param (p : Param)
  | params (p : Params)
  | pattern (p : Pattern)
  | keyPattern (p : KeyPattern)
  | namedPattern (p : NamedPattern)
  | withItem (i : WithItem)
  | stmt (s : Stmt)
  | case (c : Case)
  | handler (h : Handler)
  | program (p : Program)

inductive Expr.Head where
  | boolean (op : BoolOp)
  | named
  | binary (op : BinaryOp)
  | unary (op : UnaryOp)
  | lambda
  | conditional
  | dict
  | set
  | listComp
  | setComp
  | dictComp
  | generator
  | await
  | yield
  | yieldFrom
  | compare
  | call
  | field (conversion : Option Char)
  | template
  | constant (value : Constant)
  | attribute (name : String)
  | subscript
  | starred
  | name (id : String)
  | list
  | tuple
  | slice

inductive Pattern.Head where
  | value
  | singleton (value : Constant)
  | sequence
  | mapping (rest : Option String)
  | object
  | star (name : Option String)
  | capture (name : Option String)
  | either

inductive Stmt.Head where
  | function (isAsync : Bool) (name : String)
  | cls (name : String)
  | ret
  | delete
  | assign
  | augAssign (op : BinaryOp)
  | annAssign (simple : Bool)
  | forLoop (isAsync : Bool)
  | whileLoop
  | branch
  | withBlock (isAsync : Bool)
  | matchOn
  | raise
  | attempt (grouped : Bool)
  | assertion
  | importNames (names : List Alias)
  | importFrom (module : Option String) (names : List Alias) (level : Nat)
  | global (names : List String)
  | nonlocal (names : List String)
  | expr
  | pass
  | stop
  | next

/-- What a tree is, and what it holds besides other trees. -/
inductive Tree.Head where
  | expr (head : Expr.Head)
  | pair
  | spread
  | link (op : CompareOp)
  | keyword (name : Option String)
  | clause (isAsync : Bool)
  | param (name : String)
  | params
  | pattern (head : Pattern.Head)
  | keyPattern
  | namedPattern (name : String)
  | withItem
  | stmt (head : Stmt.Head)
  | case
  | handler (name : Option String)
  | program (mode : Mode)

def Expr.head : Expr → Expr.Head
  | .boolean op _ => .boolean op
  | .named _ _ => .named
  | .binary op _ _ => .binary op
  | .unary op _ => .unary op
  | .lambda _ _ => .lambda
  | .conditional _ _ _ => .conditional
  | .dict _ => .dict
  | .set _ => .set
  | .listComp _ _ => .listComp
  | .setComp _ _ => .setComp
  | .dictComp _ _ _ => .dictComp
  | .generator _ _ => .generator
  | .await _ => .await
  | .yield _ => .yield
  | .yieldFrom _ => .yieldFrom
  | .compare _ _ => .compare
  | .call _ _ _ => .call
  | .field _ conversion _ => .field conversion
  | .template _ => .template
  | .constant value => .constant value
  | .attribute _ member => .attribute member
  | .subscript _ _ => .subscript
  | .starred _ => .starred
  | .name id => .name id
  | .list _ => .list
  | .tuple _ => .tuple
  | .slice _ _ _ => .slice

def Pattern.head : Pattern → Pattern.Head
  | .value _ => .value
  | .singleton constant => .singleton constant
  | .sequence _ => .sequence
  | .mapping _ rest => .mapping rest
  | .object _ _ _ => .object
  | .star name => .star name
  | .capture _ name => .capture name
  | .either _ => .either

def Stmt.head : Stmt → Stmt.Head
  | .function isAsync name _ _ _ _ => .function isAsync name
  | .cls name _ _ _ _ => .cls name
  | .ret _ => .ret
  | .delete _ => .delete
  | .assign _ _ => .assign
  | .augAssign _ op _ => .augAssign op
  | .annAssign _ _ _ simple => .annAssign simple
  | .forLoop isAsync _ _ _ _ => .forLoop isAsync
  | .whileLoop _ _ _ => .whileLoop
  | .branch _ _ _ => .branch
  | .withBlock isAsync _ _ => .withBlock isAsync
  | .matchOn _ _ => .matchOn
  | .raise _ _ => .raise
  | .attempt grouped _ _ _ _ => .attempt grouped
  | .assertion _ _ => .assertion
  | .importNames names => .importNames names
  | .importFrom module names level => .importFrom module names level
  | .global names => .global names
  | .nonlocal names => .nonlocal names
  | .expr _ => .expr
  | .pass => .pass
  | .stop => .stop
  | .next => .next

def Tree.head : Tree → Tree.Head
  | .expr e => .expr e.head
  | .item (.pair _ _) => .pair
  | .item (.spread _) => .spread
  | .link (.mk op _) => .link op
  | .keyword (.named name _) => .keyword (some name)
  | .keyword (.spread _) => .keyword none
  | .clause (.mk isAsync _ _ _) => .clause isAsync
  | .param (.mk name _ _) => .param name
  | .params _ => .params
  | .pattern p => .pattern p.head
  | .keyPattern _ => .keyPattern
  | .namedPattern (.mk name _) => .namedPattern name
  | .withItem _ => .withItem
  | .stmt s => .stmt s.head
  | .case _ => .case
  | .handler (.mk _ name _) => .handler name
  | .program (.module _) => .program .module
  | .program (.interactive _) => .program .interactive
  | .program (.expression _) => .program .expression

/-- The trees in each field of an expression, in order; an optional one may be missing. -/
def Expr.fields : Expr → List (List Tree)
  | .boolean _ values => [values.map .expr]
  | .named target value => [[.expr target], [.expr value]]
  | .binary _ left right => [[.expr left], [.expr right]]
  | .unary _ operand => [[.expr operand]]
  | .lambda params body => [[.params params], [.expr body]]
  | .conditional test body orelse => [[.expr test], [.expr body], [.expr orelse]]
  | .dict items => [items.map .item]
  | .set items => [items.map .expr]
  | .listComp element clauses => [[.expr element], clauses.map .clause]
  | .setComp element clauses => [[.expr element], clauses.map .clause]
  | .dictComp key value clauses => [[.expr key], [.expr value], clauses.map .clause]
  | .generator element clauses => [[.expr element], clauses.map .clause]
  | .await value => [[.expr value]]
  | .yield value => [value.toList.map .expr]
  | .yieldFrom value => [[.expr value]]
  | .compare left links => [[.expr left], links.map .link]
  | .call function args keywords => [[.expr function], args.map .expr, keywords.map .keyword]
  | .field value _ format => [[.expr value], format.toList.map .expr]
  | .template parts => [parts.map .expr]
  | .constant _ => []
  | .attribute value _ => [[.expr value]]
  | .subscript value index => [[.expr value], [.expr index]]
  | .starred value => [[.expr value]]
  | .name _ => []
  | .list items => [items.map .expr]
  | .tuple items => [items.map .expr]
  | .slice lower upper step =>
    [lower.toList.map .expr, upper.toList.map .expr, step.toList.map .expr]

def Pattern.fields : Pattern → List (List Tree)
  | .value e => [[.expr e]]
  | .singleton _ => []
  | .sequence items => [items.map .pattern]
  | .mapping items _ => [items.map .keyPattern]
  | .object cls items attributes =>
    [[.expr cls], items.map .pattern, attributes.map .namedPattern]
  | .star _ => []
  | .capture pattern _ => [pattern.toList.map .pattern]
  | .either items => [items.map .pattern]

def Stmt.fields : Stmt → List (List Tree)
  | .function _ _ params body decorators returns =>
    [[.params params], body.map .stmt, decorators.map .expr, returns.toList.map .expr]
  | .cls _ bases keywords body decorators =>
    [bases.map .expr, keywords.map .keyword, body.map .stmt, decorators.map .expr]
  | .ret value => [value.toList.map .expr]
  | .delete targets => [targets.map .expr]
  | .assign targets value => [targets.map .expr, [.expr value]]
  | .augAssign target _ value => [[.expr target], [.expr value]]
  | .annAssign target hint value _ => [[.expr target], [.expr hint], value.toList.map .expr]
  | .forLoop _ target source body orelse =>
    [[.expr target], [.expr source], body.map .stmt, orelse.map .stmt]
  | .whileLoop test body orelse => [[.expr test], body.map .stmt, orelse.map .stmt]
  | .branch test body orelse => [[.expr test], body.map .stmt, orelse.map .stmt]
  | .withBlock _ items body => [items.map .withItem, body.map .stmt]
  | .matchOn subject cases => [[.expr subject], cases.map .case]
  | .raise exception cause => [exception.toList.map .expr, cause.toList.map .expr]
  | .attempt _ body handlers orelse final =>
    [body.map .stmt, handlers.map .handler, orelse.map .stmt, final.map .stmt]
  | .assertion test message => [[.expr test], message.toList.map .expr]
  | .expr value => [[.expr value]]
  | .importNames _ | .importFrom _ _ _ | .global _ | .nonlocal _ | .pass | .stop | .next => []

def Tree.fields : Tree → List (List Tree)
  | .expr e => e.fields
  | .item (.pair key value) => [[.expr key], [.expr value]]
  | .item (.spread value) => [[.expr value]]
  | .link (.mk _ right) => [[.expr right]]
  | .keyword (.named _ value) => [[.expr value]]
  | .keyword (.spread value) => [[.expr value]]
  | .clause (.mk _ target source conditions) =>
    [[.expr target], [.expr source], conditions.map .expr]
  | .param (.mk _ hint default) => [hint.toList.map .expr, default.toList.map .expr]
  | .params (.mk positional plain rest keywordOnly keywordRest) =>
    [positional.map .param, plain.map .param, rest.toList.map .param, keywordOnly.map .param,
      keywordRest.toList.map .param]
  | .pattern p => p.fields
  | .keyPattern (.mk key p) => [[.expr key], [.pattern p]]
  | .namedPattern (.mk _ p) => [[.pattern p]]
  | .withItem i => [[.expr i.context], i.target.toList.map .expr]
  | .stmt s => s.fields
  | .case (.mk p guard body) => [[.pattern p], guard.toList.map .expr, body.map .stmt]
  | .handler (.mk type _ body) => [type.toList.map .expr, body.map .stmt]
  | .program (.module body) => [body.map .stmt]
  | .program (.interactive body) => [body.map .stmt]
  | .program (.expression e) => [[.expr e]]

/-- A tree is an expression, a pattern, a statement, or one of the parts around them. -/
@[elab_as_elim]
theorem Tree.shapes {motive : Tree → Prop} (expr : ∀ e, motive (.expr e))
    (pair : ∀ key value, motive (.item (.pair key value)))
    (spread : ∀ value, motive (.item (.spread value)))
    (link : ∀ op right, motive (.link (.mk op right)))
    (named : ∀ name value, motive (.keyword (.named name value)))
    (unnamed : ∀ value, motive (.keyword (.spread value)))
    (clause : ∀ isAsync target source conditions,
      motive (.clause (.mk isAsync target source conditions)))
    (param : ∀ name hint default, motive (.param (.mk name hint default)))
    (params : ∀ positional plain rest keywordOnly keywordRest,
      motive (.params (.mk positional plain rest keywordOnly keywordRest)))
    (pattern : ∀ p, motive (.pattern p))
    (keyPattern : ∀ key p, motive (.keyPattern (.mk key p)))
    (namedPattern : ∀ name p, motive (.namedPattern (.mk name p)))
    (withItem : ∀ context target, motive (.withItem ⟨context, target⟩))
    (stmt : ∀ s, motive (.stmt s))
    (case : ∀ p guard body, motive (.case (.mk p guard body)))
    (handler : ∀ type name body, motive (.handler (.mk type name body)))
    (module : ∀ body, motive (.program (.module body)))
    (interactive : ∀ body, motive (.program (.interactive body)))
    (expression : ∀ e, motive (.program (.expression e))) : ∀ t, motive t
  | .expr e => expr e
  | .item (.pair key value) => pair key value
  | .item (.spread value) => spread value
  | .link (.mk op right) => link op right
  | .keyword (.named name value) => named name value
  | .keyword (.spread value) => unnamed value
  | .clause (.mk isAsync target source conditions) => clause isAsync target source conditions
  | .param (.mk name hint default) => param name hint default
  | .params (.mk positional plain rest keywordOnly keywordRest) =>
    params positional plain rest keywordOnly keywordRest
  | .pattern p => pattern p
  | .keyPattern (.mk key p) => keyPattern key p
  | .namedPattern (.mk name p) => namedPattern name p
  | .withItem ⟨context, target⟩ => withItem context target
  | .stmt s => stmt s
  | .case (.mk p guard body) => case p guard body
  | .handler (.mk type name body) => handler type name body
  | .program (.module body) => module body
  | .program (.interactive body) => interactive body
  | .program (.expression e) => expression e

theorem toList_inj {α : Type} {x y : Option α} : x.toList = y.toList ↔ x = y := by
  cases x <;> cases y <;> simp

theorem Expr.eq_of_node {e e' : Expr} (hhead : e.head = e'.head) (hfields : e.fields = e'.fields) :
    e = e' := by
  cases e <;> cases e' <;> cases hhead <;>
    simp_all [Expr.fields, List.map_inj_right, toList_inj]

theorem Pattern.eq_of_node {p p' : Pattern} (hhead : p.head = p'.head)
    (hfields : p.fields = p'.fields) : p = p' := by
  cases p <;> cases p' <;> cases hhead <;>
    simp_all [Pattern.fields, List.map_inj_right, toList_inj]

theorem Stmt.eq_of_node {s s' : Stmt} (hhead : s.head = s'.head) (hfields : s.fields = s'.fields) :
    s = s' := by
  cases s <;> cases s' <;> cases hhead <;>
    simp_all [Stmt.fields, List.map_inj_right, toList_inj]

theorem Tree.eq_of_node {t t' : Tree} (hhead : t.head = t'.head) (hfields : t.fields = t'.fields) :
    t = t' := by
  -- heads of different shapes differ, so only trees of one shape are left to compare
  cases t using Tree.shapes <;> cases t' using Tree.shapes <;> injection hhead
  case expr.expr h => rw [Expr.eq_of_node h hfields]
  case pattern.pattern h => rw [Pattern.eq_of_node h hfields]
  case stmt.stmt h => rw [Stmt.eq_of_node h hfields]
  all_goals simp_all [Tree.fields, List.map_inj_right, toList_inj]

theorem Expr.sizeOf_lt_of_mem_fields (e : Expr) :
    ∀ us ∈ e.fields, ∀ u ∈ us, sizeOf u < sizeOf (Tree.expr e) := by
  cases e <;> simp [Expr.fields] <;> grind [→ List.sizeOf_lt_of_mem]

theorem Pattern.sizeOf_lt_of_mem_fields (p : Pattern) :
    ∀ us ∈ p.fields, ∀ u ∈ us, sizeOf u < sizeOf (Tree.pattern p) := by
  cases p <;> simp [Pattern.fields] <;> grind [→ List.sizeOf_lt_of_mem]

theorem Stmt.sizeOf_lt_of_mem_fields (s : Stmt) :
    ∀ us ∈ s.fields, ∀ u ∈ us, sizeOf u < sizeOf (Tree.stmt s) := by
  cases s <;> simp [Stmt.fields] <;> grind [→ List.sizeOf_lt_of_mem]

theorem Tree.sizeOf_lt_of_mem_fields (t : Tree) :
    ∀ us ∈ t.fields, ∀ u ∈ us, sizeOf u < sizeOf t := by
  cases t using Tree.shapes with
  | expr e => exact e.sizeOf_lt_of_mem_fields
  | pattern p => exact p.sizeOf_lt_of_mem_fields
  | stmt s => exact s.sizeOf_lt_of_mem_fields
  | _ => simp [Tree.fields] <;> grind [→ List.sizeOf_lt_of_mem]

/-- What holds of a tree as soon as it holds of the trees in its fields holds of every tree. -/
theorem Tree.induction {motive : Tree → Prop}
    (step : ∀ t, (∀ us ∈ t.fields, ∀ u ∈ us, motive u) → motive t) (t : Tree) : motive t :=
  step t fun us hus u hu =>
    have : sizeOf u < sizeOf t := t.sizeOf_lt_of_mem_fields us hus u hu
    Tree.induction step u
termination_by sizeOf t

/-! ## Replacing names, node by node -/

/-- What goes through a list item by item is a map. -/
theorem eq_map_of_cons {α : Type} {g : List α → List α} {h : α → α} (hnil : g [] = [])
    (hcons : ∀ x xs, g (x :: xs) = h x :: g xs) (xs : List α) : g xs = xs.map h := by
  induction xs with
  | nil => exact hnil
  | cons x xs ih => rw [hcons, ih, List.map_cons]

section Replace

variable (f : String → Option Expr)

@[simp] theorem replaceIn_eq_map (es : List Expr) : replaceIn f es = es.map (Expr.replace f) :=
  eq_map_of_cons rfl (fun _ _ => rfl) es

@[simp] theorem replaceInOption_eq_map (e : Option Expr) :
    replaceInOption f e = e.map (Expr.replace f) := by
  cases e <;> rfl

@[simp] theorem replaceInItems_eq_map (is : List DictItem) :
    replaceInItems f is = is.map (DictItem.replace f) :=
  eq_map_of_cons rfl (fun _ _ => rfl) is

@[simp] theorem replaceInLinks_eq_map (ls : List Link) :
    replaceInLinks f ls = ls.map (Link.replace f) :=
  eq_map_of_cons rfl (fun _ _ => rfl) ls

@[simp] theorem replaceInKeywords_eq_map (ks : List Keyword) :
    replaceInKeywords f ks = ks.map (Keyword.replace f) :=
  eq_map_of_cons rfl (fun _ _ => rfl) ks

@[simp] theorem replaceInClauses_eq_map (cs : List Clause) :
    replaceInClauses f cs = cs.map (Clause.replace f) :=
  eq_map_of_cons rfl (fun _ _ => rfl) cs

@[simp] theorem replaceInParams_eq_map (ps : List Param) :
    replaceInParams f ps = ps.map (Param.replace f) :=
  eq_map_of_cons rfl (fun _ _ => rfl) ps

@[simp] theorem replaceInParam_eq_map (p : Option Param) :
    replaceInParam f p = p.map (Param.replace f) := by
  cases p <;> rfl

@[simp] theorem replaceInPattern_eq_map (p : Option Pattern) :
    replaceInPattern f p = p.map (Pattern.replace f) := by
  cases p <;> rfl

@[simp] theorem replaceInPatterns_eq_map (ps : List Pattern) :
    replaceInPatterns f ps = ps.map (Pattern.replace f) :=
  eq_map_of_cons rfl (fun _ _ => rfl) ps

@[simp] theorem replaceInKeyPatterns_eq_map (ps : List KeyPattern) :
    replaceInKeyPatterns f ps = ps.map (KeyPattern.replace f) :=
  eq_map_of_cons rfl (fun _ _ => rfl) ps

@[simp] theorem replaceInNamedPatterns_eq_map (ps : List NamedPattern) :
    replaceInNamedPatterns f ps = ps.map (NamedPattern.replace f) :=
  eq_map_of_cons rfl (fun _ _ => rfl) ps

@[simp] theorem replaceInCases_eq_map (cs : List Case) :
    replaceInCases f cs = cs.map (Case.replace f) :=
  eq_map_of_cons rfl (fun _ _ => rfl) cs

@[simp] theorem replaceInHandlers_eq_map (hs : List Handler) :
    replaceInHandlers f hs = hs.map (Handler.replace f) :=
  eq_map_of_cons rfl (fun _ _ => rfl) hs

/-- The tree with every name that `f` knows replaced. -/
def Tree.replace : Tree → Tree
  | .expr e => .expr (e.replace f)
  | .item i => .item (i.replace f)
  | .link l => .link (l.replace f)
  | .keyword k => .keyword (k.replace f)
  | .clause c => .clause (c.replace f)
  | .param p => .param (p.replace f)
  | .params p => .params (p.replace f)
  | .pattern p => .pattern (p.replace f)
  | .keyPattern p => .keyPattern (p.replace f)
  | .namedPattern p => .namedPattern (p.replace f)
  | .withItem i => .withItem (i.replace f)
  | .stmt s => .stmt (s.replace f)
  | .case c => .case (c.replace f)
  | .handler h => .handler (h.replace f)
  | .program p => .program (p.replace f)

/-- The name that a tree is, if it is one. -/
def Tree.id? : Tree → Option String
  | .expr (.name id) => some id
  | _ => none

theorem Tree.eq_name_of_id? {t : Tree} {id : String} (h : t.id? = some id) :
    t = .expr (.name id) := by
  fun_cases Tree.id? t
  · simpa [Tree.id?] using h
  · simp_all [Tree.id?]

/-- What takes the place of a tree. -/
def Tree.replacement? (t : Tree) : Option Expr := t.id?.bind f

variable {f}

theorem Tree.replace_of_replacement? {t : Tree} {e : Expr} (h : t.replacement? f = some e) :
    t.replace f = .expr e := by
  obtain ⟨id, hid, he⟩ := Option.bind_eq_some_iff.1 h
  rw [Tree.eq_name_of_id? hid, Tree.replace, Expr.replace, he]
  rfl

theorem Expr.head_replace {e : Expr} (h : (Tree.expr e).replacement? f = none) :
    (e.replace f).head = e.head := by
  cases e with
  | name id =>
    have hid : f id = none := h
    rw [Expr.replace, hid, Option.getD_none]
  | _ => rfl

theorem Expr.fields_replace {e : Expr} (h : (Tree.expr e).replacement? f = none) :
    (e.replace f).fields = e.fields.map (List.map (Tree.replace f)) := by
  cases e with
  | name id =>
    have hid : f id = none := h
    rw [Expr.replace, hid, Option.getD_none]
    rfl
  | _ => simp [Expr.replace, Expr.fields, Tree.replace, Function.comp_def, Option.toList_map]

theorem Pattern.fields_replace (p : Pattern) :
    (p.replace f).fields = p.fields.map (List.map (Tree.replace f)) := by
  cases p <;>
    simp [Pattern.replace, Pattern.fields, Tree.replace, Function.comp_def, Option.toList_map]

theorem Stmt.fields_replace (s : Stmt) :
    (s.replace f).fields = s.fields.map (List.map (Tree.replace f)) := by
  cases s <;>
    simp [Stmt.replace, Stmt.fields, Tree.replace, replaceInBody_eq_map, Function.comp_def,
      Option.toList_map]

theorem Tree.head_replace {t : Tree} (h : t.replacement? f = none) :
    (t.replace f).head = t.head := by
  cases t using Tree.shapes with
  | expr e => exact congrArg Head.expr (Expr.head_replace h)
  | pattern p => cases p <;> rfl
  | stmt s => cases s <;> rfl
  | _ => rfl

theorem Tree.fields_replace {t : Tree} (h : t.replacement? f = none) :
    (t.replace f).fields = t.fields.map (List.map (Tree.replace f)) := by
  cases t using Tree.shapes with
  | expr e => exact Expr.fields_replace h
  | pattern p => exact p.fields_replace
  | stmt s => exact s.fields_replace
  | _ =>
    simp [Tree.replace, Tree.fields, DictItem.replace, Link.replace, Keyword.replace,
      Clause.replace, Param.replace, Params.replace, KeyPattern.replace, NamedPattern.replace,
      WithItem.replace, Case.replace, Handler.replace, Program.replace, replaceInBody_eq_map,
      Function.comp_def, Option.toList_map]

end Replace

/-! ## Positions -/

/-- The way down to a part of a tree: at each step the number of a field and the place in it. -/
abbrev Position := List (Nat × Nat)

namespace Tree

def child? (t : Tree) (step : Nat × Nat) : Option Tree := t.fields[step.1]?.bind (·[step.2]?)

/-- The part of a tree at a position. -/
def at? : Tree → Position → Option Tree
  | t, [] => some t
  | t, step :: p => (t.child? step).bind fun u => u.at? p

@[simp] theorem at?_nil (t : Tree) : t.at? [] = some t := rfl

theorem at?_cons {t u : Tree} {step : Nat × Nat} (p : Position) (h : t.child? step = some u) :
    t.at? (step :: p) = u.at? p := by
  rw [at?, h, Option.bind_some]

theorem exists_child_of_at?_cons {t v : Tree} {step : Nat × Nat} {p : Position}
    (h : t.at? (step :: p) = some v) : ∃ u, t.child? step = some u ∧ u.at? p = some v :=
  Option.bind_eq_some_iff.1 h

/-- Some tree stands in a field of the one that has it as its child. -/
theorem mem_fields_of_child? {t u : Tree} {step : Nat × Nat} (h : t.child? step = some u) :
    ∃ us ∈ t.fields, u ∈ us := by
  obtain ⟨us, hus, hu⟩ := Option.bind_eq_some_iff.1 h
  exact ⟨us, List.mem_of_getElem? hus, List.mem_of_getElem? hu⟩

/-- The number of trees in each field. -/
def arities (t : Tree) : List Nat := t.fields.map List.length

variable {f : String → Option Expr}

/-- A name has nothing below it. -/
theorem replacement?_of_child? {t u : Tree} {step : Nat × Nat} (h : t.child? step = some u) :
    t.replacement? f = none := by
  cases hid : t.id? with
  | none => rw [replacement?, hid, Option.bind_none]
  | some id =>
    rw [eq_name_of_id? hid] at h
    nomatch h

theorem child?_replace {t : Tree} (step : Nat × Nat) (h : t.replacement? f = none) :
    (t.replace f).child? step = (t.child? step).map (replace f) := by
  rw [child?, child?, fields_replace h, List.getElem?_map]
  cases t.fields[step.1]? with
  | none => rfl
  | some us => exact List.getElem?_map

theorem arities_replace {t : Tree} (h : t.replacement? f = none) :
    (t.replace f).arities = t.arities := by
  simp [arities, fields_replace h, Function.comp_def]

/-- Replacing names goes on below every position that is kept. -/
theorem at?_replace {t u : Tree} {p : Position} (h : t.at? p = some u) :
    (t.replace f).at? p = some (u.replace f) := by
  induction p generalizing t with
  | nil => rw [at?_nil, Option.some.inj h]
  | cons step p ih =>
    obtain ⟨v, hv, hu⟩ := exists_child_of_at?_cons h
    have hchild : (t.replace f).child? step = some (v.replace f) := by
      rw [child?_replace step (replacement?_of_child? hv), hv, Option.map_some]
    rw [at?_cons p hchild]
    exact ih hu

/-- Fields with the same numbers of trees, and the image of each tree where it stood, are the images
of the fields. -/
theorem fields_eq_map {t t' : Tree} {g : Tree → Tree} (harities : t'.arities = t.arities)
    (hchild : ∀ step u, t.child? step = some u → t'.child? step = some (g u)) :
    t'.fields = t.fields.map (List.map g) := by
  apply List.ext_getElem?
  intro i
  have hlengths : t'.fields[i]?.map List.length = t.fields[i]?.map List.length := by
    simpa only [arities, List.getElem?_map] using congrArg (·[i]?) harities
  rw [List.getElem?_map]
  cases hus : t.fields[i]? with
  | none =>
    rw [hus, Option.map_none, Option.map_eq_none_iff] at hlengths
    rw [hlengths, Option.map_none]
  | some us =>
    rw [hus, Option.map_some, Option.map_eq_some_iff] at hlengths
    obtain ⟨us', hus', hlength⟩ := hlengths
    rw [hus', Option.map_some]
    congr 1
    apply List.ext_getElem (by rw [hlength, List.length_map])
    intro j hj hj'
    have hu : t.child? (i, j) = some us[j] := by
      rw [child?, hus, Option.bind_some]
      exact List.getElem?_eq_getElem _
    have hu' := hchild (i, j) us[j] hu
    rw [child?, hus', Option.bind_some] at hu'
    rw [List.getElem_map]
    exact (List.getElem?_eq_some_iff.1 hu').2

/-- At every position of `t`, `t'` has what replaces the tree there, or a tree with the same head
and as many trees in each field. -/
structure Replaced (f : String → Option Expr) (t t' : Tree) : Prop where
  replaced : ∀ p u e, t.at? p = some u → u.replacement? f = some e → t'.at? p = some (.expr e)
  kept : ∀ p u, t.at? p = some u → u.replacement? f = none →
    ∃ u', t'.at? p = some u' ∧ u'.head = u.head ∧ u'.arities = u.arities

theorem replaced_replace (t : Tree) : Replaced f t (t.replace f) where
  replaced p u e hu he := by
    rw [at?_replace hu, replace_of_replacement? he]
  kept p u hu hnone :=
    ⟨u.replace f, at?_replace hu, head_replace hnone, arities_replace hnone⟩

theorem Replaced.child {t t' u u' : Tree} {step : Nat × Nat} (h : Replaced f t t')
    (hu : t.child? step = some u) (hu' : t'.child? step = some u') : Replaced f u u' where
  replaced p v e hv he := by
    rw [← at?_cons p hu']
    exact h.replaced (step :: p) v e (by rw [at?_cons p hu, hv]) he
  kept p v hv hnone := by
    rw [← at?_cons p hu']
    exact h.kept (step :: p) v (by rw [at?_cons p hu, hv]) hnone

/-- A child is found again where it was. -/
theorem Replaced.exists_child {t t' u : Tree} {step : Nat × Nat} (h : Replaced f t t')
    (hu : t.child? step = some u) : ∃ u', t'.child? step = some u' := by
  have hat : t.at? [step] = some u := at?_cons [] hu
  cases he : u.replacement? f with
  | none =>
    obtain ⟨u', hu', -, -⟩ := h.kept [step] u hat he
    obtain ⟨v, hv, -⟩ := exists_child_of_at?_cons hu'
    exact ⟨v, hv⟩
  | some e =>
    obtain ⟨v, hv, -⟩ := exists_child_of_at?_cons (h.replaced [step] u e hat he)
    exact ⟨v, hv⟩

/-- What stands at the positions of a tree decides the whole result. -/
theorem Replaced.eq_replace {t t' : Tree} (h : Replaced f t t') : t' = t.replace f := by
  induction t using Tree.induction generalizing t' with
  | step t ih =>
    cases he : t.replacement? f with
    | some e =>
      rw [replace_of_replacement? he]
      exact Option.some.inj (h.replaced [] t e (at?_nil t) he)
    | none =>
      obtain ⟨u', hu', hhead, harities⟩ := h.kept [] t (at?_nil t) he
      obtain rfl : t' = u' := Option.some.inj hu'
      have hchild : ∀ step u, t.child? step = some u →
          t'.child? step = some (u.replace f) := by
        intro step u hu
        obtain ⟨v, hv⟩ := h.exists_child hu
        obtain ⟨us, hus, hmem⟩ := mem_fields_of_child? hu
        rw [hv, ih us hus u hmem (h.child hu hv)]
      apply eq_of_node
      · rw [hhead, head_replace he]
      · rw [fields_replace he, fields_eq_map harities hchild]

/-- A part of the result is what a kept part became, or it is a part of what was put in. -/
theorem at?_of_at?_replace {t v : Tree} {p : Position} (h : (t.replace f).at? p = some v) :
    (∃ u, t.at? p = some u ∧ u.replacement? f = none ∧ v = u.replace f) ∨
      ∃ q r u e, p = q ++ r ∧ t.at? q = some u ∧ u.replacement? f = some e ∧
        (Tree.expr e).at? r = some v := by
  induction p generalizing t with
  | nil =>
    cases he : t.replacement? f with
    | none => exact .inl ⟨t, rfl, he, (Option.some.inj h).symm⟩
    | some e =>
      rw [replace_of_replacement? he] at h
      exact .inr ⟨[], [], t, e, rfl, rfl, he, h⟩
  | cons step p ih =>
    cases he : t.replacement? f with
    | some e =>
      rw [replace_of_replacement? he] at h
      exact .inr ⟨[], step :: p, t, e, rfl, rfl, he, h⟩
    | none =>
      obtain ⟨w, hw, hv⟩ := exists_child_of_at?_cons h
      rw [child?_replace step he] at hw
      obtain ⟨u, hu, rfl⟩ := Option.map_eq_some_iff.1 hw
      obtain ⟨x, hx, hnone, rfl⟩ | ⟨q, r, x, e, rfl, hx, hsome, hr⟩ := ih hv
      · exact .inl ⟨x, by rw [at?_cons p hu, hx], hnone, rfl⟩
      · exact .inr ⟨step :: q, r, x, e, rfl, by rw [at?_cons q hu, hx], hsome, hr⟩

/-- A name that would be replaced is left only in what was put in. -/
theorem exists_replaced_of_name_at? {t : Tree} {p : Position} {id : String}
    (h : (t.replace f).at? p = some (.expr (.name id))) (hid : (f id).isSome) :
    ∃ q r u e, p = q ++ r ∧ t.at? q = some u ∧ u.replacement? f = some e := by
  obtain ⟨u, hu, hnone, hname⟩ | ⟨q, r, u, e, hp, hu, he, -⟩ := at?_of_at?_replace h
  · have hhead : u.head = .expr (.name id) := by
      rw [← head_replace hnone, ← hname]
      rfl
    have hfields : u.fields = [] := by
      have := fields_replace hnone
      rw [← hname] at this
      exact List.map_eq_nil_iff.1 this.symm
    obtain rfl : u = .expr (.name id) := eq_of_node hhead hfields
    rw [show replacement? f _ = f id from rfl] at hnone
    simp [hnone] at hid
  · exact ⟨q, r, u, e, hp, hu, he⟩

theorem replace_none (t : Tree) : t.replace (fun _ => none) = t := by
  apply Eq.symm
  apply Replaced.eq_replace
  have hnone : ∀ u : Tree, u.replacement? (fun _ => none) = none := by
    intro u
    cases hid : u.id? <;> simp [replacement?, hid]
  exact
    { replaced := by
        intro p u e _ he
        simp [hnone] at he
      kept := fun p u hu _ => ⟨u, hu, rfl, rfl⟩ }

end Tree

end Conch.Code
