import Mathlib
import Conch.Code.Names
import Conch.Code.Scope

/-!
# Free names and bound names

A name in an expression is free, and stands for something around the expression, or it is bound
somewhere inside: as a parameter of a lambda, as a target of a comprehension, or by an assignment
expression. The names that are bound inside are listed here, and every name in an expression is
shown to be free or among them.
-/

namespace Conch.Code

/-- The names that an expression takes from around it. -/
def Expr.free (e : Expr) : List String := e.usage.free []

mutual

/-- The names that are bound inside an expression, at any depth; those of a target too. -/
def Expr.bindersAs (asTarget : Bool) : Expr → List String
  | .boolean _ values => bindersInAs false values
  | .named target value => target.bindersAs true ++ value.bindersAs false
  | .binary _ left right => left.bindersAs false ++ right.bindersAs false
  | .unary _ operand => operand.bindersAs false
  | .lambda params body => params.binders ++ (params.paramNames ++ body.bindersAs false)
  | .conditional test body orelse =>
    test.bindersAs false ++ body.bindersAs false ++ orelse.bindersAs false
  | .dict items => bindersInItems items
  | .set items => bindersInAs false items
  | .listComp element clauses => element.bindersAs false ++ bindersInClauses clauses
  | .setComp element clauses => element.bindersAs false ++ bindersInClauses clauses
  | .dictComp key value clauses =>
    key.bindersAs false ++ value.bindersAs false ++ bindersInClauses clauses
  | .generator element clauses => element.bindersAs false ++ bindersInClauses clauses
  | .await value => value.bindersAs false
  | .yield value => bindersInOption value
  | .yieldFrom value => value.bindersAs false
  | .compare left links => left.bindersAs false ++ bindersInLinks links
  | .call function args keywords =>
    function.bindersAs false ++ bindersInAs false args ++ bindersInKeywords keywords
  | .field value _ format => value.bindersAs false ++ bindersInOption format
  | .template parts => bindersInAs false parts
  | .constant _ => []
  | .attribute value _ => value.bindersAs false
  | .subscript value index => value.bindersAs false ++ index.bindersAs false
  | .starred value => value.bindersAs asTarget
  | .name id => if asTarget then [id] else []
  | .list items => bindersInAs asTarget items
  | .tuple items => bindersInAs asTarget items
  | .slice lower upper step =>
    bindersInOption lower ++ bindersInOption upper ++ bindersInOption step

def bindersInAs (asTarget : Bool) : List Expr → List String
  | [] => []
  | e :: es => e.bindersAs asTarget ++ bindersInAs asTarget es

def bindersInOption : Option Expr → List String
  | none => []
  | some e => e.bindersAs false

def bindersInItems : List DictItem → List String
  | [] => []
  | .pair key value :: items =>
    key.bindersAs false ++ value.bindersAs false ++ bindersInItems items
  | .spread value :: items => value.bindersAs false ++ bindersInItems items

def bindersInLinks : List Link → List String
  | [] => []
  | .mk _ right :: links => right.bindersAs false ++ bindersInLinks links

def bindersInKeywords : List Keyword → List String
  | [] => []
  | .named _ value :: keywords => value.bindersAs false ++ bindersInKeywords keywords
  | .spread value :: keywords => value.bindersAs false ++ bindersInKeywords keywords

def bindersInClauses : List Clause → List String
  | [] => []
  | .mk _ target source conditions :: clauses =>
    target.bindersAs true ++ source.bindersAs false ++ bindersInAs false conditions ++
      bindersInClauses clauses

/-- The names bound inside the hint and the default of a parameter, without its own. -/
def Param.binders : Param → List String
  | .mk _ hint default => bindersInOption hint ++ bindersInOption default

def bindersInParams : List Param → List String
  | [] => []
  | p :: ps => p.binders ++ bindersInParams ps

def bindersInParam : Option Param → List String
  | none => []
  | some p => p.binders

def Params.binders : Params → List String
  | .mk positional plain rest keywordOnly keywordRest =>
    bindersInParams positional ++ bindersInParams plain ++ bindersInParam rest ++
      bindersInParams keywordOnly ++ bindersInParam keywordRest

end

def Expr.binders (e : Expr) : List String := e.bindersAs false

mutual

/-- What a target binds is listed. -/
theorem Expr.targetNames_subset (e : Expr) : e.targetNames ⊆ e.bindersAs true := by
  cases e with
  | name id => exact List.Subset.refl [id]
  | starred value => exact value.targetNames_subset
  | list items => exact targetNamesIn_subset items
  | tuple items => exact targetNamesIn_subset items
  | _ => exact List.nil_subset _

theorem targetNamesIn_subset (es : List Expr) :
    Expr.targetNames.targetNamesIn es ⊆ bindersInAs true es := by
  cases es with
  | nil => exact List.nil_subset _
  | cons e es =>
    apply List.append_subset.mpr
    exact ⟨List.subset_append_of_subset_left _ e.targetNames_subset,
      List.subset_append_of_subset_right _ (targetNamesIn_subset es)⟩

end

theorem clauseTargets_subset (cs : List Clause) : clauseTargets cs ⊆ bindersInClauses cs := by
  induction cs with
  | nil => exact List.nil_subset _
  | cons c cs ih =>
    obtain ⟨isAsync, target, source, conditions⟩ := c
    have htarget := target.targetNames_subset
    intro n hn
    have hn' : n ∈ target.targetNames ∨ n ∈ clauseTargets cs := by
      simpa [clauseTargets] using hn
    simp only [bindersInClauses, List.mem_append]
    exact hn'.elim (fun h => .inl (.inl (.inl (htarget h)))) fun h => .inr (ih h)

namespace Usage

variable (u v : Usage)

@[simp]
theorem bound_append : (u ++ v).bound = u.bound ++ v.bound := rfl

@[simp]
theorem used_append : (u ++ v).used = u.used ++ v.used := rfl

@[simp]
theorem globals_append : (u ++ v).globals = u.globals ++ v.globals := rfl

end Usage

/-- Of some names each is used or bound inside, and what is bound is bound inside. -/
structure Accounted (names : List String) (u : Usage) (binders : List String) : Prop where
  names : ∀ n ∈ names, n ∈ u.used ∨ n ∈ binders
  bound : ∀ n ∈ u.bound, n ∈ binders
  globals : u.globals = []

namespace Accounted

variable {names names' binders binders' : List String} {u v : Usage}

theorem empty : Accounted [] .empty [] := by
  constructor <;> simp [Usage.empty]

theorem append (h : Accounted names u binders) (h' : Accounted names' v binders') :
    Accounted (names ++ names') (u ++ v) (binders ++ binders') := by
  constructor
  · intro n hn
    simp only [Usage.used_append, List.mem_append]
    rcases List.mem_append.mp hn with hn | hn
    · exact (h.names n hn).imp .inl .inl
    · exact (h'.names n hn).imp .inr .inr
  · intro n hn
    simp only [Usage.bound_append, List.mem_append] at hn ⊢
    exact hn.imp (h.bound n) (h'.bound n)
  · rw [Usage.globals_append, h.globals, h'.globals]
    rfl

/-- A usage with the same parts in another order. -/
theorem reorder (h : Accounted names u binders) (hused : u.used ⊆ v.used)
    (hbound : v.bound ⊆ u.bound) (hglobals : v.globals ⊆ u.globals) :
    Accounted names v binders := by
  constructor
  · intro n hn
    exact (h.names n hn).imp_left (@hused n)
  · intro n hn
    exact h.bound n (hbound hn)
  · rw [h.globals] at hglobals
    exact List.subset_nil.mp hglobals

theorem binds {ns : List String} (h : Accounted names u binders) (hns : ns ⊆ binders) :
    Accounted names (.binds ns ++ u) binders := by
  constructor
  · exact h.names
  · intro n hn
    exact (List.mem_append.mp hn).elim (@hns n) (h.bound n)
  · exact h.globals

/-- Inside a function each name is taken from around it, or a parameter, or bound inside. -/
theorem function (h : Accounted names u binders) (params : List String) :
    Accounted names (.uses (u.free params)) (params ++ binders) := by
  constructor
  · intro n hn
    by_cases hbinders : n ∈ params ++ binders
    · exact .inr hbinders
    · left
      rw [List.mem_append, not_or] at hbinders
      have hused : n ∈ u.used := (h.names n hn).resolve_right hbinders.2
      have hlocal : n ∉ u.locals params := by
        intro hlocal
        rcases List.mem_append.mp (List.mem_filter.mp hlocal).1 with hparam | hbound
        · exact hbinders.1 hparam
        · exact hbinders.2 (h.bound n hbound)
      apply List.mem_filter.mpr
      simp [hused, hlocal, h.globals]
  · intro n hn
    cases hn
  · rfl

/-- Inside a comprehension each name is taken from around it, or a target, or bound inside. -/
theorem comprehension {cs : List Clause} (h : Accounted names u binders)
    (hclauses : Accounted (namesInClauses cs) (firstSource cs ++ usageInClauses true cs)
      (bindersInClauses cs)) :
    Accounted (names ++ namesInClauses cs)
      (firstSource cs ++ Code.comprehension (clauseTargets cs) (u ++ usageInClauses true cs))
      (binders ++ bindersInClauses cs) := by
  have hboth := h.append hclauses
  have htargets := clauseTargets_subset cs
  constructor
  · intro n hn
    have hsplit := hboth.names n hn
    simp only [Usage.used_append, Usage.bound_append, Code.comprehension, List.mem_append,
      List.mem_filter, Bool.not_eq_true'] at hsplit ⊢
    by_cases htarget : n ∈ clauseTargets cs
    · exact .inr (.inr (htargets htarget))
    · have hout : (clauseTargets cs).contains n = false := by simpa using htarget
      tauto
  · intro n hn
    apply hboth.bound
    simp only [Usage.bound_append, Code.comprehension, List.mem_append] at hn ⊢
    tauto
  · have hglobals := hclauses.globals
    rw [Usage.globals_append, List.append_eq_nil_iff] at hglobals
    rw [Usage.globals_append, hglobals.1]
    rfl

end Accounted

mutual

theorem Expr.accounted (e : Expr) (asTarget : Bool) :
    Accounted e.names (e.usageAs asTarget) (e.bindersAs asTarget) := by
  cases e with
  | boolean op values => exact accountedIn values false
  | named target value =>
    exact ((target.accounted true).binds target.targetNames_subset).append (value.accounted false)
  | binary op left right => exact (left.accounted false).append (right.accounted false)
  | unary op operand => exact operand.accounted false
  | lambda params body =>
    exact params.accounted.append ((body.accounted false).function params.paramNames)
  | conditional test body orelse =>
    exact ((test.accounted false).append (body.accounted false)).append (orelse.accounted false)
  | dict items => exact accountedInItems items
  | set items => exact accountedIn items false
  | listComp element clauses =>
    exact (element.accounted false).comprehension (accountedInClauses clauses true)
  | setComp element clauses =>
    exact (element.accounted false).comprehension (accountedInClauses clauses true)
  | dictComp key value clauses =>
    exact ((key.accounted false).append (value.accounted false)).comprehension
      (accountedInClauses clauses true)
  | generator element clauses =>
    exact (element.accounted false).comprehension (accountedInClauses clauses true)
  | await value => exact value.accounted false
  | yield value => exact accountedInOption value
  | yieldFrom value => exact value.accounted false
  | compare left links => exact (left.accounted false).append (accountedInLinks links)
  | call function args keywords =>
    exact ((function.accounted false).append (accountedIn args false)).append
      (accountedInKeywords keywords)
  | field value conversion format =>
    exact (value.accounted false).append (accountedInOption format)
  | template parts => exact accountedIn parts false
  | constant c => exact .empty
  | «attribute» value name => exact value.accounted false
  | subscript value index => exact (value.accounted false).append (index.accounted false)
  | starred value => exact value.accounted asTarget
  | name id =>
    cases asTarget with
    | false => exact ⟨fun n hn => .inl hn, fun n hn => (nomatch hn), rfl⟩
    | true => exact ⟨fun n hn => .inr hn, fun n hn => (nomatch hn), rfl⟩
  | list items => exact accountedIn items asTarget
  | tuple items => exact accountedIn items asTarget
  | slice lower upper step =>
    exact ((accountedInOption lower).append (accountedInOption upper)).append
      (accountedInOption step)

theorem accountedIn (es : List Expr) (asTarget : Bool) :
    Accounted (namesIn es) (usageInAs asTarget es) (bindersInAs asTarget es) := by
  cases es with
  | nil => exact .empty
  | cons e es => exact (e.accounted asTarget).append (accountedIn es asTarget)

theorem accountedInOption (e : Option Expr) :
    Accounted (namesInOption e) (usageInOption e) (bindersInOption e) := by
  cases e with
  | none => exact .empty
  | some e => exact e.accounted false

theorem accountedInItems (items : List DictItem) :
    Accounted (namesInItems items) (usageInItems items) (bindersInItems items) := by
  cases items with
  | nil => exact .empty
  | cons i items =>
    cases i with
    | pair key value =>
      exact ((key.accounted false).append (value.accounted false)).append (accountedInItems items)
    | spread value => exact (value.accounted false).append (accountedInItems items)

theorem accountedInLinks (links : List Link) :
    Accounted (namesInLinks links) (usageInLinks links) (bindersInLinks links) := by
  cases links with
  | nil => exact .empty
  | cons l links =>
    cases l with
    | mk op right => exact (right.accounted false).append (accountedInLinks links)

theorem accountedInKeywords (keywords : List Keyword) :
    Accounted (namesInKeywords keywords) (usageInKeywords keywords)
      (bindersInKeywords keywords) := by
  cases keywords with
  | nil => exact .empty
  | cons k keywords =>
    cases k with
    | named name value => exact (value.accounted false).append (accountedInKeywords keywords)
    | spread value => exact (value.accounted false).append (accountedInKeywords keywords)

theorem accountedInClauses (clauses : List Clause) (first : Bool) :
    Accounted (namesInClauses clauses)
      ((if first then firstSource clauses else .empty) ++ usageInClauses first clauses)
      (bindersInClauses clauses) := by
  cases clauses with
  | nil => cases first <;> exact .empty
  | cons c clauses =>
    cases c with
    | mk isAsync target source conditions =>
      have hclause := ((target.accounted true).append (source.accounted false)).append
        (accountedIn conditions false)
      have hall := hclause.append (accountedInClauses clauses false)
      -- the first source comes before the target in the usage, and behind it among the names
      cases first with
      | false => exact hall
      | true =>
        apply hall.reorder <;> intro n hn <;>
          simp only [usageInClauses, firstSource, if_true, Usage.used_append, Usage.bound_append,
            Usage.globals_append, List.mem_append] at hn ⊢ <;>
          tauto

theorem Param.accounted (p : Param) : Accounted p.names p.usage p.binders := by
  cases p with
  | mk name hint default => exact (accountedInOption hint).append (accountedInOption default)

theorem accountedInParams (ps : List Param) :
    Accounted (namesInParams ps) (usageInParams ps) (bindersInParams ps) := by
  cases ps with
  | nil => exact .empty
  | cons p ps => exact p.accounted.append (accountedInParams ps)

theorem accountedInParam (p : Option Param) :
    Accounted (namesInParam p) (usageInParam p) (bindersInParam p) := by
  cases p with
  | none => exact .empty
  | some p => exact p.accounted

theorem Params.accounted (ps : Params) : Accounted ps.names ps.usage ps.binders := by
  cases ps with
  | mk positional plain rest keywordOnly keywordRest =>
    have hplain := (accountedInParams positional).append (accountedInParams plain)
    exact ((hplain.append (accountedInParam rest)).append (accountedInParams keywordOnly)).append
      (accountedInParam keywordRest)

end

/-- Each name in an expression is free or bound somewhere inside. -/
theorem Expr.mem_free_or_mem_binders (e : Expr) {n : String} (h : n ∈ e.names) :
    n ∈ e.free ∨ n ∈ e.binders :=
  ((e.accounted false).function []).names n h

/-- The last `i` is free: the source of the first clause is read around the comprehension. -/
example : (Expr.generator (.name "i") [.mk false (.name "i") (.name "i") []]).free = ["i"] := rfl

end Conch.Code
