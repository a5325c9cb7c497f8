import Conch.Proofs.Code.Positions
import Conch.Proofs.Line.Lowering

/-!
# Calls in the place of placeholders

Lowering a program puts a call in the place of every placeholder, wherever it stands: a tree and its
rewritten tree are compared position by position. A name is a placeholder only as an expression of
its own, and such a name has nothing below it, so every other position of the tree is kept, with the
same head and as many trees in each field.
-/

namespace Conch.Line

open Code

/-- The calls that an expansion becomes. The content of a value is an expression if it can be read
as one; the content of a command is always text. -/
inductive IsCallFor (x : Expansion) : Expr → Prop
  | expression {e : Expr} (sigil : x.sigil = .value)
      (reads : parse .expression (String.ofList x.content) = .ok (.expression e)) :
      IsCallFor x (.call (.name "__expand_at") [e] [])
  | text (sigil : x.sigil = .value)
      (reads : ∀ e, parse .expression (String.ofList x.content) ≠ .ok (.expression e)) :
      IsCallFor x
        (.call (.name "__expand_at") [.constant (.text (String.ofList x.content) false)] [])
  | output (sigil : x.sigil = .output) :
      IsCallFor x
        (.call (.name "__shell") [.constant (.text (String.ofList x.content) false)]
          [.named "capture" (.constant (.text "stdout" false))])
  | outcome (sigil : x.sigil = .outcome) :
      IsCallFor x
        (.call (.name "__shell") [.constant (.text (String.ofList x.content) false)]
          [.named "capture" (.constant (.text "full" false))])

theorem isCallFor_expansionCall (x : Expansion) :
    IsCallFor x (expansionCall x.sigil (contentExpr x.sigil (String.ofList x.content))) := by
  cases hsigil : x.sigil with
  | value =>
    rw [expansionCall, contentExpr]
    split
    · next e he => exact .expression hsigil he
    · next hno => exact .text hsigil hno
  | output => exact .output hsigil
  | outcome => exact .outcome hsigil

theorem IsCallFor.eq_expansionCall {x : Expansion} {call : Expr} (h : IsCallFor x call) :
    call = expansionCall x.sigil (contentExpr x.sigil (String.ofList x.content)) := by
  cases h with
  | expression hsigil he => rw [hsigil, contentExpr, he]; rfl
  | text hsigil hno =>
    rw [hsigil, contentExpr]
    split
    · next e he => exact absurd he (hno e)
    · rfl
  | output hsigil => rw [hsigil]; rfl
  | outcome hsigil => rw [hsigil]; rfl

/-- The expansion that a tree is a placeholder for. -/
def placeholderFor? (mapping : List (String × Expansion)) (t : Tree) : Option Expansion :=
  t.id?.bind fun id => mapping.lookup id

theorem replacement?_replacement (mapping : List (String × Expansion)) (t : Tree) :
    t.replacement? (replacement mapping) =
      (placeholderFor? mapping t).map fun x =>
        expansionCall x.sigil (contentExpr x.sigil (String.ofList x.content)) := by
  rw [Tree.replacement?, placeholderFor?]
  cases t.id? <;> rfl

/-- At every position of `t` where a placeholder stands, `t'` has the call for its expansion; at
every other position it has a tree with the same head and as many trees in each field. -/
structure Rewritten (mapping : List (String × Expansion)) (t t' : Tree) : Prop where
  call : ∀ p u x, t.at? p = some u → placeholderFor? mapping u = some x →
    ∃ call, t'.at? p = some (.expr call) ∧ IsCallFor x call
  other : ∀ p u, t.at? p = some u → placeholderFor? mapping u = none →
    ∃ u', t'.at? p = some u' ∧ u'.head = u.head ∧ u'.arities = u.arities

theorem rewritten_replace (mapping : List (String × Expansion)) (t : Tree) :
    Rewritten mapping t (t.replace (replacement mapping)) where
  call p u x hu hx := by
    refine ⟨_, (Tree.replaced_replace t).replaced p u _ hu ?_, isCallFor_expansionCall x⟩
    rw [replacement?_replacement, hx, Option.map_some]
  other p u hu hx := by
    apply (Tree.replaced_replace t).kept p u hu
    rw [replacement?_replacement, hx, Option.map_none]

theorem Rewritten.replaced {mapping : List (String × Expansion)} {t t' : Tree}
    (h : Rewritten mapping t t') : t.Replaced (replacement mapping) t' where
  replaced p u e hu he := by
    rw [replacement?_replacement, Option.map_eq_some_iff] at he
    obtain ⟨x, hx, rfl⟩ := he
    obtain ⟨call, hcall, hfor⟩ := h.call p u x hu hx
    rw [hcall, hfor.eq_expansionCall]
  kept p u hu hnone := by
    apply h.other p u hu
    rwa [replacement?_replacement, Option.map_eq_none_iff] at hnone

theorem rewritten_iff {mapping : List (String × Expansion)} {t t' : Tree} :
    Rewritten mapping t t' ↔ t' = t.replace (replacement mapping) := by
  constructor
  · intro h
    exact h.replaced.eq_replace
  · rintro rfl
    exact rewritten_replace mapping t

/-- A placeholder that is left stands in a call that was put in. -/
theorem exists_placeholder_above {mapping : List (String × Expansion)} {t v : Tree} {p : Position}
    (hv : (t.replace (replacement mapping)).at? p = some v)
    (hx : (placeholderFor? mapping v).isSome) :
    ∃ q u, q <+: p ∧ t.at? q = some u ∧ (placeholderFor? mapping u).isSome := by
  obtain ⟨x, hx⟩ := Option.isSome_iff_exists.1 hx
  obtain ⟨id, hid, hlookup⟩ := Option.bind_eq_some_iff.1 hx
  rw [Tree.eq_name_of_id? hid] at hv
  have hsome : (replacement mapping id).isSome := by
    rw [replacement, hlookup]
    rfl
  obtain ⟨q, r, u, e, rfl, hu, he⟩ := Tree.exists_replaced_of_name_at? hv hsome
  refine ⟨q, u, List.prefix_append q r, hu, ?_⟩
  rw [replacement?_replacement, Option.map_eq_some_iff] at he
  obtain ⟨y, hy, -⟩ := he
  rw [hy]
  rfl

/-- What a program is printed as, if it is no command, is a tree with its calls put in. -/
theorem exists_rewritten_of_lowerProgram {defined : String → Bool} {line out : String}
    {mapping : List (String × Expansion)} {program : Program}
    (h : lowerProgram defined line mapping program = .ok out) :
    out = commandCall line ∨
      ∃ program', Rewritten mapping (.program program) (.program program') ∧
        Printer.program program' = .ok out := by
  apply (printed_of_lowerProgram h).imp_right
  intro hout
  exact ⟨program.replace (replacement mapping), rewritten_replace mapping (.program program), hout⟩

/-- Rewriting a tree, whatever it is and wherever its placeholders stand, is decided by its
positions: it puts the call for each placeholder in its place and keeps every other position. No
placeholder is left outside of the calls, and without expansions nothing changes. -/
theorem replace_replacement_spec (mapping : List (String × Expansion)) (t : Tree) :
    (∀ t', t.replace (replacement mapping) = t' ↔ Rewritten mapping t t') ∧
      (∀ p v, (t.replace (replacement mapping)).at? p = some v →
        (placeholderFor? mapping v).isSome →
        ∃ q u, q <+: p ∧ t.at? q = some u ∧ (placeholderFor? mapping u).isSome) ∧
      t.replace (replacement []) = t ∧
      ∀ defined line program out, t = .program program →
        lowerProgram defined line mapping program = .ok out →
        out = commandCall line ∨
          ∃ program', Rewritten mapping t (.program program') ∧
            Printer.program program' = .ok out := by
  refine ⟨fun t' => ?_, fun p v => exists_placeholder_above, Tree.replace_none t, ?_⟩
  · rw [rewritten_iff, eq_comm]
  · rintro defined line program out rfl h
    exact exists_rewritten_of_lowerProgram h

end Conch.Line
