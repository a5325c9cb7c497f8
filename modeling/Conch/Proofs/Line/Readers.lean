import Mathlib
import Conch.Proofs.Line.Severing

/-!
# Readers of a text

A reader goes over a text character by character, and what it has seen is its state. A coarser reader
keeps in step with a finer one as long as its state is the view that it has of the other. The reader
that cuts a text at its operators shows its state where it separates: an operator does so if it
starts outside quotes, unless the operator in front of it has taken its first character.
-/

namespace Conch.Line

open Place

section InStep

variable {σ τ : Type} (fine : σ → Char → σ) (coarse : τ → Char → τ) (view : σ → τ)

/-- Over every character of a text, the coarser reader does what its view of the finer one does. -/
def InStep (x : σ) (s : List Char) : Prop :=
  ∀ k c, s[k]? = some c →
    view (fine ((s.take k).foldl fine x) c) = coarse (view ((s.take k).foldl fine x)) c

variable {fine coarse view} {x : σ} {c : Char} {s t : List Char}

theorem inStep_nil : InStep fine coarse view x [] := by
  intro k c h
  simp at h

theorem inStep_cons : InStep fine coarse view x (c :: s) ↔
    view (fine x c) = coarse (view x) c ∧ InStep fine coarse view (fine x c) s := by
  constructor
  · intro h
    exact ⟨h 0 c rfl, fun k d hd => h (k + 1) d hd⟩
  · rintro ⟨hc, hs⟩ k d hd
    cases k with
    | zero =>
      obtain rfl : c = d := Option.some.inj hd
      exact hc
    | succ k => exact hs k d hd

theorem InStep.of_append (h : InStep fine coarse view x (s ++ t)) : InStep fine coarse view x s := by
  induction s generalizing x with
  | nil => exact inStep_nil
  | cons c s ih =>
    obtain ⟨hc, hs⟩ := inStep_cons.mp h
    exact inStep_cons.mpr ⟨hc, ih hs⟩

/-- Readers that are in step over a text agree at its end. -/
theorem InStep.view_foldl (h : InStep fine coarse view x s) :
    view (s.foldl fine x) = s.foldl coarse (view x) := by
  induction s generalizing x with
  | nil => rfl
  | cons c s ih =>
    obtain ⟨hc, hs⟩ := inStep_cons.mp h
    rw [List.foldl_cons, List.foldl_cons, ← hc, ih hs]

/-- If readers that fall out of step can be told apart at once, they are in step over a text exactly
if they cannot be told apart anywhere in it. -/
theorem inStep_iff_forall {P : τ → Prop}
    (hparting : ∀ x c, view (fine x c) ≠ coarse (view x) c →
      ¬(P (view (fine x c)) ↔ P (coarse (view x) c))) :
    InStep fine coarse view x s ↔
      ∀ a b, s = a ++ b → (P (view (a.foldl fine x)) ↔ P (a.foldl coarse (view x))) := by
  constructor
  · rintro h a b rfl
    rw [h.of_append.view_foldl]
  · intro h
    induction s generalizing x with
    | nil => exact inStep_nil
    | cons c s ih =>
      have hc : view (fine x c) = coarse (view x) c := by
        by_contra hne
        exact hparting x c hne (h [c] s rfl)
      refine inStep_cons.mpr ⟨hc, ih fun a b hs => ?_⟩
      rw [hc]
      exact h (c :: a) b (by rw [hs]; rfl)

end InStep

/-- Where the operators in front of some pieces start, if the first of the pieces or its operator
does so at a position. -/
def separatorsFrom (i : Nat) : List Piece → List Nat
  | [] => []
  | p :: ps =>
    match p.operator with
    | none => separatorsFrom (i + p.text.length) ps
    | some o => i :: separatorsFrom (i + o.text.length + p.text.length) ps

/-- The positions at which an operator separates two pieces of a text. -/
def separators (text : List Char) : List Nat := separatorsFrom 0 (pieces text)

theorem Cut.IsExact.separators_line {c : Cut} (h : c.IsExact) : separators c.line = c.joints := by
  have hlinks (i : Nat) (links : List (Operator × List Char)) :
      separatorsFrom i (links.map fun l => ⟨some l.1, l.2⟩) = Line.joints i links := by
    induction links generalizing i with
    | nil => rfl
    | cons l links ih => exact congrArg (i :: ·) (ih _)
  rw [separators, h.pieces_eq, Cut.pieces, separatorsFrom, hlinks, Nat.zero_add]
  rfl

/-- Two operators of a cut do not overlap. -/
theorem Cut.not_overlaps_of_mem {c : Cut} {q p : Nat} (hq : q ∈ c.joints) (hp : p ∈ c.joints) :
    ¬Overlaps c.line q p := by
  obtain ⟨s, links⟩ := c
  induction links generalizing s q p with
  | nil => simp [joints, Line.joints] at hq
  | cons l links ih =>
    obtain ⟨o, t⟩ := l
    rcases mem_joints_cases hq with rfl | ⟨q, hq', rfl⟩
    · rintro ⟨o', ho', hlt, hlt'⟩
      obtain rfl : o = o' := Option.some.inj (operator?_line_cons.symm.trans ho')
      rcases mem_joints_cases hp with rfl | ⟨p, -, rfl⟩
      · exact lt_irrefl _ hlt
      · omega
    · intro hoverlaps
      obtain ⟨-, -, hlt, -⟩ := id hoverlaps
      rcases mem_joints_cases hp with rfl | ⟨p, hp', rfl⟩
      · omega
      · exact ih t hq' hp' (overlaps_behind.mp hoverlaps)

/-- An operator separates if it starts outside quotes and none that separates reaches over its
start. -/
theorem mem_separators_iff {text : List Char} {p : Nat} :
    p ∈ separators text ↔ OperatorAt text p ∧ ∀ q ∈ separators text, ¬Overlaps text q p := by
  obtain ⟨c, rfl, hexact⟩ := Cut.exists_isExact text
  rw [hexact.separators_line]
  constructor
  · intro hp
    exact ⟨hexact.operatorAt_of_mem hp, fun q hq => Cut.not_overlaps_of_mem hq hp⟩
  · rintro ⟨hop, hfree⟩
    refine (hexact.mem_or_overlaps hop).resolve_right ?_
    rintro ⟨q, hq, hoverlaps⟩
    exact hfree q hq hoverlaps

/-- What an overlapping operator reaches over is its own second character. -/
theorem Overlaps.getElem? {text : List Char} {q p : Nat} (h : Overlaps text q p) :
    (text[q]? = some '&' ∧ text[p]? = some '&') ∨ (text[q]? = some '|' ∧ text[p]? = some '|') := by
  obtain rfl := h.eq_succ
  obtain ⟨o, ho, -, hlt⟩ := h
  obtain ⟨rest, hrest⟩ := operator?_eq_some_iff.mp ho
  have hget (n : Nat) : text[q + n]? = (o.text ++ rest)[n]? := by
    rw [← hrest, List.getElem?_drop]
  have hfirst := hget 0
  have hsecond := hget 1
  rw [Nat.add_zero] at hfirst
  rw [hfirst, hsecond]
  cases o with
  | both => exact .inl ⟨rfl, rfl⟩
  | either => exact .inr ⟨rfl, rfl⟩
  | always => simp [Operator.text] at hlt

/-- The reader that cuts a text is outside quotes exactly where a semicolon would separate. -/
theorem mem_separators_semicolon {a b : List Char} :
    a.length ∈ separators (a ++ ';' :: b) ↔ Closed a := by
  rw [mem_separators_iff, OperatorAt, List.take_left, List.drop_left]
  constructor
  · rintro ⟨⟨hclosed, -⟩, -⟩
    exact hclosed
  · intro hclosed
    refine ⟨⟨hclosed, by simp [operator?]⟩, fun q _ hoverlaps => ?_⟩
    rcases hoverlaps.getElem? with ⟨-, hsecond⟩ | ⟨-, hsecond⟩ <;> simp at hsecond

end Conch.Line
