import Mathlib
import Conch.Proofs.Line.Expansions

/-!
# The outermost expansions of a text

The expansions that are found in a text stand apart and in order, each is written where it is said to
stand with balanced parentheses inside, and what opens anywhere else is never closed. No other list
has these properties, so they say what the outermost expansions of a text are.
-/

namespace Conch.Line

/-- Read from the left, no parenthesis is closed that was not opened, and in the end all are. -/
structure Balances (s : List Char) : Prop where
  opened : ∀ p, p <+: s → p.count ')' ≤ p.count '('
  closed : s.count ')' = s.count '('

/-- Balance behind `d` open parentheses, which are closed too. -/
structure Settles (d : Nat) (s : List Char) : Prop where
  opened : ∀ p, p <+: s → p.count ')' ≤ d + p.count '('
  closed : s.count ')' = d + s.count '('

theorem settles_zero_iff {s : List Char} : Settles 0 s ↔ Balances s := by
  constructor
  · rintro ⟨hopened, hclosed⟩
    exact ⟨by simpa using hopened, by simpa using hclosed⟩
  · rintro ⟨hopened, hclosed⟩
    exact ⟨by simpa using hopened, by simpa using hclosed⟩

theorem settles_nil_iff {d : Nat} : Settles d [] ↔ d = 0 := by
  constructor
  · intro h
    simpa using h.closed.symm
  · rintro rfl
    exact ⟨by simp, rfl⟩

/-- One character changes the number of open parentheses and leaves the rest to be settled. -/
theorem settles_cons_iff {d : Nat} {c : Char} {s : List Char} :
    Settles d (c :: s) ↔ ∃ d', level d c = some d' ∧ Settles d' s := by
  have hsplit : Settles d (c :: s) ↔
      (∀ p, p <+: s → (c :: p).count ')' ≤ d + (c :: p).count '(') ∧
        (c :: s).count ')' = d + (c :: s).count '(' := by
    constructor
    · intro h
      exact ⟨fun p hp => h.opened _ (List.cons_prefix_cons.mpr ⟨rfl, hp⟩), h.closed⟩
    · rintro ⟨hopened, hclosed⟩
      refine ⟨fun p hp => ?_, hclosed⟩
      obtain rfl | ⟨tail, rfl, htail⟩ := List.prefix_cons_iff.mp hp
      · simp
      · exact hopened tail htail
  have hrest (d' : Nat) : Settles d' s ↔
      (∀ p, p <+: s → p.count ')' ≤ d' + p.count '(') ∧ s.count ')' = d' + s.count '(' :=
    ⟨fun h => ⟨h.opened, h.closed⟩, fun h => ⟨h.1, h.2⟩⟩
  by_cases hopen : c = '('
  · subst hopen
    have hlevel : level d '(' = some (d + 1) := rfl
    simp only [hsplit, hlevel, Option.some.injEq, exists_eq_left', hrest]
    simp [Nat.add_assoc, Nat.add_comm 1]
  · by_cases hclose : c = ')'
    · subst hclose
      cases d with
      | zero =>
        have hlevel : level 0 ')' = none := rfl
        simp only [hsplit, hlevel, reduceCtorEq, false_and, exists_false, iff_false]
        rintro ⟨hopened, -⟩
        simpa using hopened [] List.nil_prefix
      | succ d =>
        have hlevel : level (d + 1) ')' = some d := rfl
        simp only [hsplit, hlevel, Option.some.injEq, exists_eq_left', hrest]
        simp [Nat.add_right_comm]
    · have hlevel : level d c = some d := by simp [level, hopen, hclose]
      simp only [hsplit, hlevel, Option.some.injEq, exists_eq_left', hrest]
      simp [hopen, hclose]

/-- A parenthesis is closed by the first one behind a text that settles what is open. -/
theorem closing_eq_some_iff_settles {d k : Nat} {s : List Char} :
    closing d s = some k ↔ s[k]? = some ')' ∧ Settles d (s.take k) := by
  induction s generalizing d k with
  | nil => simp [closing_nil]
  | cons c s ih =>
    rw [closing_cons_eq_some_iff]
    cases k with
    | zero =>
      have hlevel : level d c = none ↔ c = ')' ∧ d = 0 :=
        ⟨eq_paren_of_level_eq_none, by rintro ⟨rfl, rfl⟩; rfl⟩
      simp [hlevel, settles_nil_iff]
    | succ k =>
      simp only [Nat.add_eq_zero_iff, one_ne_zero, and_false, Nat.add_right_cancel_iff, false_or,
        List.getElem?_cons_succ, List.take_succ_cons, settles_cons_iff]
      constructor
      · rintro ⟨d', k', hlevel, hclosing, rfl⟩
        obtain ⟨hparen, hsettles⟩ := ih.mp hclosing
        exact ⟨hparen, d', hlevel, hsettles⟩
      · rintro ⟨hparen, d', hlevel, hsettles⟩
        exact ⟨d', k, hlevel, ih.mpr ⟨hparen, hsettles⟩, rfl⟩

/-- The parenthesis at a position is closed by the one at another position. -/
structure ClosedAt (text : List Char) (i j : Nat) : Prop where
  lt : i < j
  paren : text[j]? = some ')'
  between : Balances ((text.take j).drop (i + 1))

/-- An expansion opens at a position: a sigil stands there and a parenthesis behind it. -/
def OpensAt (text : List Char) (i : Nat) (sigil : Sigil) : Prop :=
  text[i]? = some sigil.char ∧ text[i + 1]? = some '('

/-- An expansion takes a span of a text: the sigil, a parenthesis, the content and the parenthesis at
the end, with balance in the content. -/
structure Spans (text : List Char) (e : Expansion) : Prop where
  start_lt_stop : e.start < e.stop
  sigil : text[e.start]? = some e.sigil.char
  opening : text[e.start + 1]? = some '('
  closing : text[e.stop - 1]? = some ')'
  content : e.content = (text.take (e.stop - 1)).drop (e.start + 2)
  balances : Balances e.content

variable {text : List Char} {e : Expansion} {i j : Nat}

theorem closedAt_iff : ClosedAt text i j ↔
    ∃ k, closing 0 (text.drop (i + 1)) = some k ∧ j = i + 1 + k := by
  have hat (k : Nat) : (text.take (i + 1 + k)).drop (i + 1) = (text.drop (i + 1)).take k := by
    rw [List.drop_take, Nat.add_sub_cancel_left]
  constructor
  · rintro ⟨hlt, hparen, hbetween⟩
    obtain ⟨k, rfl⟩ := Nat.exists_eq_add_of_le hlt
    refine ⟨k, closing_eq_some_iff_settles.mpr ⟨by rwa [List.getElem?_drop], ?_⟩, rfl⟩
    rwa [settles_zero_iff, ← hat]
  · rintro ⟨k, hclosing, rfl⟩
    obtain ⟨hparen, hsettles⟩ := closing_eq_some_iff_settles.mp hclosing
    refine ⟨by omega, by rwa [List.getElem?_drop] at hparen, ?_⟩
    rwa [hat, ← settles_zero_iff]

theorem ClosedAt.unique {j' : Nat} (h : ClosedAt text i j) (h' : ClosedAt text i j') : j = j' := by
  obtain ⟨k, hk, rfl⟩ := closedAt_iff.mp h
  obtain ⟨k', hk', rfl⟩ := closedAt_iff.mp h'
  rw [Option.some.inj (hk.symm.trans hk')]

theorem Sigil.char_injective : Function.Injective Sigil.char := by
  intro a b h
  cases a <;> cases b <;> first | rfl | exact absurd h (by decide)

theorem Spans.opensAt (h : Spans text e) : OpensAt text e.start e.sigil := ⟨h.sigil, h.opening⟩

/-- A span is long enough for the sigil and both parentheses. -/
theorem Spans.start_add_three_le (h : Spans text e) : e.start + 3 ≤ e.stop := by
  have hlt := h.start_lt_stop
  have hsigil : e.stop - 1 ≠ e.start := by
    intro heq
    have hclosing := h.closing
    rw [heq, h.sigil] at hclosing
    exact absurd (Option.some.inj hclosing) (by cases e.sigil <;> decide)
  have hopening : e.stop - 1 ≠ e.start + 1 := by
    intro heq
    have hclosing := h.closing
    rw [heq, h.opening] at hclosing
    exact absurd (Option.some.inj hclosing) (by decide)
  omega

theorem Spans.closedAt (h : Spans text e) : ClosedAt text (e.start + 1) (e.stop - 1) where
  lt := by
    have hle := h.start_add_three_le
    omega
  paren := h.closing
  between := h.content ▸ h.balances

/-- There is one expansion at most at a position. -/
theorem Spans.eq_of_start_eq {f : Expansion} (he : Spans text e) (hf : Spans text f)
    (h : e.start = f.start) : e = f := by
  have hsigil : e.sigil = f.sigil :=
    Sigil.char_injective (Option.some.inj (he.sigil.symm.trans (h ▸ hf.sigil)))
  have hstop : e.stop = f.stop := by
    have hlast : e.stop - 1 = f.stop - 1 := he.closedAt.unique (h ▸ hf.closedAt)
    have hle := he.start_add_three_le
    have hle' := hf.start_add_three_le
    omega
  have hcontent : e.content = f.content := by rw [he.content, hf.content, hstop, h]
  obtain ⟨sigil, content, start, stop⟩ := e
  obtain ⟨sigil', content', start', stop'⟩ := f
  simp_all

theorem drop_eq_cons {c : Char} (h : text[i]? = some c) : text.drop i = c :: text.drop (i + 1) := by
  rw [List.drop_eq_getElem?_toList_append, h]
  rfl

/-- The text from a position on starts with an expansion if one opens there and is closed. -/
theorem front?_drop_iff {sigil : Sigil} {k : Nat} :
    front? (text.drop i) = some (sigil, k) ↔
      OpensAt text i sigil ∧ ClosedAt text (i + 1) (i + 2 + k) := by
  rw [closedAt_iff]
  constructor
  · intro h
    obtain ⟨rest, hrest, hclosing⟩ := exists_of_front? h
    have hget (n : Nat) : text[i + n]? = (sigil.char :: '(' :: rest)[n]? := by
      rw [← hrest, List.getElem?_drop]
    have hbehind : text.drop (i + 2) = rest := by
      rw [← List.drop_drop, hrest]
      rfl
    exact ⟨⟨hget 0, hget 1⟩, k, by rwa [hbehind], rfl⟩
  · rintro ⟨⟨hsigil, hparen⟩, k', hclosing, heq⟩
    obtain rfl : k = k' := by omega
    rw [drop_eq_cons hsigil, drop_eq_cons hparen]
    exact front?_of_closing hclosing sigil

/-- The expansion that a closed opening makes. -/
theorem spans_of_closedAt {sigil : Sigil} {k : Nat} (h : OpensAt text i sigil)
    (hclosed : ClosedAt text (i + 1) (i + 2 + k)) :
    Spans text ⟨sigil, (text.drop (i + 2)).take k, i, i + k + 3⟩ := by
  have hcontent : (text.drop (i + 2)).take k = (text.take (i + k + 3 - 1)).drop (i + 2) := by
    rw [List.drop_take]
    congr 1
    omega
  have hlast : i + k + 3 - 1 = i + 2 + k := by omega
  exact {
    start_lt_stop := by dsimp only; omega
    sigil := h.1
    opening := h.2
    closing := by dsimp only; rw [hlast]; exact hclosed.paren
    content := hcontent
    balances := by dsimp only; rw [hcontent, hlast]; exact hclosed.between }

/-- Expansions behind a position: they stand apart and in order, each takes its span, and what opens
elsewhere behind the position is never closed. -/
structure IsOutermostFrom (text : List Char) (lo : Nat) (es : List Expansion) : Prop where
  apart : es.Pairwise fun e f => e.stop ≤ f.start
  spans : ∀ e ∈ es, Spans text e
  behind : ∀ e ∈ es, lo ≤ e.start
  open_elsewhere : ∀ i sigil, lo ≤ i → OpensAt text i sigil →
    (∀ e ∈ es, ¬(e.start ≤ i ∧ i < e.stop)) → ∀ j, ¬ClosedAt text (i + 1) j

namespace IsOutermostFrom

variable {lo : Nat} {es fs : List Expansion}

theorem nil (h : ∀ i sigil, lo ≤ i → OpensAt text i sigil → ∀ j, ¬ClosedAt text (i + 1) j) :
    IsOutermostFrom text lo [] where
  apart := .nil
  spans := by simp
  behind := by simp
  open_elsewhere := fun i sigil hi hopens _ => h i sigil hi hopens

/-- Nothing that is closed opens at the first position. -/
theorem of_succ (h : IsOutermostFrom text (lo + 1) es)
    (hfirst : ∀ sigil, OpensAt text lo sigil → ∀ j, ¬ClosedAt text (lo + 1) j) :
    IsOutermostFrom text lo es where
  apart := h.apart
  spans := h.spans
  behind := fun e he => (Nat.le_succ lo).trans (h.behind e he)
  open_elsewhere := by
    intro i sigil hi hopens houtside
    rcases hi.eq_or_lt with rfl | hlt
    · exact hfirst sigil hopens
    · exact h.open_elsewhere i sigil hlt hopens houtside

/-- An expansion at the first position, and those behind its end. -/
theorem cons (he : Spans text e) (hstart : e.start = lo) (h : IsOutermostFrom text e.stop es) :
    IsOutermostFrom text lo (e :: es) where
  apart := List.pairwise_cons.mpr ⟨h.behind, h.apart⟩
  spans := List.forall_mem_cons.mpr ⟨he, h.spans⟩
  behind := List.forall_mem_cons.mpr ⟨hstart.ge, fun f hf => by
    have hle := h.behind f hf
    have hlt := he.start_lt_stop
    omega⟩
  open_elsewhere := by
    intro i sigil hi hopens houtside
    obtain ⟨hfirst, hothers⟩ := List.forall_mem_cons.mp houtside
    exact h.open_elsewhere i sigil (by omega) hopens hothers

theorem tail (h : IsOutermostFrom text lo (e :: es)) : IsOutermostFrom text e.stop es where
  apart := (List.pairwise_cons.mp h.apart).2
  spans := fun f hf => h.spans f (List.mem_cons_of_mem e hf)
  behind := (List.pairwise_cons.mp h.apart).1
  open_elsewhere := by
    intro i sigil hi hopens houtside
    have hlo := h.behind e List.mem_cons_self
    have hlt := (h.spans e List.mem_cons_self).start_lt_stop
    refine h.open_elsewhere i sigil (by omega) hopens (List.forall_mem_cons.mpr ⟨?_, houtside⟩)
    omega

/-- The first of the expansions starts where any closed opening behind the position does, or before
it. -/
theorem start_le {f : Expansion} (h : IsOutermostFrom text lo (e :: es)) (hf : Spans text f)
    (hlo : lo ≤ f.start) : e.start ≤ f.start := by
  by_contra hlt
  have houtside : ∀ d ∈ e :: es, ¬(d.start ≤ f.start ∧ f.start < d.stop) := by
    have hbehind := h.tail.behind
    have hstop := (h.spans e List.mem_cons_self).start_lt_stop
    refine List.forall_mem_cons.mpr ⟨by omega, fun d hd => ?_⟩
    have hle := hbehind d hd
    omega
  exact h.open_elsewhere f.start f.sigil hlo hf.opensAt houtside _ hf.closedAt

theorem eq_nil (h : IsOutermostFrom text lo []) (hf : IsOutermostFrom text lo fs) : fs = [] := by
  cases fs with
  | nil => rfl
  | cons f fs =>
    have hspans := hf.spans f List.mem_cons_self
    exact absurd hspans.closedAt (h.open_elsewhere f.start f.sigil (hf.behind f List.mem_cons_self)
      hspans.opensAt (by simp) _)

/-- There is one such list at most: two of them start with the same expansion. -/
theorem unique (he : IsOutermostFrom text lo es) (hf : IsOutermostFrom text lo fs) : es = fs := by
  induction es generalizing lo fs with
  | nil => exact (he.eq_nil hf).symm
  | cons e es ih =>
    cases fs with
    | nil => exact hf.eq_nil he
    | cons f fs =>
      have hspan := he.spans e List.mem_cons_self
      have hspan' := hf.spans f List.mem_cons_self
      have hstart : e.start = f.start := by
        refine le_antisymm (he.start_le hspan' ?_) (hf.start_le hspan ?_)
        · exact hf.behind f List.mem_cons_self
        · exact he.behind e List.mem_cons_self
      obtain rfl := hspan.eq_of_start_eq hspan' hstart
      rw [ih he.tail hf.tail]

end IsOutermostFrom

/-- Where no expansion starts, the scan goes on one character further. -/
theorem expansionsFrom_drop_of_none {lo : Nat} (hlt : lo < text.length)
    (h : front? (text.drop lo) = none) :
    expansionsFrom lo 0 (text.drop lo) = expansionsFrom (lo + 1) 0 (text.drop (lo + 1)) := by
  rw [List.drop_eq_getElem_cons hlt] at h ⊢
  exact expansionsFrom_of_front?_eq_none h lo

/-- Where an expansion starts, the scan goes on behind it. -/
theorem expansionsFrom_drop_of_some {lo k : Nat} {sigil : Sigil}
    (h : front? (text.drop lo) = some (sigil, k)) :
    expansionsFrom lo 0 (text.drop lo) =
      ⟨sigil, (text.drop (lo + 2)).take k, lo, lo + k + 3⟩ ::
        expansionsFrom (lo + k + 3) 0 (text.drop (lo + k + 3)) := by
  obtain ⟨hopens, -⟩ := front?_drop_iff.mp h
  rw [drop_eq_cons hopens.1] at h ⊢
  have hlength : ((text.drop (lo + 1)).take (k + 2)).length = k + 2 := by
    have hlong := length_of_front? h
    rw [List.length_cons] at hlong
    rw [List.length_take]
    omega
  have hskip := expansionsFrom_skip (i := lo + 1) hlength.le ((text.drop (lo + 1)).drop (k + 2))
  have hstop : lo + 1 + (k + 2) = lo + k + 3 := by omega
  rw [List.take_append_drop, hlength, Nat.sub_self, List.drop_drop, hstop] at hskip
  rw [expansionsFrom_of_front? h, hskip, List.drop_drop]

/-- What is found behind a position has these properties. -/
theorem isOutermostFrom_expansionsFrom (text : List Char) (lo : Nat) :
    IsOutermostFrom text lo (expansionsFrom lo 0 (text.drop lo)) := by
  obtain ⟨n, hn⟩ : ∃ n, text.length - lo = n := ⟨_, rfl⟩
  induction n using Nat.strong_induction_on generalizing lo with
  | _ n ih =>
    by_cases hlt : lo < text.length
    · cases hfront : front? (text.drop lo) with
      | none =>
        rw [expansionsFrom_drop_of_none hlt hfront]
        refine (ih _ (by omega) (lo + 1) rfl).of_succ fun sigil hopens j hclosed => ?_
        obtain ⟨k, -, rfl⟩ := closedAt_iff.mp hclosed
        have hsome := front?_drop_iff.mpr ⟨hopens, hclosed⟩
        rw [hfront] at hsome
        cases hsome
      | some x =>
        obtain ⟨sigil, k⟩ := x
        obtain ⟨hopens, hclosed⟩ := front?_drop_iff.mp hfront
        rw [expansionsFrom_drop_of_some hfront]
        exact .cons (spans_of_closedAt hopens hclosed) rfl (ih _ (by omega) (lo + k + 3) rfl)
    · rw [List.drop_eq_nil_of_le (Nat.le_of_not_lt hlt)]
      refine .nil fun i sigil hi hopens => ?_
      have hnone : text[i]? = none := List.getElem?_eq_none ((Nat.le_of_not_lt hlt).trans hi)
      exact absurd hopens.1 (by simp [hnone])

/-- The outermost expansions of a text: they stand apart and in order, each takes its span, and what
opens outside their spans is never closed. -/
structure IsOutermost (text : List Char) (es : List Expansion) : Prop where
  apart : es.Pairwise fun e f => e.stop ≤ f.start
  spans : ∀ e ∈ es, Spans text e
  open_elsewhere : ∀ i sigil, OpensAt text i sigil → (∀ e ∈ es, ¬(e.start ≤ i ∧ i < e.stop)) →
    ∀ j, ¬ClosedAt text (i + 1) j

theorem isOutermost_iff {es : List Expansion} : IsOutermost text es ↔ IsOutermostFrom text 0 es :=
  ⟨fun h => ⟨h.apart, h.spans, fun e _ => e.start.zero_le, fun i sigil _ => h.open_elsewhere i sigil⟩,
    fun h => ⟨h.apart, h.spans, fun i sigil => h.open_elsewhere i sigil i.zero_le⟩⟩

/-- The expansions of a text are its outermost ones, and no other list of expansions has the
properties of these. -/
theorem expansions_eq_iff_isOutermost (text : List Char) (es : List Expansion) :
    expansions text = es ↔ IsOutermost text es := by
  have hfound : IsOutermostFrom text 0 (expansions text) :=
    isOutermostFrom_expansionsFrom text 0
  rw [isOutermost_iff]
  constructor
  · rintro rfl
    exact hfound
  · intro h
    exact hfound.unique h

end Conch.Line
