import Mathlib
import Conch.Proofs.Line.Outermost

/-!
# Matching parentheses

The parenthesis that closes one is the first behind it up to which a text closes as many as it opens.
If there is none, more are open than closed wherever the text is cut off. What stands between a
parenthesis and the one that closes it is matched by itself: each parenthesis that opens there is
closed there, and by the same one whether the content is looked at or the whole text. So the
expansions in a content are those that the text has there.
-/

namespace Conch.Line

theorem closing_cons_eq_none_iff {d : Nat} {c : Char} {s : List Char} :
    closing d (c :: s) = none ↔ ∃ d', level d c = some d' ∧ closing d' s = none := by
  by_cases hopen : c = '('
  · simp [closing_cons, level, hopen]
  · by_cases hclose : c = ')'
    · cases d <;> simp [closing_cons, level, hclose]
    · simp [closing_cons, level, hopen, hclose]

/-- Behind a character, the same is asked of the rest with the new number of open parentheses. -/
theorem count_cons_le_iff {d d' : Nat} {c : Char} (h : level d c = some d') (p : List Char) :
    (c :: p).count ')' ≤ d + (c :: p).count '(' ↔ p.count ')' ≤ d' + p.count '(' := by
  unfold level at h
  split_ifs at h with hopen hclose hd <;> cases h
  · simp [hopen]
    omega
  · simp [hclose]
    omega
  · simp [hopen, hclose]

/-- A parenthesis is never closed if, cut off anywhere, the text closes no more than were opened in
it and before it. -/
theorem closing_eq_none_iff {d : Nat} {s : List Char} :
    closing d s = none ↔ ∀ p, p <+: s → p.count ')' ≤ d + p.count '(' := by
  induction s generalizing d with
  | nil => simp [closing_nil]
  | cons c s ih =>
    rw [closing_cons_eq_none_iff]
    constructor
    · rintro ⟨d', hlevel, hnone⟩ p hp
      obtain rfl | ⟨q, rfl, hq⟩ := List.prefix_cons_iff.mp hp
      · simp
      · exact (count_cons_le_iff hlevel q).mpr (ih.mp hnone q hq)
    · intro h
      cases hlevel : level d c with
      | none =>
        obtain ⟨rfl, rfl⟩ := eq_paren_of_level_eq_none hlevel
        simpa using h [')'] (by simp)
      | some d' =>
        refine ⟨d', rfl, ih.mpr fun q hq => ?_⟩
        exact (count_cons_le_iff hlevel q).mp (h _ (List.cons_prefix_cons.mpr ⟨rfl, hq⟩))

/-- The characters of a text from one position to another, both included. -/
def stretch (text : List Char) (i j : Nat) : List Char := (text.take (j + 1)).drop i

/-- The positions behind `start` such that, from `start` up to them, a text closes as many
parentheses as it opens. -/
def evenEnds (text : List Char) (start : Nat) : Set Nat :=
  {j | start < j ∧ j < text.length ∧
    (stretch text start j).count ')' = (stretch text start j).count '('}

section

variable {text : List Char} {start j : Nat} (hopen : text[start]? = some '(')
include hopen

/-- An even stretch closes one parenthesis more behind its first character than it opens there. -/
theorem count_stretch_eq_iff (hlt : start < j) :
    (stretch text start j).count ')' = (stretch text start j).count '(' ↔
      ((text.take (j + 1)).drop (start + 1)).count ')' =
        ((text.take (j + 1)).drop (start + 1)).count '(' + 1 := by
  have hfirst : (text.take (j + 1))[start]? = some '(' := by
    rwa [List.getElem?_take_of_lt (by omega)]
  rw [stretch, drop_eq_cons hfirst]
  simp

/-- The parenthesis that closes the one at a position is at the least even end. -/
theorem ClosedAt.isLeast (h : ClosedAt text start j) : IsLeast (evenEnds text start) j := by
  constructor
  · obtain ⟨hj, hparen⟩ := List.getElem?_eq_some_iff.mp h.paren
    have hlast : text.take (j + 1) = text.take j ++ [')'] := by
      rw [List.take_succ_eq_append_getElem hj, hparen]
    have hinner : (text.take (j + 1)).drop (start + 1) =
        (text.take j).drop (start + 1) ++ [')'] := by
      rw [hlast, List.drop_append_of_le_length]
      rw [List.length_take]
      have hlt := h.lt
      omega
    refine ⟨h.lt, hj, ?_⟩
    rw [count_stretch_eq_iff hopen h.lt, hinner]
    simp [h.between.closed]
  · rintro j' ⟨hlt, -, heven⟩
    by_contra hless
    -- cut off before the end, the content closes no more than it opens
    have hpre : (text.take (j' + 1)).drop (start + 1) <+: (text.take j).drop (start + 1) :=
      (List.take_prefix_take_left (by omega)).drop _
    have hle := h.between.opened _ hpre
    rw [count_stretch_eq_iff hopen hlt] at heven
    omega

/-- A parenthesis that is never closed has no even end. -/
theorem exists_closedAt_of_mem_evenEnds (h : j ∈ evenEnds text start) :
    ∃ j', ClosedAt text start j' := by
  obtain ⟨hlt, -, heven⟩ := h
  cases hclosing : closing 0 (text.drop (start + 1)) with
  | some k => exact ⟨_, closedAt_iff.mpr ⟨k, hclosing, rfl⟩⟩
  | none =>
    have hpre : (text.take (j + 1)).drop (start + 1) <+: text.drop (start + 1) :=
      (List.take_prefix _ _).drop _
    have hle := closing_eq_none_iff.mp hclosing _ hpre
    rw [count_stretch_eq_iff hopen hlt] at heven
    omega

theorem closedAt_iff_isLeast : ClosedAt text start j ↔ IsLeast (evenEnds text start) j := by
  refine ⟨ClosedAt.isLeast hopen, fun h => ?_⟩
  obtain ⟨j', hj'⟩ := exists_closedAt_of_mem_evenEnds hopen h.1
  rwa [h.unique (hj'.isLeast hopen)]

end

section

variable {text : List Char} {start : Nat}

theorem matchParen_of_closing {k : Nat} (hopen : text[start]? = some '(')
    (h : closing 0 (text.drop (start + 1)) = some k) :
    matchParen text start = .ok ((start + 1 + k : Nat) : Int) := by
  have hlt : ¬text.length ≤ start := Nat.not_le.mpr (List.getElem?_eq_some_iff.mp hopen).1
  have hfront : ¬(start : Int) < 0 := by omega
  simp [matchParen, hlt, hfront, hopen, h]

theorem matchParen_of_open (hopen : text[start]? = some '(')
    (h : closing 0 (text.drop (start + 1)) = none) : matchParen text start = .ok (-1) := by
  have hfront : ¬(start : Int) < 0 := by omega
  simp [matchParen, hfront, hopen, h]

theorem matchParen_of_ne (hopen : text[start]? ≠ some '(') : matchParen text start = .ok (-1) := by
  have hfront : ¬(start : Int) < 0 := by omega
  simp [matchParen, hfront, hopen]

/-- A match is found where a parenthesis is closed, and there only. -/
theorem matchParen_eq_iff_closedAt {j : Nat} :
    matchParen text start = .ok (j : Int) ↔ text[start]? = some '(' ∧ ClosedAt text start j := by
  by_cases hopen : text[start]? = some '('
  · rw [closedAt_iff]
    cases hclosing : closing 0 (text.drop (start + 1)) with
    | some k =>
      simp [matchParen_of_closing hopen hclosing, hopen]
      omega
    | none => simp [matchParen_of_open hopen hclosing]
  · simp [matchParen_of_ne hopen, hopen]

theorem matchParen_eq_neg_one_iff : matchParen text start = .ok (-1) ↔
    text[start]? ≠ some '(' ∨ closing 0 (text.drop (start + 1)) = none := by
  by_cases hopen : text[start]? = some '('
  · cases hclosing : closing 0 (text.drop (start + 1)) with
    | some k =>
      simp [matchParen_of_closing hopen hclosing, hopen]
      omega
    | none => simp [matchParen_of_open hopen hclosing]
  · simp [matchParen_of_ne hopen, hopen]

/-- An open parenthesis is never closed if every longer stretch behind it opens more than it
closes. -/
theorem closing_eq_none_iff_lt (hopen : text[start]? = some '(') :
    closing 0 (text.drop (start + 1)) = none ↔
      ∀ p, p <+: text.drop start → 1 < p.length → p.count ')' < p.count '(' := by
  rw [closing_eq_none_iff, drop_eq_cons hopen]
  constructor
  · intro h p hp hlength
    obtain rfl | ⟨q, rfl, hq⟩ := List.prefix_cons_iff.mp hp
    · simp at hlength
    · have hle := h q hq
      simp
      omega
  · intro h q hq
    cases q with
    | nil => simp
    | cons c q =>
      have hlt := h ('(' :: c :: q) (List.cons_prefix_cons.mpr ⟨rfl, hq⟩) (by simp)
      simp at hlt ⊢
      omega

end

/-- A window of a text has the matches of the text that end in it. -/
theorem closedAt_window_iff {text : List Char} {lo hi i j : Nat} :
    ClosedAt ((text.take hi).drop lo) i j ↔ ClosedAt text (lo + i) (lo + j) ∧ lo + j < hi := by
  have hparen : ((text.take hi).drop lo)[j]? = some ')' ↔ text[lo + j]? = some ')' ∧ lo + j < hi := by
    rw [List.getElem?_drop, List.getElem?_take]
    split <;> simp [*]
  have hbetween (hlt : lo + j < hi) : (((text.take hi).drop lo).take j).drop (i + 1) =
      (text.take (lo + j)).drop (lo + i + 1) := by
    rw [List.take_drop, List.take_take, Nat.min_eq_left hlt.le, List.drop_drop, Nat.add_assoc]
  constructor
  · rintro ⟨hlt, hlast, hbalances⟩
    obtain ⟨hlast, hhi⟩ := hparen.mp hlast
    exact ⟨⟨by omega, hlast, hbetween hhi ▸ hbalances⟩, hhi⟩
  · rintro ⟨⟨hlt, hlast, hbalances⟩, hhi⟩
    exact ⟨by omega, hparen.mpr ⟨hlast, hhi⟩, (hbetween hhi).symm ▸ hbalances⟩

theorem getElem?_window {text : List Char} {start stop k : Nat} (hstart : start < k)
    (hstop : k < stop) : ((text.take stop).drop (start + 1))[k - start - 1]? = text[k]? := by
  rw [List.getElem?_drop, show start + 1 + (k - start - 1) = k by omega,
    List.getElem?_take_of_lt hstop]

/-- In a balanced text, every parenthesis that opens is closed. -/
theorem Balances.exists_closedAt {s : List Char} (h : Balances s) {k : Nat}
    (hopen : s[k]? = some '(') : ∃ j, ClosedAt s k j := by
  cases hclosing : closing 0 (s.drop (k + 1)) with
  | some m => exact ⟨_, closedAt_iff.mpr ⟨m, hclosing, rfl⟩⟩
  | none =>
    -- neither the text in front nor the text behind closes the parenthesis
    have hfront := h.opened _ (List.take_prefix k s)
    have hbehind := closing_eq_none_iff.mp hclosing _ (List.prefix_refl _)
    have hcount (c : Char) :
        s.count c = (s.take k).count c + ('(' :: s.drop (k + 1)).count c := by
      rw [← List.count_append, ← drop_eq_cons hopen, List.take_append_drop]
    have hlt : s.count ')' < s.count '(' := by
      calc s.count ')' = (s.take k).count ')' + (s.drop (k + 1)).count ')' := by
            simpa using hcount ')'
        _ ≤ (s.take k).count '(' + (s.drop (k + 1)).count '(' := by
            apply Nat.add_le_add hfront
            simpa using hbehind
        _ < (s.take k).count '(' + ((s.drop (k + 1)).count '(' + 1) := by omega
        _ = s.count '(' := by simpa using (hcount '(').symm
    exact absurd h.closed hlt.ne

section

variable {text : List Char} {start stop : Nat} (h : ClosedAt text start stop)
include h

/-- A parenthesis that opens inside a pair is closed inside it, and the content of the pair shows
where. -/
theorem ClosedAt.exists_inside {k : Nat} (hopen : text[k]? = some '(') (hstart : start < k)
    (hstop : k < stop) : ∃ i, ClosedAt ((text.take stop).drop (start + 1)) (k - start - 1) i ∧
      ClosedAt text k (start + 1 + i) ∧ start + 1 + i < stop := by
  obtain ⟨i, hi⟩ := h.between.exists_closedAt ((getElem?_window hstart hstop).trans hopen)
  have hwhole := closedAt_window_iff.mp hi
  rw [show start + 1 + (k - start - 1) = k by omega] at hwhole
  exact ⟨i, hi, hwhole⟩

/-- No expansion that starts inside a pair reaches over its end. -/
theorem ClosedAt.not_straddles : ∀ e ∈ expansionsFrom (start + 1) 0 (text.drop (start + 1)),
    ¬e.Straddles stop := by
  rintro e he ⟨hbefore, hbehind⟩
  have hfound := isOutermostFrom_expansionsFrom text (start + 1)
  have hspans := hfound.spans e he
  have hstart := hfound.behind e he
  have hne : e.start + 1 ≠ stop := by
    intro heq
    have hparen := h.paren
    rw [← heq, hspans.opening] at hparen
    exact absurd (Option.some.inj hparen) (by decide)
  obtain ⟨i, -, hclosed, hlt⟩ := h.exists_inside hspans.opening (by omega) (by omega)
  have hend := hspans.closedAt.unique hclosed
  omega

/-- The expansions behind an open parenthesis are those of the content and those behind its end. -/
theorem ClosedAt.expansionsFrom_eq : expansionsFrom (start + 1) 0 (text.drop (start + 1)) =
    expansionsFrom (start + 1) 0 ((text.take stop).drop (start + 1)) ++
      expansionsFrom stop 0 (text.drop stop) := by
  have hlt := h.lt
  have hlength : stop < text.length := (List.getElem?_eq_some_iff.mp h.paren).1
  have hsplit : text.drop (start + 1) =
      (text.take stop).drop (start + 1) ++ text.drop stop := by
    rw [← List.drop_append_of_le_length, List.take_append_drop]
    rw [List.length_take]
    omega
  have hjoint : start + 1 + ((text.take stop).drop (start + 1)).length = stop := by
    rw [List.length_drop, List.length_take]
    omega
  have hnot := h.not_straddles
  rw [hsplit] at hnot ⊢
  rw [expansionsFrom_append (Nat.zero_le _) (by rwa [hjoint]), hjoint]

end

/-- The match of a parenthesis is at the least position behind it up to which the text closes as many
parentheses as it opens. There is none if nothing opens at the position, or if every longer stretch
from there on opens more than it closes. Inside a matched pair, what opens is matched before the end
of the pair, and where the content of the pair has the match; the expansions found there are those of
the content. -/
theorem matchParen_isLeast_and_local (text : List Char) (start : Nat) :
    (∀ j : Nat, matchParen text start = .ok (j : Int) ↔
      text[start]? = some '(' ∧ IsLeast (evenEnds text start) j) ∧
    (matchParen text start = .ok (-1) ↔
      text.length ≤ start ∨ text[start]? ≠ some '(' ∨
        ∀ p, p <+: text.drop start → 1 < p.length → p.count ')' < p.count '(') ∧
    ∀ stop : Nat, matchParen text start = .ok (stop : Int) →
      (∀ k, start < k → k < stop → text[k]? = some '(' → ∃ i : Nat,
        matchParen ((text.take stop).drop (start + 1)) ((k - start - 1 : Nat) : Int) = .ok (i : Int) ∧
        matchParen text k = .ok ((start + 1 + i : Nat) : Int) ∧ start + 1 + i < stop) ∧
      expansionsFrom (start + 1) 0 (text.drop (start + 1)) =
        expansionsFrom (start + 1) 0 ((text.take stop).drop (start + 1)) ++
          expansionsFrom stop 0 (text.drop stop) := by
  refine ⟨fun j => ?_, ?_, fun stop hstop => ⟨fun k hk hlt hopen => ?_, ?_⟩⟩
  · rw [matchParen_eq_iff_closedAt]
    exact and_congr_right closedAt_iff_isLeast
  · rw [matchParen_eq_neg_one_iff]
    by_cases hopen : text[start]? = some '('
    · have hlt : ¬text.length ≤ start := Nat.not_le.mpr (List.getElem?_eq_some_iff.mp hopen).1
      simp [hopen, hlt, closing_eq_none_iff_lt hopen]
    · simp [hopen]
  · obtain ⟨-, hpair⟩ := matchParen_eq_iff_closedAt.mp hstop
    obtain ⟨i, hcontent, hwhole, hbefore⟩ := hpair.exists_inside hopen hk hlt
    have hinside := (getElem?_window hk hlt).trans hopen
    exact ⟨i, matchParen_eq_iff_closedAt.mpr ⟨hinside, hcontent⟩,
      matchParen_eq_iff_closedAt.mpr ⟨hopen, hwhole⟩, hbefore⟩
  · obtain ⟨-, hpair⟩ := matchParen_eq_iff_closedAt.mp hstop
    exact hpair.expansionsFrom_eq

/-- The pair of an expansion that holds another one and an empty pair, and a parenthesis that is never
closed. -/
theorem matchParen_nested :
    IsLeast (evenEnds "!(a @(b) ())c)(".toList 1) 11 ∧
    (∃ i : Nat, matchParen "a @(b) ()".toList 3 = .ok (i : Int) ∧
      matchParen "!(a @(b) ())c)(".toList 5 = .ok ((1 + 1 + i : Nat) : Int) ∧ 1 + 1 + i < 11) ∧
    expansionsFrom 2 0 "a @(b) ())c)(".toList = [⟨.value, ['b'], 4, 8⟩] ∧
    matchParen "!(a @(b) ())c)(".toList 14 = .ok (-1) := by
  obtain ⟨hleast, -, hlocal⟩ := matchParen_isLeast_and_local "!(a @(b) ())c)(".toList 1
  obtain ⟨-, hnone, -⟩ := matchParen_isLeast_and_local "!(a @(b) ())c)(".toList 14
  have hstop : matchParen "!(a @(b) ())c)(".toList 1 = .ok 11 := rfl
  obtain ⟨hinside, hexpansions⟩ := hlocal 11 hstop
  refine ⟨((hleast 11).mp hstop).2, hinside 5 (by decide) (by decide) rfl, hexpansions, ?_⟩
  refine hnone.mpr (.inr (.inr fun p hp hlength => ?_))
  have hshort : p.length ≤ 1 := hp.length_le
  omega

end Conch.Line
