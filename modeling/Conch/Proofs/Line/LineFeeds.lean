import Mathlib
import Conch.Proofs.Line.Readers
import Conch.Proofs.Line.Rows

/-!
# Line feeds outside quotes

A text is split at the line feeds that stand outside quotes, and cut at the operators that do. The
two readers agree on the quotes up to a double quote that a backslash hides inside double quotes: the
cutter passes over it, and for the splitter it closes the quotes. With what backslashes hide taken
out, the splitter sees what the cutter does.
-/

namespace Conch.Line

open Place

/-- Where lines end, if the first of them starts at a position. -/
def lineEnds (i : Nat) : List (List Char) → List Nat
  | [] => []
  | l :: ls => (i + l.length) :: lineEnds (i + l.length + 1) ls

/-- A text is split at a position: one of its lines ends there, and the text goes on. -/
def SplitAt (text : List Char) (p : Nat) : Prop :=
  p ∈ lineEnds 0 (splitLines text) ∧ p < text.length

instance (text : List Char) (p : Nat) : Decidable (SplitAt text p) :=
  inferInstanceAs (Decidable (_ ∧ _))

theorem next_newline (q : Quote) : q.next '\n' = q := by
  cases q <;> rfl

/-- Behind the part of a line that has been read, lines end at the line feeds outside quotes, and at
the end of the text. -/
theorem mem_lineEnds_splitLinesFrom (q : Quote) (line text : List Char) (i p : Nat) :
    (p ∈ lineEnds i (splitLinesFrom q line text) ∧ p < i + line.length + text.length) ↔
      ∃ k, p = i + line.length + k ∧ text[k]? = some '\n' ∧ q.after (text.take k) = .none := by
  induction text generalizing q line i with
  | nil =>
    by_cases hline : line = []
    · simp [splitLinesFrom, lineEnds, hline]
    · simp [splitLinesFrom, lineEnds, hline]
      omega
  | cons c text ih =>
    -- a line feed here, or one further on
    have hcases : (∃ k, p = i + line.length + k ∧ (c :: text)[k]? = some '\n' ∧
          q.after ((c :: text).take k) = .none) ↔
        (p = i + line.length ∧ c = '\n' ∧ q = .none) ∨
          ∃ k, p = i + line.length + 1 + k ∧ text[k]? = some '\n' ∧
            (q.next c).after (text.take k) = .none := by
      constructor
      · rintro ⟨_ | k, hp, hfeed, hquote⟩
        · exact .inl ⟨hp, Option.some.inj hfeed, hquote⟩
        · exact .inr ⟨k, by omega, hfeed, hquote⟩
      · rintro (⟨hp, rfl, rfl⟩ | ⟨k, hp, hfeed, hquote⟩)
        · exact ⟨0, hp, rfl, rfl⟩
        · exact ⟨k + 1, by omega, hfeed, hquote⟩
    have hlength : i + line.length + (c :: text).length = i + line.length + 1 + text.length := by
      rw [List.length_cons]
      omega
    rw [hcases, hlength, splitLinesFrom]
    by_cases hsplit : c = '\n' ∧ q.next c = .none
    · obtain ⟨rfl, hq⟩ := hsplit
      have hrest := ih (q.next '\n') [] (i + line.length + 1)
      simp only [List.length_nil, Nat.add_zero] at hrest
      rw [if_pos ⟨rfl, hq⟩, lineEnds, List.length_reverse, List.mem_cons, ← hrest]
      rw [next_newline] at hq
      constructor
      · rintro ⟨hp | hmem, hlt⟩
        · exact .inl ⟨hp, rfl, hq⟩
        · exact .inr ⟨hmem, hlt⟩
      · rintro (⟨hp, -, -⟩ | ⟨hmem, hlt⟩)
        · exact ⟨.inl hp, by omega⟩
        · exact ⟨.inr hmem, hlt⟩
    · have hrest := ih (q.next c) (c :: line) i
      have hnot : ¬(p = i + line.length ∧ c = '\n' ∧ q = .none) := by
        rintro ⟨-, rfl, rfl⟩
        exact hsplit ⟨rfl, rfl⟩
      rw [List.length_cons, ← Nat.add_assoc] at hrest
      rw [if_neg hsplit, or_iff_right hnot, hrest]

/-- A text is split at its line feeds outside quotes. -/
theorem splitAt_iff_newline {text : List Char} {p : Nat} :
    SplitAt text p ↔ text[p]? = some '\n' ∧ Quote.none.after (text.take p) = .none := by
  have hfrom := mem_lineEnds_splitLinesFrom .none [] text 0 p
  simp only [List.length_nil, Nat.add_zero, Nat.zero_add, exists_eq_left'] at hfrom
  exact hfrom

/-- Splitting loses nothing: with a line feed behind each of them, the lines are the text, which may
lack the last one. -/
theorem flatMap_splitLinesFrom (q : Quote) (line text : List Char) :
    (splitLinesFrom q line text).flatMap (· ++ ['\n']) = line.reverse ++ text ∨
      (splitLinesFrom q line text).flatMap (· ++ ['\n']) = line.reverse ++ text ++ ['\n'] := by
  induction text generalizing q line with
  | nil =>
    by_cases hline : line = [] <;> simp [splitLinesFrom, hline]
  | cons c text ih =>
    rw [splitLinesFrom]
    split
    next hsplit =>
      obtain ⟨rfl, -⟩ := hsplit
      rcases ih (q.next '\n') [] with hrest | hrest <;> simp [hrest]
    next =>
      rcases ih (q.next c) (c :: line) with hrest | hrest <;> simp [hrest]

/-- A double quote stands behind a backslash inside double quotes. -/
def HidesQuote (s : List Char) : Prop :=
  ∃ k < s.length, s[k]? = some '"' ∧ outside.after (s.take k) = .escaped

instance (s : List Char) : Decidable (HidesQuote s) :=
  inferInstanceAs (Decidable (∃ k < s.length, _ ∧ _))

/-- A text that is read from a place on, without the characters that backslashes hide. -/
def unhidden (p : Place) : List Char → List Char
  | [] => []
  | c :: s => if p.hides then unhidden (p.next c) s else c :: unhidden (p.next c) s

theorem quote_next_eq_iff {p : Place} {c : Char} :
    (p.next c).quote = p.quote.next c ↔ ¬(p = .escaped ∧ c = '"') := by
  cases p with
  | escaped => by_cases hc : c = '"' <;> simp [next, quote, Quote.next, hc]
  | within q => by_cases hc : c = '\\' ∧ q = .double <;> simp [next, quote, Quote.next, hc]

theorem inStep_quote_iff {s : List Char} :
    InStep Place.next Quote.next Place.quote outside s ↔ ¬HidesQuote s := by
  simp only [InStep, quote_next_eq_iff, HidesQuote]
  constructor
  · rintro h ⟨k, -, hquote, hplace⟩
    exact h k _ hquote ⟨hplace, rfl⟩
  · rintro h k c hc ⟨hplace, rfl⟩
    exact h ⟨k, (List.getElem?_eq_some_iff.mp hc).1, hc, hplace⟩

theorem closed_iff_quote {s : List Char} : Closed s ↔ (outside.after s).quote = .none := by
  rw [Closed]
  cases outside.after s with
  | within q => simp [outside, quote]
  | escaped => simp [outside, quote]

/-- With no double quote hidden, the splitter sees the quotes that the cutter sees. -/
theorem closed_iff_after {s : List Char} (h : ¬HidesQuote s) :
    Closed s ↔ Quote.none.after s = .none := by
  have hstep : (outside.after s).quote = Quote.none.after s :=
    (inStep_quote_iff.mpr h).view_foldl
  rw [closed_iff_quote, hstep]

/-- At the first double quote that is hidden, the splitter comes out of the quotes and the cutter
does not. -/
theorem forall_agree_iff {s : List Char} :
    (∀ a b, s = a ++ b → ((outside.after a).quote = .none ↔ Quote.none.after a = .none)) ↔
      ¬HidesQuote s := by
  have hparting (p : Place) (c : Char) (h : (p.next c).quote ≠ p.quote.next c) :
      ¬((p.next c).quote = .none ↔ p.quote.next c = .none) := by
    obtain ⟨rfl, rfl⟩ := not_not.mp fun hnot => h (quote_next_eq_iff.mpr hnot)
    decide
  rw [← inStep_quote_iff, inStep_iff_forall (P := (· = Quote.none)) hparting]
  rfl

/-- Taking out what is hidden leaves the quotes as the cutter sees them. -/
theorem quote_after (p : Place) (s : List Char) :
    (p.after s).quote = p.quote.after (unhidden p s) := by
  induction s generalizing p with
  | nil => rfl
  | cons c s ih =>
    rw [after_cons, ih, unhidden]
    cases p with
    | escaped => rfl
    | within q =>
      have hnext : ((within q).next c).quote = q.next c := quote_next_eq_iff.mpr (by simp)
      rw [hnext]
      rfl

/-- The cutter is outside quotes at a position: a semicolon in the place of what stands there would
separate. -/
def OutsideAt (text : List Char) (p : Nat) : Prop :=
  p ∈ separators (text.take p ++ ';' :: text.drop (p + 1))

theorem outsideAt_iff {text : List Char} {p : Nat} (hp : p ≤ text.length) :
    OutsideAt text p ↔ Closed (text.take p) := by
  have hseparators := mem_separators_semicolon (a := text.take p) (b := text.drop (p + 1))
  rwa [List.length_take_of_le hp] at hseparators

theorem splitAt_newline {a b : List Char} :
    SplitAt (a ++ '\n' :: b) a.length ↔ Quote.none.after a = .none := by
  simp [splitAt_iff_newline]

/-- The splitter and the cutter at the line feeds of a text. The text is split at those that stand
outside quotes as the splitter sees them, and nothing is lost. The cutter is outside quotes where the
splitter would split if what is hidden in front were taken out. The two agree at a line feed if no
double quote is hidden in front of it. A line feed may be put anywhere into a text, with the two in
agreement about it, exactly if the text hides no double quote. -/
theorem splitAt_iff_outsideAt (text : List Char) :
    ((splitLines text).flatMap (· ++ ['\n']) = text ∨
      (splitLines text).flatMap (· ++ ['\n']) = text ++ ['\n']) ∧
    (∀ p, SplitAt text p ↔ text[p]? = some '\n' ∧ Quote.none.after (text.take p) = .none) ∧
    (∀ p, text[p]? = some '\n' → (OutsideAt text p ↔
      SplitAt (unhidden outside (text.take p) ++ text.drop p)
        (unhidden outside (text.take p)).length)) ∧
    (∀ p, text[p]? = some '\n' → ¬HidesQuote (text.take p) →
      (SplitAt text p ↔ OutsideAt text p)) ∧
    ((∀ a b, text = a ++ b → (SplitAt (a ++ '\n' :: b) a.length ↔
      OutsideAt (a ++ '\n' :: b) a.length)) ↔ ¬HidesQuote text) := by
  have hle {p : Nat} (hfeed : text[p]? = some '\n') : p ≤ text.length :=
    (List.getElem?_eq_some_iff.mp hfeed).1.le
  refine ⟨flatMap_splitLinesFrom .none [] text, fun p => splitAt_iff_newline, fun p hfeed => ?_,
    fun p hfeed hhides => ?_, ?_⟩
  · have hdrop : text.drop p = '\n' :: text.drop (p + 1) := by
      rw [List.drop_eq_getElem?_toList_append, hfeed]
      rfl
    rw [outsideAt_iff (hle hfeed), closed_iff_quote, quote_after, hdrop, splitAt_newline]
    rfl
  · rw [outsideAt_iff (hle hfeed), splitAt_iff_newline, and_iff_right hfeed,
      closed_iff_after hhides]
  · have hboth (a b : List Char) : (SplitAt (a ++ '\n' :: b) a.length ↔
        OutsideAt (a ++ '\n' :: b) a.length) ↔
          ((outside.after a).quote = .none ↔ Quote.none.after a = .none) := by
      rw [outsideAt_iff (by simp), List.take_left, splitAt_newline, closed_iff_quote]
      exact iff_comm
    simp only [hboth]
    exact forall_agree_iff

/-- A text with line feeds in double quotes, one in front of a hidden double quote and one behind
it. -/
def quotedFeeds : List Char := "echo \"a\nb\\\"\nc\"".toList

/-- In front of the hidden quote the splitter and the cutter agree; behind it a line ends inside the
quotes. -/
theorem splitAt_behind_hidden_quote :
    (¬HidesQuote (quotedFeeds.take 7) ∧ ¬SplitAt quotedFeeds 7 ∧ ¬OutsideAt quotedFeeds 7) ∧
      HidesQuote (quotedFeeds.take 11) ∧ SplitAt quotedFeeds 11 ∧ ¬OutsideAt quotedFeeds 11 := by
  obtain ⟨-, -, hcutter, hagree, -⟩ := splitAt_iff_outsideAt quotedFeeds
  have hshown : ¬HidesQuote (quotedFeeds.take 7) := by decide
  have hwhole : ¬SplitAt quotedFeeds 7 := by decide
  refine ⟨⟨hshown, hwhole, ?_⟩, by decide, by decide, ?_⟩
  · rwa [← hagree 7 (by decide) hshown]
  · rw [hcutter 11 (by decide)]
    decide

end Conch.Line
