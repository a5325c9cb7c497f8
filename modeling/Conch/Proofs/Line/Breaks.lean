import Mathlib
import Conch.Proofs.Line.LineFeeds

/-!
# Lines that are not split again

A text breaks into rows, each in front of a line feed, and an unbroken rest. Each row leaves the quotes
closed, so the next one starts outside quotes, and whether a line feed stands in quotes can be told
from its own line. Hence the lines of a text are read in the same way when they stand alone: none of
them is split again, and the text is what they are joined to.
-/

namespace Conch.Line

/-- The lines that a text breaks into. An empty rest is no line. -/
inductive Breaks : List Char → List (List Char) → Prop
  | nil : Breaks [] []
  | last {r : List Char} (unbroken : Unbroken .none r) (ne_nil : r ≠ []) : Breaks r [r]
  | row {r rest : List Char} {lines : List (List Char)} (isRow : IsRow r)
      (breaks : Breaks rest lines) : Breaks (r ++ '\n' :: rest) (r :: lines)

/-- A text ends in a line feed that stands outside quotes. -/
def EndsInFeed (text : List Char) : Prop :=
  text.getLast? = some '\n' ∧ Quote.none.after text = .none

instance (text : List Char) : Decidable (EndsInFeed text) := inferInstanceAs (Decidable (_ ∧ _))

variable {text r rest : List Char} {lines : List (List Char)}

/-- A text with a line feed outside quotes starts with a row: what stands in front of the first such
line feed. -/
theorem exists_row_of_not_unbroken (h : ¬Unbroken .none text) :
    ∃ r rest, IsRow r ∧ text = r ++ '\n' :: rest := by
  have hsome : ∃ k, text[k]? = some '\n' ∧ Quote.none.after (text.take k) = .none := by
    simp only [Unbroken, ne_eq, not_forall, not_not] at h
    obtain ⟨k, -, hfeed, hquote⟩ := h
    exact ⟨k, hfeed, hquote⟩
  obtain ⟨hfeed, hquote⟩ := Nat.find_spec hsome
  have hbefore {j : Nat} (hj : j < Nat.find hsome) := Nat.find_min hsome hj
  generalize Nat.find hsome = k at hfeed hquote hbefore
  refine ⟨text.take k, text.drop (k + 1), ⟨?_, hquote⟩, ?_⟩
  · intro j hj hfeed' hquote'
    have hlt : j < k := by
      rw [List.length_take] at hj
      omega
    rw [List.getElem?_take_of_lt hlt] at hfeed'
    rw [List.take_take, Nat.min_eq_left hlt.le] at hquote'
    exact hbefore hlt ⟨hfeed', hquote'⟩
  · obtain ⟨hlt, hget⟩ := List.getElem?_eq_some_iff.mp hfeed
    rw [← hget, ← List.drop_eq_getElem_cons hlt, List.take_append_drop]

theorem exists_breaks (text : List Char) : ∃ lines, Breaks text lines := by
  obtain ⟨n, hn⟩ : ∃ n, text.length = n := ⟨_, rfl⟩
  induction n using Nat.strong_induction_on generalizing text with
  | _ n ih =>
    by_cases hunbroken : Unbroken .none text
    · by_cases hnil : text = []
      · exact ⟨[], hnil ▸ .nil⟩
      · exact ⟨[text], .last hunbroken hnil⟩
    · obtain ⟨r, rest, hrow, rfl⟩ := exists_row_of_not_unbroken hunbroken
      have hlt : rest.length < n := by
        rw [← hn, List.length_append, List.length_cons]
        omega
      obtain ⟨lines, hlines⟩ := ih _ hlt rest rfl
      exact ⟨r :: lines, .row hrow hlines⟩

/-- Splitting gives the lines that a text breaks into. -/
theorem Breaks.splitLines_eq (h : Breaks text lines) : splitLines text = lines := by
  induction h with
  | nil => rfl
  | last hunbroken hne => simp [splitLines_unbroken hunbroken, hne]
  | row hrow _ ih => rw [splitLines_row hrow, ih]

theorem breaks_splitLines (text : List Char) : Breaks text (splitLines text) := by
  obtain ⟨lines, hlines⟩ := exists_breaks text
  rwa [hlines.splitLines_eq]

theorem Breaks.unbroken (h : Breaks text lines) : ∀ r ∈ lines, Unbroken .none r := by
  induction h with
  | nil => simp
  | last hunbroken _ => simpa using hunbroken
  | row hrow _ ih => exact List.forall_mem_cons.mpr ⟨hrow.unbroken, ih⟩

theorem Breaks.closed_of_mem_dropLast (h : Breaks text lines) :
    ∀ r ∈ lines.dropLast, Quote.none.after r = .none := by
  induction h with
  | nil | last => simp
  | @row r rest lines hrow _ ih =>
    cases lines with
    | nil => simp
    | cons l lines =>
      rw [List.dropLast_cons_cons]
      exact List.forall_mem_cons.mpr ⟨hrow.closed, ih⟩

theorem Breaks.eq_nil_iff (h : Breaks text lines) : lines = [] ↔ text = [] := by
  cases h with
  | nil => simp
  | last _ hne => simp [hne]
  | row => simp

theorem Quote.after_append (q : Quote) (s t : List Char) :
    q.after (s ++ t) = (q.after s).after t :=
  List.foldl_append

theorem endsInFeed_iff :
    EndsInFeed text ↔ ∃ front, text = front ++ ['\n'] ∧ Quote.none.after front = .none := by
  have hafter (front : List Char) :
      Quote.none.after (front ++ ['\n']) = Quote.none.after front := by
    rw [Quote.after_append]
    exact next_newline _
  constructor
  · rintro ⟨hlast, hquote⟩
    obtain ⟨front, rfl⟩ := List.getLast?_eq_some_iff.mp hlast
    exact ⟨front, rfl, hafter front ▸ hquote⟩
  · rintro ⟨front, rfl, hquote⟩
    exact ⟨by simp, (hafter front).trans hquote⟩

theorem not_endsInFeed_of_unbroken (h : Unbroken .none r) : ¬EndsInFeed r := by
  rw [endsInFeed_iff]
  rintro ⟨front, rfl, hquote⟩
  exact h front.length (by simp) (by simp) (by simpa using hquote)

theorem endsInFeed_row_iff (h : IsRow r) (hrest : rest ≠ []) :
    EndsInFeed (r ++ '\n' :: rest) ↔ EndsInFeed rest := by
  have hlast : (r ++ '\n' :: rest).getLast? = rest.getLast? := by
    rw [List.getLast?_append_of_ne_nil _ (List.cons_ne_nil _ _), List.getLast?_cons]
    obtain ⟨front, c, rfl⟩ := List.eq_nil_or_concat rest |>.resolve_left hrest
    simp
  have hquote : Quote.none.after (r ++ '\n' :: rest) = Quote.none.after rest := by
    rw [Quote.after_append, h.closed]
    rfl
  rw [EndsInFeed, EndsInFeed, hlast, hquote]

/-- The lines are joined to the text again, but for a line feed that ends the last of them. -/
theorem Breaks.intercalate (h : Breaks text lines) :
    ['\n'].intercalate lines ++ (if EndsInFeed text then ['\n'] else []) = text := by
  induction h with
  | nil => rfl
  | last hunbroken _ =>
    rw [if_neg (not_endsInFeed_of_unbroken hunbroken), List.intercalate_singleton,
      List.append_nil]
  | @row r rest lines hrow hbreaks ih =>
    cases lines with
    | nil =>
      obtain rfl : rest = [] := hbreaks.eq_nil_iff.mp rfl
      rw [if_pos (endsInFeed_iff.mpr ⟨r, rfl, hrow.closed⟩), List.intercalate_singleton]
    | cons l lines =>
      have hrest : rest ≠ [] := mt hbreaks.eq_nil_iff.mpr (List.cons_ne_nil l lines)
      simp only [endsInFeed_row_iff hrow hrest]
      calc
        ['\n'].intercalate (r :: l :: lines) ++ (if EndsInFeed rest then ['\n'] else []) =
            r ++ '\n' :: (['\n'].intercalate (l :: lines) ++
              if EndsInFeed rest then ['\n'] else []) := by
          rw [List.intercalate_cons_cons]
          simp
        _ = r ++ '\n' :: rest := by rw [ih]

/-- The lines of a text, joined again, are the text, or the text without a last line feed if that
stands outside quotes. All lines but the last leave the quotes closed, no line has a line feed outside
its own quotes, and a line that is not empty is not split again. -/
theorem splitLines_lossless (text : List Char) :
    (['\n'].intercalate (splitLines text) = text ↔ ¬EndsInFeed text) ∧
    (['\n'].intercalate (splitLines text) ++ ['\n'] = text ↔ EndsInFeed text) ∧
    (∀ r ∈ (splitLines text).dropLast, Quote.none.after r = .none) ∧
    (∀ r ∈ splitLines text, Unbroken .none r) ∧
    (∀ r ∈ splitLines text, r ≠ [] → splitLines r = [r]) := by
  have hbreaks := breaks_splitLines text
  have hjoin := hbreaks.intercalate
  refine ⟨?_, ?_, hbreaks.closed_of_mem_dropLast, hbreaks.unbroken, fun r hr hne =>
    (Breaks.last (hbreaks.unbroken r hr) hne).splitLines_eq⟩
  · constructor
    · intro heq hends
      rw [if_pos hends, heq] at hjoin
      simp at hjoin
    · intro hends
      rwa [if_neg hends, List.append_nil] at hjoin
  · constructor
    · intro heq
      by_contra hends
      rw [if_neg hends, List.append_nil] at hjoin
      rw [hjoin] at heq
      simp at heq
    · intro hends
      rwa [if_pos hends] at hjoin

/-- A line feed in single quotes, an empty line, and a line feed behind a double quote that is never
closed. -/
def mixedFeeds : List Char := "a 'b\nc'\n\nd \"e\n".toList

/-- The first line keeps its line feed and is not split again, and the last one keeps the line feed at
the end of the text. -/
theorem splitLines_mixedFeeds :
    ("a 'b\nc'".toList ∈ (splitLines mixedFeeds).dropLast ∧
      Quote.none.after "a 'b\nc'".toList = .none ∧ Unbroken .none "a 'b\nc'".toList ∧
      splitLines "a 'b\nc'".toList = ["a 'b\nc'".toList]) ∧
    ("d \"e\n".toList ∈ splitLines mixedFeeds ∧ Unbroken .none "d \"e\n".toList) ∧
    ¬EndsInFeed mixedFeeds ∧ ['\n'].intercalate (splitLines mixedFeeds) = mixedFeeds := by
  obtain ⟨hjoin, -, hclosed, hunbroken, hagain⟩ := splitLines_lossless mixedFeeds
  have hfirst : "a 'b\nc'".toList ∈ (splitLines mixedFeeds).dropLast := by decide
  have hmem : "a 'b\nc'".toList ∈ splitLines mixedFeeds := List.mem_of_mem_dropLast hfirst
  have hlast : "d \"e\n".toList ∈ splitLines mixedFeeds := by decide
  have hends : ¬EndsInFeed mixedFeeds := by decide
  exact ⟨⟨hfirst, hclosed _ hfirst, hunbroken _ hmem, hagain _ hmem (by decide)⟩,
    ⟨hlast, hunbroken _ hlast⟩, hends, hjoin.mpr hends⟩

end Conch.Line
