import Conch.Proofs.Line.Pipeline
import Conch.World.Posix

/-!
# The line of a pipeline as a system shell reads it

A pipeline is handed to a system shell as a line, with its words in quotes where that is needed. The
shell reads the same words back, whatever characters they have. It looks for blanks and bars outside
quotes only, so that a word may be a bar as well.
-/

namespace Conch.World.Posix

open Line

variable {q : Quote} {word s rest : List Char} {stage : List String}

/-- A character that stands for itself. -/
theorem readStages_letter {c : Char} (hnext : q.next c = q) (hplain : q = .none → c ≠ ' ' ∧ c ≠ '|') :
    readStages q (some word) stage (c :: rest) = readStages q (some (c :: word)) stage rest := by
  have hblank : ¬ (q = .none ∧ c = ' ') := fun h => (hplain h.1).1 h.2
  have hbar : ¬ (q = .none ∧ c = '|') := fun h => (hplain h.1).2 h.2
  rw [readStages]
  simp only [hnext, ne_eq, not_true_eq_false, if_false, hblank, hbar, Option.getD_some]

theorem readStages_safe (h : ∀ c ∈ s, isSafe c = true) :
    readStages .none (some word) stage (s ++ rest) =
      readStages .none (some (s.reverse ++ word)) stage rest := by
  induction s generalizing word with
  | nil => rfl
  | cons c s ih =>
    have hsafe := h c List.mem_cons_self
    have hne {d : Char} (hd : isSafe d = false) : c ≠ d := by
      rintro rfl
      rw [hsafe] at hd
      cases hd
    have hnext : Quote.none.next c = .none := by
      simp [Quote.next, hne (d := '\'') (by decide), hne (d := '"') (by decide)]
    rw [List.cons_append, readStages_letter hnext fun _ => ⟨hne (by decide), hne (by decide)⟩,
      ih fun d hd => h d (List.mem_cons_of_mem c hd)]
    simp

/-- Inside single quotes all characters stand for themselves. A single quote closes them, stands in
double ones and opens them again. -/
theorem readStages_single :
    readStages .single (some word) stage
        ((s.flatMap fun c => if c = '\'' then ['\'', '"', '\'', '"', '\''] else [c]) ++ '\'' :: rest) =
      readStages .none (some (s.reverse ++ word)) stage rest := by
  induction s generalizing word with
  | nil => simp [readStages, Quote.next]
  | cons c s ih =>
    by_cases hc : c = '\''
    · subst hc
      have hquote (tail : List Char) :
          readStages .single (some word) stage ('\'' :: '"' :: '\'' :: '"' :: '\'' :: tail) =
            readStages .single (some ('\'' :: word)) stage tail := by
        simp [readStages, Quote.next]
      simp only [List.flatMap_cons, if_true, List.cons_append, List.nil_append, hquote, ih]
      simp
    · have hnext : Quote.single.next c = .single := by simp [Quote.next, hc]
      simp only [List.flatMap_cons, if_neg hc, List.cons_append, List.nil_append]
      rw [readStages_letter hnext (by simp), ih]
      simp

/-- A word comes back as it was. -/
theorem readStages_quoteWord (s rest : List Char) (stage : List String) :
    readStages .none none stage (quoteWord s ++ rest) =
      readStages .none (some s.reverse) stage rest := by
  have hopen (tail : List Char) : readStages .none none stage ('\'' :: tail) =
      readStages .single (some []) stage tail := by simp [readStages, Quote.next]
  unfold quoteWord
  split
  · next hempty =>
    obtain rfl := List.isEmpty_iff.mp hempty
    simpa using (hopen _).trans (readStages_single (s := []))
  · next hempty =>
    split
    · next hsafe =>
      obtain ⟨c, s, rfl⟩ := List.exists_cons_of_ne_nil (mt List.isEmpty_iff.mpr hempty)
      have hall := List.all_eq_true.mp hsafe
      -- the first character opens the word as one behind an empty word does
      have hfirst : readStages .none none stage (c :: (s ++ rest)) =
          readStages .none (some []) stage (c :: (s ++ rest)) := by
        have hne {d : Char} (hd : isSafe d = false) : c ≠ d := by
          rintro rfl
          rw [hall c List.mem_cons_self] at hd
          cases hd
        simp [readStages, Quote.next, hne (d := '\'') (by decide), hne (d := '"') (by decide),
          hne (d := ' ') (by decide), hne (d := '|') (by decide)]
      rw [List.cons_append, hfirst, ← List.cons_append, readStages_safe hall, List.append_nil]
    · rw [List.append_assoc, List.cons_append, hopen, List.singleton_append, readStages_single,
        List.append_nil]

/-- The words of a stage come back one after the other; the last one is still being read. -/
theorem readStages_spaced (front : List (List Char)) (last rest : List Char)
    (stage : List String) :
    readStages .none none stage (spaced (front ++ [last]) ++ rest) =
      readStages .none (some last.reverse) (stage ++ front.map String.ofList) rest := by
  induction front generalizing stage with
  | nil => simpa [spaced] using readStages_quoteWord last rest stage
  | cons w front ih =>
    obtain ⟨v, ws, hws⟩ := List.exists_cons_of_ne_nil (l := front ++ [last]) (by simp)
    have hblank : readStages .none (some w.reverse) stage (' ' :: (spaced (front ++ [last]) ++ rest)) =
        readStages .none none (stage ++ [String.ofList w]) (spaced (front ++ [last]) ++ rest) := by
      rw [readStages]
      simp [Quote.next]
    rw [List.cons_append, hws, spaced_cons_cons, ← hws, List.append_assoc, readStages_quoteWord,
      List.cons_append, hblank, ih]
    simp

/-- The stages of a pipeline are read back from its line. -/
theorem read_render {stages : List (List String)} (hne : stages ≠ []) (h : [] ∉ stages) :
    read (render stages) = stages := by
  rw [read, toList_render h]
  induction stages with
  | nil => exact absurd rfl hne
  | cons words stages ih =>
    have hwords : words ≠ [] := fun hnil => h (hnil ▸ List.mem_cons_self)
    obtain ⟨front, last, rfl⟩ : ∃ front last, words = front ++ [last] :=
      ⟨_, _, (List.dropLast_append_getLast hwords).symm⟩
    have hstage (rest : List Char) :
        readStages .none none [] (spaced ((front ++ [last]).map String.toList) ++ rest) =
          readStages .none (some last.toList.reverse) front rest := by
      rw [List.map_append, List.map_singleton, readStages_spaced]
      simp
    cases stages with
    | nil =>
      have hlast := hstage []
      rw [List.append_nil] at hlast
      rw [List.map_singleton, List.map_singleton, List.intercalate_singleton, hlast]
      simp [readStages]
    | cons words' stages =>
      have hrest := ih (List.cons_ne_nil _ _) fun hmem => h (List.mem_cons_of_mem _ hmem)
      have hbar (tail : List Char) :
          readStages .none (some last.toList.reverse) front ([' ', '|', ' '] ++ tail) =
            (front ++ [last]) :: readStages .none none [] tail := by
        simp [readStages, Quote.next]
      rw [List.map_cons, List.map_cons, List.map_cons, List.map_cons,
        List.intercalate_cons_cons, List.append_assoc, hstage, hbar, ← List.map_cons,
        ← List.map_cons, hrest]

end Conch.World.Posix
