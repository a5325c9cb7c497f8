import Mathlib
import Conch.Screen.Completion

/-!
# Every completion once

A completion takes the place of some characters in front of the cursor. Paths, builtins and commands
are offered in this order, and some complete the end of a word while others replace it as a whole. No
word is offered twice, whichever way it is made: each stands where it comes up first, and none is lost.
-/

namespace Conch.Screen

namespace Completion

variable {word : List Char} {c : Completion}

/-- What stands in front of the cursor when a completion has been taken: as many characters as it
reaches back are gone, and its text is put in. -/
def accept (before : List Char) (c : Completion) : List Char :=
  before.take (before.length - c.start.natAbs) ++ c.text

/-- A completion that reaches back no further than to the start of a word. -/
def StaysIn (word : List Char) (c : Completion) : Prop := -(word.length : Int) ≤ c.start ∧ c.start ≤ 0

instance : Decidable (c.StaysIn word) := inferInstanceAs (Decidable (_ ∧ _))

theorem apply_eq_accept (h : c.StaysIn word) : c.apply word = c.accept word := by
  obtain ⟨hfirst, hlast⟩ := h
  have hkept : ((word.length : Int) + c.start).toNat = word.length - c.start.natAbs := by omega
  rw [apply, accept, hkept]

/-- What is in front of the word stays as it is. -/
theorem accept_append (h : c.StaysIn word) (before : List Char) :
    c.accept (before ++ word) = before ++ c.accept word := by
  obtain ⟨hfirst, hlast⟩ := h
  have hkept : (before ++ word).length - c.start.natAbs =
      before.length + (word.length - c.start.natAbs) := by
    rw [List.length_append]
    omega
  rw [accept, hkept, List.take_length_add_append, List.append_assoc, accept]

theorem fresh_sublist (word : List Char) (seen : List (List Char)) (cs : List Completion) :
    (fresh word seen cs).Sublist cs := by
  induction cs generalizing seen with
  | nil => exact .slnil
  | cons c cs ih =>
    rw [fresh]
    split
    · exact (ih _).cons c
    · exact (ih _).cons_cons c

theorem nodup_map_apply_fresh (word : List Char) (seen : List (List Char)) (cs : List Completion) :
    ((fresh word seen cs).map (apply word)).Nodup ∧
      ∀ full ∈ (fresh word seen cs).map (apply word), full ∉ seen := by
  induction cs generalizing seen with
  | nil => simp [fresh]
  | cons c cs ih =>
    rw [fresh]
    split
    next => exact ih seen
    next hnew =>
      obtain ⟨hnodup, hunseen⟩ := ih (c.apply word :: seen)
      rw [List.map_cons, List.nodup_cons, List.forall_mem_cons]
      refine ⟨⟨fun hmem => hunseen _ hmem List.mem_cons_self, hnodup⟩, by simpa using hnew, ?_⟩
      intro full hfull hseen
      exact hunseen full hfull (List.mem_cons_of_mem _ hseen)

/-- Of the words that were not seen, those that come up first are kept. -/
theorem map_apply_fresh (word : List Char) (seen : List (List Char)) (cs : List Completion) :
    (fresh word seen cs).map (apply word) =
      ((cs.map (apply word)).filter fun full => !seen.contains full).eraseDups := by
  induction cs generalizing seen with
  | nil => rfl
  | cons c cs ih =>
    rw [fresh, List.map_cons]
    split
    next hseen => rw [ih, List.filter_cons_of_neg (by simpa using hseen)]
    next hnew =>
      rw [List.map_cons, ih, List.filter_cons_of_pos (by simpa using hnew), List.eraseDups_cons,
        List.filter_filter]
      congr 3
      funext full
      rw [List.contains_cons, Bool.not_or]

end Completion

/-- The current word is what stands behind the last blank, or the whole text. -/
theorem exists_before_currentWord (text : List Char) :
    ∃ before, text = before ++ currentWord text ∧ (before = [] ∨ before.getLast? = some ' ') ∧
      ' ' ∉ currentWord text := by
  refine ⟨(text.reverse.dropWhile (· != ' ')).reverse, ?_, ?_, ?_⟩
  · rw [currentWord, ← List.reverse_append, List.takeWhile_append_dropWhile, List.reverse_reverse]
  · have hhead := List.head?_dropWhile_not (· != ' ') text.reverse
    rw [List.getLast?_reverse]
    cases hrest : text.reverse.dropWhile (· != ' ') with
    | nil => exact .inl rfl
    | cons c rest =>
      rw [hrest] at hhead
      exact .inr (by simpa using hhead)
  · intro hblank
    have hletter := List.mem_takeWhile_imp (List.mem_reverse.mp hblank)
    simp at hletter

/-- A builtin replaces the whole word. -/
theorem map_accept_builtinCompletions (word : List Char) (names : List (List Char)) :
    (builtinCompletions word names).map (Completion.accept word) =
      names.filter fun n => word.isPrefixOf n := by
  have haccept (n : List Char) : Completion.accept word ⟨n, -word.length, n⟩ = n := by
    simp [Completion.accept]
  rw [builtinCompletions, List.map_map]
  exact List.map_id'' haccept _

theorem staysIn_of_mem_builtinCompletions {word : List Char} {names : List (List Char)}
    {c : Completion} (h : c ∈ builtinCompletions word names) : c.StaysIn word := by
  obtain ⟨n, -, rfl⟩ := List.mem_map.mp h
  exact ⟨le_rfl, by simp⟩

/-- The completions that are there before repetitions are left out. -/
def candidates (builtins : List (List Char)) (paths commands : List Char → List Completion)
    (text : List Char) : List Completion :=
  paths (currentWord text) ++
    if ' ' ∉ text ∧ currentWord text ≠ [] then
      builtinCompletions (currentWord text) builtins ++ commands (currentWord text)
    else []

theorem completionsWith_eq_fresh (builtins : List (List Char))
    (paths commands : List Char → List Completion) (text : List Char) :
    completionsWith builtins paths commands text =
      Completion.fresh (currentWord text) [] (candidates builtins paths commands text) := by
  have halone : (!text.contains ' ' && !(currentWord text).isEmpty) =
      decide (' ' ∉ text ∧ currentWord text ≠ []) := by
    rw [Bool.decide_and, decide_not, decide_not, List.contains_eq_mem]
    cases currentWord text <;> rfl
  simp only [completionsWith, halone, candidates, decide_eq_true_eq]

/-- The words that the completions of a text lead to are pairwise distinct. They are the paths and,
for a word that stands alone, the builtins it is the start of and the commands, each where it comes up
first; and taking a completion changes nothing in front of the word. -/
theorem completionsWith_first_occurrences (builtins : List (List Char))
    (paths commands : List Char → List Completion) (text : List Char)
    (hpaths : ∀ c ∈ paths (currentWord text), c.StaysIn (currentWord text))
    (hcommands : ∀ c ∈ commands (currentWord text), c.StaysIn (currentWord text)) :
    (∃ before, text = before ++ currentWord text ∧ (before = [] ∨ before.getLast? = some ' ') ∧
      ' ' ∉ currentWord text ∧
      ∀ c ∈ completionsWith builtins paths commands text,
        c.accept text = before ++ c.accept (currentWord text)) ∧
    ((completionsWith builtins paths commands text).map
      (Completion.accept (currentWord text))).Nodup ∧
    (completionsWith builtins paths commands text).map (Completion.accept (currentWord text)) =
      ((paths (currentWord text)).map (Completion.accept (currentWord text)) ++
        if ' ' ∉ text ∧ currentWord text ≠ [] then
          builtins.filter (fun n => (currentWord text).isPrefixOf n) ++
            (commands (currentWord text)).map (Completion.accept (currentWord text))
        else []).eraseDups := by
  have hstays : ∀ c ∈ candidates builtins paths commands text, c.StaysIn (currentWord text) := by
    intro c hc
    rcases List.mem_append.mp hc with hpath | hrest
    · exact hpaths c hpath
    · split at hrest
      · rcases List.mem_append.mp hrest with hbuiltin | hcommand
        · exact staysIn_of_mem_builtinCompletions hbuiltin
        · exact hcommands c hcommand
      · simp at hrest
  have hwords {cs : List Completion} (hcs : cs.Sublist (candidates builtins paths commands text)) :
      cs.map (Completion.apply (currentWord text)) = cs.map (Completion.accept (currentWord text)) :=
    List.map_congr_left fun c hc => Completion.apply_eq_accept (hstays c (hcs.subset hc))
  have hfresh := Completion.fresh_sublist (currentWord text) []
    (candidates builtins paths commands text)
  rw [completionsWith_eq_fresh, ← hwords hfresh]
  refine ⟨?_, (Completion.nodup_map_apply_fresh _ [] _).1, ?_⟩
  · obtain ⟨before, htext, hbefore, hword⟩ := exists_before_currentWord text
    refine ⟨before, htext, hbefore, hword, fun c hc => ?_⟩
    have haccept := Completion.accept_append (hstays c (hfresh.subset hc)) before
    rwa [← htext] at haccept
  · rw [Completion.map_apply_fresh, hwords (List.Sublist.refl _), candidates, List.map_append]
    simp only [List.contains_nil, Bool.not_false, List.filter_true]
    congr 2
    split
    · rw [List.map_append, map_accept_builtinCompletions]
    · rfl

/-- A file has the name of a builtin, and so have two programs. -/
def filesBehindE (_ : List Char) : List Completion :=
  [⟨"cho".toList, 0, "echo".toList⟩, ⟨"tc".toList, 0, "etc/".toList⟩]

def programsBehindE (_ : List Char) : List Completion :=
  [⟨"cho".toList, 0, "echo".toList⟩, ⟨"nv".toList, 0, "env".toList⟩, ⟨"xit".toList, 0, "exit".toList⟩]

theorem completionsWith_overlapping :
    (∀ c ∈ filesBehindE ['e'], c.StaysIn ['e']) ∧ (∀ c ∈ programsBehindE ['e'], c.StaysIn ['e']) ∧
    (completionsWith ["exit".toList, "echo".toList, "cd".toList] filesBehindE programsBehindE
      ['e']).map (Completion.accept ['e']) =
      ["echo".toList, "etc".toList, "exit".toList, "env".toList] := by
  have hfiles : ∀ c ∈ filesBehindE ['e'], c.StaysIn ['e'] := by decide
  have hprograms : ∀ c ∈ programsBehindE ['e'], c.StaysIn ['e'] := by decide
  obtain ⟨-, -, hwords⟩ := completionsWith_first_occurrences
    ["exit".toList, "echo".toList, "cd".toList] filesBehindE programsBehindE ['e'] hfiles hprograms
  exact ⟨hfiles, hprograms, hwords.trans (by decide)⟩

end Conch.Screen
