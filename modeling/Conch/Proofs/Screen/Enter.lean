import Mathlib
import Conch.Screen.Keys
import Conch.Session.Loop

/-!
# Two presses of Enter

Enter hands a text over, or opens a line behind it with nothing but spaces in it. On such a line the
next press of Enter hands the text over, complete or not, and what was added are blanks at its end. So
two presses are enough, and the command that is run is the one that was typed.
-/

namespace Conch.Text

/-- Blanks behind a text are trimmed off. -/
theorem trim_append_blanks {b : List Char} (h : ∀ c ∈ b, isBlank c = true) (s : List Char) :
    trim (s ++ b) = trim s := by
  have hleft : trimLeft b = [] := List.dropWhile_eq_nil_iff.mpr h
  have hright (t : List Char) : trimRight (t ++ b) = trimRight t := by
    rw [trimRight, List.reverse_append, List.dropWhile_append_of_pos (by simpa using h), trimRight]
  rw [trim, trim, trimLeft, List.dropWhile_append, ← trimLeft, ← trimLeft, hleft]
  split
  next hnil =>
    rw [List.isEmpty_iff.mp hnil]
  next => exact hright _

end Conch.Text

namespace Conch.Screen

open Text (isBlank)

namespace Buffer

/-- A text with the cursor at its end. -/
def atEnd (text : List Char) : Buffer := ⟨text, text.length⟩

@[simp] theorem before_atEnd (text : List Char) : (atEnd text).before = text := List.take_length

@[simp] theorem after_atEnd (text : List Char) : (atEnd text).after = [] := List.drop_length

theorem insert_atEnd (text s : List Char) : (atEnd text).insert s = atEnd (text ++ s) := by
  rw [insert, before_atEnd, after_atEnd, List.append_nil, atEnd, atEnd, List.length_append]

theorem currentLine_atEnd {s : List Char} (h : '\n' ∉ s) (text : List Char) :
    (atEnd (text ++ '\n' :: s)).currentLine = s := by
  have hline : (s.reverse ++ '\n' :: text.reverse).takeWhile (· != '\n') = s.reverse := by
    have hall : ∀ c ∈ s.reverse, (c != '\n') = true := by
      intro c hc
      rw [bne_iff_ne]
      rintro rfl
      exact h (List.mem_reverse.mp hc)
    rw [List.takeWhile_append_of_pos hall]
    simp
  simp [currentLine, hline]

end Buffer

theorem isBlank_of_mem_spaces {n : Nat} {c : Char} (h : c ∈ '\n' :: List.replicate n ' ') :
    isBlank c = true := by
  rcases List.mem_cons.mp h with rfl | hspace
  · rfl
  · rw [List.eq_of_mem_replicate hspace]
    rfl

/-- All that Enter does at the end of a text. -/
theorem enter_atEnd_cases (isComplete : List Char → Bool) (text : List Char) :
    enter isComplete (.atEnd text) = .accepted text ∨
      ∃ n, enter isComplete (.atEnd text) =
        .editing (.atEnd (text ++ '\n' :: List.replicate n ' ')) := by
  rw [enter, Buffer.insert_atEnd]
  split
  · exact .inl rfl
  · split
    · exact .inl rfl
    · exact .inr ⟨_, rfl⟩

/-- On a line of spaces Enter hands the text over. -/
theorem enter_of_spaces (isComplete : List Char → Bool) (text : List Char) (n : Nat) :
    enter isComplete (.atEnd (text ++ '\n' :: List.replicate n ' ')) =
      .accepted (text ++ '\n' :: List.replicate n ' ') := by
  have hline : '\n' ∉ List.replicate n ' ' := by simp [List.mem_replicate]
  have htrim : Text.trim (List.replicate n ' ') = [] :=
    Text.trim_append_blanks (fun c hc => isBlank_of_mem_spaces (List.mem_cons_of_mem _ hc)) []
  rw [enter, Buffer.currentLine_atEnd hline, htrim]
  rfl

theorem strip_append_spaces (text : List Char) (n : Nat) :
    Text.strip (String.ofList (text ++ '\n' :: List.replicate n ' ')) =
      Text.strip (String.ofList text) := by
  rw [Text.strip, Text.strip, String.toList_ofList, String.toList_ofList,
    Text.trim_append_blanks fun c hc => isBlank_of_mem_spaces hc]

/-- The shell runs an input by what is left of it when it is trimmed. -/
theorem loop_line_congr {s t : String} (h : Text.strip s = Text.strip t) (prompts : Nat)
    (inputs : List Session.Input) :
    Session.loop prompts (.line s :: inputs) = Session.loop prompts (.line t :: inputs) := by
  simp only [Session.loop, h]

/-- At the end of any text, and whatever is thought complete, one or two presses of Enter hand over an
input that is run as the text itself. A press that does not hand it over opens a line of spaces behind
it. -/
theorem enter_twice_submits (isComplete : List Char → Bool) (text : List Char) :
    (∃ accepted presses, 1 ≤ presses ∧ presses ≤ 2 ∧
      (∀ rest, typeKeys isComplete (.atEnd text) (List.replicate presses .enter ++ rest) =
        .accepted accepted :: typeKeys isComplete .blank rest) ∧
      Text.strip (String.ofList accepted) = Text.strip (String.ofList text) ∧
      ∀ prompts inputs, Session.loop prompts (.line (String.ofList accepted) :: inputs) =
        Session.loop prompts (.line (String.ofList text) :: inputs)) ∧
    ∀ b, enter isComplete (.atEnd text) = .editing b →
      ∃ n, b = .atEnd (text ++ '\n' :: List.replicate n ' ') := by
  rcases enter_atEnd_cases isComplete text with hfirst | ⟨n, hfirst⟩
  · refine ⟨⟨text, 1, le_rfl, one_le_two, fun rest => ?_, rfl, fun _ _ => rfl⟩, fun b hb => ?_⟩
    · simp only [List.replicate_one, List.singleton_append, typeKeys, hfirst]
    · rw [hfirst] at hb
      cases hb
  · have hsecond := enter_of_spaces isComplete text n
    have hstrip := strip_append_spaces text n
    refine ⟨⟨_, 2, one_le_two, le_rfl, fun rest => ?_, hstrip, loop_line_congr hstrip⟩,
      fun b hb => ?_⟩
    · simp only [List.replicate_succ, List.replicate_zero, List.cons_append, List.nil_append,
        typeKeys, hfirst, hsecond]
    · rw [hfirst] at hb
      cases hb
      exact ⟨n, rfl⟩

/-- A block that is not complete: the first press opens a line in it. -/
theorem enter_opens_block :
    enter isCompleteText (.atEnd "if x:".toList) = .editing (.atEnd "if x:\n    ".toList) ∧
      ∃ n, Buffer.atEnd "if x:\n    ".toList =
        .atEnd ("if x:".toList ++ '\n' :: List.replicate n ' ') := by
  have hfirst : enter isCompleteText (.atEnd "if x:".toList) =
      .editing (.atEnd "if x:\n    ".toList) := by decide +kernel
  exact ⟨hfirst, (enter_twice_submits isCompleteText "if x:".toList).2 _ hfirst⟩

end Conch.Screen
