import Mathlib
import Conch.Proofs.Shell.Capture
import Conch.Proofs.Text.Utf8
import Conch.World.Setup

/-!
# The history of commands

A history file keeps a command behind a blank line and a line with the time. The lines of the command
itself stand behind plus signs, so none of them is taken for the line of a time, whatever it starts
with, and an empty command is kept as well. The history that is shown has one line for each command,
in the order of the file.
-/

namespace Conch.Shell

open World

/-- A command and the time that it was typed at, as it is written: on one line. -/
structure Remembered where
  time : String
  command : String
  time_one_line : '\n' ∉ time.toList ∧ '\r' ∉ time.toList
  command_no_return : '\r' ∉ command.toList

namespace Remembered

def lines (r : Remembered) : List (List Char) := r.command.toList.splitOn '\n'

/-- The lines of a history file for a command. -/
def rows (r : Remembered) : List (List Char) :=
  [] :: ('#' :: ' ' :: r.time.toList) :: r.lines.map ('+' :: ·)

/-- The line that is shown for the `k`-th command. -/
def shown (k : Nat) (r : Remembered) : List Char :=
  List.leftpad 5 ' ' (Nat.toDigits 10 k) ++
    ' ' :: ' ' :: r.command.toList.takeWhile (· ≠ '\n')

end Remembered

/-- Lines with a line feed behind each. -/
def endLines (lines : List (List Char)) : List Char := lines.flatMap (· ++ ['\n'])

/-- The text of a history file. -/
def historyText (rs : List Remembered) : String :=
  String.ofList (endLines (rs.flatMap Remembered.rows))

theorem endLines_cons (l : List Char) (lines : List (List Char)) :
    endLines (l :: lines) = l ++ '\n' :: endLines lines := by
  simp [endLines]

theorem historyLines_append {l : List Char} (h : '\n' ∉ l) (line rest : List Char) :
    historyLines line (l ++ '\n' :: rest) = (line.reverse ++ l) :: historyLines [] rest := by
  induction l generalizing line with
  | nil => simp [historyLines]
  | cons c l ih =>
    rw [List.mem_cons, not_or] at h
    rw [List.cons_append, historyLines, if_neg (Ne.symm h.1), ih h.2]
    simp

theorem historyLines_endLines {lines : List (List Char)} (h : ∀ l ∈ lines, '\n' ∉ l) :
    historyLines [] (endLines lines) = lines := by
  induction lines with
  | nil => rfl
  | cons l lines ih =>
    obtain ⟨hl, hlines⟩ := List.forall_mem_cons.mp h
    rw [endLines_cons, historyLines_append hl, ih hlines, List.reverse_nil, List.nil_append]

theorem splitOn_endLines {lines : List (List Char)} (h : ∀ l ∈ lines, '\n' ∉ l) :
    (endLines lines).splitOn '\n' = lines ++ [[]] := by
  induction lines with
  | nil => rfl
  | cons l lines ih =>
    obtain ⟨hl, hlines⟩ := List.forall_mem_cons.mp h
    rw [endLines_cons, List.splitOn_append_cons_self_of_not_mem hl, ih hlines, List.cons_append]

theorem splitOn_cons_newline (s : List Char) :
    ('\n' :: s).splitOn '\n' = [] :: s.splitOn '\n' := by
  simp [List.splitOn_cons_eq_if_modifyHead]

/-- Another character than a line feed goes to the first line. -/
theorem splitOn_cons_of_ne {c : Char} (h : c ≠ '\n') (s : List Char) :
    ∃ l ls, s.splitOn '\n' = l :: ls ∧ (c :: s).splitOn '\n' = (c :: l) :: ls := by
  obtain ⟨l, ls, hs⟩ := List.exists_cons_of_ne_nil (List.splitOn_ne_nil '\n' s)
  exact ⟨l, ls, hs, by simp [List.splitOn_cons_eq_if_modifyHead, h, hs]⟩

theorem headD_splitOn (s : List Char) : (s.splitOn '\n').headD [] = s.takeWhile (· ≠ '\n') := by
  induction s with
  | nil => rfl
  | cons c s ih =>
    by_cases hc : c = '\n'
    · simp [hc, splitOn_cons_newline]
    · obtain ⟨l, ls, hs, hcs⟩ := splitOn_cons_of_ne hc s
      rw [hs, List.headD_cons] at ih
      simp [hcs, hc, ih]

theorem mem_of_mem_splitOn {s l : List Char} {c : Char} (hl : l ∈ s.splitOn '\n') (hc : c ∈ l) :
    c ∈ s ∧ c ≠ '\n' := by
  induction s generalizing l with
  | nil => simp_all
  | cons d s ih =>
    by_cases hd : d = '\n'
    · rw [hd, splitOn_cons_newline, List.mem_cons] at hl
      rcases hl with rfl | hl
      · simp at hc
      · exact ⟨List.mem_cons_of_mem d (ih hl hc).1, (ih hl hc).2⟩
    · obtain ⟨l', ls, hs, hds⟩ := splitOn_cons_of_ne hd s
      rw [hds, List.mem_cons] at hl
      rw [hs] at ih
      rcases hl with rfl | hl
      · rcases List.mem_cons.mp hc with rfl | hc
        · exact ⟨List.mem_cons_self, hd⟩
        · obtain ⟨hmem, hne⟩ := ih List.mem_cons_self hc
          exact ⟨List.mem_cons_of_mem d hmem, hne⟩
      · obtain ⟨hmem, hne⟩ := ih (List.mem_cons_of_mem l' hl) hc
        exact ⟨List.mem_cons_of_mem d hmem, hne⟩

namespace Remembered

variable (r : Remembered)

theorem lines_ne_nil : r.lines ≠ [] := List.splitOn_ne_nil '\n' r.command.toList

/-- No row holds the end of a line. -/
theorem ne_of_mem_rows {l : List Char} (hl : l ∈ r.rows) {c : Char} (hc : c ∈ l) :
    c ≠ '\n' ∧ c ≠ '\r' := by
  simp only [rows, List.mem_cons, List.mem_map] at hl
  rcases hl with rfl | rfl | ⟨line, hline, rfl⟩
  · simp at hc
  · simp only [List.mem_cons] at hc
    rcases hc with rfl | rfl | hc
    · decide
    · decide
    · exact ⟨fun h => r.time_one_line.1 (h ▸ hc), fun h => r.time_one_line.2 (h ▸ hc)⟩
  · rcases List.mem_cons.mp hc with rfl | hc
    · decide
    · obtain ⟨hmem, hne⟩ := mem_of_mem_splitOn hline hc
      exact ⟨hne, fun h => r.command_no_return (h ▸ hmem)⟩

end Remembered

theorem historyCommands_map_plus (current lines rest : List (List Char)) :
    historyCommands current (lines.map ('+' :: ·) ++ rest) =
      historyCommands (lines.reverse ++ current) rest := by
  induction lines generalizing current with
  | nil => rfl
  | cons l lines ih =>
    rw [List.map_cons, List.cons_append, historyCommands, ih]
    simp

/-- The rows of a command end the one before them. -/
theorem historyCommands_rows (current rest : List (List Char)) (r : Remembered) :
    historyCommands current (r.rows ++ rest) =
      historyCommands current [] ++ historyCommands r.lines.reverse rest := by
  have hplus := historyCommands_map_plus [] r.lines rest
  rw [List.append_nil] at hplus
  simp only [Remembered.rows, List.cons_append, historyCommands, hplus]
  split <;> simp

theorem historyCommands_flatMap_rows (current : List (List Char)) (rs : List Remembered) :
    historyCommands current (rs.flatMap Remembered.rows) =
      historyCommands current [] ++ rs.map Remembered.lines := by
  induction rs generalizing current with
  | nil => simp
  | cons r rs ih =>
    have hlast : historyCommands r.lines.reverse [] = [r.lines] := by
      simp [historyCommands, r.lines_ne_nil]
    rw [List.flatMap_cons, historyCommands_rows, ih, hlast]
    rfl

theorem no_return_historyText (rs : List Remembered) : '\r' ∉ (historyText rs).toList := by
  intro h
  simp only [historyText, endLines, String.toList_ofList, List.mem_flatMap, List.mem_append,
    List.mem_singleton] at h
  obtain ⟨l, ⟨r, -, hl⟩, hreturn | hreturn⟩ := h
  · exact (r.ne_of_mem_rows hl hreturn).2 rfl
  · exact absurd hreturn (by decide)

/-- The commands of a history file are the ones that it was written with. -/
theorem historyCommands_historyText (rs : List Remembered) :
    historyCommands [] (historyLines [] (Text.unifyNewlines (historyText rs).toList)) =
      rs.map Remembered.lines := by
  have hlines : ∀ l ∈ rs.flatMap Remembered.rows, '\n' ∉ l := by
    intro l hl hmem
    obtain ⟨r, -, hrow⟩ := List.mem_flatMap.mp hl
    exact (r.ne_of_mem_rows hrow hmem).1 rfl
  rw [Text.unifyNewlines_eq_self (no_return_historyText rs), historyText, String.toList_ofList,
    historyLines_endLines hlines, historyCommands_flatMap_rows]
  rfl

theorem toList_padLeft (width : Nat) (s : String) :
    (padLeft width s).toList = List.leftpad width ' ' s.toList := by
  simp [padLeft, List.leftpad, String.length_toList]

theorem toList_row (k : Nat) (r : Remembered) :
    (padLeft 5 (toString k) ++ "  " ++ String.ofList (r.lines.headD []) ++ "\n").toList =
      r.shown k ++ ['\n'] := by
  have hdigits : (toString k).toList = Nat.toDigits 10 k := by simp [Nat.toString_eq_repr]
  simp only [String.toList_append, toList_padLeft, hdigits, String.toList_ofList,
    Remembered.lines, headD_splitOn, Remembered.shown]
  simp

theorem toList_historyTable (rs : List Remembered) :
    (historyTable (rs.map Remembered.lines)).toList =
      endLines (rs.mapIdx fun k r => r.shown (k + 1)) := by
  rw [historyTable, String.toList_join, List.zipIdx_map, List.mapIdx_eq_zipIdx_map, endLines,
    List.flatMap_map, List.flatMap_map, List.flatMap_map]
  exact List.flatMap_congr fun x _ => toList_row (x.2 + 1) x.1

theorem not_mem_shown (k : Nat) (r : Remembered) : '\n' ∉ r.shown k := by
  intro h
  simp only [Remembered.shown, List.leftpad, List.mem_append, List.mem_cons, List.mem_replicate] at h
  rcases h with (⟨-, h⟩ | h) | h | h | h
  · exact absurd h (by decide)
  · exact absurd (Nat.isDigit_of_mem_toDigits (by decide) (by decide) h) (by decide)
  · exact absurd h (by decide)
  · exact absurd h (by decide)
  · simpa using List.mem_takeWhile_imp h

/-- The history is read back from a file that commands were written to, whatever they hold but
carriage returns. -/
theorem history_eq_shown (w : World) (rs : List Remembered)
    (h : w.files.readAt w.cwd w.historyFile = .ok (Text.encode (historyText rs))) :
    ∃ out, history [] w = (.printing out 0, w) ∧
      out.toList.splitOn '\n' = (rs.mapIdx fun k r => r.shown (k + 1)) ++ [[]] := by
  have hshown : ∀ l ∈ rs.mapIdx fun k r => r.shown (k + 1), '\n' ∉ l := by
    intro l hl
    obtain ⟨k, hk, rfl⟩ := List.mem_mapIdx.mp hl
    exact not_mem_shown _ _
  refine ⟨historyTable (rs.map Remembered.lines), ?_, ?_⟩
  · simp only [history, get_bind_apply, h, Text.decode_encode, historyCommands_historyText]
    rfl
  · rw [toList_historyTable, splitOn_endLines hshown]

/-- A command of one line, an empty one, and one of several lines that look like rows of the file. -/
def sampleCommands : List Remembered :=
  [⟨"2024-01-01 00:00:00.000000", "echo a", by decide, by decide⟩,
    ⟨"2024-01-01 00:00:01.000000", "", by decide, by decide⟩,
    ⟨"2024-01-01 00:00:02.000000", "# b\n+c\n\n", by decide, by decide⟩]

def sampleWorld : World :=
  { Setup.plain ["ROOT"] with files := [("~/.pynix_history", historyText sampleCommands)] }.world

theorem readAt_sampleWorld :
    sampleWorld.files.readAt sampleWorld.cwd sampleWorld.historyFile =
      .ok (Text.encode (historyText sampleCommands)) := by
  decide

theorem history_sampleCommands :
    sampleWorld.files.readAt sampleWorld.cwd sampleWorld.historyFile =
        .ok (Text.encode (historyText sampleCommands)) ∧
      ∃ out, history [] sampleWorld = (.printing out 0, sampleWorld) ∧
        out.toList.splitOn '\n' =
          ["    1  echo a".toList, "    2  ".toList, "    3  # b".toList, []] := by
  obtain ⟨out, hout, hlines⟩ := history_eq_shown sampleWorld sampleCommands readAt_sampleWorld
  refine ⟨readAt_sampleWorld, out, hout, hlines.trans ?_⟩
  decide

end Conch.Shell
