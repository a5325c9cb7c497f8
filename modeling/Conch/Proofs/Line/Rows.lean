import Mathlib
import Conch.Proofs.Line.Cut
import Conch.Proofs.Line.Expansions
import Conch.Shell.Invoke

/-!
# Texts of several lines

A text of several rows, some of them blank, is run as the commands in the others: splitting it at
the line feeds outside quotes gives the rows back, and blank rows bring no expansion about.
-/

namespace Conch.Line

open Text

/-- The state of quotes behind a text. -/
def Quote.after (q : Quote) (s : List Char) : Quote := s.foldl Quote.next q

/-- Read from a state of quotes on, every line feed of a text stands in quotes. -/
def Unbroken (q : Quote) (s : List Char) : Prop :=
  ∀ k < s.length, s[k]? = some '\n' → q.after (s.take k) ≠ .none

instance (q : Quote) (s : List Char) : Decidable (Unbroken q s) :=
  inferInstanceAs (Decidable (∀ k < s.length, _ → _))

theorem unbroken_cons {q : Quote} {c : Char} {s : List Char} (h : Unbroken q (c :: s)) :
    (c = '\n' → q ≠ .none) ∧ Unbroken (q.next c) s := by
  constructor
  · intro hc
    exact h 0 (by simp) (by simp [hc])
  · intro k hk hget
    exact h (k + 1) (by simpa using hk) (by simpa using hget)

/-- A row by itself: its line feeds stand in quotes, and its quotes are closed at its end. -/
structure IsRow (r : List Char) : Prop where
  unbroken : Unbroken .none r
  closed : Quote.none.after r = .none

theorem splitLinesFrom_unbroken {q : Quote} {r : List Char} (h : Unbroken q r)
    (line rest : List Char) :
    splitLinesFrom q line (r ++ rest) = splitLinesFrom (q.after r) (r.reverse ++ line) rest := by
  induction r generalizing q line with
  | nil => rfl
  | cons c r ih =>
    obtain ⟨hc, hr⟩ := unbroken_cons h
    have hgo : ¬(c = '\n' ∧ q.next c = .none) := by
      rintro ⟨rfl, hq⟩
      refine hc rfl ?_
      cases q <;> first | rfl | cases hq
    rw [List.cons_append, splitLinesFrom, if_neg hgo, ih hr]
    simp [Quote.after]

theorem splitLines_unbroken {r : List Char} (h : Unbroken .none r) :
    splitLines r = if r.isEmpty then [] else [r] := by
  have hread := splitLinesFrom_unbroken h [] []
  rw [List.append_nil, List.append_nil] at hread
  rw [splitLines, hread]
  simp [splitLinesFrom]

/-- A row in front of a line feed is the first line. -/
theorem splitLines_row {r : List Char} (h : IsRow r) (rest : List Char) :
    splitLines (r ++ '\n' :: rest) = r :: splitLines rest := by
  rw [splitLines, splitLinesFrom_unbroken h.unbroken, h.closed]
  simp [splitLinesFrom, Quote.next, splitLines]

/-- Splitting gives the rows back; only an empty one at the end is lost. -/
theorem splitLines_intercalate {rows : List (List Char)} (h : ∀ r ∈ rows, IsRow r) :
    ∃ lost, (lost = [] ∨ lost = [[]]) ∧
      splitLines (['\n'].intercalate rows) ++ lost = rows := by
  induction rows with
  | nil => exact ⟨[], .inl rfl, rfl⟩
  | cons r rows ih =>
    obtain ⟨hr, hrows⟩ := List.forall_mem_cons.mp h
    cases rows with
    | nil =>
      rw [List.intercalate_singleton, splitLines_unbroken hr.unbroken]
      by_cases hnil : r = []
      · exact ⟨[[]], .inr rfl, by simp [hnil]⟩
      · exact ⟨[], .inl rfl, by simp [hnil]⟩
    | cons r' rows =>
      obtain ⟨lost, hlost, hrest⟩ := ih hrows
      refine ⟨lost, hlost, ?_⟩
      rw [List.intercalate_cons_cons, List.append_assoc, List.singleton_append,
        splitLines_row hr, List.cons_append, hrest]

/-- A row that is a command: nothing stands around it, and something in it. -/
structure IsCommandRow (r : List Char) : Prop extends IsRow r where
  ne_nil : r ≠ []
  trimmed : trim r = r

instance (r : List Char) : Decidable (IsCommandRow r) :=
  decidable_of_iff ((Unbroken .none r ∧ Quote.none.after r = .none) ∧ r ≠ [] ∧ trim r = r)
    ⟨fun ⟨⟨h₁, h₂⟩, h₃, h₄⟩ => ⟨⟨h₁, h₂⟩, h₃, h₄⟩,
      fun h => ⟨⟨h.unbroken, h.closed⟩, h.ne_nil, h.trimmed⟩⟩

/-- A row of blanks. -/
structure IsBlankRow (r : List Char) : Prop where
  blank : ∀ c ∈ r, isBlank c = true
  one : '\n' ∉ r

instance (r : List Char) : Decidable (IsBlankRow r) :=
  decidable_of_iff (r.all isBlank = true ∧ '\n' ∉ r)
    ⟨fun ⟨h₁, h₂⟩ => ⟨List.all_eq_true.mp h₁, h₂⟩, fun h => ⟨List.all_eq_true.mpr h.blank, h.one⟩⟩

theorem IsBlankRow.trim_eq_nil {r : List Char} (h : IsBlankRow r) : trim r = [] := by
  have hleft : trimLeft r = [] := List.dropWhile_eq_nil_iff.mpr h.blank
  rw [trim, hleft]
  rfl

theorem IsBlankRow.not_isCommandRow {r : List Char} (h : IsBlankRow r) : ¬IsCommandRow r := by
  intro hr
  exact hr.ne_nil (hr.trimmed.symm.trans h.trim_eq_nil)

theorem IsBlankRow.isRow {r : List Char} (h : IsBlankRow r) : IsRow r where
  unbroken := fun k _ hget => absurd (List.mem_of_getElem? hget) h.one
  closed := by
    have hblank := h.blank
    clear h
    induction r with
    | nil => rfl
    | cons c r ih =>
      obtain ⟨hc, hr⟩ := List.forall_mem_cons.mp hblank
      have hnext : Quote.none.next c = .none := by
        have hplace := Place.next_within_of_blank hc .none
        simpa [Place.next] using hplace
      rw [Quote.after, List.foldl_cons, hnext]
      exact ih hr

/-- The rows of a text that are commands. -/
def commandRows (rows : List (List Char)) : List (List Char) := rows.filter fun r => IsCommandRow r

variable {rows : List (List Char)}

theorem commandRows_cons_of_blank {r : List Char} (h : IsBlankRow r) :
    commandRows (r :: rows) = commandRows rows := by
  simp [commandRows, h.not_isCommandRow]

theorem commandRows_cons_of_command {r : List Char} (h : IsCommandRow r) :
    commandRows (r :: rows) = r :: commandRows rows := by
  simp [commandRows, h]

section

variable (h : ∀ r ∈ rows, IsBlankRow r ∨ IsCommandRow r)
include h

/-- The commands of a text are its rows that are not blank. -/
theorem commandLines_intercalate :
    Shell.commandLines (['\n'].intercalate rows) = (commandRows rows).map String.ofList := by
  have hrow : ∀ r ∈ rows, IsRow r := fun r hr => (h r hr).elim (·.isRow) (·.toIsRow)
  obtain ⟨lost, hlost, hsplit⟩ := splitLines_intercalate hrow
  have hkept : Shell.commandLines (['\n'].intercalate rows) =
      (rows.map fun r => String.ofList (trim r)).filter (· ≠ "") := by
    have hempty : String.ofList (trim []) = "" := rfl
    rw [Shell.commandLines]
    generalize splitLines _ = split at hsplit
    subst hsplit
    rcases hlost with rfl | rfl <;> simp [hempty]
  rw [hkept]
  clear hkept hsplit hrow
  induction rows with
  | nil => rfl
  | cons r rows ih =>
    obtain ⟨hr, hrows⟩ := List.forall_mem_cons.mp h
    rcases hr with hblank | hcommand
    · rw [commandRows_cons_of_blank hblank, ← ih hrows]
      simp [hblank.trim_eq_nil]
    · have hrest := ih hrows
      rw [commandRows_cons_of_command hcommand, List.map_cons, List.map_cons, ← hrest]
      simp [hcommand.trimmed, hcommand.ne_nil]

end

theorem IsCommandRow.commandLines_eq {r : List Char} (h : IsCommandRow r) :
    Shell.commandLines r = [String.ofList r] := by
  have hlines : Shell.commandLines (['\n'].intercalate [r]) = (commandRows [r]).map String.ofList :=
    commandLines_intercalate (by simp [h])
  rwa [List.intercalate_singleton, commandRows_cons_of_command h] at hlines

/-- A text is another one with characters put in that neither open nor close an expansion. -/
inductive Thins : List Char → List Char → Prop
  | nil : Thins [] []
  | keep (c : Char) {s t : List Char} (rest : Thins s t) : Thins (c :: s) (c :: t)
  | drop (c : Char) {s t : List Char} (plain : Plain [c]) (rest : Thins s t) : Thins (c :: s) t

theorem Thins.append_plain {s t x : List Char} (h : Thins s t) (hx : Plain x) :
    Thins (x ++ s) t := by
  induction x with
  | nil => exact h
  | cons c x ih =>
    obtain ⟨hc, hplain⟩ := List.forall_mem_cons.mp hx
    exact .drop c (by simpa [Plain] using hc) (ih hplain)

theorem Thins.append_left {s t : List Char} (h : Thins s t) (x : List Char) :
    Thins (x ++ s) (x ++ t) := by
  induction x with
  | nil => exact h
  | cons c x ih => exact .keep c ih

theorem Thins.exists_closing {s t : List Char} (h : Thins s t) {d k : Nat}
    (hs : closing d s = some k) : ∃ k', closing d t = some k' := by
  induction h generalizing d k with
  | nil => simp [closing_nil] at hs
  | keep c _ ih =>
    rcases closing_cons_cases hs with ⟨hlevel, -⟩ | ⟨d', k', hlevel, hk', -⟩
    · exact ⟨0, closing_cons_eq_some_iff.mpr (.inl ⟨hlevel, rfl⟩)⟩
    · obtain ⟨m, hm⟩ := ih hk'
      exact ⟨m + 1, closing_cons_eq_some_iff.mpr (.inr ⟨d', m, hlevel, hm, rfl⟩)⟩
  | drop c plain _ ih =>
    obtain ⟨hopen, hclose, -⟩ := plain c (List.mem_singleton_self c)
    have hlevel : level d c = some d := by simp [level, hopen, hclose]
    obtain ⟨k', hk', -⟩ : ∃ k', closing d _ = some k' ∧ k = k' + 1 := by
      simpa [closing_cons_eq_some_iff, hlevel] using hs
    exact ih hk'

/-- An expansion in the longer text is one in the shorter text, too. -/
theorem Thins.exists_front {s t : List Char} (h : Thins s t) {b : List Char} (hb : b <:+ s)
    (hfront : front? b ≠ none) : ∃ b', b' <:+ t ∧ front? b' ≠ none := by
  induction h with
  | nil =>
    obtain rfl : b = [] := List.suffix_nil.mp hb
    exact absurd rfl hfront
  | keep c rest ih =>
    rcases List.suffix_cons_iff.mp hb with rfl | hb
    · obtain ⟨⟨sigil, k⟩, hx⟩ := Option.ne_none_iff_exists'.mp hfront
      obtain ⟨inner, hinner, hclose⟩ := exists_of_front? hx
      obtain ⟨rfl, rfl⟩ := List.cons_eq_cons.mp hinner
      cases rest with
      | keep _ rest =>
        obtain ⟨k', hk'⟩ := rest.exists_closing hclose
        refine ⟨_, List.suffix_rfl, ?_⟩
        rw [front?_of_closing hk' sigil]
        simp
      | drop _ plain _ => exact absurd rfl (plain '(' (List.mem_singleton_self _)).1
    · obtain ⟨b', hb', hfront'⟩ := ih hb
      exact ⟨b', hb'.trans (List.suffix_cons c _), hfront'⟩
  | drop c plain _ ih =>
    rcases List.suffix_cons_iff.mp hb with rfl | hb
    · exact absurd (front?_of_ne (plain c (List.mem_singleton_self c)).2.2 _) hfront
    · exact ih hb

theorem expansions_eq_nil_iff {text : List Char} :
    expansions text = [] ↔ ∀ b, b <:+ text → front? b = none := by
  suffices h : ∀ i, expansionsFrom i 0 text = [] ↔ ∀ b, b <:+ text → front? b = none from h 0
  induction text with
  | nil =>
    refine fun i => ⟨fun _ b hb => ?_, fun _ => rfl⟩
    rw [List.suffix_nil.mp hb]
    rfl
  | cons c rest ih =>
    intro i
    cases hfront : front? (c :: rest) with
    | none =>
      rw [expansionsFrom_of_front?_eq_none hfront, ih]
      constructor
      · intro h b hb
        rcases List.suffix_cons_iff.mp hb with rfl | hb
        · exact hfront
        · exact h b hb
      · exact fun h b hb => h b (hb.trans (List.suffix_cons c rest))
    | some x =>
      obtain ⟨sigil, k⟩ := x
      rw [expansionsFrom_of_front? hfront]
      refine ⟨fun h => by simp at h, fun h => ?_⟩
      rw [h _ List.suffix_rfl] at hfront
      cases hfront

theorem Thins.expansions_eq_nil {s t : List Char} (h : Thins s t) (ht : expansions t = []) :
    expansions s = [] := by
  rw [expansions_eq_nil_iff] at ht ⊢
  intro b hb
  by_contra hfront
  obtain ⟨b', hb', hfront'⟩ := h.exists_front hb hfront
  exact hfront' (ht b' hb')

theorem plain_newline : Plain ['\n'] := by
  apply plain_blanks
  intro c hc
  rw [List.mem_singleton.mp hc]
  rfl

/-- A text of rows is the text of its commands with blank rows put in. -/
theorem thins_intercalate (h : ∀ r ∈ rows, IsBlankRow r ∨ IsCommandRow r) :
    Thins (['\n'].intercalate rows) (['\n'].intercalate (commandRows rows)) := by
  induction rows with
  | nil => exact .nil
  | cons r rows ih =>
    obtain ⟨hr, hrows⟩ := List.forall_mem_cons.mp h
    have hrest := ih hrows
    rcases hr with hblank | hcommand
    · rw [commandRows_cons_of_blank hblank]
      cases rows with
      | nil => simpa [commandRows] using Thins.nil.append_plain (plain_blanks hblank.blank)
      | cons r' rows =>
        rw [List.intercalate_cons_cons, List.append_assoc]
        exact (hrest.append_plain plain_newline).append_plain (plain_blanks hblank.blank)
    · rw [commandRows_cons_of_command hcommand]
      cases rows with
      | nil => simpa [commandRows] using Thins.nil.append_left r
      | cons r' rows =>
        rw [List.intercalate_cons_cons, List.append_assoc]
        cases hcommands : commandRows (r' :: rows) with
        | nil =>
          rw [hcommands] at hrest
          simpa using (hrest.append_plain plain_newline).append_left r
        | cons l lines =>
          rw [hcommands] at hrest
          rw [List.intercalate_cons_cons, List.append_assoc]
          exact (hrest.append_left _).append_left r

/-- A part of a text without expansions has none. -/
theorem expansions_eq_nil_of_infix {s text : List Char} (h : s <:+: text)
    (htext : expansions text = []) : expansions s = [] := by
  rw [expansions_eq_nil_iff] at htext ⊢
  obtain ⟨x, y, rfl⟩ := h
  rintro b ⟨a, rfl⟩
  by_contra hfront
  obtain ⟨⟨sigil, k⟩, hx⟩ := Option.ne_none_iff_exists'.mp hfront
  have hnone := htext (b ++ y) ⟨x ++ a, by simp⟩
  rw [front?_append hx y] at hnone
  cases hnone

theorem infix_intercalate {l : List Char} {lines : List (List Char)} (h : l ∈ lines) :
    l <:+: ['\n'].intercalate lines := by
  induction lines with
  | nil => simp at h
  | cons l' lines ih =>
    cases lines with
    | nil =>
      obtain rfl : l = l' := by simpa using h
      rw [List.intercalate_singleton]
    | cons l'' lines =>
      rw [List.intercalate_cons_cons]
      rcases List.mem_cons.mp h with rfl | h
      · exact ⟨[], ['\n'] ++ ['\n'].intercalate (l'' :: lines), by simp⟩
      · exact (ih h).trans (List.suffix_append _ _).isInfix

end Conch.Line

namespace Conch.Shell

open World Line

theorem invoke_of_isCommandRow {r : List Char} (h : IsCommandRow r) (wanted : Capture) :
    invoke wanted (String.ofList r) = invokeLine wanted (String.ofList r) := by
  simp [invoke, h.commandLines_eq]

theorem invoke_commandRow {r : List Char} (h : IsCommandRow r) :
    invoke .nothing (String.ofList r) = replyOf <$> run (String.ofList r) := by
  rw [invoke_of_isCommandRow h, invokeLine]
  split <;> rfl

/-- A text of at least two commands is given over command by command. -/
theorem invoke_intercalate {rows : List (List Char)}
    (h : ∀ r ∈ rows, IsBlankRow r ∨ IsCommandRow r) (hlength : 2 ≤ (commandRows rows).length)
    (wanted : Capture) :
    invoke wanted (String.ofList (['\n'].intercalate rows)) =
      invokeLines wanted ((commandRows rows).map String.ofList) := by
  have hnewline : (['\n'].intercalate rows).contains '\n' = true := by
    have hrows : (commandRows rows).length ≤ rows.length := List.length_filter_le _ _
    match rows, (show 2 ≤ rows.length by omega) with
    | r :: r' :: rows, _ => simp
  have hlines := commandLines_intercalate h
  simp only [invoke, String.toList_ofList, hlines, hnewline, List.length_map, Bool.true_and]
  exact if_pos (decide_eq_true (show (commandRows rows).length > 1 from hlength))

/-- A text of at least two commands is run command by command. -/
theorem invoke_rows {rows : List (List Char)} (h : ∀ r ∈ rows, IsBlankRow r ∨ IsCommandRow r)
    (hlength : 2 ≤ (commandRows rows).length) :
    invoke .nothing (String.ofList (['\n'].intercalate rows)) =
      runLines 0 ((commandRows rows).map String.ofList) :=
  invoke_intercalate h hlength .nothing

end Conch.Shell
