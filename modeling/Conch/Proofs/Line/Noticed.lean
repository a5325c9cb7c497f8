import Mathlib
import Conch.Proofs.Line.Spelling
import Conch.Proofs.Line.Tokens

/-!
# Redirections in the text and among the words

Whether a command redirects is asked in two ways. A test on the text looks for an operator between
blanks, and the pipeline looks for a redirecting word with a word behind it that it can take. Both
are said here without the functions that decide them. They agree on commands that are written
plainly: quotes and other blanks keep away from operators, `1>` and `&>` are not used, and every
operator stands behind a word and in front of its target.
-/

namespace Conch.Line

/-- The operators that the test on the text looks for. -/
def shownOperators : List (List Char) := [">", ">>", "2>", "2>>", "&>", "&>>"].map String.toList

/-- Somewhere in the text an operator stands between blanks. -/
def ShowsRedirect (text : List Char) : Prop :=
  ∃ before b operator b' after, text = before ++ b :: (operator ++ b' :: after) ∧
    Text.isBlank b = true ∧ Text.isBlank b' = true ∧ operator ∈ shownOperators

theorem mem_shownOperators_iff {operator : List Char} :
    operator ∈ shownOperators ↔
      operator = ['>'] ∨ operator = ['>', '>'] ∨ operator = ['2', '>'] ∨
        operator = ['2', '>', '>'] ∨ operator = ['&', '>'] ∨ operator = ['&', '>', '>'] := by
  simp [shownOperators]

theorem not_isBlank_of_mem_shownOperators {operator : List Char} (h : operator ∈ shownOperators) :
    ∀ c ∈ operator, Text.isBlank c = false := by
  rw [mem_shownOperators_iff] at h
  rcases h with rfl | rfl | rfl | rfl | rfl | rfl <;> simp [Text.isBlank]

theorem mem_of_mem_shownOperators {operator : List Char} (h : operator ∈ shownOperators) :
    '>' ∈ operator := by
  rw [mem_shownOperators_iff] at h
  rcases h with rfl | rfl | rfl | rfl | rfl | rfl <;> decide

theorem startsRedirect_iff {text : List Char} :
    startsRedirect text = true ↔
      ∃ operator b after, text = operator ++ b :: after ∧ Text.isBlank b = true ∧
        operator ∈ shownOperators := by
  constructor
  · intro h
    unfold startsRedirect at h
    -- the digit or the sign in front, and then one or two signs
    split at h <;> dsimp only at h <;> split at h
    · exact ⟨['2', '>', '>'], _, _, rfl, h, by decide⟩
    · exact ⟨['2', '>'], _, _, rfl, h, by decide⟩
    · cases h
    · exact ⟨['&', '>', '>'], _, _, rfl, h, by decide⟩
    · exact ⟨['&', '>'], _, _, rfl, h, by decide⟩
    · cases h
    · exact ⟨['>', '>'], _, _, rfl, h, by decide⟩
    · exact ⟨['>'], _, _, rfl, h, by decide⟩
    · cases h
  · rintro ⟨operator, b, after, rfl, hb, hoperator⟩
    have hne : b ≠ '>' := by
      rintro rfl
      exact absurd hb (by decide)
    rw [mem_shownOperators_iff] at hoperator
    unfold startsRedirect
    rcases hoperator with rfl | rfl | rfl | rfl | rfl | rfl <;> simp [hb, hne]

theorem hasRedirect_iff_showsRedirect {text : List Char} :
    hasRedirect text = true ↔ ShowsRedirect text := by
  induction text with
  | nil => simp [hasRedirect, ShowsRedirect]
  | cons c text ih =>
    rw [hasRedirect, Bool.or_eq_true, Bool.and_eq_true, ih, startsRedirect_iff]
    constructor
    · rintro (⟨hc, operator, b, after, rfl, hb, hoperator⟩ |
        ⟨before, b, operator, b', after, rfl, hb, hb', hoperator⟩)
      · exact ⟨[], c, operator, b, after, rfl, hc, hb, hoperator⟩
      · exact ⟨c :: before, b, operator, b', after, rfl, hb, hb', hoperator⟩
    · rintro ⟨before, b, operator, b', after, htext, hb, hb', hoperator⟩
      cases before with
      | nil =>
        obtain ⟨rfl, rfl⟩ := List.cons.inj htext
        exact .inl ⟨hb, operator, b', after, rfl, hb', hoperator⟩
      | cons d before =>
        obtain ⟨rfl, rfl⟩ := List.cons.inj htext
        exact .inr ⟨before, b, operator, b', after, rfl, hb, hb', hoperator⟩

/-- Some redirecting word has a word behind it that it takes as its target. -/
def TakesTarget (words : List String) : Prop :=
  ∃ before operator target after, words = before ++ operator :: target :: after ∧
    operator ∈ redirectWords ∧ target ≠ "|"

theorem not_takesTarget_nil : ¬ TakesTarget [] := by
  rintro ⟨before, operator, target, after, h, -, -⟩
  cases before <;> cases h

theorem takesTarget_cons {w : String} {words : List String} :
    TakesTarget (w :: words) ↔
      (w ∈ redirectWords ∧ ∃ target after, words = target :: after ∧ target ≠ "|") ∨
        TakesTarget words := by
  constructor
  · rintro ⟨before, operator, target, after, hwords, hoperator, htarget⟩
    cases before with
    | nil =>
      obtain ⟨rfl, rfl⟩ := List.cons.inj hwords
      exact .inl ⟨hoperator, target, after, rfl, htarget⟩
    | cons v before =>
      obtain ⟨rfl, rfl⟩ := List.cons.inj hwords
      exact .inr ⟨before, operator, target, after, rfl, hoperator, htarget⟩
  · rintro (⟨hw, target, after, rfl, htarget⟩ |
      ⟨before, operator, target, after, rfl, hoperator, htarget⟩)
    · exact ⟨[], w, target, after, rfl, hw, htarget⟩
    · exact ⟨w :: before, operator, target, after, rfl, hoperator, htarget⟩

/-- A bar ends what can be taken. -/
theorem takesTarget_append {run ts : List String} (hstop : ∀ t ∈ ts.head?, t = "|") :
    TakesTarget (run ++ ts) ↔ TakesTarget run ∨ TakesTarget ts := by
  induction run with
  | nil => simp [not_takesTarget_nil]
  | cons w run ih =>
    rw [List.cons_append, takesTarget_cons, takesTarget_cons, ih, or_assoc]
    cases run with
    | cons v run => simp
    | nil =>
      cases ts with
      | nil => simp
      | cons t ts =>
        obtain rfl : t = "|" := hstop t rfl
        simp

theorem Runs.takesTarget_iff {ts : List String} {runs : List (List String)} (h : Runs ts runs) :
    TakesTarget ts ↔ ∃ run ∈ runs, TakesTarget run := by
  induction h with
  | nil => simp [not_takesTarget_nil]
  | bar rest ih =>
    rw [takesTarget_cons, ih]
    simp [redirectWords]
  | run nonempty barless stops rest ih =>
    rw [takesTarget_append stops, ih, List.exists_mem_cons_iff]

theorem Runs.barless {ts : List String} {runs : List (List String)} (h : Runs ts runs) :
    ∀ run ∈ runs, "|" ∉ run := by
  induction h with
  | nil => simp
  | bar rest ih => exact ih
  | run nonempty barless stops rest ih => exact List.forall_mem_cons.2 ⟨barless, ih⟩

theorem takesTarget_iff_redirects {run : List String} (hbar : "|" ∉ run) :
    TakesTarget run ↔ (RunReading.read run).redirects ≠ [] := by
  fun_induction RunReading.read run with
  | case1 => simp [not_takesTarget_nil, RunReading.redirects]
  | case2 w h => simp [takesTarget_cons, not_takesTarget_nil, RunReading.redirects]
  | case3 w h => simp [takesTarget_cons, not_takesTarget_nil, RunReading.redirects, Item.redirect?]
  | case4 w path rest h ih =>
    have hpath : path ≠ "|" := by
      rintro rfl
      simp at hbar
    simp [takesTarget_cons, h, hpath, RunReading.redirects, RunReading.cons, Item.redirect?]
  | case5 w path rest h ih =>
    rw [takesTarget_cons, ih fun hmem => hbar (List.mem_cons_of_mem w hmem)]
    simp [h, RunReading.redirects, RunReading.cons, Item.redirect?]

theorem redirects_ne_nil_iff (r : RunReading) :
    r.redirects ≠ [] ↔ r.stage.out ≠ [] ∨ r.stage.err ≠ [] := by
  have hstage : r.stage.out = streamOf r.redirects false ∧
      r.stage.err = streamOf r.redirects true := ⟨rfl, rfl⟩
  rw [hstage.1, hstage.2]
  rcases r.redirects with _ | ⟨⟨_ | _, x⟩, xs⟩ <;> simp [streamOf]

/-- Some stage of a command has a redirection. -/
def Redirects (command : String) : Prop := ∃ s ∈ pipeline command, s.out ≠ [] ∨ s.err ≠ []

theorem redirects_iff_takesTarget (command : String) :
    Redirects command ↔ TakesTarget ((commandWords command.toList).map String.ofList) := by
  obtain ⟨runs, hruns⟩ := exists_runs ((commandWords command.toList).map String.ofList)
  have hpipeline : pipeline command = runs.map Stage.ofWords := by
    rw [pipeline, pipelineOfWords, hruns.splitStages_eq]
  simp only [Redirects, hpipeline, hruns.takesTarget_iff, List.mem_map, exists_exists_and_eq_and]
  apply exists_congr
  intro run
  apply and_congr_right
  intro hrun
  rw [RunReading.ofWords_eq_stage, ← redirects_ne_nil_iff,
    takesTarget_iff_redirects (hruns.barless run hrun)]

/-- A command redirects when among its words, as they are spelt, one takes its target. -/
theorem redirects_iff_hasWords (command : String) :
    Redirects command ↔
      ∃ ws, HasWords command.toList ws ∧ TakesTarget (ws.map String.ofList) := by
  simp only [hasWords_iff, exists_eq_left, redirects_iff_takesTarget]

theorem isBlank_of_isGap {c : Char} (h : isGap c = true) : Text.isBlank c = true := by
  simp only [isGap, Bool.or_eq_true, beq_iff_eq] at h
  rcases h with ((rfl | rfl) | rfl) | rfl <;> decide

/-- A text that is empty or begins with a blank. -/
def BeginsBlank (text : List Char) : Prop := ∀ c ∈ text.head?, Text.isBlank c = true

/-- Where blanks keep away from the sign, an operator is a whole word. -/
theorem startsRedirect_append_iff {raw text : List Char}
    (hraw : '>' ∈ raw → ∀ c ∈ raw, Text.isBlank c = false) (htext : BeginsBlank text) :
    startsRedirect (raw ++ text) = true ↔ raw ∈ shownOperators ∧ text ≠ [] := by
  rw [startsRedirect_iff]
  constructor
  · rintro ⟨operator, b, after, heq, hb, hoperator⟩
    have hsign := mem_of_mem_shownOperators hoperator
    rcases List.append_eq_append_iff.1 heq with ⟨rest, hop, hrest⟩ | ⟨rest, hop, hrest⟩
    · -- the operator goes on behind the word
      cases rest with
      | nil =>
        rw [List.append_nil] at hop
        rw [List.nil_append] at hrest
        exact ⟨hop ▸ hoperator, by simp [hrest]⟩
      | cons c rest =>
        have hblank : Text.isBlank c = true := htext c (by simp [hrest])
        have hnot := not_isBlank_of_mem_shownOperators hoperator c (by simp [hop])
        rw [hblank] at hnot
        cases hnot
    · -- the word goes on behind the operator
      cases rest with
      | nil =>
        rw [List.append_nil] at hop
        rw [List.nil_append] at hrest
        exact ⟨hop ▸ hoperator, by simp [← hrest]⟩
      | cons c rest =>
        obtain ⟨rfl, -⟩ := List.cons.inj hrest
        have hnot := hraw (by simp [hop, hsign]) b (by simp [hop])
        rw [hb] at hnot
        cases hnot
  · rintro ⟨hoperator, hne⟩
    obtain ⟨b, after, rfl⟩ := List.exists_cons_of_ne_nil hne
    exact ⟨raw, b, after, rfl, htext b rfl, hoperator⟩

theorem startsRedirect_of_isBlank {c : Char} (h : Text.isBlank c = true) (text : List Char) :
    startsRedirect (c :: text) = false := by
  rw [Bool.eq_false_iff, Ne, startsRedirect_iff]
  rintro ⟨operator, b, after, heq, -, hoperator⟩
  cases operator with
  | nil => simp [shownOperators] at hoperator
  | cons d operator =>
    obtain ⟨rfl, -⟩ := List.cons.inj heq
    have hnot := not_isBlank_of_mem_shownOperators hoperator c List.mem_cons_self
    rw [h] at hnot
    cases hnot

theorem hasRedirect_gap {g : List Char} (h : ∀ c ∈ g, isGap c = true) (text : List Char) :
    hasRedirect (g ++ text) = true ↔
      (g ≠ [] ∧ startsRedirect text = true) ∨ hasRedirect text = true := by
  induction g with
  | nil => simp
  | cons c g ih =>
    obtain ⟨hc, hg⟩ := List.forall_mem_cons.1 h
    rw [List.cons_append, hasRedirect, isBlank_of_isGap hc, Bool.true_and, Bool.or_eq_true, ih hg]
    cases g with
    | nil => simp
    | cons d g =>
      have hd := isBlank_of_isGap (hg d List.mem_cons_self)
      simp [startsRedirect_of_isBlank hd]

/-- Nothing is seen inside of a word where blanks keep away from the sign. -/
theorem hasRedirect_raw {raw text : List Char}
    (hraw : '>' ∈ raw → ∀ c ∈ raw, Text.isBlank c = false) (htext : BeginsBlank text) :
    hasRedirect (raw ++ text) = hasRedirect text := by
  induction raw with
  | nil => rfl
  | cons c raw ih =>
    have hrest : '>' ∈ raw → ∀ d ∈ raw, Text.isBlank d = false := fun hmem d hd =>
      hraw (List.mem_cons_of_mem c hmem) d (List.mem_cons_of_mem c hd)
    have hstarts : (Text.isBlank c && startsRedirect (raw ++ text)) = false := by
      by_contra hnot
      rw [Bool.not_eq_false, Bool.and_eq_true, startsRedirect_append_iff hrest htext] at hnot
      obtain ⟨hblank, hoperator, -⟩ := hnot
      have hsign := mem_of_mem_shownOperators hoperator
      rw [hraw (List.mem_cons_of_mem c hsign) c List.mem_cons_self] at hblank
      cases hblank
    rw [List.cons_append, hasRedirect, hstarts, Bool.false_or, ih hrest]

/-- Words with `>` in them are written as they are, without quotes and blanks. -/
def Verbatim (xs : List Spelt) : Prop :=
  ∀ x ∈ xs, '>' ∈ x.raw → x.raw = x.word ∧ ∀ c ∈ x.raw, Text.isBlank c = false

theorem beginsBlank_layout {xs : List Spelt} {tail : List Char} (hapart : ∀ x ∈ xs, x.gap ≠ [])
    (htail : ∀ c ∈ tail, isGap c = true) : BeginsBlank (layout xs tail) := by
  intro c hc
  cases xs with
  | nil =>
    have hlayout : layout [] tail = tail := rfl
    rw [hlayout] at hc
    exact isBlank_of_isGap (htail c (List.mem_of_mem_head? hc))
  | cons x xs =>
    obtain ⟨d, g, hgap⟩ := List.exists_cons_of_ne_nil (hapart x List.mem_cons_self)
    rw [layout_cons, hgap] at hc
    obtain rfl : d = c := by simpa using hc
    exact isBlank_of_isGap (x.gaps d (by simp [hgap]))

/-- The test sees a word that is an operator, with a blank in front and something behind. -/
theorem hasRedirect_layout_iff {xs : List Spelt} {tail : List Char}
    (hapart : ∀ x ∈ xs.tail, x.gap ≠ []) (htail : ∀ c ∈ tail, isGap c = true)
    (hverbatim : Verbatim xs) :
    hasRedirect (layout xs tail) = true ↔
      ∃ before x after, xs = before ++ x :: after ∧ x.gap ≠ [] ∧ x.raw ∈ shownOperators ∧
        layout after tail ≠ [] := by
  induction xs with
  | nil =>
    have hnone := hasRedirect_gap htail []
    rw [List.append_nil] at hnone
    have hlayout : layout [] tail = tail := rfl
    have hstarts : startsRedirect [] = false := rfl
    rw [hlayout, hnone, hstarts]
    simp [hasRedirect]
  | cons x xs ih =>
    rw [List.tail_cons] at hapart
    obtain ⟨hx, hxs⟩ := List.forall_mem_cons.1 hverbatim
    have hraw : '>' ∈ x.raw → ∀ c ∈ x.raw, Text.isBlank c = false := fun hmem => (hx hmem).2
    have htext := beginsBlank_layout hapart htail
    rw [layout_cons, hasRedirect_gap x.gaps, startsRedirect_append_iff hraw htext,
      hasRedirect_raw hraw htext,
      ih (fun y hy => hapart y (List.mem_of_mem_tail hy)) hxs]
    constructor
    · rintro (⟨hgap, hoperator, hne⟩ | ⟨before, y, after, rfl, hy⟩)
      · exact ⟨[], x, xs, rfl, hgap, hoperator, hne⟩
      · exact ⟨x :: before, y, after, rfl, hy⟩
    · rintro ⟨before, y, after, hxs, hgap, hoperator, hne⟩
      cases before with
      | nil =>
        obtain ⟨rfl, rfl⟩ := List.cons.inj hxs
        exact .inl ⟨hgap, hoperator, hne⟩
      | cons z before =>
        obtain ⟨rfl, rfl⟩ := List.cons.inj hxs
        exact .inr ⟨before, y, after, rfl, hgap, hoperator, hne⟩

/-- A command that is written plainly: its operators are not in quotes, they are none of those that
only one side knows, and each of them has a blank in front of it and its target behind it. -/
structure Plainly (xs : List Spelt) (tail : List Char) : Prop extends Laid xs tail where
  verbatim : Verbatim xs
  usual : ∀ x ∈ xs, String.ofList x.word ∉ ["1>", "1>>", "&>", "&>>"]
  complete : ∀ before x after, xs = before ++ x :: after → String.ofList x.word ∈ redirectWords →
    x.gap ≠ [] ∧ ∃ y rest, after = y :: rest ∧ String.ofList y.word ≠ "|"

theorem mem_redirectWords_of_shown {word : List Char} (h : word ∈ shownOperators)
    (husual : String.ofList word ∉ ["1>", "1>>", "&>", "&>>"]) :
    String.ofList word ∈ redirectWords := by
  rw [mem_shownOperators_iff] at h
  rcases h with rfl | rfl | rfl | rfl | rfl | rfl
  case inr.inr.inr.inr.inl => exact absurd (by decide) husual
  case inr.inr.inr.inr.inr => exact absurd (by decide) husual
  all_goals decide

theorem shown_of_mem_redirectWords {word : List Char} (h : String.ofList word ∈ redirectWords)
    (husual : String.ofList word ∉ ["1>", "1>>", "&>", "&>>"]) : word ∈ shownOperators := by
  obtain ⟨operator, rfl⟩ : ∃ operator : String, word = operator.toList :=
    ⟨String.ofList word, String.toList_ofList.symm⟩
  rw [String.ofList_toList] at h husual
  simp only [redirectWords, List.mem_cons, List.not_mem_nil, or_false] at h
  rcases h with rfl | rfl | rfl | rfl | rfl | rfl
  case inr.inl => exact absurd (by decide) husual
  case inr.inr.inr.inl => exact absurd (by decide) husual
  all_goals decide

/-- On commands that are written plainly the test and the pipeline agree. -/
theorem Plainly.hasRedirect_iff {xs : List Spelt} {tail : List Char} (h : Plainly xs tail) :
    hasRedirect (layout xs tail) = true ↔ Redirects (String.ofList (layout xs tail)) := by
  rw [hasRedirect_layout_iff h.apart h.tailGaps h.verbatim, redirects_iff_takesTarget,
    String.toList_ofList, h.commandWords_layout]
  constructor
  · rintro ⟨before, x, after, rfl, hgap, hoperator, hne⟩
    have hx : x ∈ before ++ x :: after := by simp
    have hverbatim := (h.verbatim x hx (mem_of_mem_shownOperators hoperator)).1
    rw [hverbatim] at hoperator
    have hredirect := mem_redirectWords_of_shown hoperator (h.usual x hx)
    obtain ⟨-, y, rest, rfl, hy⟩ := h.complete before x after rfl hredirect
    refine ⟨(before.map Spelt.word).map String.ofList, _, _,
      (rest.map Spelt.word).map String.ofList, ?_, hredirect, hy⟩
    simp only [List.map_append, List.map_cons]
  · rintro ⟨before, operator, target, after, hwords, hoperator, -⟩
    rw [List.map_map] at hwords
    obtain ⟨front, back, rfl, -, hback⟩ := List.map_eq_append_iff.1 hwords
    obtain ⟨x, behind, rfl, rfl, hbehind⟩ := List.map_eq_cons_iff.1 hback
    obtain ⟨y, rest, rfl, -, -⟩ := List.map_eq_cons_iff.1 hbehind
    have hx : x ∈ front ++ x :: y :: rest := by simp
    have hshown := shown_of_mem_redirectWords hoperator (h.usual x hx)
    have hsign : '>' ∈ x.raw := x.spells.subset (mem_of_mem_shownOperators hshown)
    refine ⟨front, x, y :: rest, rfl, (h.complete front x (y :: rest) rfl hoperator).1, ?_, ?_⟩
    · rwa [(h.verbatim x hx hsign).1]
    · rw [layout_cons]
      simp [y.nonempty]

end Conch.Line
