import Mathlib
import Conch.Proofs.Line.Pipeline

/-!
# Every token of a pipeline in its place

The tokens of a command are cut at the bars into runs, and a run is read from left to right: a word
that redirects takes the token behind it, whatever that is, and every other word stays a word. Only
a redirecting word at the very end has no token left to take. The main result says that tokens fall
into runs and runs into items in one way only, and that the stages of a pipeline are those items,
with each redirection filed under the stream that its operator names.
-/

namespace Conch.Line

/-- Tokens as runs with bars before, between and behind them. A run is not empty, holds no bar, and
goes on up to a bar or to the end. -/
inductive Runs : List String → List (List String) → Prop where
  | nil : Runs [] []
  | bar {ts : List String} {runs : List (List String)} (rest : Runs ts runs) :
      Runs ("|" :: ts) runs
  | run {run ts : List String} {runs : List (List String)} (nonempty : run ≠ [])
      (barless : "|" ∉ run) (stops : ∀ t ∈ ts.head?, t = "|") (rest : Runs ts runs) :
      Runs (run ++ ts) (run :: runs)

theorem splitStages_bar (ts : List String) : splitStages ("|" :: ts) = splitStages ts := by
  simp [splitStages, splitStagesFrom]

/-- A run in front of a bar or of the end is the first stage. -/
theorem splitStages_run {run ts : List String} (hrun : run ≠ []) (hbar : "|" ∉ run)
    (hstop : ∀ t ∈ ts.head?, t = "|") : splitStages (run ++ ts) = run :: splitStages ts := by
  have hne : ¬run.reverse.isEmpty = true := by simpa using hrun
  have hread : splitStages (run ++ ts) = splitStagesFrom run.reverse ts := by
    rw [splitStages, splitStagesFrom_append hbar, List.append_nil]
  cases ts with
  | nil =>
    rw [hread, splitStagesFrom, if_neg hne, List.reverse_reverse]
    rfl
  | cons t ts =>
    obtain rfl : t = "|" := hstop t rfl
    rw [hread, splitStagesFrom, if_pos rfl, if_neg hne, List.reverse_reverse, splitStages_bar]
    rfl

theorem Runs.splitStages_eq {ts : List String} {runs : List (List String)} (h : Runs ts runs) :
    splitStages ts = runs := by
  induction h with
  | nil => rfl
  | bar rest ih => rw [splitStages_bar, ih]
  | run nonempty barless stops rest ih => rw [splitStages_run nonempty barless stops, ih]

/-- All tokens up to the first bar are a run. -/
theorem exists_runs (ts : List String) : ∃ runs, Runs ts runs := by
  -- a run is split off as a whole, so the induction is on the number of tokens
  induction hlength : ts.length using Nat.strong_induction_on generalizing ts with
  | _ n ih =>
    cases ts with
    | nil => exact ⟨[], .nil⟩
    | cons t ts =>
      by_cases ht : t = "|"
      · subst ht
        obtain ⟨runs, hruns⟩ := ih ts.length (by simp [← hlength]) ts rfl
        exact ⟨runs, .bar hruns⟩
      · let run := (t :: ts).takeWhile (· ≠ "|")
        let rest := (t :: ts).dropWhile (· ≠ "|")
        have happend : run ++ rest = t :: ts := List.takeWhile_append_dropWhile
        have hne : run ≠ [] := by simp [run, ht]
        have hbar : "|" ∉ run := by
          intro hmem
          simpa using List.mem_takeWhile_imp hmem
        have hstop : ∀ u ∈ rest.head?, u = "|" := by
          intro u hu
          have hnot := List.head?_dropWhile_not (fun t => decide (t ≠ "|")) (t :: ts)
          rw [Option.mem_def.mp hu] at hnot
          simpa using hnot
        have hshort : rest.length < n := by
          have hpos : 0 < run.length := List.length_pos_iff.mpr hne
          have hsum : run.length + rest.length = n := by
            rw [← List.length_append, happend, hlength]
          omega
        obtain ⟨runs, hruns⟩ := ih rest.length hshort rest rfl
        rw [← happend]
        exact ⟨run :: runs, .run hne hbar hstop hruns⟩

/-- The stages of a command are its runs. -/
theorem runs_iff_splitStages {ts : List String} {runs : List (List String)} :
    Runs ts runs ↔ splitStages ts = runs := by
  constructor
  · exact Runs.splitStages_eq
  · rintro rfl
    obtain ⟨runs, hruns⟩ := exists_runs ts
    rwa [hruns.splitStages_eq]

/-- The words that redirect a stream. -/
def redirectWords : List String := [">", "1>", ">>", "1>>", "2>", "2>>"]

/-- Whether a redirecting word names the error stream. -/
def namesErr (operator : String) : Bool := operator.toList.head? == some '2'

/-- How a redirecting word has its target opened. -/
def modeOf (operator : String) : OpenMode :=
  if ['>', '>'].isSuffixOf operator.toList then .append else .write

theorem ofWord?_of_mem {w : String} (h : w ∈ redirectWords) :
    RedirectOperator.ofWord? w = some ⟨namesErr w, modeOf w⟩ := by
  simp only [redirectWords, List.mem_cons, List.not_mem_nil, or_false] at h
  rcases h with rfl | rfl | rfl | rfl | rfl | rfl <;> decide

theorem ofWord?_of_not_mem {w : String} (h : w ∉ redirectWords) :
    RedirectOperator.ofWord? w = none := by
  simp only [redirectWords, List.mem_cons, List.not_mem_nil, or_false, not_or] at h
  simp [RedirectOperator.ofWord?, h]

/-- A part of a run: a word, or a redirecting word with its target, which is any token. -/
inductive Item where
  | word (text : String) (plain : text ∉ redirectWords)
  | redirect (operator path : String) (redirects : operator ∈ redirectWords)

namespace Item

def tokens : Item → List String
  | word text _ => [text]
  | redirect operator path _ => [operator, path]

def word? : Item → Option String
  | word text _ => some text
  | redirect _ _ _ => none

/-- The stream that an item redirects, the error stream or the output, and its new target. -/
def redirect? : Item → Option (Bool × Redirect)
  | word _ _ => none
  | redirect operator path _ => some (namesErr operator, ⟨path, modeOf operator⟩)

end Item

/-- The redirections of one stream. -/
def streamOf (xs : List (Bool × Redirect)) (toErr : Bool) : List Redirect :=
  (xs.filter fun x => x.1 == toErr).map Prod.snd

/-- A run as items, and a redirecting word at its end that has no token left to take. -/
structure RunReading where
  items : List Item
  dangling : Option { operator : String // operator ∈ redirectWords }

namespace RunReading

def tokens (r : RunReading) : List String :=
  r.items.flatMap Item.tokens ++ r.dangling.toList.map Subtype.val

/-- The redirections as they are written, whatever the stream. -/
def redirects (r : RunReading) : List (Bool × Redirect) := r.items.filterMap Item.redirect?

def redirectsOf (r : RunReading) (toErr : Bool) : List Redirect := streamOf r.redirects toErr

def stage (r : RunReading) : Stage :=
  ⟨r.items.filterMap Item.word?, r.redirectsOf false, r.redirectsOf true⟩

def cons (i : Item) (r : RunReading) : RunReading := { r with items := i :: r.items }

@[simp]
theorem tokens_cons (i : Item) (r : RunReading) : (r.cons i).tokens = i.tokens ++ r.tokens := by
  simp [tokens, cons]

theorem stage_cons_word {w : String} (h : w ∉ redirectWords) (r : RunReading) :
    (r.cons (.word w h)).stage = { r.stage with words := w :: r.stage.words } := rfl

theorem stage_cons_redirect {w path : String} (h : w ∈ redirectWords) (r : RunReading) :
    (r.cons (.redirect w path h)).stage =
      if namesErr w then { r.stage with err := ⟨path, modeOf w⟩ :: r.stage.err }
      else { r.stage with out := ⟨path, modeOf w⟩ :: r.stage.out } := by
  have hwords : (r.cons (.redirect w path h)).items.filterMap Item.word? =
      r.items.filterMap Item.word? := rfl
  have hredirects : (r.cons (.redirect w path h)).redirects =
      (namesErr w, ⟨path, modeOf w⟩) :: r.redirects := rfl
  cases hstream : namesErr w with
  | false => simp [stage, redirectsOf, streamOf, hwords, hredirects, hstream]
  | true => simp [stage, redirectsOf, streamOf, hwords, hredirects, hstream]

/-- Reads a run from left to right. -/
def read : List String → RunReading
  | [] => ⟨[], none⟩
  | [w] => if h : w ∈ redirectWords then ⟨[], some ⟨w, h⟩⟩ else ⟨[.word w h], none⟩
  | w :: path :: rest =>
    if h : w ∈ redirectWords then (read rest).cons (.redirect w path h)
    else (read (path :: rest)).cons (.word w h)

theorem read_of_mem {w : String} (h : w ∈ redirectWords) (path : String) (rest : List String) :
    read (w :: path :: rest) = (read rest).cons (.redirect w path h) := by
  rw [read, dif_pos h]

theorem read_of_not_mem {w : String} (h : w ∉ redirectWords) (rest : List String) :
    read (w :: rest) = (read rest).cons (.word w h) := by
  cases rest with
  | nil => simp only [read, h, dite_false, cons]
  | cons path rest => rw [read, dif_neg h]

theorem tokens_read (run : List String) : (read run).tokens = run := by
  fun_induction read run with
  | case1 => rfl
  | case2 w h => rfl
  | case3 w h => rfl
  | case4 w path rest h ih =>
    rw [tokens_cons, ih, Item.tokens, List.cons_append, List.singleton_append]
  | case5 w path rest h ih => rw [tokens_cons, ih, Item.tokens, List.singleton_append]

theorem read_tokens (r : RunReading) : read r.tokens = r := by
  obtain ⟨items, dangling⟩ := r
  induction items with
  | nil =>
    cases dangling with
    | none => rfl
    | some operator =>
      have htokens : (⟨[], some operator⟩ : RunReading).tokens = [operator.val] := rfl
      rw [htokens, read, dif_pos operator.property]
  | cons i items ih =>
    have htokens : (⟨i :: items, dangling⟩ : RunReading).tokens =
        i.tokens ++ (⟨items, dangling⟩ : RunReading).tokens := tokens_cons i ⟨items, dangling⟩
    cases i with
    | word w h =>
      rw [htokens, Item.tokens, List.singleton_append, read_of_not_mem h, ih]
      rfl
    | redirect w path h =>
      rw [htokens, Item.tokens, List.cons_append, List.singleton_append, read_of_mem h, ih]
      rfl

/-- A run is read in one way only. -/
theorem tokens_injective : Function.Injective tokens :=
  Function.LeftInverse.injective read_tokens

/-- The stage of a run holds its items, each in its place. -/
theorem ofWords_eq_stage (run : List String) : Stage.ofWords run = (read run).stage := by
  fun_induction read run with
  | case1 => rfl
  | case2 w h =>
    rw [Stage.ofWords, ofWord?_of_mem h]
    rfl
  | case3 w h =>
    rw [Stage.ofWords, ofWord?_of_not_mem h]
    rfl
  | case4 w path rest h ih =>
    rw [stage_cons_redirect h, ← ih]
    simp only [Stage.ofWords, ofWord?_of_mem h]
  | case5 w path rest h ih =>
    rw [stage_cons_word h, ← ih]
    simp only [Stage.ofWords, ofWord?_of_not_mem h]

end RunReading

/-- The tokens of a command are runs between bars in one way only, and each run is a list of items
in one way only, with at most one redirecting word left over at its end. The stages of the pipeline
are those runs in order: the words of each are its words, and its redirections are filed by the
stream and the mode that their operators name. -/
theorem pipelineOfWords_eq_map_stage (ts : List String) :
    ∃ rs : List RunReading, pipelineOfWords ts = rs.map RunReading.stage ∧
      (∀ runs, Runs ts runs ↔ runs = rs.map RunReading.tokens) ∧
      ∀ r ∈ rs, ∀ r' : RunReading, r'.tokens = r.tokens → r' = r := by
  have hstages : (splitStages ts).map Stage.ofWords =
      ((splitStages ts).map RunReading.read).map RunReading.stage := by
    rw [List.map_map]
    exact List.map_congr_left fun run _ => RunReading.ofWords_eq_stage run
  have htokens : ((splitStages ts).map RunReading.read).map RunReading.tokens = splitStages ts := by
    rw [List.map_map]
    exact List.map_id'' RunReading.tokens_read _
  refine ⟨(splitStages ts).map RunReading.read, hstages, ?_, ?_⟩
  · intro runs
    rw [htokens, runs_iff_splitStages, eq_comm]
  · intro r _ r' h
    exact RunReading.tokens_injective h

/-- A bar is no path, a redirecting word may be one, and one at the end is dropped. -/
example : pipelineOfWords ["|", "a", ">", "2>>", "b", "2>", "|", "|", ">>", "c", "1>"] =
    [⟨["a", "b"], [⟨"2>>", .write⟩], []⟩, ⟨[], [⟨"c", .append⟩], []⟩] := by decide

end Conch.Line
