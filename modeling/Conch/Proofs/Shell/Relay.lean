import Mathlib
import Conch.Proofs.Shell.PipelineRedirects
import Conch.Proofs.World.Posix

/-!
# Pipelines of programs

A pipeline of programs is run by the shell itself or, when it is captured, handed as a line to the
shell of the system. Where that one takes the words of the line literally, both start the programs
one after the other, each on the output of the one before, and the last one settles the status and
the output. They differ in two ways: the shell fills home directories into the arguments and the
system does not, and a program that a signal ends has the signal as its status in the one and a code
in the other.
-/

namespace Conch.Shell

open World Line Effect
open Text (Bytes)

/-- A program that was started: what it was given and what it came to. -/
structure Launch where
  given : Invocation
  done : Finished

def Launch.interrupted (l : Launch) : Bool := l.done.ending == .interrupt

/-- The programs that are started for the stages of a pipeline, each on the output of the one before;
none if some command cannot be started. The arguments are filled in by `fill`. -/
def launches (fill : String → String) (w : World) (input : Bytes) :
    List (List String) → Option (List Launch)
  | [] => some []
  | words :: rest => do
    let program ← (w.command (← words.head?)).toOption
    let given : Invocation := ⟨words.tail.map fill, input, w.cwd, w.env, w.files⟩
    let done := w.programs program given
    let later ← launches fill { w with files := done.files } done.out rest
    return ⟨given, done⟩ :: later

section

variable {fill : String → String} {w : World} {input : Bytes} {words : List String}
  {rest : List (List String)} {ls : List Launch}

/-- The first program that is started. -/
theorem exists_of_launches_cons (h : launches fill w input (words :: rest) = some ls) :
    ∃ name args program l later, words = name :: args ∧ w.command name = .ok program ∧
      l.given = ⟨args.map fill, input, w.cwd, w.env, w.files⟩ ∧
      l.done = w.programs program l.given ∧
      launches fill { w with files := l.done.files } l.done.out rest = some later ∧
      ls = l :: later := by
  cases words with
  | nil => simp [launches] at h
  | cons name args =>
    cases hcommand : w.command name with
    | error e => simp [launches, hcommand, Except.toOption] at h
    | ok program =>
      simp only [launches, List.head?_cons, List.tail_cons, hcommand, Except.toOption,
        Option.bind_eq_bind, Option.bind_some, Option.bind_eq_some_iff] at h
      obtain ⟨later, hlater, hls⟩ := h
      exact ⟨name, args, program, _, later, rfl, hcommand, rfl, rfl, hlater,
        by simpa using hls.symm⟩

theorem ne_nil_of_launches_cons (h : launches fill w input (words :: rest) = some ls) : ls ≠ [] := by
  obtain ⟨_, _, _, l, later, -, -, -, -, -, rfl⟩ := exists_of_launches_cons h
  exact List.cons_ne_nil l later

theorem ne_nil_of_launches {stages : List (List String)}
    (h : launches fill w input stages = some ls) : ∀ words ∈ stages, words ≠ [] := by
  induction stages generalizing w input ls with
  | nil => simp
  | cons words rest ih =>
    obtain ⟨name, args, _, _, _, rfl, -, -, -, hlater, -⟩ := exists_of_launches_cons h
    exact List.forall_mem_cons.mpr ⟨List.cons_ne_nil name args, ih hlater⟩

/-- Programs do not see the terminal. -/
theorem launches_printErr (w : World) (said input : Bytes) (stages : List (List String)) :
    launches fill (w.printErr said) input stages = launches fill w input stages := by
  induction stages generalizing w input with
  | nil => rfl
  | cons words rest ih =>
    have hstep : ∀ files : Files, { w.printErr said with files := files } =
        ({ w with files := files } : World).printErr said := fun _ => rfl
    simp only [launches, hstep, ih]
    rfl

/-- Arguments are what the words behind the first one are filled in as. -/
theorem map_args_launches {stages : List (List String)}
    (h : launches fill w input stages = some ls) :
    ls.map (·.given.args) = stages.map fun words => words.tail.map fill := by
  induction stages generalizing w input ls with
  | nil =>
    obtain rfl : [] = ls := by simpa [launches] using h
    rfl
  | cons words rest ih =>
    obtain ⟨name, args, program, l, later, rfl, -, hgiven, -, hlater, rfl⟩ :=
      exists_of_launches_cons h
    rw [List.map_cons, List.map_cons, ih hlater, hgiven]
    rfl

theorem launches_congr {fill' : String → String} {stages : List (List String)}
    (h : ∀ words ∈ stages, words.tail.map fill = words.tail.map fill') :
    launches fill w input stages = launches fill' w input stages := by
  induction stages generalizing w input with
  | nil => rfl
  | cons words rest ih =>
    obtain ⟨hwords, hrest⟩ := List.forall_mem_cons.mp h
    simp only [launches, hwords, ih hrest]

end

/-- A stage that runs a program and redirects nothing. -/
structure RunsProgram (s : Stage) : Prop where
  not_builtin : builtin? s = none
  out : s.out = []
  err : s.err = []

/-- Whether a word can be handed to a program. -/
def CanBeGiven (word : String) : Prop := '\x00' ∉ word.toList
  deriving Decidable

theorem any_contains_nul_eq_false {words : List String} (h : ∀ word ∈ words, CanBeGiven word) :
    (words.any fun s => s.toList.contains '\x00') = false := by
  rw [List.any_eq_false]
  intro word hword
  simpa [CanBeGiven] using h word hword

theorem spawn_of_command {name program : String} {args : List String} {w : World}
    (hwords : ∀ word ∈ name :: args, CanBeGiven word) (hcommand : w.command name = .ok program)
    (input : Bytes) :
    spawn name args input w =
      (.ok (w.programs program ⟨args, input, w.cwd, w.env, w.files⟩),
        { w with files := (w.programs program ⟨args, input, w.cwd, w.env, w.files⟩).files }) := by
  have hnul := any_contains_nul_eq_false hwords
  simp only [spawn, bind_apply, get_apply, hnul, Bool.false_eq_true, if_false, hcommand]
  rfl

section

variable {s : Stage} (hs : RunsProgram s) {name program : String} {args : List String}
  (hwords : s.words = name :: args) {w : World}
  (hgiven : ∀ word ∈ name :: args.map w.expandHome, CanBeGiven word)
  (hcommand : w.command name = .ok program)
include hs hwords hgiven hcommand

/-- The turn of a program: what it writes goes on, and its messages reach the terminal. -/
theorem runPipelineStage_of_command (isLast : Bool) (p : Progress) {r : Finished}
    (hr : r = w.programs program ⟨args.map w.expandHome, p.input, w.cwd, w.env, w.files⟩) :
    runPipelineStage isLast p s w =
      (.ok ⟨if isLast then [] else r.out, some r.ending.status, p.builtin,
          p.interrupted || r.ending == .interrupt⟩,
        if isLast then (({ w with files := r.files } : World).printErr r.err).printOut r.out
        else ({ w with files := r.files } : World).printErr r.err) := by
  have hbuiltin : Builtin.ofName? name = none := by
    have hnone := hs.not_builtin
    rwa [builtin?, hwords, List.head?_cons] at hnone
  have hprime : primeStage s = pure () := by
    rw [primeStage, hs.out, hs.err]
    rfl
  have hfinish (out err : Sink) : finishStage isLast p name (args.map w.expandHome) out err w =
      (do
        modify fun w => w.emitErr r.err err
        let input ← pass isLast r.out out
        return { p with
          input := input, program := some r.ending.status,
          interrupted := p.interrupted || r.ending == .interrupt } : Act Progress)
        { w with files := r.files } := by
    simp only [finishStage, hbuiltin, bind_apply, tryCatch_apply, map_apply,
      spawn_of_command hgiven hcommand, ← hr]
  cases isLast with
  | false =>
    rw [runPipelineStage_false hwords, hprime, bind_apply, expandArgs_apply]
    simp only [pure_bind]
    exact hfinish .terminal .terminal
  | true =>
    have hsink : activeSink s.out = pure .terminal ∧ activeSink s.err = pure .terminal := by
      rw [hs.out, hs.err]
      exact ⟨rfl, rfl⟩
    rw [runPipelineStage_true hwords, hprime, hsink.1, hsink.2, bind_apply, expandArgs_apply]
    simp only [pure_bind]
    exact hfinish .terminal .terminal

end

/-- The world after programs were run for the user, the last one of which is `l`. -/
def shown (w : World) (ls : List Launch) (l : Launch) : World :=
  (({ w with files := l.done.files } : World).printOut l.done.out).printErr
    (ls.flatMap (·.done.err))

/-- The shell runs the programs that are started with home directories filled in. -/
theorem runPipelineFrom_of_launches {stages : List Stage} (hstages : ∀ s ∈ stages, RunsProgram s)
    {w : World} (hgiven : ∀ s ∈ stages, ∀ word ∈ s.words.head?.toList ++ stageArgs s w,
      CanBeGiven word) {p : Progress} {ls : List Launch}
    (h : launches w.expandHome w p.input (stages.map Stage.words) = some ls) {l : Launch}
    (hl : ls.getLast? = some l) :
    runPipelineFrom p stages w =
      (.ok ⟨[], some l.done.ending.status, p.builtin, p.interrupted || ls.any Launch.interrupted⟩,
        shown w ls l) := by
  induction stages generalizing w p ls with
  | nil =>
    obtain rfl : [] = ls := by simpa [launches] using h
    simp at hl
  | cons s rest ih =>
    obtain ⟨hs, hrest⟩ := List.forall_mem_cons.mp hstages
    obtain ⟨hgivenFirst, hgivenRest⟩ := List.forall_mem_cons.mp hgiven
    obtain ⟨name, args, program, l', later, hwords, hcommand, hfirst, hdone, hlater, rfl⟩ :=
      exists_of_launches_cons h
    rw [stageArgs, hwords] at hgivenFirst
    have hstage (isLast : Bool) := runPipelineStage_of_command hs hwords
      hgivenFirst hcommand isLast p (r := l'.done) (by rw [hdone, hfirst])
    cases rest with
    | nil =>
      obtain rfl : [] = later := by simpa [launches] using hlater
      obtain rfl : l' = l := by simpa using hl
      rw [runPipelineFrom, hstage]
      simp [shown, Launch.interrupted, printOut, printErr]
    | cons s' rest =>
      rw [← launches_printErr _ l'.done.err] at hlater
      rw [List.getLast?_cons_of_ne_nil (ne_nil_of_launches_cons hlater)] at hl
      have hnext := ih hrest (w := ({ w with files := l'.done.files } : World).printErr l'.done.err)
        (p := ⟨l'.done.out, some l'.done.ending.status, p.builtin,
          p.interrupted || l'.done.ending == .interrupt⟩) hgivenRest hlater hl
      rw [runPipelineFrom, bind_apply, hstage]
      · simp only [Bool.false_eq_true, if_false, hnext]
        simp [shown, Launch.interrupted, printOut, printErr, Bool.or_assoc]
      · simp

theorem misplaced?_of_runsProgram {stages : List Stage} (hstages : ∀ s ∈ stages, RunsProgram s) :
    misplaced? stages = none := by
  rw [misplaced?, List.findSome?_eq_none_iff]
  intro s hs
  have hnone := (hstages s hs).not_builtin
  unfold builtin? at hnone
  split
  · next h =>
    rw [h, List.head?_cons] at hnone
    exact absurd hnone (by decide)
  · next h =>
    rw [h, List.head?_cons] at hnone
    exact absurd hnone (by decide)
  · rfl

theorem runPipeline_of_launches {stages : List Stage} (hstages : ∀ s ∈ stages, RunsProgram s)
    {w : World} (hgiven : ∀ s ∈ stages, ∀ word ∈ s.words.head?.toList ++ stageArgs s w,
      CanBeGiven word) {ls : List Launch}
    (h : launches w.expandHome w [] (stages.map Stage.words) = some ls) {l : Launch}
    (hl : ls.getLast? = some l) :
    runPipeline stages w =
      (if ls.any Launch.interrupted then .error .interrupted else .ok l.done.ending.status,
        shown w ls l) := by
  have hrun := runPipelineFrom_of_launches hstages hgiven
    (p := ⟨[], none, none, false⟩) h hl
  rw [runPipeline_of_started (misplaced?_of_runsProgram hstages) hrun]
  rfl

/-! ## Run by the system -/

theorem isPlainText_nil : IsPlainText [] := ⟨"", by simp, rfl⟩

theorem IsPlainText.append {a b : Bytes} (ha : IsPlainText a) (hb : IsPlainText b) :
    IsPlainText (a ++ b) := by
  obtain ⟨s, hs, rfl⟩ := ha
  obtain ⟨t, ht, rfl⟩ := hb
  refine ⟨s ++ t, by simp [hs, ht], ?_⟩
  simp only [Text.encode_eq_flatMap, String.toList_append, List.flatMap_append]

theorem isPlainText_flatMap {α : Type} {f : α → Bytes} {xs : List α}
    (h : ∀ x ∈ xs, IsPlainText (f x)) : IsPlainText (xs.flatMap f) := by
  induction xs with
  | nil => exact isPlainText_nil
  | cons x xs ih =>
    obtain ⟨hx, hxs⟩ := List.forall_mem_cons.mp h
    rw [List.flatMap_cons]
    exact hx.append (ih hxs)

/-- How a shell ends whose last program ended in some way: a signal becomes a code. -/
def shellEnding : Ending → Ending
  | .signal n => .exit (128 + n)
  | e => e

/-- What a shell comes to that has started programs one behind the other, the last one of which is
`l`. It may have something to say about a signal. -/
structure Relays (r : Finished) (ls : List Launch) (l : Launch) : Prop where
  out : r.out = l.done.out
  files : r.files = l.done.files
  ending : r.ending = if ls.any Launch.interrupted then .interrupt else shellEnding l.done.ending
  err : ∃ said, r.err = ls.flatMap (·.done.err) ++ said ∧ IsPlainText said ∧
    ((∀ n, l.done.ending ≠ .signal n) → said = [])

/-- The system's shell takes the words of a pipeline literally: handed its line, it starts the program
that each stage names with just the words of the stage. -/
def TakesLiterally (w : World) (words : List (List String)) : Prop :=
  ∀ ls l, launches id w [] words = some ls → ls.getLast? = some l →
    Relays (w.shell ⟨["-c", render words], [], w.cwd, w.env, w.files⟩) ls l

theorem shellEnding_ne_interrupt {e : Ending} (h : e ≠ .interrupt) : shellEnding e ≠ .interrupt := by
  cases e with
  | exit code => exact h
  | interrupt => exact absurd rfl h
  | signal n => simp [shellEnding]

theorem shellEnding_of_not_signal {e : Ending} (h : ∀ n, e ≠ .signal n) : shellEnding e = e := by
  cases e with
  | signal n => exact absurd rfl (h n)
  | exit code => rfl
  | interrupt => rfl

section

variable {stages : List Stage} {w : World} {ls : List Launch}
  (h : launches id w [] (stages.map Stage.words) = some ls)
include h

theorem nil_not_mem_of_launches : [] ∉ stages.map Stage.words :=
  fun hmem => ne_nil_of_launches h [] hmem rfl

theorem isEmpty_render_of_launches (hne : stages ≠ []) :
    (render (stages.map Stage.words)).isEmpty = false := by
  have hwords : stages.map Stage.words ≠ [] := by simpa using hne
  simpa using render_ne_empty hwords (nil_not_mem_of_launches h)

/-- A word that cannot be given to a program stops a captured pipeline at once. -/
theorem capturePipeline_of_not_canBeGiven
    (hnot : ¬ ∀ s ∈ stages, ∀ word ∈ s.words, CanBeGiven word) :
    capturePipeline stages w = (.error .embeddedNul, w) := by
  have hnul : '\x00' ∈ (render (stages.map Stage.words)).toList := by
    rw [mem_render_iff (nil_not_mem_of_launches h) (by decide)]
    simpa [CanBeGiven] using hnot
  have hne : stages ≠ [] := by
    rintro rfl
    exact hnot (by simp)
  have hcontains : (render (stages.map Stage.words)).toList.contains '\x00' = true := by
    simpa using hnul
  simp only [capturePipeline, isEmpty_render_of_launches h hne, Bool.false_eq_true, if_false,
    bind_apply, runShell_apply, hcontains, if_true]

/-- A captured pipeline comes to what its programs come to with the arguments as they are. -/
theorem capturePipeline_of_launches (hshell : TakesLiterally w (stages.map Stage.words))
    (hgiven : ∀ s ∈ stages, ∀ word ∈ s.words, CanBeGiven word) {l : Launch}
    (hl : ls.getLast? = some l) (hplain : ∀ l ∈ ls, IsPlainText l.done.out ∧ IsPlainText l.done.err) :
    ∃ out err said, l.done.out = Text.encode out ∧
      ls.flatMap (·.done.err) ++ said = Text.encode err ∧
      ((∀ n, l.done.ending ≠ .signal n) → said = []) ∧
      capturePipeline stages w =
        (if ls.any Launch.interrupted then .error .interrupted
          else .ok ⟨(shellEnding l.done.ending).status, out, err⟩,
          { w with files := l.done.files }) := by
  have hrelays := hshell ls l h hl
  obtain ⟨said, hsaid, hcomment, hquiet⟩ := hrelays.err
  obtain ⟨out, hnoReturn, hout⟩ := (hplain l (List.mem_of_getLast? hl)).1
  obtain ⟨err, hnoReturn', herr⟩ :=
    (isPlainText_flatMap fun l hl => (hplain l hl).2).append hcomment
  refine ⟨out, err, said, hout, herr, hquiet, ?_⟩
  have hne : stages ≠ [] := by
    rintro rfl
    obtain rfl := Option.some.inj h
    cases hl
  have hnul : (render (stages.map Stage.words)).toList.contains '\x00' = false := by
    rw [List.contains_eq_mem, decide_eq_false_iff_not,
      mem_render_iff (nil_not_mem_of_launches h) (by decide)]
    rintro ⟨ws, hws, word, hword, hmem⟩
    obtain ⟨s, hs, rfl⟩ := List.mem_map.mp hws
    exact hgiven s hs word hword hmem
  simp only [capturePipeline, isEmpty_render_of_launches h hne, Bool.false_eq_true, if_false,
    bind_apply, runShell_apply, hnul, hrelays.ending, hrelays.files, hrelays.out, hsaid]
  cases hinterrupted : ls.any Launch.interrupted with
  | true => rfl
  | false =>
    have hnot : l.done.ending ≠ .interrupt := by
      rw [List.any_eq_false] at hinterrupted
      simpa [Launch.interrupted] using hinterrupted l (List.mem_of_getLast? hl)
    simp only [Bool.false_eq_true, if_false, beq_eq_false_iff_ne.mpr (shellEnding_ne_interrupt hnot),
      hout, herr, bind_apply, capturedText_encode hnoReturn, capturedText_encode hnoReturn', pure_apply]

end

/-! ## Agreement -/

/-- The captured pipeline returns a status, an output and messages. The pipeline that is run returns
the same status and shows the output, and every program is given the same arguments in both. -/
def Agrees (stages : List Stage) (w : World) : Prop :=
  (∃ c quiet ran, capturePipeline stages w = (.ok c, quiet) ∧
    runPipeline stages w = (.ok c.code, ran) ∧ ran.out = w.out ++ Text.encode c.out) ∧
  ∃ run captured, launches w.expandHome w [] (stages.map Stage.words) = some run ∧
    launches id w [] (stages.map Stage.words) = some captured ∧
    run.map (·.given.args) = captured.map (·.given.args)

/-- What both ways of running a pipeline treat alike. -/
structure TreatedAlike (stages : List Stage) (w : World) (captured : List Launch) : Prop where
  given : ∀ s ∈ stages, ∀ word ∈ s.words, CanBeGiven word
  /-- No argument stands for a home directory. -/
  noHome : ∀ s ∈ stages, stageArgs s w = s.words.drop 1
  notInterrupted : ∀ l ∈ captured, l.done.ending ≠ .interrupt
  /-- No signal ends the last program. -/
  noSignal : ∀ l ∈ captured.getLast?, ∀ n, l.done.ending ≠ .signal n

section

variable {stages : List Stage} {w : World} {run captured : List Launch}
  (hrun : launches w.expandHome w [] (stages.map Stage.words) = some run)
  (hcaptured : launches id w [] (stages.map Stage.words) = some captured)
include hrun hcaptured

theorem noHome_of_map_args_eq (h : run.map (·.given.args) = captured.map (·.given.args)) :
    ∀ s ∈ stages, stageArgs s w = s.words.drop 1 := by
  rw [map_args_launches hrun, map_args_launches hcaptured, List.map_map, List.map_map,
    List.map_inj_left] at h
  simpa [stageArgs] using h

/-- Where no argument stands for a home directory, the same programs are started. -/
theorem launches_eq_of_noHome (h : ∀ s ∈ stages, stageArgs s w = s.words.drop 1) :
    run = captured := by
  have hsame : launches w.expandHome w [] (stages.map Stage.words) =
      launches id w [] (stages.map Stage.words) := by
    apply launches_congr
    rw [List.forall_mem_map]
    intro s hs
    simpa [stageArgs] using h s hs
  rw [hrun, hcaptured] at hsame
  exact Option.some.inj hsame

variable (hseveral : 1 < stages.length) (hstages : ∀ s ∈ stages, RunsProgram s)
  (hshell : TakesLiterally w (stages.map Stage.words))
  (hplain : ∀ l ∈ captured, IsPlainText l.done.out ∧ IsPlainText l.done.err)
include hseveral hstages hshell hplain

/-- Where the same programs are started, both ways end alike but for what is made of a signal. -/
theorem exists_last_of_noHome (hgiven : ∀ s ∈ stages, ∀ word ∈ s.words, CanBeGiven word)
    (hnoHome : ∀ s ∈ stages, stageArgs s w = s.words.drop 1) :
    ∃ l out err said, captured.getLast? = some l ∧ l.done.out = Text.encode out ∧
      captured.flatMap (·.done.err) ++ said = Text.encode err ∧
      ((∀ n, l.done.ending ≠ .signal n) → said = []) ∧
      capturePipeline stages w =
        (if captured.any Launch.interrupted then .error .interrupted
          else .ok ⟨(shellEnding l.done.ending).status, out, err⟩,
          { w with files := l.done.files }) ∧
      runPipeline stages w =
        (if captured.any Launch.interrupted then .error .interrupted
          else .ok l.done.ending.status,
          shown w captured l) := by
  obtain rfl := launches_eq_of_noHome hrun hcaptured hnoHome
  have hne : run ≠ [] := by
    obtain ⟨s, rest, rfl⟩ := List.exists_cons_of_length_pos (Nat.zero_lt_of_lt hseveral)
    exact ne_nil_of_launches_cons hrun
  have hl : run.getLast? = some (run.getLast hne) := List.getLast?_eq_some_getLast hne
  have hwords : ∀ s ∈ stages, ∀ word ∈ s.words.head?.toList ++ stageArgs s w, CanBeGiven word := by
    intro s hs word hword
    apply hgiven s hs word
    rw [hnoHome s hs] at hword
    cases hwords : s.words with
    | nil => simp [hwords] at hword
    | cons name args => simpa [hwords] using hword
  obtain ⟨out, err, said, hout, herr, hsaid, hcapture⟩ :=
    capturePipeline_of_launches hcaptured hshell hgiven hl hplain
  exact ⟨_, out, err, said, hl, hout, herr, hsaid, hcapture,
    runPipeline_of_launches hstages hwords hrun hl⟩

/-- Where both ways treat a pipeline alike, running it shows what capturing it returns. -/
theorem TreatedAlike.mirrors (h : TreatedAlike stages w captured) :
    ∃ c quiet, capturePipeline stages w = (.ok c, quiet) ∧ SameTerminal w quiet ∧
      runPipeline stages w =
        (.ok c.code, (quiet.printOut (Text.encode c.out)).printErr (Text.encode c.err)) := by
  have hnotInterrupted : captured.any Launch.interrupted = false := by
    rw [List.any_eq_false]
    intro l hl
    simpa [Launch.interrupted] using h.notInterrupted l hl
  obtain ⟨l, out, err, said, hl, hout, herr, hsaid, hcapture, hran⟩ :=
    exists_last_of_noHome hrun hcaptured hseveral hstages hshell hplain h.given h.noHome
  have hnoSignal := h.noSignal l hl
  rw [hsaid hnoSignal, List.append_nil] at herr
  rw [shellEnding_of_not_signal hnoSignal, hnotInterrupted] at hcapture
  refine ⟨_, _, hcapture, ⟨rfl, rfl⟩, ?_⟩
  rw [hran, hnotInterrupted, shown, hout, herr]
  rfl

theorem TreatedAlike.agrees (h : TreatedAlike stages w captured) :
    Agrees stages w := by
  obtain ⟨c, quiet, hcapture, hquiet, hran⟩ := h.mirrors hrun hcaptured hseveral hstages hshell hplain
  refine ⟨⟨c, quiet, _, hcapture, hran, ?_⟩, run, captured, hrun, hcaptured, ?_⟩
  · rw [← hquiet.1]
    rfl
  · rw [launches_eq_of_noHome hrun hcaptured h.noHome]

theorem Agrees.treatedAlike (h : Agrees stages w) :
    TreatedAlike stages w captured := by
  obtain ⟨⟨c, quiet, ran, hcapture, hran, -⟩, run', captured', hrun', hcaptured', hargs⟩ := h
  have hgiven : ∀ s ∈ stages, ∀ word ∈ s.words, CanBeGiven word := by
    by_contra hnot
    rw [capturePipeline_of_not_canBeGiven hcaptured hnot] at hcapture
    cases hcapture
  have hnoHome := noHome_of_map_args_eq hrun' hcaptured' hargs
  obtain ⟨l, out, err, said, hl, -, -, -, hcapture', hran'⟩ :=
    exists_last_of_noHome hrun hcaptured hseveral hstages hshell hplain hgiven hnoHome
  rw [hcapture] at hcapture'
  rw [hran] at hran'
  cases hinterrupted : captured.any Launch.interrupted with
  | true =>
    rw [hinterrupted, if_pos rfl] at hcapture'
    cases hcapture'
  | false =>
    rw [hinterrupted, if_neg Bool.false_ne_true] at hcapture' hran'
    have hcode : (shellEnding l.done.ending).status = l.done.ending.status := by
      have hcaptured := congrArg Prod.fst hcapture'
      have hrun := congrArg Prod.fst hran'
      rw [← Except.ok.inj hrun, Except.ok.inj hcaptured]
    refine ⟨hgiven, hnoHome, ?_, ?_⟩
    · intro l hl
      rw [List.any_eq_false] at hinterrupted
      simpa [Launch.interrupted] using hinterrupted l hl
    · intro l' hl' n hsignal
      obtain rfl : l = l' := Option.some.inj (hl.symm.trans hl')
      simp only [hsignal, shellEnding, Ending.status] at hcode
      omega

end

/-- A shell that stands in for the system's starts a program that it has no command of its own for. -/
theorem Posix.stage_of_command {programs : String → Program} {i : Invocation} {name program : String}
    {args : List String} (hown : name ∉ "exit" :: Posix.ownCommands)
    (hcommand : i.files.command i.cwd i.env name = .ok program) :
    Posix.stage programs i (name :: args) = programs program { i with args := args } := by
  simp only [Posix.ownCommands, List.mem_cons, List.not_mem_nil, or_false, not_or] at hown
  obtain ⟨hexit, hecho, htrue, hfalse, hpwd, hcd, htype⟩ := hown
  rw [Posix.stage, hcommand]
  all_goals simp_all

theorem Posix.report_true (e : Ending) : ∃ said, Posix.report true e = (said, shellEnding e) ∧
    IsPlainText said ∧ ((∀ n, e ≠ .signal n) → said = []) := by
  cases e with
  | exit code => exact ⟨[], rfl, isPlainText_nil, fun _ => rfl⟩
  | interrupt => exact ⟨[], rfl, isPlainText_nil, fun _ => rfl⟩
  | signal n =>
    refine ⟨_, rfl, ?_, fun h => absurd rfl (h n)⟩
    split
    · exact isPlainText_nil
    · refine ⟨_, ?_, rfl⟩
      unfold Posix.signalText
      split <;> simp

/-- Its stages relay the programs that are started with the words as they are. -/
theorem Posix.relays_stages {words : List (List String)} {w : World}
    (hown : ∀ ws ∈ words, ∀ name ∈ ws.head?, name ∉ "exit" :: Posix.ownCommands)
    (args : List String) {input : Bytes} {ls : List Launch} (h : launches id w input words = some ls)
    {l : Launch} (hl : ls.getLast? = some l) :
    Relays (Posix.stages w.programs true ⟨args, input, w.cwd, w.env, w.files⟩ words) ls l := by
  induction words generalizing w input ls with
  | nil =>
    obtain rfl : [] = ls := by simpa [launches] using h
    simp at hl
  | cons ws rest ih =>
    obtain ⟨hws, hrest⟩ := List.forall_mem_cons.mp hown
    obtain ⟨name, args', program, l', later, rfl, hcommand, hfirst, hdone, hlater, rfl⟩ :=
      exists_of_launches_cons h
    have hstage : Posix.stage w.programs ⟨args, input, w.cwd, w.env, w.files⟩ (name :: args') =
        l'.done := by
      have hprogram : w.files.command w.cwd w.env name = .ok program := hcommand
      rw [Posix.stage_of_command (i := ⟨args, input, w.cwd, w.env, w.files⟩) (hws name rfl) hprogram]
      rw [hdone, hfirst, List.map_id]
    cases rest with
    | nil =>
      obtain rfl : [] = later := by simpa [launches] using hlater
      obtain rfl : l' = l := by simpa using hl
      obtain ⟨said, hreport, hplain, hsaid⟩ := Posix.report_true l'.done.ending
      rw [Posix.stages, hstage, hreport]
      refine ⟨rfl, rfl, ?_, said, by simp, hplain, hsaid⟩
      by_cases hinterrupt : l'.done.ending = .interrupt <;>
        simp [Launch.interrupted, hinterrupt, shellEnding]
    | cons ws' rest =>
      rw [List.getLast?_cons_of_ne_nil (ne_nil_of_launches_cons hlater)] at hl
      have hnext := ih hrest hlater hl
      obtain ⟨said, hsaid, hrelays⟩ := hnext.err
      rw [Posix.stages, hstage]
      · refine ⟨hnext.out, hnext.files, ?_, said, ?_, hrelays⟩
        · by_cases hinterrupt : l'.done.ending = .interrupt
          · simp [Launch.interrupted, hinterrupt]
          · have hending := hnext.ending
            simp [Launch.interrupted, hinterrupt] at hending ⊢
            exact hending
        · change l'.done.err ++ _ = _
          rw [hsaid, List.flatMap_cons, List.append_assoc]
      · simp

/-- Such a shell takes a pipeline literally that names none of its own commands. -/
theorem Posix.takesLiterally {w : World} (hshell : w.shell = Posix.shell w.programs)
    {words : List (List String)} (hseveral : 1 < words.length)
    (hown : ∀ ws ∈ words, ∀ name ∈ ws.head?, name ∉ "exit" :: Posix.ownCommands) :
    TakesLiterally w words := by
  intro ls l h hl
  have hne : words ≠ [] := List.ne_nil_of_length_pos (Nat.zero_lt_of_lt hseveral)
  have hread := Posix.read_render hne fun hmem => ne_nil_of_launches h [] hmem rfl
  have hrelays := Posix.relays_stages hown ["-c", render words] h hl
  rw [hshell]
  simpa only [Posix.shell, hread, decide_eq_true hseveral] using hrelays

/-- What a program wrote and how it ended. -/
def Launch.outcome (l : Launch) : Bytes × Bytes × Ending := (l.done.out, l.done.err, l.done.ending)

theorem isPlainText_of_outcomes {ls : List Launch} {outcomes : List (String × String × Ending)}
    (h : ls.map Launch.outcome = outcomes.map fun o => (Text.encode o.1, Text.encode o.2.1, o.2.2))
    (hplain : ∀ o ∈ outcomes, '\r' ∉ o.1.toList ∧ '\r' ∉ o.2.1.toList) :
    ∀ l ∈ ls, IsPlainText l.done.out ∧ IsPlainText l.done.err := by
  intro l hl
  have hmem : l.outcome ∈ ls.map Launch.outcome := List.mem_map_of_mem hl
  rw [h, List.mem_map] at hmem
  obtain ⟨o, ho, heq⟩ := hmem
  obtain ⟨hout, herr, -⟩ := Prod.ext_iff.mp heq |>.imp id Prod.ext_iff.mp
  exact ⟨⟨o.1, (hplain o ho).1, hout.symm⟩, o.2.1, (hplain o ho).2, herr.symm⟩

/-- A world with nothing but the standard directories. -/
def bareWorld : World := (Setup.plain ["ROOT"]).world

end Conch.Shell
