import Mathlib
import Conch.Proofs.Shell.Unopened

/-!
# Commands without a word

Most faults that a command ends in come from outside: a file cannot be opened, a program cannot be
started, the user breaks it off. Two are the shell's own, a line without a single stage and a process
without a name. Neither comes up in a pipeline of several stages, where a stage without words is
passed over. A text with nothing but bars ends in the first, and a single stage with nothing but
redirections in the second, after it has opened all its targets.
-/

namespace Conch.Shell

open World Line Effect

variable {α β : Type}

/-- A fault of the shell's own. -/
def Internal (f : Fault) : Prop := f = .noStage ∨ f = .noCommand

theorem kind_eq_indexError_iff {f : Fault} : f.kind = "IndexError" ↔ f = .noStage := by
  cases f with
  | os e path => cases e <;> simp [Fault.kind]
  | _ => simp [Fault.kind]

theorem kind_eq_typeError_iff {f : Fault} : f.kind = "TypeError" ↔ f = .noCommand := by
  cases f with
  | os e path => cases e <;> simp [Fault.kind]
  | _ => simp [Fault.kind]

/-- An action whose faults all come from outside. -/
def Orderly (x : Act α) : Prop := ∀ w f v, x w = (.error f, v) → ¬ Internal f

theorem orderly_of_ok {x : Act α} (h : ∀ w, ∃ a v, x w = (.ok a, v)) : Orderly x := by
  intro w f v hx
  obtain ⟨a, u, hok⟩ := h w
  rw [hok] at hx
  cases hx

theorem orderly_pure (a : α) : Orderly (pure a) := orderly_of_ok fun w => ⟨a, w, rfl⟩

theorem orderly_get : Orderly (get : Act World) := orderly_of_ok fun w => ⟨w, w, rfl⟩

theorem orderly_set (w : World) : Orderly (set w : Act PUnit) := orderly_of_ok fun _ => ⟨(), w, rfl⟩

theorem orderly_modify (f : World → World) : Orderly (modify f : Act PUnit) :=
  orderly_of_ok fun w => ⟨(), f w, rfl⟩

theorem orderly_throw {f : Fault} (h : ¬ Internal f) : Orderly (throw f : Act α) := by
  intro w g v hthrow
  cases hthrow
  exact h

theorem orderly_bind {x : Act α} {f : α → Act β} (hx : Orderly x) (hf : ∀ a, Orderly (f a)) :
    Orderly (x >>= f) := by
  intro w g v h
  rw [bind_apply] at h
  rcases hxw : x w with ⟨e | a, u⟩
  · rw [hxw] at h
    cases h
    exact hx _ _ _ hxw
  · rw [hxw] at h
    exact hf a _ _ _ h

theorem orderly_report (f : World → World) (a : α) :
    Orderly (modify f >>= fun _ => pure a) :=
  orderly_bind (orderly_modify f) fun _ => orderly_pure a

/-- A check that may end in a fault before the rest is done. -/
theorem orderly_check {c : Prop} [Decidable c] {f : Fault} {rest : PUnit → Act β}
    (hf : ¬ Internal f) (hrest : Orderly (rest ())) :
    Orderly (if c then throw f >>= rest else rest ()) := by
  split
  · intro w g v h
    cases h
    exact hf
  · exact hrest

theorem orderly_map {x : Act α} (hx : Orderly x) (f : α → β) : Orderly (f <$> x) := by
  intro w g v h
  rw [map_apply] at h
  rcases hxw : x w with ⟨e | a, u⟩
  · rw [hxw] at h
    cases h
    exact hx _ _ _ hxw
  · rw [hxw] at h
    cases h

theorem orderly_tryCatch {x : Act α} {handler : Fault → Act α} (hx : Orderly x)
    (hhandler : ∀ f, ¬ Internal f → Orderly (handler f)) : Orderly (tryCatch x handler) := by
  intro w g v h
  rw [tryCatch_apply] at h
  rcases hxw : x w with ⟨e | a, u⟩
  · rw [hxw] at h
    exact hhandler e (hx _ _ _ hxw) _ _ _ h
  · rw [hxw] at h
    cases h

theorem not_internal_os (e : Errno) (path : Option String) : ¬ Internal (.os e path) := by
  simp [Internal]

theorem not_internal_embeddedNul : ¬ Internal .embeddedNul := by simp [Internal]

theorem not_internal_interrupted : ¬ Internal .interrupted := by simp [Internal]

theorem orderly_openTarget (path : String) (append : Bool) : Orderly (openTarget path append) := by
  unfold openTarget
  refine orderly_bind orderly_get fun w => orderly_check not_internal_embeddedNul ?_
  dsimp only
  split
  · exact orderly_throw (not_internal_os _ _)
  · exact orderly_bind (orderly_set _) fun _ => orderly_pure _

theorem orderly_openRedirect (r : Redirect) : Orderly (openRedirect r) :=
  orderly_bind orderly_get fun _ => orderly_openTarget _ _

theorem orderly_primeEarlier (rs : List Redirect) : Orderly (primeEarlier rs) := by
  induction rs with
  | nil => exact orderly_pure ()
  | cons r rs ih =>
    cases rs with
    | nil => exact orderly_pure ()
    | cons r' rs =>
      rw [primeEarlier_cons_cons]
      exact orderly_bind (orderly_openRedirect r) fun _ => ih

theorem orderly_primeStage (s : Stage) : Orderly (primeStage s) :=
  orderly_bind (orderly_primeEarlier s.out) fun _ => orderly_primeEarlier s.err

theorem orderly_activeSink (rs : List Redirect) : Orderly (activeSink rs) := by
  unfold activeSink
  split
  · exact orderly_pure _
  · exact orderly_bind (orderly_openRedirect _) fun _ => orderly_pure _

theorem orderly_openBoth (s : Stage) : Orderly (openBoth s) := by
  refine orderly_tryCatch ?_ fun f hf => ?_
  · exact orderly_bind (orderly_activeSink s.out) fun _ =>
      orderly_bind (orderly_activeSink s.err) fun _ => orderly_pure _
  · split
    · exact orderly_pure _
    · exact orderly_throw hf

theorem orderly_spawn (name : String) (args : List String) (input : Text.Bytes) :
    Orderly (spawn name args input) := by
  unfold spawn
  refine orderly_bind orderly_get fun w => orderly_check not_internal_embeddedNul ?_
  dsimp only
  split
  · exact orderly_throw (not_internal_os _ _)
  · exact orderly_bind (orderly_set _) fun _ => orderly_pure _

theorem orderly_expandArgs (args : List String) : Orderly (expandArgs args) :=
  orderly_bind orderly_get fun _ => orderly_pure _

theorem orderly_checkClosed (text : String) (sink : Sink) : Orderly (checkClosed text sink) := by
  unfold checkClosed
  split
  · exact orderly_throw (not_internal_os _ _)
  · exact orderly_pure ()

theorem orderly_pass (isLast : Bool) (out : Text.Bytes) (sink : Sink) :
    Orderly (pass isLast out sink) := by
  unfold pass
  split
  · exact orderly_report _ _
  · exact orderly_pure _

theorem orderly_runBuiltinStage (b : Builtin) (s : Stage) : Orderly (runBuiltinStage b s) := by
  refine orderly_bind (orderly_expandArgs _) fun args => orderly_bind (orderly_primeStage s) fun _ =>
    orderly_bind (orderly_activeSink s.out) fun out =>
    orderly_bind (orderly_activeSink s.err) fun err => orderly_bind ?_ fun ran =>
    orderly_bind (orderly_checkClosed _ _) fun _ => orderly_bind (orderly_checkClosed _ _) fun _ =>
    orderly_pure _
  exact orderly_bind orderly_get fun _ => orderly_bind (orderly_set _) fun _ => orderly_pure _

theorem orderly_finishStage (isLast : Bool) (p : Progress) (name : String) (args : List String)
    (out err : Sink) : Orderly (finishStage isLast p name args out err) := by
  unfold finishStage
  split
  next b =>
    refine orderly_bind orderly_get fun w => ?_
    split
    exact orderly_bind (orderly_set _) fun _ => orderly_bind (orderly_pass _ _ _) fun _ =>
      orderly_pure _
  next =>
    refine orderly_bind (orderly_tryCatch (orderly_map (orderly_spawn _ _ _) _) fun f hf => ?_)
      fun done => ?_
    · split
      · exact orderly_report _ _
      · exact orderly_throw hf
    · split
      · exact orderly_pure _
      · exact orderly_bind (orderly_modify _) fun _ => orderly_bind (orderly_pass _ _ _) fun _ =>
          orderly_pure _

/-- A stage without words is passed over, and any other has the name that it is started by. -/
theorem orderly_runPipelineStage (isLast : Bool) (p : Progress) (s : Stage) :
    Orderly (runPipelineStage isLast p s) := by
  cases hwords : s.words with
  | nil =>
    rw [runPipelineStage, hwords]
    exact orderly_pure _
  | cons name rest =>
    cases isLast with
    | false =>
      rw [runPipelineStage_false hwords]
      exact orderly_bind (orderly_expandArgs rest) fun _ =>
        orderly_bind (orderly_primeStage s) fun _ => orderly_finishStage _ _ _ _ _ _
    | true =>
      rw [runPipelineStage_true hwords]
      exact orderly_bind (orderly_expandArgs rest) fun _ =>
        orderly_bind (orderly_primeStage s) fun _ =>
        orderly_bind (orderly_activeSink s.out) fun _ =>
        orderly_bind (orderly_activeSink s.err) fun _ => orderly_finishStage _ _ _ _ _ _

theorem orderly_runPipelineFrom (p : Progress) (stages : List Stage) :
    Orderly (runPipelineFrom p stages) := by
  induction stages generalizing p with
  | nil => exact orderly_pure p
  | cons s rest ih =>
    cases rest with
    | nil => exact orderly_runPipelineStage true p s
    | cons s' rest =>
      rw [runPipelineFrom]
      · exact orderly_bind (orderly_runPipelineStage false p s) fun q => ih q
      · simp

theorem orderly_runPipeline (stages : List Stage) : Orderly (runPipeline stages) := by
  unfold runPipeline
  split
  · exact orderly_pure _
  · split
    · exact orderly_report _ _
    · exact orderly_bind (orderly_runPipelineFrom _ stages) fun _ =>
        orderly_check not_internal_interrupted (orderly_pure _)

theorem orderly_runProgramStage {s : Stage} (h : s.words ≠ []) : Orderly (runProgramStage s) := by
  have hname : Orderly (stageCommand s) := by
    obtain ⟨name, rest, hwords⟩ := List.exists_cons_of_ne_nil h
    exact orderly_of_ok fun w => ⟨name, w, stageCommand_cons hwords w⟩
  refine orderly_bind (orderly_expandArgs _) fun args => orderly_bind (orderly_primeStage s) fun _ =>
    orderly_bind (orderly_openBoth s) fun opened => ?_
  split
  · exact orderly_report _ _
  · refine orderly_bind hname fun name => orderly_bind
      (orderly_tryCatch (orderly_map (orderly_spawn _ _ _) _) fun f hf => ?_) fun done => ?_
    · split
      · exact orderly_report _ _
      · exact orderly_report _ _
      · exact orderly_report _ _
      · exact orderly_throw hf
    · split
      · exact orderly_pure _
      · exact orderly_report _ _

theorem orderly_runSingle {s : Stage} (h : s.words ≠ []) : Orderly (runSingle s) := by
  unfold runSingle
  split
  · exact orderly_runBuiltinStage _ s
  · exact orderly_bind (orderly_runProgramStage h) fun _ => orderly_pure _

section

variable {command : String} {s : Stage} (hs : pipeline command = [s]) {w : World}
include hs

/-- A command that comes to a fault of the shell's own can open all its targets. -/
theorem canOpen_of_internal {f : Fault} {v : World} (h : run command w = (.error f, v))
    (hf : Internal f) : ∀ r ∈ s.out ++ s.err, CanOpen w r := by
  intro r hr
  by_contra hcannot
  have hfault : ∃ fault, (openRedirect r w).1 = .error fault := by
    cases hopen : (openRedirect r w).1 with
    | ok t => exact absurd (canOpen_iff.mpr ⟨t, hopen⟩) hcannot
    | error fault => exact ⟨fault, rfl⟩
  obtain ⟨earlier, r', fault, w', hstops, hall⟩ := exists_stopsAt ⟨r, hr, hfault⟩
  rw [run_of_stage hs] at h
  by_cases hreports : Reports s w fault
  · rw [runSingle_of_reports hall hreports] at h
    cases h
  · rw [runSingle_of_not_reports hall hreports] at h
    cases h
    exact orderly_openRedirect r' _ _ _ hstops.fails hf

/-- A stage without words opens its targets and only then finds that there is nothing to start. -/
theorem run_of_wordless (hwords : s.words = []) (h : ∀ r ∈ s.out ++ s.err, CanOpen w r) :
    run command w = (.error .noCommand, afterOpening w (s.out ++ s.err)) := by
  have hb : builtin? s = none := by simp [builtin?, hwords]
  have hstart (v : World) : start s v = (.error .noCommand, v) := by
    rw [start, bind_apply, expandArgs_apply]
    dsimp only
    rw [bind_apply, stageCommand_nil hwords]
  obtain ⟨hout, herr⟩ := List.forall_mem_append.mp h
  rw [run_eq_body hs hout herr]
  simp only [body, hb, hstart, refusal?]

end

/-- The ways to a fault of the shell's own. -/
theorem of_run_internal {command : String} {w v : World} {f : Fault}
    (h : run command w = (.error f, v)) (hf : Internal f) :
    pipeline command = [] ∧ f = .noStage ∨
      ∃ s, pipeline command = [s] ∧ s.words = [] ∧ (∀ r ∈ s.out ++ s.err, CanOpen w r) ∧
        f = .noCommand := by
  rcases hstages : pipeline command with _ | ⟨s, _ | ⟨s', rest⟩⟩
  · rw [run, hstages] at h
    cases h
    exact .inl ⟨rfl, rfl⟩
  · have hwords : s.words = [] := by
      by_contra hwords
      rw [run_of_stage hstages] at h
      exact orderly_runSingle hwords _ _ _ h hf
    have hcan := canOpen_of_internal hstages h hf
    rw [run_of_wordless hstages hwords hcan] at h
    cases h
    exact .inr ⟨s, rfl, hwords, hcan, rfl⟩
  · rw [run, hstages] at h
    exact absurd hf (orderly_bind (orderly_runPipeline _) (fun _ => orderly_pure _) _ _ _ h)

theorem runs_nil_iff {ts : List String} : Runs ts [] ↔ ∀ t ∈ ts, t = "|" := by
  constructor
  · intro h
    generalize hruns : ([] : List (List String)) = runs at h
    induction h with
    | nil => simp
    | bar rest ih => simpa using ih hruns
    | run => cases hruns
  · intro h
    induction ts with
    | nil => exact .nil
    | cons t ts ih =>
      obtain ⟨rfl, hts⟩ := List.forall_mem_cons.mp h
      exact .bar (ih hts)

theorem pipeline_eq_nil_iff {command : String} :
    pipeline command = [] ↔ ∀ t ∈ (commandWords command.toList).map String.ofList, t = "|" := by
  rw [pipeline, pipelineOfWords, List.map_eq_nil_iff, ← runs_iff_splitStages, runs_nil_iff]

/-- A pipeline of one stage, in the words of the text. -/
theorem exists_runs_of_pipeline {command : String} {s : Stage} (h : pipeline command = [s]) :
    ∃ r : RunReading, Runs ((commandWords command.toList).map String.ofList) [r.tokens] ∧
      r.stage = s := by
  rw [pipeline, pipelineOfWords, List.map_eq_singleton_iff] at h
  obtain ⟨run, hrun, rfl⟩ := h
  refine ⟨RunReading.read run, ?_, (RunReading.ofWords_eq_stage run).symm⟩
  rw [runs_iff_splitStages, hrun, RunReading.tokens_read]

theorem words_stage_eq_nil_iff {r : RunReading} :
    r.stage.words = [] ↔ ∀ i ∈ r.items, i.word? = none := List.filterMap_eq_nil_iff

theorem forall_stage_redirects_iff {r : RunReading} {P : Redirect → Prop} :
    (∀ x ∈ r.stage.out ++ r.stage.err, P x) ↔ ∀ x ∈ r.redirects, P x.2 := by
  simp only [List.mem_append, RunReading.stage, RunReading.redirectsOf, streamOf, List.mem_map,
    List.mem_filter, beq_iff_eq]
  constructor
  · rintro h ⟨toErr, x⟩ hx
    cases toErr with
    | false => exact h x (.inl ⟨(false, x), ⟨hx, rfl⟩, rfl⟩)
    | true => exact h x (.inr ⟨(true, x), ⟨hx, rfl⟩, rfl⟩)
  · rintro h x (⟨y, ⟨hy, -⟩, rfl⟩ | ⟨y, ⟨hy, -⟩, rfl⟩)
    · exact h y hy
    · exact h y hy

/-- A command ends in a fault of the shell's own just in two cases: all its words are bars, so that
there is no stage; or it is a single stage made of redirections, with perhaps an operator left over,
and all its targets can be opened. -/
theorem run_fails_internally_iff (command : String) (w : World) :
    ((∃ f v, run command w = (.error f, v) ∧ f.kind = "IndexError") ↔
      ∀ t ∈ (commandWords command.toList).map String.ofList, t = "|") ∧
    ((∃ f v, run command w = (.error f, v) ∧ f.kind = "TypeError") ↔
      ∃ r : RunReading, Runs ((commandWords command.toList).map String.ofList) [r.tokens] ∧
        (∀ i ∈ r.items, i.word? = none) ∧
        ∀ x ∈ r.redirects, ∃ t, (openRedirect x.2 w).1 = .ok t) := by
  simp only [kind_eq_indexError_iff, kind_eq_typeError_iff]
  refine ⟨⟨?_, ?_⟩, ⟨?_, ?_⟩⟩
  · rintro ⟨f, v, hrun, rfl⟩
    obtain ⟨hnil, -⟩ | ⟨s, -, -, -, hnot⟩ := of_run_internal hrun (.inl rfl)
    · exact pipeline_eq_nil_iff.mp hnil
    · cases hnot
  · intro hbars
    refine ⟨.noStage, w, ?_, rfl⟩
    rw [run, pipeline_eq_nil_iff.mpr hbars]
    rfl
  · rintro ⟨f, v, hrun, rfl⟩
    obtain ⟨-, hnot⟩ | ⟨s, hs, hwords, hcan, -⟩ := of_run_internal hrun (.inr rfl)
    · cases hnot
    · obtain ⟨r, hruns, rfl⟩ := exists_runs_of_pipeline hs
      exact ⟨r, hruns, words_stage_eq_nil_iff.mp hwords,
        fun x hx => canOpen_iff.mp (forall_stage_redirects_iff.mp hcan x hx)⟩
  · rintro ⟨r, hruns, hitems, hopen⟩
    have hcan : ∀ x ∈ r.stage.out ++ r.stage.err, CanOpen w x :=
      forall_stage_redirects_iff.mpr fun x hx => canOpen_iff.mpr (hopen x hx)
    exact ⟨.noCommand, _, run_of_wordless (pipeline_of_runs hruns)
      (words_stage_eq_nil_iff.mpr hitems) hcan, rfl⟩

end Conch.Shell
