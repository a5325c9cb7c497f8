import Mathlib
import Conch.Proofs.Shell.Turns

/-!
# Redirections within a pipeline

The last redirection of a stream says where the stream goes, but only in the last stage of a
pipeline. In the stages before it, the last redirection of each stream plays no part at all: its
file is not even opened. All other redirections are: their files are made if they are missing, and
emptied unless all of them write to the end.
-/

namespace Conch.Shell

open World Line Effect
open Text (Bytes)

/-- Two stages with the same words and the same redirections but for the last of each stream. -/
structure AgreesButLast (s t : Stage) : Prop where
  words : s.words = t.words
  out : s.out.dropLast = t.out.dropLast
  err : s.err.dropLast = t.err.dropLast

theorem primeEarlier_congr {rs rs' : List Redirect} (h : rs.dropLast = rs'.dropLast) :
    primeEarlier rs = primeEarlier rs' := by
  have hshort (r : Redirect) : primeEarlier [r] = primeEarlier [] := rfl
  induction rs generalizing rs' with
  | nil =>
    rcases rs' with _ | ⟨r', _ | ⟨r'', rs'⟩⟩
    · rfl
    · rw [hshort]
    · simp at h
  | cons r rs ih =>
    rcases rs with _ | ⟨q, rs⟩
    · rcases rs' with _ | ⟨r', _ | ⟨r'', rs'⟩⟩
      · exact hshort r
      · rw [hshort, hshort]
      · simp at h
    · rcases rs' with _ | ⟨r', _ | ⟨r'', rs'⟩⟩
      · simp at h
      · simp at h
      · rw [List.dropLast_cons_cons, List.dropLast_cons_cons] at h
        obtain ⟨rfl, htail⟩ := List.cons_eq_cons.mp h
        rw [primeEarlier_cons_cons, primeEarlier_cons_cons, ih htail]

theorem AgreesButLast.runPipelineStage_eq {s t : Stage} (h : AgreesButLast s t) (p : Progress) :
    runPipelineStage false p s = runPipelineStage false p t := by
  have hprime : primeStage s = primeStage t := by
    rw [primeStage, primeStage, primeEarlier_congr h.out, primeEarlier_congr h.err]
  cases hwords : s.words with
  | nil =>
    have hwords' : t.words = [] := h.words ▸ hwords
    rw [runPipelineStage, runPipelineStage, hwords, hwords']
  | cons name rest =>
    have hwords' : t.words = name :: rest := h.words ▸ hwords
    rw [runPipelineStage_false hwords, runPipelineStage_false hwords', hprime]

theorem runPipelineFrom_concat (p : Progress) (s : Stage) (before : List Stage) (last : Stage) :
    runPipelineFrom p (s :: (before ++ [last])) = (do
      let p ← runPipelineStage false p s
      runPipelineFrom p (before ++ [last])) := by
  rw [runPipelineFrom]
  simp

section

variable {before before' : List Stage} (h : List.Forall₂ AgreesButLast before before')
include h

theorem runPipelineFrom_congr (last : Stage) (p : Progress) :
    runPipelineFrom p (before ++ [last]) = runPipelineFrom p (before' ++ [last]) := by
  induction h generalizing p with
  | nil => rfl
  | cons hst _ ih =>
    rw [List.cons_append, List.cons_append, runPipelineFrom_concat, runPipelineFrom_concat,
      hst.runPipelineStage_eq]
    congr 1
    funext p
    exact ih p

theorem misplaced?_congr (last : Stage) :
    misplaced? (before ++ [last]) = misplaced? (before' ++ [last]) := by
  induction h with
  | nil => rfl
  | cons hst _ ih =>
    unfold misplaced? at ih ⊢
    rw [List.cons_append, List.cons_append, List.findSome?_cons, List.findSome?_cons, hst.words, ih]

/-- In all stages but the last one, the last redirection of each stream plays no part. -/
theorem runPipeline_congr (last : Stage) :
    runPipeline (before ++ [last]) = runPipeline (before' ++ [last]) := by
  rw [runPipeline, runPipeline, runPipelineFrom_congr h, misplaced?_congr h, List.length_append,
    List.length_append, h.length_eq]
  simp

end

/-- What stands at a path after some redirections that open it. -/
def reopened (rs : List Redirect) (n : Option Node) : Option Node :=
  if rs = [] then n else some (Node.opened (rs.all appends) n)

theorem reopened_append (rs rs' : List Redirect) (n : Option Node) :
    reopened (rs ++ rs') n = reopened rs' (reopened rs n) := by
  by_cases hrs : rs = []
  · simp [reopened, hrs]
  · by_cases hrs' : rs' = []
    · simp [reopened, hrs']
    · simp [reopened, hrs, hrs', Node.opened_opened]

namespace Turn

/-- The redirections of a turn that open a path. -/
def openings (t : Turn) (path : Path) : List Redirect := opensAt t.before t.opened path

/-- The command itself changes nothing at a path. -/
def Spares (t : Turn) (path : Path) : Prop :=
  t.work.after.files.get? path = t.start.files.get? path

theorem Spares.get?_eq {t : Turn} {path : Path} (h : t.Spares path) :
    t.work.after.files.get? path = reopened (t.openings path) (t.before.files.get? path) :=
  h.trans (get?_afterOpening t.before t.opened path)

theorem files_after_of_not_isLast {t : Turn} (h : t.isLast = false) :
    t.after.files = t.work.after.files := by
  rw [after, h]
  rfl

theorem files_after_of_isLast {t : Turn} (h : t.isLast = true) :
    t.after.files = deliver
      (deliver t.work.after.files t.work.err (sinkFrom t.before .terminal t.stage.err))
      t.work.out (sinkFrom t.before .terminal t.stage.out) := by
  rw [after, if_pos h, files_emitOut, files_emitErr]

end Turn

/-- The last turn of a course. -/
theorem Course.exists_final {input : Bytes} {w w' : World} {ts : List Turn}
    (h : Course input w ts w') :
    ∃ turns final, ts = turns ++ [final] ∧ (∀ t ∈ turns, t.isLast = false) ∧
      final.isLast = true ∧ final.Taken ∧ w' = final.after := by
  induction h with
  | last t isLast taken => exact ⟨[], t, rfl, by simp, isLast, taken, rfl⟩
  | next t isLast _ _ ih =>
    obtain ⟨turns, final, rfl, hturns, hfinal⟩ := ih
    exact ⟨t :: turns, final, rfl, List.forall_mem_cons.mpr ⟨isLast, hturns⟩, hfinal⟩

theorem Course.ne_nil {input : Bytes} {w w' : World} {turns : List Turn}
    (h : Course input w turns w') : turns ≠ [] := by
  cases h <;> simp

/-- At a path that no command changes, the last one leaves what all redirections up to then make of
it. -/
theorem Course.get?_eq {input : Bytes} {w w' : World} {turns : List Turn}
    (h : Course input w turns w') {path : Path} (hspares : ∀ t ∈ turns, t.Spares path)
    {final : Turn} (hfinal : turns.getLast? = some final) :
    final.work.after.files.get? path =
      reopened (turns.flatMap fun t => t.openings path) (w.files.get? path) := by
  induction h with
  | last t isLast taken =>
    obtain rfl : t = final := by simpa using hfinal
    simpa using (hspares t (by simp)).get?_eq
  | next t isLast taken rest ih =>
    obtain ⟨hspare, hrest⟩ := List.forall_mem_cons.mp hspares
    have hlast : some final = _ := hfinal.symm.trans (List.getLast?_cons_of_ne_nil rest.ne_nil)
    rw [ih hrest hlast.symm, Turn.files_after_of_not_isLast isLast, hspare.get?_eq,
      List.flatMap_cons, reopened_append]

theorem isSome_get?_write {fs : Files} {path : Path} (h : (fs.get? path).isSome = true) (q : Path)
    (append : Bool) (offset : Nat) (new : Bytes) :
    ((fs.write q append offset new).get? path).isSome = true := by
  by_cases hq : q = path
  · unfold Files.write
    split
    next data x hget =>
      have hne : q ≠ [] := by
        rintro rfl
        cases hget
      split <;> rw [Files.get?_put hne, if_pos hq] <;> rfl
    next => exact h
  · rwa [Files.get?_write hq]

theorem isSome_get?_deliver {fs : Files} {path : Path} (h : (fs.get? path).isSome = true)
    (bytes : Bytes) (sink : Sink) : ((deliver fs bytes sink).get? path).isSome = true := by
  rcases sink with _ | (⟨q, append⟩ | full)
  · exact h
  · exact isSome_get?_write h q append 0 bytes
  · exact h

/-- A pipeline that is run in `w` and leaves `w'`, by its turns. -/
structure Honours (before : List Stage) (last : Stage) (w w' : World) (turns : List Turn)
    (final : Turn) : Prop where
  stages : turns.map Turn.stage = before ∧ final.stage = last
  positions : (∀ t ∈ turns, t.isLast = false) ∧ final.isLast = true
  course : Course [] w (turns ++ [final]) w'
  /-- A file that the commands themselves leave alone is kept as it was only if all redirections
  that were opened and lead to it write to its end, and one that they do not lead to is not
  touched. -/
  content : ∀ path, (∀ t ∈ turns ++ [final], t.Spares path) →
    final.work.after.files.get? path =
      reopened ((turns ++ [final]).flatMap fun t => t.openings path) (w.files.get? path)
  /-- In the end there is a file wherever one was opened. -/
  made : ∀ path, (∀ t ∈ turns ++ [final], t.Spares path) →
    (∃ t ∈ turns ++ [final], t.openings path ≠ []) → (w'.files.get? path).isSome = true
  /-- Both streams of the last command go to what their last redirections open. -/
  delivers : ∃ out err, Leads final.before last.out out ∧ Leads final.before last.err err ∧
    w' = (final.work.after.emitErr final.work.err err).emitOut final.work.out out

/-- A pipeline whose stages are all started ends well unless the user interrupts it. -/
theorem runPipeline_of_started {stages : List Stage} {w w' : World} {p : Progress}
    (hplaced : misplaced? stages = none)
    (h : runPipelineFrom ⟨[], none, none, false⟩ stages w = (.ok p, w')) :
    runPipeline stages w = (if p.interrupted then .error .interrupted
      else .ok ((p.program.or p.builtin).getD 0), w') := by
  cases stages with
  | nil =>
    cases h
    rfl
  | cons s stages =>
    rw [runPipeline, hplaced, ite_self]
    simp only [List.isEmpty_cons, Bool.false_eq_true, if_false, bind_apply, h]
    cases p.interrupted <;> rfl

theorem honours_of_course {before : List Stage} {last : Stage} {w w' : World} {ts : List Turn}
    (hlast : last.words ≠ []) (hstages : ts.map Turn.stage = before ++ [last])
    (h : Course [] w ts w') : ∃ turns final, Honours before last w w' turns final := by
  obtain ⟨turns, final, rfl, hturns, hfinal, htaken, hw'⟩ := h.exists_final
  rw [List.map_append, List.map_singleton] at hstages
  obtain ⟨hbefore, hstage⟩ := List.append_inj' hstages rfl
  obtain rfl : final.stage = last := by simpa using hstage
  have hcan : ∀ r ∈ final.stage.out ++ final.stage.err, CanOpen final.before r := by
    have hopens := htaken.opens
    rwa [Turn.opened, opened, if_neg hlast, if_pos hfinal] at hopens
  obtain ⟨hout, herr⟩ := List.forall_mem_append.mp hcan
  refine ⟨turns, final, ⟨hbefore, rfl⟩, ⟨hturns, hfinal⟩, h, ?_, ?_, ?_⟩
  · intro path hspares
    exact h.get?_eq hspares List.getLast?_concat
  · intro path hspares hopened
    have hnode := h.get?_eq hspares List.getLast?_concat
    have hne : (turns ++ [final]).flatMap (fun t => t.openings path) ≠ [] := by
      obtain ⟨t, ht, hopens⟩ := hopened
      exact fun hnil => hopens (List.flatMap_eq_nil_iff.mp hnil t ht)
    rw [hw', Turn.files_after_of_isLast hfinal]
    refine isSome_get?_deliver (isSome_get?_deliver ?_ _ _) _ _
    rw [hnode, reopened, if_neg hne]
    rfl
  · refine ⟨_, _, leads_sinkFrom hout, leads_sinkFrom herr, ?_⟩
    rw [hw', Turn.after, if_pos hfinal]

/-- A pipeline whose stages can be started honours its redirections but for the last one of each
stream in the stages before the last: these may be any or none without a difference. All others are
opened in the turns of their stages, and the last stage writes to the last ones of its own. -/
theorem pipeline_honours_redirects {before : List Stage} {last : Stage} {w : World}
    (hlast : last.words ≠ []) (hplaced : misplaced? (before ++ [last]) = none)
    (hstartable : startable [] w (before ++ [last]) = true) :
    (∀ before', List.Forall₂ AgreesButLast before before' →
      runPipeline (before' ++ [last]) w = runPipeline (before ++ [last]) w) ∧
    ∃ result w' turns final, runPipeline (before ++ [last]) w = (result, w') ∧
      ((∃ code, result = .ok code) ∨ result = .error .interrupted) ∧
      Honours before last w w' turns final := by
  refine ⟨fun before' h => by rw [runPipeline_congr h last], ?_⟩
  have hfirst : startable (⟨[], none, none, false⟩ : Progress).input w (before ++ [last]) = true :=
    hstartable
  obtain ⟨p, w', hrun⟩ := exists_runPipelineFrom hfirst
  obtain ⟨ts, hstages, hcourse⟩ := course_of_runPipelineFrom (by simp) hrun
  obtain ⟨turns, final, hhonours⟩ := honours_of_course hlast hstages hcourse
  refine ⟨_, w', turns, final, runPipeline_of_started hplaced hrun, ?_, hhonours⟩
  cases p.interrupted with
  | false => exact .inl ⟨_, rfl⟩
  | true => exact .inr rfl

/-- `both a b > f > g 2>> h`. -/
def diverted : Stage :=
  ⟨["both", "a", "b"], [⟨"f", .write⟩, ⟨"g", .write⟩], [⟨"h", .append⟩]⟩

/-- `cat > k`. -/
def collected : Stage := ⟨["cat"], [⟨"k", .write⟩], []⟩

/-- Of the redirections of the first stage only the one to `f` is honoured: there is no `g` and no
`h` in the end, and the error message is on the terminal. -/
theorem pipeline_honours_earlier_redirect :
    pipeline "both a b > f > g 2>> h | cat > k" = [diverted] ++ [collected] ∧
    ((∀ before', List.Forall₂ AgreesButLast [diverted] before' →
      runPipeline (before' ++ [collected]) withFile =
        runPipeline ([diverted] ++ [collected]) withFile) ∧
    ∃ result w' turns final, runPipeline ([diverted] ++ [collected]) withFile = (result, w') ∧
      ((∃ code, result = .ok code) ∨ result = .error .interrupted) ∧
      Honours [diverted] collected withFile w' turns final) ∧
    ["f", "g", "h", "k"].map (fun name =>
        (runPipeline ([diverted] ++ [collected]) withFile).2.files.get? ["ROOT", "work", name]) =
      [some (.file [] false), none, none, some (.file (Text.encode "a\n") false)] ∧
    (runPipeline ([diverted] ++ [collected]) withFile).2.err = Text.encode "b\n" := by
  refine ⟨by decide +kernel, ?_, by decide +kernel, by decide +kernel⟩
  exact pipeline_honours_redirects (by decide) (by decide +kernel) (by decide +kernel)

end Conch.Shell
