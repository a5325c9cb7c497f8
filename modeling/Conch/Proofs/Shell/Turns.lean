import Mathlib
import Conch.Proofs.Shell.Redirection

/-!
# The turns of a pipeline

The stages of a pipeline have their turns one after the other. In its turn a stage opens files, its
command does its work, and what the command wrote is sent on: its output to the next stage and its
error messages to the terminal, or both to where the last stage has them go. A pipeline that runs to
its end is such a course of turns.
-/

namespace Conch.Shell

open World Line Effect
open Text (Bytes)

section

variable {w v : World} {opened : List Redirect}

theorem of_openRedirect_ok {r : Redirect} {t : Files.Target}
    (h : openRedirect r (afterOpening w opened) = (.ok t, v)) :
    CanOpen w r ∧ t = target w r ∧ v = afterOpening w (opened ++ [r]) := by
  have hcan : CanOpen w r := by
    by_contra hnot
    have hnone : landing (afterOpening w opened) r = none := by
      rw [landing_afterOpening]
      simpa [CanOpen] using hnot
    obtain ⟨fault, hfault⟩ := openRedirect_of_landing_eq_none hnone
    rw [hfault] at h
    cases h
  rw [openRedirect_afterOpening hcan] at h
  cases h
  exact ⟨hcan, rfl, rfl⟩

theorem primeEarlier_cons_cons (r r' : Redirect) (rs : List Redirect) :
    primeEarlier (r :: r' :: rs) = openRedirect r >>= fun _ => primeEarlier (r' :: rs) := rfl

theorem of_primeEarlier_ok {rs : List Redirect}
    (h : primeEarlier rs (afterOpening w opened) = (.ok (), v)) :
    (∀ r ∈ rs.dropLast, CanOpen w r) ∧ v = afterOpening w (opened ++ rs.dropLast) := by
  induction rs generalizing opened with
  | nil =>
    cases h
    simp
  | cons r rs ih =>
    cases rs with
    | nil =>
      cases h
      simp
    | cons r' rs =>
      rw [primeEarlier_cons_cons] at h
      obtain ⟨t, u, hopen, hrest⟩ := exists_of_bind_ok h
      obtain ⟨hcan, -, rfl⟩ := of_openRedirect_ok hopen
      obtain ⟨hcans, rfl⟩ := ih hrest
      rw [List.dropLast_cons_cons, List.forall_mem_cons]
      exact ⟨⟨hcan, hcans⟩, by simp⟩

theorem of_activeSink_ok {rs : List Redirect} {sink : Sink}
    (h : activeSink rs (afterOpening w opened) = (.ok sink, v)) :
    (∀ r ∈ rs.getLast?.toList, CanOpen w r) ∧ sink = sinkFrom w .terminal rs ∧
      v = afterOpening w (opened ++ rs.getLast?.toList) := by
  unfold activeSink at h
  unfold sinkFrom
  cases hlast : rs.getLast? with
  | none =>
    rw [hlast] at h
    cases h
    simp
  | some r =>
    rw [hlast] at h
    obtain ⟨t, u, hopen, hpure⟩ := exists_of_bind_ok h
    obtain ⟨hcan, rfl, rfl⟩ := of_openRedirect_ok hopen
    cases hpure
    simpa using hcan

theorem of_primeStage_ok {s : Stage} (h : primeStage s w = (.ok (), v)) :
    (∀ r ∈ s.out.dropLast ++ s.err.dropLast, CanOpen w r) ∧
      v = afterOpening w (s.out.dropLast ++ s.err.dropLast) := by
  obtain ⟨⟨⟩, u, hout, herr⟩ := exists_of_bind_ok h
  have hstart : primeEarlier s.out (afterOpening w []) = (.ok (), u) := hout
  obtain ⟨hcan, rfl⟩ := of_primeEarlier_ok hstart
  obtain ⟨hcan', rfl⟩ := of_primeEarlier_ok herr
  rw [List.nil_append, List.forall_mem_append]
  exact ⟨⟨hcan, hcan'⟩, rfl⟩

end

/-- What a command wrote and the world that it left. -/
structure Work where
  out : Bytes
  err : Bytes
  after : World

/-- The work that the command of a stage does; none if the system refuses to start it. A stage
without a command does nothing, and one whose command is not found says so on the terminal. -/
def work? (s : Stage) (input : Bytes) (w : World) : Option Work :=
  match s.words with
  | [] => some ⟨[], [], w⟩
  | name :: _ =>
    match Builtin.ofName? name with
    | some b =>
      let (ran, v) := b.run (stageArgs s w) w
      some ⟨Text.encode ran.out, Text.encode ran.err, v.printOut (Text.encode ran.shown)⟩
    | none =>
      match spawn name (stageArgs s w) input w with
      | (.ok r, v) => some ⟨r.out, r.err, v⟩
      | (.error (.os .noEntry _), v) =>
        some ⟨[], [], v.printErr (Text.encode (name ++ ": command not found\n"))⟩
      | (.error _, _) => none

/-- The redirections that a stage opens: all of them if it is the last one, and otherwise all but
the last of each stream. A stage without a command opens none. -/
def opened (isLast : Bool) (s : Stage) : List Redirect :=
  if s.words = [] then []
  else if isLast then s.out ++ s.err
  else s.out.dropLast ++ s.err.dropLast

/-- The turn of a stage in a pipeline. -/
structure Turn where
  stage : Stage
  isLast : Bool
  input : Bytes
  before : World
  work : Work

namespace Turn

/-- The redirections that are opened in a turn. -/
def opened (t : Turn) : List Redirect := Shell.opened t.isLast t.stage

/-- The world in which the command does its work. -/
def start (t : Turn) : World := afterOpening t.before t.opened

/-- The world after the turn, when what the command wrote was sent on. -/
def after (t : Turn) : World :=
  if t.isLast then
    (t.work.after.emitErr t.work.err (sinkFrom t.before .terminal t.stage.err)).emitOut t.work.out
      (sinkFrom t.before .terminal t.stage.out)
  else t.work.after.printErr t.work.err

/-- The files were opened and the work was done. -/
structure Taken (t : Turn) : Prop where
  opens : ∀ r ∈ t.opened, CanOpen t.before r
  works : work? t.stage t.input t.start = some t.work

end Turn

/-- Turns one after the other, each stage reading what the one before it wrote. -/
inductive Course : Bytes → World → List Turn → World → Prop
  | last (t : Turn) (isLast : t.isLast = true) (taken : t.Taken) :
      Course t.input t.before [t] t.after
  | next (t : Turn) {turns : List Turn} {w' : World} (isLast : t.isLast = false) (taken : t.Taken)
      (rest : Course t.work.out t.after turns w') : Course t.input t.before (t :: turns) w'

theorem write_nil (fs : Files) (p : Path) (append : Bool) : fs.write p append 0 [] = fs := by
  unfold Files.write
  split
  next data x hget =>
    have hp : p ≠ [] := by
      rintro rfl
      cases hget
    cases append <;> simp [Files.overlay, Files.put_self hp hget]
  next => rfl

@[simp]
theorem emitOut_nil (w : World) (sink : Sink) : w.emitOut [] sink = w := by
  rcases sink with _ | (⟨p, append⟩ | full)
  · exact printOut_nil w
  · simp [emitOut, write_nil]
  · rfl

@[simp]
theorem emitErr_nil (w : World) (sink : Sink) : w.emitErr [] sink = w := by
  rcases sink with _ | (⟨p, append⟩ | full)
  · simp [emitErr, printErr]
  · simp [emitErr, write_nil]
  · rfl

theorem opened_false {s : Stage} (h : s.words ≠ []) :
    opened false s = s.out.dropLast ++ s.err.dropLast := by
  simp [opened, h]

theorem afterOpening_opened_true {s : Stage} (h : s.words ≠ []) (w : World) :
    afterOpening w (regrouped s) = afterOpening w (opened true s) := by
  rw [opened, if_neg h, if_pos rfl]
  exact afterOpening_perm w (regrouped_perm s)

/-- What a stage does after its files were opened. -/
def finishStage (isLast : Bool) (p : Progress) (name : String) (args : List String)
    (out err : Sink) : Act Progress := do
  match Builtin.ofName? name with
  | some b =>
    let (ran, w) := b.run args (← get)
    set ((w.printOut (Text.encode ran.shown)).emitErr (Text.encode ran.err) err)
    let input ← pass isLast (Text.encode ran.out) out
    return { p with input := input, builtin := some ran.status }
  | none =>
    let done ← tryCatch (some <$> spawn name args p.input) fun f => match f with
      | .os .noEntry _ => do
        complain (name ++ ": command not found\n")
        return none
      | f => throw f
    match done with
    | none => return { p with input := [] }
    | some r =>
      modify fun w => w.emitErr r.err err
      let input ← pass isLast r.out out
      return { p with
        input := input, program := some r.ending.status,
        interrupted := p.interrupted || r.ending == .interrupt }

section

variable {s : Stage} {name : String} {rest : List String} (h : s.words = name :: rest)
include h

/-- Files that are opened do not matter to the arguments. -/
theorem map_expandHome (w : World) (rs : List Redirect) :
    rest.map w.expandHome = stageArgs s (afterOpening w rs) := by
  rw [stageArgs, h]
  rfl

theorem runPipelineStage_false (p : Progress) :
    runPipelineStage false p s = (do
      let args ← expandArgs rest
      primeStage s
      finishStage false p name args .terminal .terminal) := by
  rw [runPipelineStage, h]
  rfl

theorem runPipelineStage_true (p : Progress) :
    runPipelineStage true p s = (do
      let args ← expandArgs rest
      primeStage s
      let out ← activeSink s.out
      let err ← activeSink s.err
      finishStage true p name args out err) := by
  rw [runPipelineStage, h]
  rfl

end

/-- The command does its work, and what it wrote is sent on. -/
theorem of_finishStage_ok {s : Stage} {name : String} {rest : List String} {isLast : Bool}
    {p p' : Progress} {out err : Sink} {w w' : World} (hwords : s.words = name :: rest)
    (h : finishStage isLast p name (stageArgs s w) out err w = (.ok p', w')) :
    ∃ k, work? s p.input w = some k ∧ (isLast = false → p'.input = k.out) ∧
      w' = if isLast then (k.after.emitErr k.err err).emitOut k.out out
        else k.after.emitErr k.err err := by
  unfold finishStage at h
  unfold work?
  simp only [hwords]
  cases hb : Builtin.ofName? name with
  | some b =>
    simp only [hb] at h
    cases isLast <;> cases h <;> exact ⟨_, rfl, by simp, rfl⟩
  | none =>
    simp only [hb, bind_apply, tryCatch_apply, map_apply] at h
    rcases hspawn : spawn name (stageArgs s w) p.input w with ⟨f | r, v⟩
    · rw [hspawn] at h
      rcases f with ⟨e, path⟩ | _ | _ | _ | _ | _
      · cases e
        case noEntry =>
          cases h
          exact ⟨_, rfl, fun _ => rfl, by simp⟩
        all_goals cases h
      all_goals cases h
    · rw [hspawn] at h
      cases isLast <;> cases h <;> exact ⟨_, rfl, by simp, rfl⟩

/-- A stage that goes well has opened its files before its command does its work. -/
theorem finishStage_of_runPipelineStage {s : Stage} {name : String} {rest : List String}
    {isLast : Bool} {p p' : Progress} {w w' : World} (hwords : s.words = name :: rest)
    (h : runPipelineStage isLast p s w = (.ok p', w')) :
    (∀ r ∈ opened isLast s, CanOpen w r) ∧
      finishStage isLast p name (stageArgs s (afterOpening w (opened isLast s)))
        (if isLast then sinkFrom w .terminal s.out else .terminal)
        (if isLast then sinkFrom w .terminal s.err else .terminal)
        (afterOpening w (opened isLast s)) = (.ok p', w') := by
  have hne : s.words ≠ [] := by simp [hwords]
  cases isLast with
  | false =>
    rw [runPipelineStage_false hwords, bind_apply, expandArgs_apply] at h
    obtain ⟨⟨⟩, u, hprime, h⟩ := exists_of_bind_ok h
    obtain ⟨hcan, rfl⟩ := of_primeStage_ok hprime
    rw [← opened_false hne] at hcan h
    rw [map_expandHome hwords] at h
    exact ⟨hcan, h⟩
  | true =>
    rw [runPipelineStage_true hwords, bind_apply, expandArgs_apply] at h
    obtain ⟨⟨⟩, u, hprime, h⟩ := exists_of_bind_ok h
    obtain ⟨hcan, rfl⟩ := of_primeStage_ok hprime
    obtain ⟨out, u, hout, h⟩ := exists_of_bind_ok h
    obtain ⟨err, v, herr, h⟩ := exists_of_bind_ok h
    obtain ⟨hcanOut, rfl, rfl⟩ := of_activeSink_ok hout
    obtain ⟨hcanErr, rfl, rfl⟩ := of_activeSink_ok herr
    have hregrouped := afterOpening_opened_true hne w
    have hall : ∀ r ∈ regrouped s, CanOpen w r := by
      simp only [regrouped, List.forall_mem_append]
      exact ⟨⟨List.forall_mem_append.mp hcan, hcanOut⟩, hcanErr⟩
    rw [regrouped] at hregrouped
    rw [hregrouped, map_expandHome hwords] at h
    refine ⟨fun r hr => hall r ?_, h⟩
    rw [(regrouped_perm s).mem_iff]
    simpa [opened, hne] using hr

/-- A stage that goes well has had its turn. -/
theorem taken_of_runPipelineStage {isLast : Bool} {p p' : Progress} {s : Stage} {w w' : World}
    (h : runPipelineStage isLast p s w = (.ok p', w')) :
    ∃ k, (⟨s, isLast, p.input, w, k⟩ : Turn).Taken ∧ (isLast = false → p'.input = k.out) ∧
      w' = (⟨s, isLast, p.input, w, k⟩ : Turn).after := by
  cases hwords : s.words with
  | nil =>
    rw [runPipelineStage, hwords] at h
    cases h
    have hopened : opened isLast s = [] := by simp [opened, hwords]
    refine ⟨⟨[], [], w⟩, ⟨?_, ?_⟩, fun _ => rfl, ?_⟩
    · simp [Turn.opened, hopened]
    · simp [work?, hwords, Turn.start, Turn.opened, hopened, afterOpening_nil]
    · cases isLast <;> simp [Turn.after, printErr]
  | cons name rest =>
    obtain ⟨hcan, hfinish⟩ := finishStage_of_runPipelineStage hwords h
    obtain ⟨k, hwork, hinput, hw⟩ := of_finishStage_ok hwords hfinish
    refine ⟨k, ⟨hcan, hwork⟩, hinput, ?_⟩
    cases isLast <;> exact hw

/-- A pipeline that goes well is a course of turns. -/
theorem course_of_runPipelineFrom {stages : List Stage} (hne : stages ≠ []) {p p' : Progress}
    {w w' : World} (h : runPipelineFrom p stages w = (.ok p', w')) :
    ∃ turns, turns.map Turn.stage = stages ∧ Course p.input w turns w' := by
  induction stages generalizing p w with
  | nil => exact absurd rfl hne
  | cons s stages ih =>
    cases stages with
    | nil =>
      obtain ⟨k, htaken, -, rfl⟩ := taken_of_runPipelineStage h
      exact ⟨_, rfl, .last _ rfl htaken⟩
    | cons s' stages =>
      rw [runPipelineFrom] at h
      · obtain ⟨q, u, hstage, hrest⟩ := exists_of_bind_ok h
        obtain ⟨k, htaken, hinput, rfl⟩ := taken_of_runPipelineStage hstage
        obtain ⟨turns, hturns, hcourse⟩ := ih (by simp) hrest
        rw [hinput rfl] at hcourse
        exact ⟨_ :: turns, by rw [List.map_cons, hturns], .next _ rfl htaken hcourse⟩
      · simp

/-- Whether all stages of a pipeline can be started, each in the world that its turn finds: its
redirections can be opened, and the system does not refuse to start its command. -/
def startable (input : Bytes) (w : World) : List Stage → Bool
  | [] => true
  | s :: rest =>
    (opened rest.isEmpty s).all (fun r => (landing w r).isSome) &&
      (work? s input (afterOpening w (opened rest.isEmpty s))).any fun k =>
        rest.isEmpty || startable k.out (k.after.printErr k.err) rest

theorem exists_taken_of_startable {s : Stage} {rest : List Stage} {input : Bytes} {w : World}
    (h : startable input w (s :: rest) = true) :
    ∃ k, (⟨s, rest.isEmpty, input, w, k⟩ : Turn).Taken ∧
      (rest ≠ [] → startable k.out (⟨s, rest.isEmpty, input, w, k⟩ : Turn).after rest = true) := by
  rw [startable] at h
  obtain ⟨hopens, hwork⟩ := (Bool.and_eq_true _ _).mp h
  obtain ⟨k, hk, hlater⟩ := (Option.any_eq_true _ _).mp hwork
  refine ⟨k, ⟨List.all_eq_true.mp hopens, hk⟩, fun hne => ?_⟩
  have hempty : rest.isEmpty = false := by simpa using hne
  rw [hempty, Bool.false_or] at hlater
  rwa [Turn.after, hempty]

theorem exists_finishStage {s : Stage} {name : String} {rest : List String}
    (hwords : s.words = name :: rest) {p : Progress} {w : World} {k : Work}
    (h : work? s p.input w = some k) (isLast : Bool) (out err : Sink) :
    ∃ p' w', finishStage isLast p name (stageArgs s w) out err w = (.ok p', w') := by
  simp only [work?, hwords] at h
  unfold finishStage
  cases hb : Builtin.ofName? name with
  | some b => cases isLast <;> exact ⟨_, _, rfl⟩
  | none =>
    simp only [hb] at h
    simp only [bind_apply, tryCatch_apply, map_apply]
    rcases hspawn : spawn name (stageArgs s w) p.input w with ⟨f | r, v⟩
    · rw [hspawn] at h
      rcases f with ⟨e, path⟩ | _ | _ | _ | _ | _
      · cases e
        case noEntry => exact ⟨_, _, rfl⟩
        all_goals cases h
      all_goals cases h
    · cases isLast <;> exact ⟨_, _, rfl⟩

/-- A stage has its turn if it can. -/
theorem Turn.Taken.exists_runPipelineStage {isLast : Bool} {p : Progress} {s : Stage} {w : World}
    {k : Work} (h : (⟨s, isLast, p.input, w, k⟩ : Turn).Taken) :
    ∃ p', runPipelineStage isLast p s w = (.ok p', (⟨s, isLast, p.input, w, k⟩ : Turn).after) ∧
      (isLast = false → p'.input = k.out) := by
  have hgoes : ∃ p' w', runPipelineStage isLast p s w = (.ok p', w') := by
    cases hwords : s.words with
    | nil =>
      rw [runPipelineStage, hwords]
      exact ⟨_, _, rfl⟩
    | cons name rest =>
      have hne : s.words ≠ [] := by simp [hwords]
      have hopens := h.opens
      have hwork := h.works
      cases isLast with
      | false =>
        rw [Turn.opened, opened_false hne] at hopens
        rw [Turn.start, Turn.opened, opened_false hne] at hwork
        rw [runPipelineStage_false hwords, bind_apply, expandArgs_apply]
        simp only [bind_apply, primeStage_of_canOpen hopens]
        rw [map_expandHome hwords]
        exact exists_finishStage hwords hwork false _ _
      | true =>
        rw [Turn.opened, Shell.opened, if_neg hne, if_pos rfl] at hopens
        obtain ⟨hout, herr⟩ := List.forall_mem_append.mp hopens
        rw [Turn.start, Turn.opened, ← afterOpening_opened_true hne] at hwork
        rw [runPipelineStage_true hwords, bind_apply, expandArgs_apply]
        simp only [bind_apply, primeStage_apply hout herr, activeSink_afterOpening hout,
          activeSink_afterOpening herr]
        rw [map_expandHome hwords]
        exact exists_finishStage hwords hwork true _ _
  obtain ⟨p', w', hrun⟩ := hgoes
  obtain ⟨k', htaken, hinput, rfl⟩ := taken_of_runPipelineStage hrun
  obtain rfl : k' = k := Option.some.inj (htaken.works.symm.trans h.works)
  exact ⟨p', hrun, hinput⟩

/-- A pipeline goes well if its stages can be started. -/
theorem exists_runPipelineFrom {stages : List Stage} {p : Progress} {w : World}
    (h : startable p.input w stages = true) :
    ∃ p' w', runPipelineFrom p stages w = (.ok p', w') := by
  induction stages generalizing p w with
  | nil => exact ⟨p, w, rfl⟩
  | cons s stages ih =>
    obtain ⟨k, htaken, hrest⟩ := exists_taken_of_startable h
    obtain ⟨q, hstage, hinput⟩ := htaken.exists_runPipelineStage
    cases stages with
    | nil => exact ⟨q, _, hstage⟩
    | cons s' stages =>
      have hlater := hrest (by simp)
      rw [List.isEmpty_cons] at hstage hlater
      rw [← hinput rfl] at hlater
      obtain ⟨p', w', hrun⟩ := ih hlater
      refine ⟨p', w', ?_⟩
      rw [runPipelineFrom, bind_apply]
      · rw [hstage]
        exact hrun
      · simp

end Conch.Shell
