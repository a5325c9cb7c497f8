import Mathlib
import Conch.Proofs.Shell.PipelineRedirects

/-!
# The status of a pipeline

A stage of a pipeline ends as a builtin with its status, as a program with its code or a signal, or
because its command is not found. The last program that was started has the status of the whole
pipeline; only where no program was started it is that of the last builtin, and where there is no
builtin either it is 0. So it is the status of the last stage if a program ends the pipeline, and
else only where the earlier stages happen to agree.
-/

namespace Conch.Shell

open World Line Effect
open Text (Bytes)

inductive StageEnd where
  | builtin (status : Int)
  | program (ending : Ending)
  | notFound
  deriving DecidableEq, Repr

namespace StageEnd

/-- The status that a stage has by itself. -/
def code : StageEnd → Int
  | builtin status => status
  | program ending => ending.status
  | notFound => 127

def builtinStatus? : StageEnd → Option Int
  | builtin status => some status
  | _ => none

def programStatus? : StageEnd → Option Int
  | program ending => some ending.status
  | _ => none

end StageEnd

/-- How the command of a stage ends; none if there is no command, or if the system refuses to start
it for another reason than that it is not found. -/
def stageEnd? (s : Stage) (input : Bytes) (w : World) : Option StageEnd :=
  match s.words with
  | [] => none
  | name :: _ =>
    match Builtin.ofName? name with
    | some b => some (.builtin (b.run (stageArgs s w) w).1.status)
    | none =>
      match (spawn name (stageArgs s w) input w).1 with
      | .ok r => some (.program r.ending)
      | .error (.os .noEntry _) => some .notFound
      | .error _ => none

/-- How the command of a turn ends. -/
def Turn.end? (t : Turn) : Option StageEnd := stageEnd? t.stage t.input t.start

/-- The status of the last program, or else that of the last builtin. -/
def statusOf (ends : List StageEnd) : Int :=
  ((ends.filterMap StageEnd.programStatus?).getLast?.or
    (ends.filterMap StageEnd.builtinStatus?).getLast?).getD 0

/-- What is known after some more stages came to their ends. -/
structure Notes (ends : List StageEnd) (p p' : Progress) : Prop where
  program : p'.program = (ends.filterMap StageEnd.programStatus?).getLast?.or p.program
  builtin : p'.builtin = (ends.filterMap StageEnd.builtinStatus?).getLast?.or p.builtin
  interrupted : p'.interrupted = (p.interrupted || ends.contains (.program .interrupt))

theorem getLast?_filterMap_cons {α β : Type} (f : α → Option β) (x : α) (xs : List α)
    (y : Option β) :
    ((x :: xs).filterMap f).getLast?.or y =
      (xs.filterMap f).getLast?.or (([x].filterMap f).getLast?.or y) := by
  cases hx : f x with
  | none => simp [hx]
  | some z => cases h : (xs.filterMap f).getLast? <;> simp [List.getLast?_cons, hx, h]

theorem Notes.cons {e : StageEnd} {ends : List StageEnd} {p q p' : Progress}
    (h : Notes [e] p q) (h' : Notes ends q p') : Notes (e :: ends) p p' where
  program := by rw [getLast?_filterMap_cons _ e ends, h'.program, h.program]
  builtin := by rw [getLast?_filterMap_cons _ e ends, h'.builtin, h.builtin]
  interrupted := by
    rw [h'.interrupted, h.interrupted]
    simp [Bool.or_assoc, eq_comm]

/-- A stage comes to one of the ends, and it is noted. -/
theorem notes_of_finishStage {s : Stage} {name : String} {rest : List String} {isLast : Bool}
    {p p' : Progress} {out err : Sink} {w w' : World} (hwords : s.words = name :: rest)
    (h : finishStage isLast p name (stageArgs s w) out err w = (.ok p', w')) :
    ∃ e, stageEnd? s p.input w = some e ∧ Notes [e] p p' := by
  unfold finishStage at h
  unfold stageEnd?
  simp only [hwords]
  cases hb : Builtin.ofName? name with
  | some b =>
    simp only [hb] at h
    refine ⟨_, rfl, ?_⟩
    cases isLast <;> cases h <;> exact ⟨by simp [StageEnd.programStatus?], rfl, by simp⟩
  | none =>
    simp only [hb, bind_apply, tryCatch_apply, map_apply] at h
    rcases hspawn : spawn name (stageArgs s w) p.input w with ⟨f | r, v⟩
    · rw [hspawn] at h
      rcases f with ⟨e, path⟩ | _ | _ | _ | _ | _
      · cases e
        case noEntry =>
          cases h
          exact ⟨.notFound, rfl, rfl, rfl, by simp⟩
        all_goals cases h
      all_goals cases h
    · rw [hspawn] at h
      have hinterrupt : [StageEnd.program r.ending].contains (.program .interrupt) =
          (r.ending == .interrupt) := by
        cases r.ending <;> rfl
      refine ⟨.program r.ending, rfl, ?_⟩
      cases isLast <;> cases h <;>
        exact ⟨rfl, by simp [StageEnd.builtinStatus?], by rw [hinterrupt]⟩

theorem notes_of_runPipelineStage {isLast : Bool} {p p' : Progress} {s : Stage} {w w' : World}
    (hne : s.words ≠ []) (h : runPipelineStage isLast p s w = (.ok p', w')) :
    ∃ e, stageEnd? s p.input (afterOpening w (opened isLast s)) = some e ∧ Notes [e] p p' := by
  obtain ⟨name, rest, hwords⟩ := List.exists_cons_of_ne_nil hne
  exact notes_of_finishStage hwords (finishStage_of_runPipelineStage hwords h).2

/-- Along a pipeline that goes well all stages come to an end, and the ends are noted. -/
theorem exists_ends_of_runPipelineFrom {stages : List Stage} (hne : stages ≠ [])
    (hwords : ∀ s ∈ stages, s.words ≠ []) {p p' : Progress} {w w' : World}
    (h : runPipelineFrom p stages w = (.ok p', w')) :
    ∃ turns ends, turns.map Turn.stage = stages ∧ Course p.input w turns w' ∧
      turns.map Turn.end? = ends.map some ∧ Notes ends p p' := by
  induction stages generalizing p w with
  | nil => exact absurd rfl hne
  | cons s stages ih =>
    obtain ⟨hs, hrest⟩ := List.forall_mem_cons.1 hwords
    cases stages with
    | nil =>
      obtain ⟨k, htaken, -, rfl⟩ := taken_of_runPipelineStage h
      obtain ⟨e, he, hnotes⟩ := notes_of_runPipelineStage hs h
      exact ⟨_, [e], rfl, .last _ rfl htaken, congrArg (fun x => [x]) he, hnotes⟩
    | cons s' stages =>
      rw [runPipelineFrom] at h
      · obtain ⟨q, u, hstage, hlater⟩ := exists_of_bind_ok h
        obtain ⟨k, htaken, hinput, rfl⟩ := taken_of_runPipelineStage hstage
        obtain ⟨e, he, hnotes⟩ := notes_of_runPipelineStage hs hstage
        obtain ⟨turns, ends, hturns, hcourse, hends, hnotes'⟩ := ih (by simp) hrest hlater
        rw [hinput rfl] at hcourse
        refine ⟨_ :: turns, e :: ends, ?_, .next _ rfl htaken hcourse, ?_, hnotes.cons hnotes'⟩
        · rw [List.map_cons, hturns]
        · rw [List.map_cons, List.map_cons, hends]
          exact congrArg (fun x => x :: _) he
      · simp

/-- When the status of a pipeline is that of its last stage, whose end is given after the ends of
the others: a program decides it, a builtin does if the last program agrees with it, and a command
that is not found has no say. -/
def Decides (ends : List StageEnd) : StageEnd → Prop
  | .program _ => True
  | .builtin status =>
    ∀ code, (ends.filterMap StageEnd.programStatus?).getLast? = some code → code = status
  | .notFound => statusOf ends = 127

theorem statusOf_concat_eq_code_iff (ends : List StageEnd) (last : StageEnd) :
    statusOf (ends ++ [last]) = last.code ↔ Decides ends last := by
  unfold statusOf
  rw [List.filterMap_append, List.filterMap_append]
  cases last with
  | program ending => simp [StageEnd.programStatus?, StageEnd.code, Decides]
  | builtin status =>
    cases h : (ends.filterMap StageEnd.programStatus?).getLast? <;>
      simp [StageEnd.programStatus?, StageEnd.builtinStatus?, StageEnd.code, Decides, h]
  | notFound =>
    simp [StageEnd.programStatus?, StageEnd.builtinStatus?, StageEnd.code, Decides, statusOf]

theorem misplaced?_eq_none {stages : List Stage}
    (h : ∀ s ∈ stages, s.words.head? ≠ some "cd" ∧ s.words.head? ≠ some "exit") :
    misplaced? stages = none := by
  unfold misplaced?
  rw [List.findSome?_eq_none_iff]
  intro s hs
  obtain ⟨hcd, hexit⟩ := h s hs
  split
  · next hwords => simp [hwords] at hcd
  · next hwords => simp [hwords] at hexit
  · rfl

/-- The status of a pipeline whose stages all come to an end is that of its last program, and of
its last builtin if there is no program, unless the user interrupts a program. It is the status of
the last stage just when that one decides it. -/
theorem runPipeline_eq_statusOf {stages : List Stage} {w : World} (hne : stages ≠ [])
    (hwords : ∀ s ∈ stages, s.words ≠ [])
    (hplaced : ∀ s ∈ stages, s.words.head? ≠ some "cd" ∧ s.words.head? ≠ some "exit")
    (hstart : startable [] w stages = true) :
    ∃ turns ends last w', turns.map Turn.stage = stages ∧ Course [] w turns w' ∧
      turns.map Turn.end? = (ends ++ [last]).map some ∧
      runPipeline stages w =
        (if .program .interrupt ∈ ends ++ [last] then .error .interrupted
          else .ok (statusOf (ends ++ [last])), w') ∧
      ((∃ v, runPipeline stages w = (.ok last.code, v)) ↔
        .program .interrupt ∉ ends ++ [last] ∧ Decides ends last) := by
  obtain ⟨p, w', hfrom⟩ := exists_runPipelineFrom (p := ⟨[], none, none, false⟩) hstart
  obtain ⟨turns, all, hturns, hcourse, hall, hnotes⟩ :=
    exists_ends_of_runPipelineFrom hne hwords hfrom
  have hnonempty : all ≠ [] := by
    rintro rfl
    rw [List.map_nil, List.map_eq_nil_iff] at hall
    rw [hall] at hturns
    exact hne hturns.symm
  obtain ⟨ends, last, rfl⟩ := (List.eq_nil_or_concat' all).resolve_left hnonempty
  have hrun : runPipeline stages w =
      (if .program .interrupt ∈ ends ++ [last] then .error .interrupted
        else .ok (statusOf (ends ++ [last])), w') := by
    rw [runPipeline_of_started (misplaced?_eq_none hplaced) hfrom, hnotes.interrupted,
      hnotes.program, hnotes.builtin, Option.or_none, Option.or_none, Bool.false_or]
    simp only [List.contains_iff_mem, statusOf]
  refine ⟨turns, ends, last, w', hturns, hcourse, hall, hrun, ?_⟩
  rw [hrun, ← statusOf_concat_eq_code_iff]
  by_cases hinterrupt : .program .interrupt ∈ ends ++ [last]
  · rw [if_pos hinterrupt]
    constructor
    · rintro ⟨v, hv⟩
      cases hv
    · rintro ⟨hnot, -⟩
      exact absurd hinterrupt hnot
  · rw [if_neg hinterrupt]
    constructor
    · rintro ⟨v, hv⟩
      exact ⟨hinterrupt, Except.ok.inj (Prod.mk.inj hv).1⟩
    · rintro ⟨-, hcode⟩
      exact ⟨w', by rw [hcode]⟩

/-- A program that fails in front of a builtin. -/
def failsFirst : List Stage := [⟨["fail", "3"], [], []⟩, ⟨["true"], [], []⟩]

theorem runPipeline_failsFirst :
    pipeline "fail 3 | true" = failsFirst ∧
    (∃ turns ends last w', turns.map Turn.stage = failsFirst ∧ Course [] withFile turns w' ∧
      turns.map Turn.end? = (ends ++ [last]).map some ∧
      runPipeline failsFirst withFile =
        (if .program .interrupt ∈ ends ++ [last] then .error .interrupted
          else .ok (statusOf (ends ++ [last])), w') ∧
      ((∃ v, runPipeline failsFirst withFile = (.ok last.code, v)) ↔
        .program .interrupt ∉ ends ++ [last] ∧ Decides ends last)) ∧
    (runPipeline failsFirst withFile).1.toOption = some 3 ∧
    ¬ Decides [.program (.exit 3)] (.builtin 0) := by
  refine ⟨by decide +kernel, ?_, by decide +kernel, ?_⟩
  · exact runPipeline_eq_statusOf (by decide) (by decide) (by decide) (by decide +kernel)
  · intro h
    exact absurd (h 3 rfl) (by decide)

end Conch.Shell
