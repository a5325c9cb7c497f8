import Mathlib
import Conch.Proofs.Shell.Activation
import Conch.Proofs.Shell.Turns

/-!
# What a pipeline changes in the shell

Builtins of a pipeline run in the shell itself. The two that change its directory or leave it may
not stand in one, so a pipeline stays in its directory and in the shell; but those that switch
virtual environments may. The variables after a pipeline are what its calls of those two, one after
the other, make of them. A pipeline that is captured changes no more than files.
-/

namespace Conch.Shell

open World Line Effect
open Text (Bytes)

theorem Reached.trans {first w w' : World} {calls calls' : List (Call × Int)}
    (h : Reached first calls w) (h' : Reached w calls' w') :
    Reached first (calls ++ calls') w' := by
  induction h' with
  | start => rwa [List.append_nil]
  | call c _ ih =>
    rw [← List.append_assoc]
    exact ih.call c
  | elsewhere _ same ih => exact ih.elsewhere same

theorem sameVariables_refl (w : World) : SameVariables w w := ⟨rfl, rfl⟩

theorem Reached.of_sameVariables {w w' : World} (h : SameVariables w w') : Reached w [] w' :=
  Reached.start.elsewhere h

/-- Without a call, no variable changes. -/
theorem Reached.sameVariables {first w : World} (h : Reached first [] w) :
    SameVariables first w := by
  generalize hcalls : ([] : List (Call × Int)) = calls at h
  induction h with
  | start => exact sameVariables_refl first
  | call => simp at hcalls
  | elsewhere _ same ih =>
    obtain ⟨henv, hsaved⟩ := ih hcalls
    exact ⟨same.1.trans henv, same.2.trans hsaved⟩

/-- No call moves the home directory. -/
theorem Call.home_next (c : Call) (w : World) : (c.next w).env["HOME"]? = w.env["HOME"]? := by
  have hreleased : (released w).env["HOME"]? = w.env["HOME"]? :=
    getElem?_released (by decide) (by decide) w
  obtain ⟨switch, args⟩ := c
  cases switch with
  | activate =>
    change (activate args w).2.env["HOME"]? = _
    rcases activate_cases args w with ⟨-, hnext⟩ | ⟨-, hnext, -⟩ | ⟨venv, path, -, -, -, hnext⟩
    · rw [hnext]
    · rw [hnext, hreleased]
    · rw [hnext, getElem?_entered (by decide) (by decide) (by decide), hreleased]
  | deactivate =>
    change (deactivate w).2.env["HOME"]? = _
    rw [(deactivate_apply w).1, hreleased]
  | cd =>
    cases args with
    | nil => rfl
    | cons arg rest =>
      change (changeDirectory arg w).2.env["HOME"]? = _
      rw [(sameVariables_changeDirectory arg w).1]

theorem Reached.home_eq {first w : World} {calls : List (Call × Int)} (h : Reached first calls w) :
    w.env["HOME"]? = first.env["HOME"]? := by
  induction h with
  | start => rfl
  | call c _ ih => rw [c.home_next, ih]
  | elsewhere _ same ih => rw [same.1, ih]

theorem expandHome_congr {w w' : World} (h : w'.env["HOME"]? = w.env["HOME"]?)
    (hhomes : w'.homes = w.homes) : w'.expandHome = w.expandHome := by
  have hhome : w'.homeOf = w.homeOf := by
    funext user
    rw [homeOf, homeOf, h, hhomes]
  funext path
  rw [expandHome, expandHome, hhome]

/-- The call of a stage that switches virtual environments. -/
def switch? (w : World) (s : Stage) : Option Call :=
  match builtin? s with
  | some .activate => some ⟨.activate, stageArgs s w⟩
  | some .deactivate => some ⟨.deactivate, stageArgs s w⟩
  | _ => none

theorem switch?_congr {w w' : World} (h : w'.expandHome = w.expandHome) :
    switch? w' = switch? w := by
  funext s
  rw [switch?, switch?, stageArgs, stageArgs, h]

/-- One stays in one's directory, and the system knows the same users. -/
def InPlace (w w' : World) : Prop := w'.cwd = w.cwd ∧ w'.homes = w.homes

/-- One comes from a world to another by some calls, and stays in place. -/
def Switches (w : World) (calls : List Call) (w' : World) : Prop :=
  InPlace w w' ∧ ∃ reached, Reached w reached w' ∧ reached.map Prod.fst = calls

theorem switches_of_same {w w' : World} (hplace : InPlace w w') (h : SameVariables w w') :
    Switches w [] w' :=
  ⟨hplace, [], .of_sameVariables h, rfl⟩

theorem Switches.trans {w v w' : World} {calls calls' : List Call} (h : Switches w calls v)
    (h' : Switches v calls' w') : Switches w (calls ++ calls') w' := by
  obtain ⟨⟨hcwd, hhomes⟩, reached, hreached, rfl⟩ := h
  obtain ⟨⟨hcwd', hhomes'⟩, reached', hreached', rfl⟩ := h'
  exact ⟨⟨hcwd'.trans hcwd, hhomes'.trans hhomes⟩, reached ++ reached', hreached.trans hreached',
    List.map_append⟩

theorem Switches.expandHome_eq {w w' : World} {calls : List Call} (h : Switches w calls w') :
    w'.expandHome = w.expandHome := by
  obtain ⟨⟨-, hhomes⟩, reached, hreached, -⟩ := h
  exact expandHome_congr hreached.home_eq hhomes

/-- A builtin that leaves the world as it is. -/
def Still (x : Step Ran) (w : World) : Prop := (x w).2 = w

theorem still_pure (ran : Ran) (w : World) : Still (pure ran) w := rfl

theorem still_get {f : World → Step Ran} {w : World} (h : Still (f w) w) : Still (get >>= f) w := h

theorem still_typeOf (arg : String) (w : World) : Still (typeOf arg) w := by
  apply still_get
  split
  · exact still_pure _ w
  · split <;> exact still_pure _ w

theorem still_workingDirectory (w : World) : Still workingDirectory w := by
  apply still_get
  split <;> exact still_pure _ w

theorem still_history (args : List String) (w : World) : Still (history args) w := by
  apply still_get
  dsimp only
  split
  · exact still_pure _ w
  · split <;> exact still_pure _ w

/-- Only the three builtins that switch something change the world. -/
theorem Builtin.run_still {b : Builtin} (h : ∀ switch : Switch, b ≠ switch.builtin)
    (args : List String) (w : World) : Still (b.run args) w := by
  cases b with
  | type =>
    cases args with
    | nil => exact still_pure _ w
    | cons a _ => exact still_typeOf a w
  | pwd => exact still_workingDirectory w
  | history => exact still_history args w
  | cd => exact absurd rfl (h .cd)
  | activate => exact absurd rfl (h .activate)
  | deactivate => exact absurd rfl (h .deactivate)
  | _ => exact still_pure _ w

theorem inPlace_released (w : World) : InPlace w (released w) := by
  unfold released
  split <;> exact ⟨rfl, rfl⟩

theorem inPlace_activate (args : List String) (w : World) : InPlace w (activate args w).2 := by
  rcases activate_cases args w with ⟨-, hnext⟩ | ⟨-, hnext, -⟩ | ⟨venv, path, -, -, -, hnext⟩
  · rw [hnext]
    exact ⟨rfl, rfl⟩
  · rw [hnext]
    exact inPlace_released w
  · rw [hnext]
    exact inPlace_released w

theorem inPlace_deactivate (w : World) : InPlace w (deactivate w).2 := by
  rw [(deactivate_apply w).1]
  exact inPlace_released w

theorem switches_call {c : Call} {w : World} (h : InPlace w (c.next w)) :
    Switches w [c] (c.next w) :=
  ⟨h, _, Reached.start.call c, rfl⟩

theorem switches_run {s : Stage} {b : Builtin} (hb : builtin? s = some b) (hcd : b ≠ .cd)
    (w : World) : Switches w (switch? w s).toList (b.run (stageArgs s w) w).2 := by
  by_cases hswitch : ∀ switch : Switch, b ≠ switch.builtin
  · have hnone : switch? w s = none := by
      rw [switch?, hb]
      cases b with
      | activate => exact absurd rfl (hswitch .activate)
      | deactivate => exact absurd rfl (hswitch .deactivate)
      | _ => rfl
    rw [hnone, show (b.run (stageArgs s w) w).2 = w from b.run_still hswitch _ w]
    exact switches_of_same ⟨rfl, rfl⟩ (sameVariables_refl w)
  · simp only [not_forall, not_not] at hswitch
    obtain ⟨switch, rfl⟩ := hswitch
    cases switch with
    | activate =>
      rw [switch?, hb]
      exact switches_call (c := ⟨.activate, stageArgs s w⟩) (inPlace_activate _ w)
    | deactivate =>
      rw [switch?, hb]
      exact switches_call (c := ⟨.deactivate, stageArgs s w⟩) (inPlace_deactivate w)
    | cd => exact absurd rfl hcd

theorem switches_spawn (name : String) (args : List String) (input : Bytes) (w : World) :
    Switches w [] (spawn name args input w).2 := by
  simp only [spawn, bind_apply, get_apply]
  by_cases hnul : (name :: args).any fun s => s.toList.contains '\x00'
  · simp only [if_pos hnul]
    exact switches_of_same ⟨rfl, rfl⟩ (sameVariables_refl w)
  · simp only [if_neg hnul]
    cases w.command name <;> exact switches_of_same ⟨rfl, rfl⟩ ⟨rfl, rfl⟩

theorem switches_work {s : Stage} {input : Bytes} {w : World} {k : Work}
    (h : work? s input w = some k) (hcd : builtin? s ≠ some .cd) :
    Switches w (switch? w s).toList k.after := by
  cases hwords : s.words with
  | nil =>
    have hswitch : switch? w s = none := by simp [switch?, builtin?, hwords]
    simp only [work?, hwords, Option.some.injEq] at h
    rw [hswitch, ← h]
    exact switches_of_same ⟨rfl, rfl⟩ (sameVariables_refl w)
  | cons name rest =>
    have hbuiltin : builtin? s = Builtin.ofName? name := by simp [builtin?, hwords]
    simp only [work?, hwords] at h
    cases hb : Builtin.ofName? name with
    | some b =>
      have hne : b ≠ .cd := fun hb' => hcd (by rw [hbuiltin, hb, hb'])
      have hrun := switches_run (hbuiltin.trans hb) hne w
      rcases hran : b.run (stageArgs s w) w with ⟨ran, v⟩
      simp only [hb, hran] at h hrun
      cases h
      rw [← List.append_nil (switch? w s).toList]
      exact hrun.trans (switches_of_same ⟨rfl, rfl⟩ ⟨rfl, rfl⟩)
    | none =>
      have hswitch : switch? w s = none := by rw [switch?, hbuiltin, hb]
      have hspawn := switches_spawn name (stageArgs s w) input w
      simp only [hb] at h
      rw [hswitch]
      rcases hresult : spawn name (stageArgs s w) input w with ⟨f | r, v⟩
      · rw [hresult] at h hspawn
        split at h
        next heq =>
          cases heq
        next path v' heq =>
          obtain ⟨-, rfl⟩ := Prod.mk.inj heq
          cases h
          exact hspawn.trans (switches_of_same ⟨rfl, rfl⟩ ⟨rfl, rfl⟩)
        next => cases h
      · simp only [hresult, Option.some.injEq] at h
        rw [← h]
        rwa [hresult] at hspawn

theorem switches_emitOut (w : World) (bytes : Bytes) (sink : Sink) :
    Switches w [] (w.emitOut bytes sink) := by
  rcases sink with _ | (_ | _) <;> exact switches_of_same ⟨rfl, rfl⟩ ⟨rfl, rfl⟩

theorem switches_emitErr (w : World) (bytes : Bytes) (sink : Sink) :
    Switches w [] (w.emitErr bytes sink) := by
  rcases sink with _ | (_ | _) <;> exact switches_of_same ⟨rfl, rfl⟩ ⟨rfl, rfl⟩

theorem Turn.switches_after (t : Turn) : Switches t.work.after [] t.after := by
  rw [Turn.after]
  split
  · exact (switches_emitErr _ _ _).trans (switches_emitOut _ _ _)
  · exact switches_of_same ⟨rfl, rfl⟩ ⟨rfl, rfl⟩

theorem Turn.Taken.switches {t : Turn} (h : t.Taken) (hcd : builtin? t.stage ≠ some .cd) :
    Switches t.before (switch? t.before t.stage).toList t.after := by
  have hstart : Switches t.before [] t.start := switches_of_same ⟨rfl, rfl⟩ ⟨rfl, rfl⟩
  have hwork := switches_work h.works hcd
  rw [switch?_congr hstart.expandHome_eq] at hwork
  simpa using (hstart.trans hwork).trans t.switches_after

/-- The turns of a pipeline switch environments as its stages say, one after the other. -/
theorem Course.switches {input : Bytes} {w w' : World} {turns : List Turn}
    (h : Course input w turns w') (hcd : ∀ t ∈ turns, builtin? t.stage ≠ some .cd) :
    Switches w (turns.filterMap fun t => switch? w t.stage) w' := by
  induction h with
  | last t _ taken =>
    have hturn := taken.switches (hcd t List.mem_cons_self)
    cases hswitch : switch? t.before t.stage <;> simpa [hswitch] using hturn
  | next t _ taken _ ih =>
    obtain ⟨hfirst, hrest⟩ := List.forall_mem_cons.mp hcd
    have hturn := taken.switches hfirst
    have hturns := ih hrest
    rw [switch?_congr hturn.expandHome_eq] at hturns
    have hboth := hturn.trans hturns
    cases hswitch : switch? t.before t.stage <;> simpa [hswitch] using hboth

theorem builtin?_ne_cd_of_misplaced? {stages : List Stage} (h : misplaced? stages = none) :
    ∀ s ∈ stages, builtin? s ≠ some .cd := by
  intro s hs hcd
  have hnone := List.findSome?_eq_none_iff.mp h s hs
  obtain ⟨name, hname, hb⟩ := Option.bind_eq_some_iff.mp hcd
  have hname' : name = "cd" := by
    have hfound := List.find?_some hb
    exact (beq_iff_eq.mp hfound).symm
  cases hwords : s.words with
  | nil => simp [hwords] at hname
  | cons n rest =>
    obtain rfl : n = name := by simpa [hwords] using hname
    rw [hwords, hname'] at hnone
    cases hnone

theorem switches_runPipeline {stages : List Stage} (hlength : 2 ≤ stages.length) {code : Int}
    {w w' : World} (h : runPipeline stages w = (.ok code, w')) :
    Switches w (if (misplaced? stages).isSome then [] else stages.filterMap (switch? w)) w' := by
  have hne : stages ≠ [] := by
    rintro rfl
    simp at hlength
  rw [runPipeline, if_pos (show stages.length > 1 by omega), if_neg (by simpa using hne)] at h
  cases hplaced : misplaced? stages with
  | some name =>
    rw [hplaced] at h
    cases h
    exact switches_of_same ⟨rfl, rfl⟩ ⟨rfl, rfl⟩
  | none =>
    rw [hplaced] at h
    obtain ⟨p, v, hrun, hrest⟩ := exists_of_bind_ok h
    obtain ⟨turns, hturns, hcourse⟩ := course_of_runPipelineFrom hne hrun
    have hv : v = w' := by
      cases hinterrupted : p.interrupted <;> rw [hinterrupted] at hrest <;> cases hrest
      rfl
    have hcd : ∀ t ∈ turns, builtin? t.stage ≠ some .cd := by
      intro t ht
      exact builtin?_ne_cd_of_misplaced? hplaced t.stage (hturns ▸ List.mem_map_of_mem ht)
    have hswitches := hcourse.switches hcd
    rw [← hturns, List.filterMap_map, ← hv]
    exact hswitches

theorem bind_still {α β : Type} {x : Act α} {f : α → Act β} (hx : ∀ w, (x w).2 = w)
    (hf : ∀ a w, (f a w).2 = w) (w : World) : ((x >>= f) w).2 = w := by
  rw [bind_apply]
  rcases hresult : x w with ⟨_ | a, v⟩ <;> obtain rfl : v = w := by simpa [hresult] using hx w
  · rfl
  · exact hf a v

theorem capturedText_still (bytes : Bytes) (w : World) : (capturedText bytes w).2 = w := by
  rw [capturedText]
  cases Text.decode bytes <;> rfl

/-- Capturing a pipeline changes no more than files, however it ends. -/
theorem capturePipeline_only_files (stages : List Stage) (w : World) :
    ∃ files, (capturePipeline stages w).2 = { w with files := files } := by
  unfold capturePipeline
  dsimp only
  split
  · exact ⟨w.files, rfl⟩
  · rw [bind_apply, runShell_apply]
    by_cases hnul : (render (stages.map (·.words))).toList.contains '\x00'
    · rw [if_pos hnul]
      exact ⟨w.files, rfl⟩
    · rw [if_neg hnul]
      dsimp only
      split
      · exact ⟨_, rfl⟩
      · refine ⟨_, bind_still (capturedText_still _) (fun out => ?_) _⟩
        exact bind_still (capturedText_still _) fun err _ => rfl

/-- A pipeline of two stages or more stays in the shell and in its directory. Captured, it changes
no variable either; run for the user, its variables are those that the calls of `activate` and
`deactivate` among its stages lead to, in their order, and the same as before if there is none. -/
theorem pipeline_changes_only_switches {command : String} (h : 2 ≤ (pipeline command).length)
    (w : World) :
    ((capture command w).2.cwd = w.cwd ∧ SameVariables w (capture command w).2) ∧
    ∀ status w', run command w = (.ok status, w') →
      status.leaves = false ∧ w'.cwd = w.cwd ∧
      (∃ reached, Reached w reached w' ∧ reached.map Prod.fst =
        if (misplaced? (pipeline command)).isSome then []
        else (pipeline command).filterMap (switch? w)) ∧
      ((∀ s ∈ pipeline command, builtin? s ≠ some .activate ∧ builtin? s ≠ some .deactivate) →
        SameVariables w w') := by
  obtain ⟨s, t, rest, hstages⟩ : ∃ s t rest, pipeline command = s :: t :: rest := by
    match hp : pipeline command, h with
    | s :: t :: rest, _ => exact ⟨s, t, rest, rfl⟩
  constructor
  · obtain ⟨files, hfiles⟩ := capturePipeline_only_files (pipeline command) w
    have hcapture : capture command w = capturePipeline (pipeline command) w := by
      rw [capture, hstages]
    rw [hcapture, hfiles]
    exact ⟨rfl, rfl, rfl⟩
  · intro status w' hrun
    have hpipeline : run command = (do return ⟨false, ← runPipeline (pipeline command)⟩) := by
      rw [run, hstages]
    rw [hpipeline] at hrun
    obtain ⟨code, v, hcode, hstatus⟩ := exists_of_bind_ok hrun
    cases hstatus
    obtain ⟨⟨hcwd, -⟩, reached, hreached, hcalls⟩ := switches_runPipeline h hcode
    refine ⟨rfl, hcwd, ⟨reached, hreached, hcalls⟩, fun hnone => ?_⟩
    have hnil : (pipeline command).filterMap (switch? w) = [] := by
      refine List.filterMap_eq_nil_iff.mpr fun s hs => ?_
      obtain ⟨hactivate, hdeactivate⟩ := hnone s hs
      rw [switch?]
      split <;> simp_all
    rw [hnil, ite_self, List.map_eq_nil_iff] at hcalls
    rw [hcalls] at hreached
    exact hreached.sameVariables

/-- `activate` in a pipeline switches the environment of the shell. -/
theorem activate_in_pipeline_switches :
    ∃ reached w', Reached withEnvironments reached w' ∧
      reached.map Prod.fst = [⟨.activate, ["v"]⟩] ∧
      run "activate v | cat" withEnvironments = (.ok ⟨false, 0⟩, w') ∧
      withEnvironments.env["VIRTUAL_ENV"]? = none ∧
      w'.env["VIRTUAL_ENV"]? = some "/ROOT/work/v" := by
  have hpipeline : pipeline "activate v | cat" =
    [⟨["activate", "v"], [], []⟩, ⟨["cat"], [], []⟩] := by decide
  have hok : (run "activate v | cat" withEnvironments).1 = .ok ⟨false, 0⟩ := by decide +kernel
  have hactive : (run "activate v | cat" withEnvironments).2.env["VIRTUAL_ENV"]? =
    some "/ROOT/work/v" := by decide +kernel
  have hlength : 2 ≤ (pipeline "activate v | cat").length := by
    rw [hpipeline]
    decide
  obtain ⟨-, hkept⟩ := pipeline_changes_only_switches hlength withEnvironments
  rcases hrun : run "activate v | cat" withEnvironments with ⟨result, w'⟩
  rw [hrun] at hok hactive
  obtain rfl : result = .ok ⟨false, 0⟩ := hok
  obtain ⟨-, -, ⟨reached, hreached, hcalls⟩, -⟩ := hkept _ _ hrun
  refine ⟨reached, w', hreached, ?_, rfl, by decide, hactive⟩
  have hargs : stageArgs ⟨["activate", "v"], [], []⟩ withEnvironments = ["v"] := by decide
  have hmisplaced : misplaced? [⟨["activate", "v"], [], []⟩, ⟨["cat"], [], []⟩] = none := by decide
  have hactivate : switch? withEnvironments ⟨["activate", "v"], [], []⟩ =
    some ⟨.activate, ["v"]⟩ := by rw [← hargs]; rfl
  have hcat : switch? withEnvironments ⟨["cat"], [], []⟩ = none := rfl
  rw [hcalls, hpipeline, hmisplaced]
  simp [hactivate, hcat]

end Conch.Shell
