import Mathlib
import Conch.Proofs.Effect
import Conch.Proofs.Text.Utf8
import Conch.Shell.Run
import Conch.World.Setup

/-!
# Capturing a command against running it

A command that is captured should show what it shows when it runs: the same status, as text what
would have reached the terminal, and the same world but for the terminal. For a command of one stage
without redirections this is settled here: capturing mirrors running but for five kinds of commands.
These are builtins that announce a failure on the terminal itself, commands that are not found and
whose text is more than their name, commands that the system refuses to start, programs that take
longer than captured ones may, and programs that are interrupted after they wrote something.
-/

namespace Conch.Shell

open World Line Effect
open Text (Bytes)

/-- The terminal shows the same in both worlds. -/
def SameTerminal (w w' : World) : Prop := w'.out = w.out ∧ w'.err = w.err

theorem sameTerminal_refl (w : World) : SameTerminal w w := ⟨rfl, rfl⟩

theorem SameTerminal.trans {w w' w'' : World} (h : SameTerminal w w') (h' : SameTerminal w' w'') :
    SameTerminal w w'' := ⟨h'.1.trans h.1, h'.2.trans h.2⟩

@[simp]
theorem printOut_nil (w : World) : w.printOut [] = w := by simp [printOut]

/-- What is printed tells apart two worlds that are the same otherwise. -/
theorem print_injective {w : World} {a a' b b' : Bytes}
    (h : (w.printOut a).printErr b = (w.printOut a').printErr b') : a = a' ∧ b = b' := by
  have hout := congrArg World.out h
  have herr := congrArg World.err h
  simp only [printOut, printErr, List.append_cancel_left_eq] at hout herr
  exact ⟨hout, herr⟩

@[simp]
theorem encode_empty : Text.encode "" = [] := rfl

/-- A builtin that prints nothing by itself and has nothing to show on the terminal. -/
def Calm (x : Step Ran) (w : World) : Prop := SameTerminal w (x w).2 ∧ (x w).1.shown = ""

theorem calm_pure {ran : Ran} (h : ran.shown = "") (w : World) : Calm (pure ran) w :=
  ⟨sameTerminal_refl w, h⟩

theorem calm_get {f : World → Step Ran} {w : World} (h : Calm (f w) w) : Calm (get >>= f) w := h

theorem calm_bind {α : Type} {x : Step α} {f : α → Step Ran} {w : World}
    (hx : SameTerminal w (x w).2) (h : Calm (f (x w).1) (x w).2) : Calm (x >>= f) w :=
  ⟨hx.trans h.1, h.2⟩

theorem calm_typeOf (arg : String) (w : World) : Calm (typeOf arg) w := by
  apply calm_get
  split
  · exact calm_pure rfl w
  · split <;> exact calm_pure rfl w

theorem calm_workingDirectory (w : World) : Calm workingDirectory w := by
  apply calm_get
  split <;> exact calm_pure rfl w

theorem calm_changeDirectory (arg : String) (w : World) : Calm (changeDirectory arg) w := by
  apply calm_get
  dsimp only
  split
  · exact calm_pure rfl w
  · split
    · exact calm_bind ⟨rfl, rfl⟩ (calm_pure rfl _)
    · exact calm_pure rfl w

theorem calm_history (args : List String) (w : World) : Calm (history args) w := by
  apply calm_get
  dsimp only
  -- first whether the file can be read, then whether it is text
  split
  · exact calm_pure rfl w
  · split <;> exact calm_pure rfl w

theorem calm_about (args : List String) (w : World) : Calm (pure (about args)) w := by
  apply calm_pure
  unfold about
  split
  · rfl
  · split <;> rfl

theorem calm_deactivate {w : World} (h : w.env.contains "VIRTUAL_ENV" = true) :
    Calm deactivate w := by
  apply calm_get
  rw [if_pos h]
  exact calm_bind ⟨rfl, rfl⟩ (calm_pure rfl _)

theorem get_bind_apply {α : Type} (f : World → Step α) (w : World) :
    (get >>= f : Step α) w = f w w := rfl

theorem deactivate_of_not_contains {w : World} (h : w.env.contains "VIRTUAL_ENV" = false) :
    deactivate w = (.showing "deactivate: no virtual environment is active\n" 1, w) := by
  rw [deactivate, get_bind_apply, if_neg (by simp [h])]
  rfl

/-- The virtual environment that `activate` is asked for. -/
def environmentPath (w : World) : List String → String
  | [] => ".venv"
  | a :: _ => w.expandHome a

theorem calm_activate {args : List String} {w : World}
    (h : ∀ venv, absolute? w (environmentPath w args) = some venv →
      w.files.isDirectoryAt w.cwd (Path.join venv "bin") = true) :
    Calm (activate args) w := by
  apply calm_get
  dsimp only
  split
  · exact calm_pure rfl w
  · rename_i venv habs
    rw [if_neg (by simp [h venv habs])]
    split
    · rename_i hcontains
      apply calm_bind (calm_deactivate hcontains).1
      apply calm_get
      split
      · exact calm_pure rfl _
      · exact calm_bind ⟨rfl, rfl⟩ (calm_pure rfl _)
    · apply calm_get
      split
      · exact calm_pure rfl _
      · exact calm_bind ⟨rfl, rfl⟩ (calm_pure rfl _)

theorem activate_of_not_isDirectory {args : List String} {w : World} {venv : String}
    (habs : absolute? w (environmentPath w args) = some venv)
    (hbin : w.files.isDirectoryAt w.cwd (Path.join venv "bin") = false) :
    activate args w =
      (.showing ("activate: '" ++ venv ++ "' is not a valid virtual environment\n") 1, w) := by
  unfold environmentPath at habs
  cases args <;>
  · simp only [activate, get_bind_apply, habs, hbin, Bool.not_false, if_true]
    rfl

/-- Failures that a builtin announces on the terminal, wherever its streams go. -/
def Announces (w : World) : Builtin → List String → Prop
  | .deactivate, _ => w.env.contains "VIRTUAL_ENV" = false
  | .activate, args => ∃ venv, absolute? w (environmentPath w args) = some venv ∧
      w.files.isDirectoryAt w.cwd (Path.join venv "bin") = false
  | _, _ => False

theorem Builtin.run_of_not_announces {b : Builtin} {args : List String} {w : World}
    (h : ¬ Announces w b args) : Calm (b.run args) w := by
  cases b with
  | exit => exact calm_pure rfl w
  | echo => exact calm_pure rfl w
  | type =>
    cases args with
    | nil => exact calm_pure rfl w
    | cons a _ => exact calm_typeOf a w
  | pwd => exact calm_workingDirectory w
  | cd =>
    cases args with
    | nil => exact calm_pure rfl w
    | cons a _ => exact calm_changeDirectory a w
  | history => exact calm_history args w
  | about => exact calm_about args w
  | activate =>
    apply calm_activate
    intro venv habs
    by_contra hbin
    exact h ⟨venv, habs, by simpa using hbin⟩
  | deactivate => exact calm_deactivate (by simpa [Announces] using h)
  | true => exact calm_pure rfl w
  | false => exact calm_pure rfl w

theorem Builtin.run_of_announces {b : Builtin} {args : List String} {w : World}
    (h : Announces w b args) : ∃ text, text ≠ "" ∧ b.run args w = (.showing text 1, w) := by
  cases b with
  | activate =>
    obtain ⟨venv, habs, hbin⟩ := h
    exact ⟨_, by simp, activate_of_not_isDirectory habs hbin⟩
  | deactivate => exact ⟨_, by decide, deactivate_of_not_contains h⟩
  | _ => exact h.elim

def builtin? (s : Stage) : Option Builtin := s.words.head?.bind Builtin.ofName?

/-- The words after the first, as a command sees them. -/
def stageArgs (s : Stage) (w : World) : List String := (s.words.drop 1).map w.expandHome

/-- Starts the program of a stage without input. -/
def start (s : Stage) : Act Finished := do
  let args ← expandArgs (s.words.drop 1)
  spawn (← stageCommand s) args []

/-- The status and the message of a run whose program the system does not start. -/
def refusal? (name : String) : Fault → Option (Int × String)
  | .os .noEntry _ => some (127, name ++ ": command not found\n")
  | .os .denied _ => some (126, name ++ ": Permission denied\n")
  | .os e path => some (126, name ++ ": " ++ Fault.osText e path ++ "\n")
  | _ => none

theorem expandArgs_apply (args : List String) (w : World) :
    expandArgs args w = (.ok (args.map w.expandHome), w) := rfl

theorem stageCommand_cons {s : Stage} {name : String} {rest : List String}
    (h : s.words = name :: rest) (w : World) : stageCommand s w = (.ok name, w) := by
  rw [stageCommand, h]
  rfl

theorem stageCommand_nil {s : Stage} (h : s.words = []) (w : World) :
    stageCommand s w = (.error .noCommand, w) := by
  rw [stageCommand, h]
  rfl

theorem sameTerminal_spawn (name : String) (args : List String) (input : Bytes) (w : World) :
    SameTerminal w (spawn name args input w).2 := by
  simp only [spawn, bind_apply, get_apply]
  by_cases hnul : (name :: args).any fun s => s.toList.contains '\x00'
  · simp only [if_pos hnul]
    exact sameTerminal_refl w
  · simp only [if_neg hnul]
    cases w.command name with
    | error e => exact sameTerminal_refl w
    | ok program => exact ⟨rfl, rfl⟩

theorem sameTerminal_of_start {s : Stage} {w w' : World} {result : Except Fault Finished}
    (h : start s w = (result, w')) : SameTerminal w w' := by
  have hsame : SameTerminal w (start s w).2 := by
    cases hwords : s.words with
    | nil =>
      simp only [start, bind_apply, expandArgs_apply, stageCommand_nil hwords]
      exact sameTerminal_refl w
    | cons name rest =>
      simp only [start, bind_apply, expandArgs_apply, stageCommand_cons hwords]
      exact sameTerminal_spawn _ _ _ w
  rwa [h] at hsame

/-- What running makes of a program whose streams have been given their places: its output goes
there, and a program that the system does not start has a status and a message of its own. -/
theorem runProgramStage_of_openBoth {s : Stage} {w u w' : World} {out err : Sink}
    (hprime : primeStage s w = (.ok (), u)) (hopen : openBoth s u = (.ok (.ok (out, err)), w'))
    (hhome : w'.expandHome = w.expandHome) :
    runProgramStage s w = match start s w' with
      | (.ok r, v) => (.ok r.ending.status, (v.emitOut r.out out).emitErr r.err err)
      | (.error f, v) => match refusal? (s.words.headD "") f with
        | some (code, message) => (.ok code, v.printErr (Text.encode message))
        | none => (.error f, v) := by
  simp only [runProgramStage, start, bind_apply, expandArgs_apply, hprime, hopen, hhome,
    tryCatch_apply, map_apply]
  cases hwords : s.words with
  | nil => simp only [stageCommand_nil hwords, refusal?]
  | cons name rest =>
    simp only [stageCommand_cons hwords, List.headD_cons]
    rcases spawn name _ [] w' with ⟨f | r, v⟩
    · rcases f with ⟨e, path⟩ | _ | _ | _ | _ | _ | _
      · cases e <;> rfl
      all_goals rfl
    · rfl

section

variable {s : Stage} (hout : s.out = []) (herr : s.err = [])
include hout herr

/-- Without redirections both streams reach the terminal. -/
theorem runProgramStage_apply (w : World) :
    runProgramStage s w = match start s w with
      | (.ok r, w') => (.ok r.ending.status, (w'.printOut r.out).printErr r.err)
      | (.error f, w') => match refusal? (s.words.headD "") f with
        | some (code, message) => (.ok code, w'.printErr (Text.encode message))
        | none => (.error f, w') := by
  have hprime : primeStage s w = (.ok (), w) := by
    rw [primeStage, hout, herr]
    rfl
  have hopen : openBoth s w = (.ok (.ok (.terminal, .terminal)), w) := by
    rw [openBoth, hout, herr]
    rfl
  exact runProgramStage_of_openBoth hprime hopen rfl

theorem runBuiltinStage_apply {b : Builtin} {ran : Ran} {w w' : World}
    (h : b.run (stageArgs s w) w = (ran, w')) :
    runBuiltinStage b s w = (.ok ⟨ran.leaves, ran.status⟩,
      ((w'.printOut (Text.encode ran.shown)).printOut (Text.encode ran.out)).printErr
        (Text.encode ran.err)) := by
  unfold stageArgs at h
  simp only [runBuiltinStage, bind_apply, expandArgs_apply, primeStage, hout, herr,
    primeEarlier, pure_apply, activeSink, List.getLast?_nil, Builtin.perform, get_apply, h,
    checkClosed, Sink.refuses, Bool.false_eq_true, if_false]
  rfl

theorem captureSingle_builtin {b : Builtin} {ran : Ran} {w w' : World} (hb : builtin? s = some b)
    (h : b.run (stageArgs s w) w = (ran, w')) (command : String) :
    captureSingle command s w =
      (.ok ⟨ran.status, ran.out, ran.err⟩, w'.printOut (Text.encode ran.shown)) := by
  unfold builtin? at hb
  unfold stageArgs at h
  simp only [captureSingle, hb, hout, herr, List.isEmpty_nil, Bool.and_self, if_true, bind_apply,
    expandArgs_apply, get_apply, h]
  rfl

end

/-- Bytes that are the code of a text without carriage returns. -/
def IsPlainText (bytes : Bytes) : Prop :=
  ∃ text : String, '\r' ∉ text.toList ∧ bytes = Text.encode text

theorem runShell_apply (line : String) (w : World) :
    runShell line w =
      if line.toList.contains '\x00' then (.error .embeddedNul, w)
      else
        let r := w.shell ⟨["-c", line], [], w.cwd, w.env, w.files⟩
        (.ok r, { w with files := r.files }) := by
  simp only [runShell, bind_apply, get_apply]
  split <;> rfl

theorem capturedText_encode {text : String} (h : '\r' ∉ text.toList) (w : World) :
    capturedText (Text.encode text) w = (.ok text, w) := by
  rw [capturedText, Text.decode_encode]
  simp only [Text.unifyNewlines_eq_self h, String.ofList_toList]
  rfl

/-! ## Capturing as a mirror -/

/-- Capturing a command shows what running it shows. When the command runs to its end, the status is
the same, the texts are what running adds to the terminal, nothing reaches the terminal, and the
worlds are the same otherwise. A fault that stops the run stops the capture as well. -/
def Mirrors (command : String) (w : World) : Prop :=
  match run command w with
  | (.ok status, ran) =>
    ∃ out err quiet, capture command w = (.ok ⟨status.code, out, err⟩, quiet) ∧
      SameTerminal w quiet ∧
      ran = (quiet.printOut (Text.encode out)).printErr (Text.encode err)
  | (.error fault, ran) => capture command w = (.error fault, ran) ∧ SameTerminal w ran

/-- The commands of one stage that capturing does not mirror. -/
def Strays (command : String) (s : Stage) (w : World) : Prop :=
  match builtin? s with
  | some b => Announces w b (stageArgs s w)
  | none =>
    match (start s w).1 with
    | .ok r => r.stopped timeLimit ≠ none ∨ r.ending = .interrupt ∧ ¬ (r.out = [] ∧ r.err = [])
    | .error (.os .noEntry _) => s.words.head? ≠ some command
    | .error (.os _ _) => True
    | .error _ => False

section

variable {command : String} {w : World}

theorem mirrors_iff_of_ok {status : Status} {c : Captured} {ran quiet : World}
    (hrun : run command w = (.ok status, ran)) (hcapture : capture command w = (.ok c, quiet)) :
    Mirrors command w ↔ c.code = status.code ∧ SameTerminal w quiet ∧
      ran = (quiet.printOut (Text.encode c.out)).printErr (Text.encode c.err) := by
  simp only [Mirrors, hrun, hcapture]
  constructor
  · rintro ⟨out, err, quiet', heq, hsame, hran⟩
    cases heq
    exact ⟨rfl, hsame, hran⟩
  · rintro ⟨hcode, hsame, hran⟩
    exact ⟨c.out, c.err, quiet, by rw [← hcode], hsame, hran⟩

theorem not_mirrors_of_error {status : Status} {f : Fault} {ran quiet : World}
    (hrun : run command w = (.ok status, ran)) (hcapture : capture command w = (.error f, quiet)) :
    ¬ Mirrors command w := by
  simp only [Mirrors, hrun, hcapture]
  rintro ⟨out, err, quiet', heq, -⟩
  cases heq

variable {s : Stage} (hs : pipeline command = [s])
include hs

theorem run_of_stage : run command w = runSingle s w := by
  rw [run, hs]

theorem capture_of_stage : capture command w = captureSingle command s w := by
  rw [capture, hs]

theorem run_of_builtin {b : Builtin} (hb : builtin? s = some b) :
    run command w = runBuiltinStage b s w := by
  unfold builtin? at hb
  rw [run_of_stage hs, runSingle, hb]

variable (hout : s.out = []) (herr : s.err = [])
include hout herr

theorem mirrors_iff_of_builtin {b : Builtin} (hb : builtin? s = some b) :
    Mirrors command w ↔ ¬ Announces w b (stageArgs s w) := by
  rcases hran : b.run (stageArgs s w) w with ⟨ran, w'⟩
  have hrun := (run_of_builtin hs hb).trans (runBuiltinStage_apply hout herr hran)
  have hcapture := (capture_of_stage hs).trans (captureSingle_builtin hout herr hb hran command)
  rw [mirrors_iff_of_ok hrun hcapture]
  constructor
  · rintro ⟨-, ⟨hsame, -⟩, -⟩ hannounces
    obtain ⟨text, hne, htext⟩ := Builtin.run_of_announces hannounces
    cases hran.symm.trans htext
    have hnil : Text.encode text = Text.encode "" := by
      simpa [printOut, Ran.showing] using hsame
    exact hne (Text.encode_injective hnil)
  · intro hannounces
    obtain ⟨hsame, hshown⟩ := Builtin.run_of_not_announces hannounces
    rw [hran] at hsame hshown
    rw [hshown, encode_empty, printOut_nil]
    exact ⟨rfl, hsame, rfl⟩

variable (hb : builtin? s = none)
include hb

theorem run_of_program (w : World) :
    run command w = match start s w with
      | (.ok r, w') => (.ok ⟨false, r.ending.status⟩, (w'.printOut r.out).printErr r.err)
      | (.error f, w') => match refusal? (s.words.headD "") f with
        | some (code, message) => (.ok ⟨false, code⟩, w'.printErr (Text.encode message))
        | none => (.error f, w') := by
  have hb' := hb
  unfold builtin? at hb'
  simp only [run_of_stage hs, runSingle, hb', bind_apply, runProgramStage_apply hout herr]
  rcases start s w with ⟨f | r, w'⟩
  · dsimp only
    cases refusal? (s.words.headD "") f <;> rfl
  · rfl

/-- What capturing makes of a program: a command that is not found is named by its whole text. -/
theorem capture_of_program (w : World) :
    capture command w = match start s w with
      | (.ok r, w') => capturedOutcome (s.words.headD "" :: stageArgs s w) r w'
      | (.error (.os .noEntry _), w') => (.ok ⟨127, "", command ++ ": command not found\n"⟩, w')
      | (.error f, w') => (.error f, w') := by
  have hb' := hb
  unfold builtin? at hb'
  simp only [capture_of_stage hs, captureSingle, hb', start, bind_apply, expandArgs_apply,
    primeStage, hout, herr, primeEarlier, pure_apply, tryCatch_apply, map_apply]
  cases hwords : s.words with
  | nil => simp only [stageCommand_nil hwords]
  | cons name rest =>
    simp only [stageCommand_cons hwords, stageArgs, hwords]
    rcases spawn name _ [] w with ⟨f | r, w'⟩
    · rcases f with ⟨e, path⟩ | _ | _ | _ | _ | _ | _
      · cases e <;> rfl
      all_goals rfl
    · rfl

theorem mirrors_iff_of_start_ok {r : Finished} {w' : World} (hstart : start s w = (.ok r, w'))
    (hplain : IsPlainText r.out ∧ IsPlainText r.err) :
    Mirrors command w ↔
      ¬ (r.stopped timeLimit ≠ none ∨ r.ending = .interrupt ∧ ¬ (r.out = [] ∧ r.err = [])) := by
  have hsame : SameTerminal w w' := sameTerminal_of_start hstart
  have hrun := run_of_program hs hout herr hb w
  have hcapture := capture_of_program hs hout herr hb w
  simp only [hstart, capturedOutcome] at hrun hcapture
  cases hstopped : r.stopped timeLimit with
  | some files =>
    rw [hstopped] at hcapture
    have hnot : ¬ Mirrors command w := not_mirrors_of_error hrun hcapture
    simpa using hnot
  | none =>
    rw [hstopped] at hcapture
    by_cases hending : r.ending = .interrupt
    · simp only [hending, beq_self_eq_true, if_true, pure_apply] at hcapture
      rw [mirrors_iff_of_ok hrun hcapture]
      simp only [hending, Ending.status, encode_empty, ne_eq, not_true_eq_false, false_or, true_and,
        not_not]
      constructor
      · rintro ⟨-, hprint⟩
        exact print_injective hprint
      · rintro ⟨hnil, hnil'⟩
        rw [hnil, hnil']
        exact ⟨hsame, rfl⟩
    · obtain ⟨⟨out, hcr, hbytes⟩, err, hcr', hbytes'⟩ := hplain
      simp only [beq_eq_false_iff_ne.mpr hending, Bool.false_eq_true, if_false, hbytes, hbytes',
        bind_apply, capturedText_encode hcr, capturedText_encode hcr', pure_apply] at hcapture
      rw [mirrors_iff_of_ok hrun hcapture]
      simp [hending, hsame, hbytes, hbytes']

theorem mirrors_iff_of_not_found {path : Option String} {w' : World}
    (hstart : start s w = (.error (.os .noEntry path), w')) :
    Mirrors command w ↔ s.words.head? = some command := by
  have hsame : SameTerminal w w' := sameTerminal_of_start hstart
  have hrun := run_of_program hs hout herr hb w
  have hcapture := capture_of_program hs hout herr hb w
  simp only [hstart] at hrun hcapture
  cases hwords : s.words with
  | nil =>
    simp only [start, bind_apply, expandArgs_apply, stageCommand_nil hwords] at hstart
    cases hstart
  | cons name rest =>
    simp only [hwords, List.headD_cons, refusal?] at hrun
    rw [← printOut_nil w'] at hrun
    rw [mirrors_iff_of_ok hrun hcapture, List.head?_cons, Option.some.injEq]
    constructor
    · rintro ⟨-, -, hprint⟩
      have hbytes := (print_injective hprint).2
      exact (String.append_left_inj _).mp (Text.encode_injective hbytes)
    · rintro rfl
      exact ⟨rfl, hsame, rfl⟩

theorem not_mirrors_of_refused {e : Errno} {path : Option String} {w' : World}
    (hstart : start s w = (.error (.os e path), w')) (he : e ≠ .noEntry) :
    ¬ Mirrors command w := by
  have hrun := run_of_program hs hout herr hb w
  have hcapture := capture_of_program hs hout herr hb w
  simp only [hstart] at hrun hcapture
  cases e with
  | noEntry => exact absurd rfl he
  | _ => exact not_mirrors_of_error hrun hcapture

theorem mirrors_of_fault {f : Fault} {w' : World} (hstart : start s w = (.error f, w'))
    (hf : ∀ e path, f ≠ .os e path) : Mirrors command w := by
  have hsame : SameTerminal w w' := sameTerminal_of_start hstart
  have hrun := run_of_program hs hout herr hb w
  have hcapture := capture_of_program hs hout herr hb w
  simp only [hstart] at hrun hcapture
  cases f with
  | os e path => exact absurd rfl (hf e path)
  | _ =>
    unfold Mirrors
    rw [hrun]
    exact ⟨hcapture, hsame⟩

end

/-- Capturing a command of one stage without redirections shows what running it shows, but for the
commands that stray. What programs write has to be text without carriage returns. -/
theorem capture_mirrors_run_iff {command : String} {s : Stage} {w : World}
    (hs : pipeline command = [s]) (hout : s.out = []) (herr : s.err = [])
    (hplain : builtin? s = none → ∀ r, (start s w).1 = .ok r →
      IsPlainText r.out ∧ IsPlainText r.err) :
    Mirrors command w ↔ ¬ Strays command s w := by
  unfold Strays
  cases hb : builtin? s with
  | some b => exact mirrors_iff_of_builtin hs hout herr hb
  | none =>
    rcases hstart : start s w with ⟨f | r, w'⟩
    · have hfault := mirrors_of_fault hs hout herr hb hstart
      cases f with
      | os e path =>
        have hrefused := not_mirrors_of_refused hs hout herr hb hstart
        cases e with
        | noEntry => simpa using mirrors_iff_of_not_found hs hout herr hb hstart
        | _ => simpa using hrefused (by decide)
      | _ => simpa using hfault (by simp)
    · exact mirrors_iff_of_start_ok hs hout herr hb hstart (hplain hb r (by rw [hstart]))

/-- A world with a file `x` that has no leave to be run. -/
def unrunnable : World := { Setup.plain ["ROOT"] with files := [("x", "X\n")] : Setup }.world

/-- A program that writes to both streams and fails is mirrored. A file without leave to be run is
not: running it says so and gives a status, and capturing it breaks off. -/
theorem mirrors_failing_not_unrunnable :
    Mirrors "both 'a b' c 3" unrunnable ∧ ¬ Mirrors "./x" unrunnable := by
  constructor
  · have hs : pipeline "both 'a b' c 3" = [⟨["both", "a b", "c", "3"], [], []⟩] := by
      decide
    have hb : builtin? ⟨["both", "a b", "c", "3"], [], []⟩ = none := by decide
    have hfields : (start ⟨["both", "a b", "c", "3"], [], []⟩ unrunnable).1.map
        (fun r => (r.out, r.err, r.ending, (r.stopped timeLimit).isNone)) =
        .ok (Text.encode "a b\n", Text.encode "c\n", .exit 3, true) := by decide
    cases hstart : (start ⟨["both", "a b", "c", "3"], [], []⟩ unrunnable).1 with
    | error f => simp only [hstart, Except.map, reduceCtorEq] at hfields
    | ok r =>
      simp only [hstart, Except.map, Except.ok.injEq, Prod.mk.injEq] at hfields
      have hplain : IsPlainText r.out ∧ IsPlainText r.err :=
        ⟨⟨_, by decide, hfields.1⟩, _, by decide, hfields.2.1⟩
      rw [capture_mirrors_run_iff hs rfl rfl (by
        rw [hstart]
        rintro - r' ⟨⟩
        exact hplain)]
      simp [Strays, hb, hstart, hfields.2.2.1, Option.isNone_iff_eq_none.mp hfields.2.2.2]
  · have hs : pipeline "./x" = [⟨["./x"], [], []⟩] := by decide
    have hb : builtin? ⟨["./x"], [], []⟩ = none := by decide
    have hfault : (start ⟨["./x"], [], []⟩ unrunnable).1.map
        (fun r => (r.out, r.err, r.ending)) = .error (.os .denied (some "./x")) := by
      decide
    cases hstart : (start ⟨["./x"], [], []⟩ unrunnable).1 with
    | ok r => simp only [hstart, Except.map, reduceCtorEq] at hfault
    | error f =>
      simp only [hstart, Except.map, Except.error.injEq] at hfault
      rw [capture_mirrors_run_iff hs rfl rfl (by
        rw [hstart]
        rintro - r' ⟨⟩)]
      simp [Strays, hb, hstart, hfault]

end Conch.Shell
