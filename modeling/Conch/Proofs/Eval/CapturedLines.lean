import Mathlib
import Conch.Proofs.Eval.Lines
import Conch.Proofs.Shell.Turns

/-!
# Capturing several commands at once

Code that captures a text of several commands gets what capturing them one after the other gives:
the outputs line by line, or one outcome with the last status and all that was written. This holds
of commands that redirect nothing, and of builtins that are redirected. Any other command that looks
redirected is run and not captured when it stands alone. Among others it is captured all the same,
and then its redirections play no part, but for opening the files of those that are not the last.
-/

namespace Conch.Shell

open World Line Effect

/-- A stage without its redirections. -/
def bare (s : Stage) : Stage := ⟨s.words, [], []⟩

/-- Captures a command with its redirections passed over. -/
def captureBare (line : String) : Act Captured :=
  match pipeline line with
  | [s] => do
    primeStage s
    captureSingle line (bare s)
  | stages => capturePipeline (stages.map bare)

/-- A command that is captured in the same way by itself and among others. -/
inductive CapturedAlike (line : String) : Prop
  | unredirected (plain : hasRedirect line.toList = false)
  | builtin {s : Stage} {b : Builtin} (stage : pipeline line = [s]) (name : builtin? s = some b)
      (redirected : (s.out.isEmpty && s.err.isEmpty) = false)

/-- What is made of an outcome for code that wants something of it. -/
def answer (wanted : Capture) (c : Captured) : Reply :=
  match wanted with
  | .output => .text (trimmed c.out)
  | .outcome => .outcome c
  | _ => .nothing

/-- What code can want to get out of a command. -/
def Capture.IsCapturing (wanted : Capture) : Prop := wanted = .output ∨ wanted = .outcome

variable {line : String} {wanted : Capture}

theorem invokeLine_of_not_hasRedirect (hwanted : wanted.IsCapturing)
    (h : hasRedirect line.toList = false) :
    invokeLine wanted line = answer wanted <$> capture line := by
  rw [map_eq_pure_bind]
  rcases hwanted with rfl | rfl <;> simp [invokeLine, h, answer]

/-- Alone, a command that looks redirected is run, and nothing is captured. -/
theorem invokeLine_of_hasRedirect (hwanted : wanted.IsCapturing)
    (h : hasRedirect line.toList = true) :
    invokeLine wanted line = (fun s => answer wanted ⟨s.code, "", ""⟩) <$> run line := by
  have hblank : trimmed "" = "" := rfl
  rw [map_eq_pure_bind]
  rcases hwanted with rfl | rfl <;> simp [invokeLine, h, answer, hblank]

/-- A builtin that is redirected is run when it is captured. -/
theorem capture_of_redirected_builtin {s : Stage} {b : Builtin} (hstage : pipeline line = [s])
    (hb : builtin? s = some b) (hredirected : (s.out.isEmpty && s.err.isEmpty) = false) :
    capture line = (fun s => (⟨s.code, "", ""⟩ : Captured)) <$> run line := by
  funext w
  unfold builtin? at hb
  rw [map_apply, run_of_builtin hstage hb, capture_of_stage hstage, captureSingle, hb]
  simp only [hredirected, Bool.false_eq_true, if_false, bind_apply]
  rfl

theorem CapturedAlike.invokeLine_eq (hwanted : wanted.IsCapturing) (h : CapturedAlike line) :
    invokeLine wanted line = answer wanted <$> capture line := by
  cases hredirect : hasRedirect line.toList with
  | false => exact invokeLine_of_not_hasRedirect hwanted hredirect
  | true =>
    cases h with
    | unredirected plain => simp [plain] at hredirect
    | builtin stage name redirected =>
      rw [invokeLine_of_hasRedirect hwanted hredirect,
        capture_of_redirected_builtin stage name redirected, Functor.map_map]

/-- A program that is captured is given nothing of its redirections. -/
theorem captureSingle_program {s : Stage} (hs : builtin? s = none) :
    captureSingle line s = (do
      primeStage s
      captureSingle line (bare s)) := by
  funext w
  have hbare : (bare s).words.head?.bind Builtin.ofName? = none := hs
  have hprime : primeStage (bare s) = pure () := rfl
  have hcommand : stageCommand (bare s) = stageCommand s := rfl
  unfold builtin? at hs
  simp only [captureSingle, hs, hbare, hprime, hcommand]
  rw [bind_apply, expandArgs_apply, bind_apply]
  dsimp only
  rw [bind_apply]
  rcases hresult : primeStage s w with ⟨e | u, v⟩
  · rfl
  · obtain ⟨-, rfl⟩ := of_primeStage_ok hresult
    rfl

theorem capturePipeline_map_bare (stages : List Stage) :
    capturePipeline (stages.map bare) = capturePipeline stages := by
  simp only [capturePipeline, List.map_map, Function.comp_def, bare]

/-- But for a builtin by itself, capturing passes over redirections. -/
theorem capture_eq_captureBare
    (h : ∀ s b, pipeline line = [s] → builtin? s = some b → s.out = [] ∧ s.err = []) :
    capture line = captureBare line := by
  rcases hstages : pipeline line with _ | ⟨s, _ | ⟨t, rest⟩⟩
  · rw [capture, captureBare, hstages]
    exact (capturePipeline_map_bare []).symm
  · rw [capture, captureBare, hstages]
    cases hb : builtin? s with
    | none => exact captureSingle_program hb
    | some b =>
      obtain ⟨hout, herr⟩ := h s b hstages hb
      obtain ⟨words, out, err⟩ := s
      cases hout
      cases herr
      rfl
  · rw [capture, captureBare, hstages]
    exact (capturePipeline_map_bare (s :: t :: rest)).symm

/-- Among others, a command that is not captured alike is captured without its redirections. -/
theorem capture_of_not_capturedAlike (h : ¬ CapturedAlike line) :
    capture line = captureBare line := by
  apply capture_eq_captureBare
  intro s b hstage hb
  by_contra hnot
  apply h
  apply CapturedAlike.builtin hstage hb
  simpa [Bool.eq_false_iff] using hnot

/-- The answer to several commands, from what came of each. -/
def jointAnswer (wanted : Capture) (outcomes : List Captured) : Reply :=
  match wanted with
  | .output => .text ("\n".intercalate (outcomes.map fun c => trimmed c.out))
  | .outcome => .outcome (joinOutcomes outcomes)
  | _ => .nothing

theorem invokeLines_of_isCapturing (hwanted : wanted.IsCapturing) (lines : List String) :
    invokeLines wanted lines = jointAnswer wanted <$> lines.mapM capture := by
  rw [map_eq_pure_bind]
  rcases hwanted with rfl | rfl <;> rfl

theorem mapM_invoke_of_capturedAlike (hwanted : wanted.IsCapturing) {rows : List (List Char)}
    (hrows : ∀ r ∈ rows, IsCommandRow r) (halike : ∀ r ∈ rows, CapturedAlike (String.ofList r)) :
    (rows.map String.ofList).mapM (invoke wanted) =
      List.map (answer wanted) <$> (rows.map String.ofList).mapM capture := by
  induction rows with
  | nil => rfl
  | cons r rows ih =>
    obtain ⟨hr, hrows⟩ := List.forall_mem_cons.mp hrows
    obtain ⟨halike, hothers⟩ := List.forall_mem_cons.mp halike
    simp only [List.map_cons, List.mapM_cons, invoke_of_isCommandRow hr,
      halike.invokeLine_eq hwanted, ih hrows hothers]
    simp

end Conch.Shell

namespace Conch.Eval

open Effect Line
open Shell (Capture Reply)

variable {s t u : Session} {f : Frame} {α β : Type}

/-- A session that another one goes on from: all objects are as they were, and besides the store,
only the world may differ. -/
structure GoesOn (s t : Session) : Prop where
  rest : t = { s with world := t.world }.withStoreOf t
  kept : ∀ a < s.store.size, t.store[a]? = s.store[a]?

theorem GoesOn.refl (s : Session) : GoesOn s s := ⟨rfl, fun _ _ => rfl⟩

theorem GoesOn.getElem? (h : GoesOn s t) {a : Addr} {o : Object} (ho : s.store[a]? = some o) :
    t.store[a]? = some o := by
  rw [h.kept a (Array.getElem?_eq_some_iff.mp ho).1, ho]

theorem GoesOn.size_le (h : GoesOn s t) : s.store.size ≤ t.store.size := by
  by_contra hnot
  have hkept := h.kept t.store.size (Nat.lt_of_not_le hnot)
  rw [Array.getElem?_eq_none le_rfl, eq_comm, Array.getElem?_eq_none_iff] at hkept
  exact hnot hkept

theorem GoesOn.trans (h : GoesOn s t) (h' : GoesOn t u) : GoesOn s u where
  rest := by rw [h'.rest, h.rest]
  kept := by
    intro a ha
    rw [h'.kept a (lt_of_lt_of_le ha h.size_le), h.kept a ha]

theorem goesOn_push (s : Session) (o : Object) : GoesOn s (s.push o) where
  rest := rfl
  kept := fun _ ha => getElem?_push o ha

theorem goesOn_world (s : Session) (w : World) : GoesOn s { s with world := w } :=
  ⟨rfl, fun _ _ => rfl⟩

theorem Running.of_goesOn (hs : Running s f) (h : GoesOn s t) : Running t f := by
  obtain ⟨es, hes⟩ := hs.globals
  exact hs.mono (fun _ _ hframe => h.getElem? hframe) (by rw [h.rest]) ⟨es, h.getElem? hes⟩

/-- The object that holds an outcome. -/
def outcomeObject (c : Shell.Captured) : Object :=
  .instance commandResult
    [("returncode", .int c.code), ("stdout", .text c.out), ("stderr", .text c.err)] []

/-- A value that an answer is handed over as. -/
def Holds (t : Session) : Reply → Value → Prop
  | .text out, v => v = .text out
  | .outcome c, v => ∃ a, v = .ref a ∧ t.store[a]? = some (outcomeObject c)
  | _, _ => False

theorem Holds.mono {r : Reply} {v : Value} (h : GoesOn s t) (hv : Holds s r v) : Holds t r v := by
  cases r with
  | text out => exact hv
  | outcome c =>
    obtain ⟨a, rfl, ha⟩ := hv
    exact ⟨a, rfl, h.getElem? ha⟩
  | _ => exact hv

/-- What comes of commands that are captured: something that is related to what is handed over, or
a fault that is raised. -/
inductive Answers (related : Session → α → β → Prop) (s : Session) :
    Except World.Fault α × World → Except Raised β × Session → Prop
  | done {x : α} {v : β} {t : Session} {w : World} (goesOn : GoesOn s t) (world : t.world = w)
      (holds : related t x v) : Answers related s (.ok x, w) (.ok v, t)
  | failed {fault : World.Fault} {a : Addr} {t : Session} {w : World} (goesOn : GoesOn s t)
      (world : t.world = w) (error : t.store[a]? = some (faultObject fault)) :
      Answers related s (.error fault, w) (.error (.exception (.ref a)), t)

/-- The keyword argument that says what is wanted. -/
def captureKeyword : Capture → Vars
  | .output => [("capture", .text "stdout")]
  | .outcome => [("capture", .text "full")]
  | _ => []

/-- A call that captures. -/
def callCapturing (m : Machine) (wanted : Capture) (text : String) : Run Value :=
  Library.shellFunction m [.text text] (captureKeyword wanted)

variable {wanted : Capture}

theorem callCapturing_eq (hwanted : wanted.IsCapturing) (m : Machine) (text : String) :
    callCapturing m wanted text = Library.runCommand m text wanted := by
  rcases hwanted with rfl | rfl <;> rfl

/-- What is handed over to code that captures. -/
def IsAnswer : Reply → Prop
  | .text _ | .outcome _ => True
  | _ => False

/-- One call hands over what comes of the text that it is given. -/
theorem Running.answers (hs : Running s f) (hwanted : wanted.IsCapturing) {text : String}
    (htext : expansions text.toList = []) (m : Machine)
    (hanswer : ∀ r w, Shell.invoke wanted text s.world = (.ok r, w) → IsAnswer r) :
    Answers Holds s (Shell.invoke wanted text s.world) (callCapturing m wanted text s) := by
  obtain ⟨vars, hcall⟩ := hs.exists_runCommand_eq htext m wanted
  have hpush := goesOn_push s (.dict vars)
  rw [callCapturing_eq hwanted, hcall, bind_apply]
  rcases hinvoke : Shell.invoke wanted text s.world with ⟨fault | r, w⟩
  · rw [act_of_error (s := s.push (.dict vars)) hinvoke]
    exact .failed (hpush.trans ((goesOn_world _ w).trans (goesOn_push _ _))) rfl
      Array.getElem?_push_size
  · rw [act_of_ok (s := s.push (.dict vars)) hinvoke]
    have hworld := hpush.trans (goesOn_world _ w)
    cases r with
    | text out => exact .done hworld rfl rfl
    | outcome c =>
      exact .done (hworld.trans (goesOn_push _ (outcomeObject c))) rfl
        ⟨_, rfl, Array.getElem?_push_size⟩
    | _ => exact (hanswer _ w hinvoke).elim

/-- Calls with one text after the other hand over what comes of the texts. -/
theorem Running.answers_mapM (hs : Running s f) (hwanted : wanted.IsCapturing) (m : Machine)
    {texts : List String} (htexts : ∀ text ∈ texts, expansions text.toList = [])
    (hanswer : ∀ text ∈ texts, ∀ r w w', Shell.invoke wanted text w = (.ok r, w') → IsAnswer r) :
    Answers (fun t => List.Forall₂ (Holds t)) s (texts.mapM (Shell.invoke wanted) s.world)
      (texts.mapM (callCapturing m wanted) s) := by
  induction texts generalizing s with
  | nil => exact .done (GoesOn.refl s) rfl .nil
  | cons text texts ih =>
    obtain ⟨htext, hrest⟩ := List.forall_mem_cons.mp htexts
    obtain ⟨hfirst, hothers⟩ := List.forall_mem_cons.mp hanswer
    have hcall := hs.answers hwanted htext m fun r w h => hfirst r s.world w h
    rw [List.mapM_cons, List.mapM_cons, bind_apply, bind_apply]
    generalize Shell.invoke wanted text s.world = answered at hcall ⊢
    generalize callCapturing m wanted text s = called at hcall ⊢
    cases hcall with
    | failed goesOn world error => exact .failed goesOn world error
    | @done r v t w goesOn world holds =>
      subst world
      have hcalls := ih (hs.of_goesOn goesOn) hrest hothers
      dsimp only
      rw [bind_apply, bind_apply]
      generalize List.mapM (Shell.invoke wanted) texts t.world = answered at hcalls ⊢
      generalize List.mapM (callCapturing m wanted) texts t = called at hcalls ⊢
      cases hcalls with
      | failed goesOn' world error => exact .failed (goesOn.trans goesOn') world error
      | done goesOn' world holds' =>
        exact .done (goesOn.trans goesOn') world (.cons (holds.mono goesOn') holds')

/-! ## One call against many -/

/-- A value that joins others: texts with line feeds between them, or outcomes with the last status
and all that was written. -/
def Joins (wanted : Capture) (t : Session) (v : Value) (u : Session) (vs : List Value) : Prop :=
  match wanted with
  | .output => ∃ texts : List String, vs = texts.map .text ∧ v = .text ("\n".intercalate texts)
  | .outcome => ∃ (c : Shell.Captured) (cs : List Shell.Captured),
      Holds t (.outcome c) v ∧ List.Forall₂ (Holds u) (cs.map .outcome) vs ∧
      cs.getLast?.map (·.code) = some c.code ∧ c.out = String.join (cs.map (·.out)) ∧
      c.err = String.join (cs.map (·.err))
  | _ => False

/-- One call hands over what several calls do, joined, in the same world, and objects are as they
were; or the same fault is raised. -/
inductive SameCapture (wanted : Capture) (s : Session) :
    Except Raised Value × Session → Except Raised (List Value) × Session → Prop
  | done {v : Value} {vs : List Value} {t u : Session} (goesOn : GoesOn s t) (goesOn' : GoesOn s u)
      (world : t.world = u.world) (joins : Joins wanted t v u vs) :
      SameCapture wanted s (.ok v, t) (.ok vs, u)
  | failed {fault : World.Fault} {t u : Session} {a b : Addr} (goesOn : GoesOn s t)
      (goesOn' : GoesOn s u) (world : t.world = u.world)
      (error : t.store[a]? = some (faultObject fault))
      (error' : u.store[b]? = some (faultObject fault)) :
      SameCapture wanted s (.error (.exception (.ref a)), t) (.error (.exception (.ref b)), u)

theorem joins_of_holds (hwanted : wanted.IsCapturing) {outcomes : List Shell.Captured}
    (hne : outcomes ≠ []) {v : Value} {vs : List Value}
    (hv : Holds t (Shell.jointAnswer wanted outcomes) v)
    (hvs : List.Forall₂ (Holds u) (outcomes.map (Shell.answer wanted)) vs) :
    Joins wanted t v u vs := by
  rcases hwanted with rfl | rfl
  · refine ⟨outcomes.map (fun c => Shell.trimmed c.out), ?_, by rw [hv]⟩
    rw [List.forall₂_map_left_iff] at hvs
    clear hne hv
    induction hvs with
    | nil => rfl
    | cons hfirst _ ih => rw [List.map_cons, List.map_cons, ← ih, hfirst]
  · refine ⟨Shell.joinOutcomes outcomes, outcomes, hv, hvs, ?_, rfl, rfl⟩
    rw [Shell.joinOutcomes, List.getLast?_eq_some_getLast hne]
    rfl

theorem isAnswer_answer (hwanted : wanted.IsCapturing) (c : Shell.Captured) :
    IsAnswer (Shell.answer wanted c) := by
  rcases hwanted with rfl | rfl <;> trivial

theorem isAnswer_jointAnswer (hwanted : wanted.IsCapturing) (outcomes : List Shell.Captured) :
    IsAnswer (Shell.jointAnswer wanted outcomes) := by
  rcases hwanted with rfl | rfl <;> trivial

theorem ne_nil_of_mapM_capture {lines : List String} (h : lines ≠ [])
    {outcomes : List Shell.Captured} {w w' : World}
    (hcaptures : lines.mapM Shell.capture w = (.ok outcomes, w')) : outcomes ≠ [] := by
  obtain ⟨line, rest, rfl⟩ := List.exists_cons_of_ne_nil h
  rw [List.mapM_cons] at hcaptures
  obtain ⟨_, _, -, hrest⟩ := exists_of_bind_ok hcaptures
  obtain ⟨_, _, -, hcons⟩ := exists_of_bind_ok hrest
  cases hcons
  exact List.cons_ne_nil _ _

/-- A joint answer and answers one by one to the same commands. -/
theorem sameCapture_of_answers (hwanted : wanted.IsCapturing) {x : World.Act (List Shell.Captured)}
    {joint : Except Raised Value × Session} {each : Except Raised (List Value) × Session}
    (hne : ∀ outcomes w, x s.world = (.ok outcomes, w) → outcomes ≠ [])
    (hjoint : Answers Holds s ((Shell.jointAnswer wanted <$> x) s.world) joint)
    (heach : Answers (fun t => List.Forall₂ (Holds t)) s
      ((List.map (Shell.answer wanted) <$> x) s.world) each) :
    SameCapture wanted s joint each := by
  rw [map_apply] at hjoint heach
  rcases hx : x s.world with ⟨fault | outcomes, w⟩
  · rw [hx] at hjoint heach
    cases hjoint with
    | failed goesOn world error =>
      cases heach with
      | failed goesOn' world' error' =>
        exact .failed goesOn goesOn' (world.trans world'.symm) error error'
  · rw [hx] at hjoint heach
    cases hjoint with
    | done goesOn world holds =>
      cases heach with
      | done goesOn' world' holds' =>
        exact .done goesOn goesOn' (world.trans world'.symm)
          (joins_of_holds hwanted (hne outcomes w hx) holds holds')

theorem mem_commandRows {rows : List (List Char)} {r : List Char} (h : r ∈ commandRows rows) :
    IsCommandRow r := by
  simpa using (List.mem_filter.mp h).2

section

variable (hs : Running s f) (m : Machine) (hwanted : wanted.IsCapturing) {rows : List (List Char)}
  (hrows : ∀ r ∈ rows, IsBlankRow r ∨ IsCommandRow r) (hlength : 2 ≤ (commandRows rows).length)
  (hexpansions : expansions (['\n'].intercalate (commandRows rows)) = [])
include hs hwanted hrows hlength hexpansions

theorem Running.answers_rows :
    Answers Holds s
      ((Shell.jointAnswer wanted <$> ((commandRows rows).map String.ofList).mapM Shell.capture)
        s.world)
      (callCapturing m wanted (String.ofList (['\n'].intercalate rows)) s) := by
  have hinvoke : Shell.invoke wanted (String.ofList (['\n'].intercalate rows)) =
      Shell.jointAnswer wanted <$> ((commandRows rows).map String.ofList).mapM Shell.capture := by
    rw [Shell.invoke_intercalate hrows hlength, Shell.invokeLines_of_isCapturing hwanted]
  have htext := (thins_intercalate hrows).expansions_eq_nil hexpansions
  rw [← hinvoke]
  refine hs.answers hwanted (by rwa [String.toList_ofList]) m fun r w hr => ?_
  rw [hinvoke, map_eq_pure_bind] at hr
  obtain ⟨outcomes, w', -, hreply⟩ := exists_of_bind_ok hr
  cases hreply
  exact isAnswer_jointAnswer hwanted outcomes

theorem Running.sameCapture_rows
    (halike : ∀ r ∈ commandRows rows, Shell.CapturedAlike (String.ofList r)) :
    SameCapture wanted s (callCapturing m wanted (String.ofList (['\n'].intercalate rows)) s)
      (((commandRows rows).map String.ofList).mapM (callCapturing m wanted) s) := by
  have hjoint := hs.answers_rows m hwanted hrows hlength hexpansions
  have htexts : ∀ text ∈ (commandRows rows).map String.ofList, expansions text.toList = [] := by
    rw [List.forall_mem_map]
    intro r hr
    rw [String.toList_ofList]
    exact expansions_eq_nil_of_infix (infix_intercalate hr) hexpansions
  have hanswer : ∀ text ∈ (commandRows rows).map String.ofList, ∀ r w w',
      Shell.invoke wanted text w = (.ok r, w') → IsAnswer r := by
    rw [List.forall_mem_map]
    intro row hrow r w w' hr
    rw [Shell.invoke_of_isCommandRow (mem_commandRows hrow),
      (halike row hrow).invokeLine_eq hwanted, map_eq_pure_bind] at hr
    obtain ⟨c, v, -, hreply⟩ := exists_of_bind_ok hr
    cases hreply
    exact isAnswer_answer hwanted c
  have heach := hs.answers_mapM hwanted m htexts hanswer
  rw [Shell.mapM_invoke_of_capturedAlike hwanted (fun _ => mem_commandRows) halike] at heach
  apply sameCapture_of_answers hwanted _ hjoint heach
  intro outcomes w hcaptures
  have hsome : (commandRows rows).map String.ofList ≠ [] := by
    rw [← List.length_pos_iff, List.length_map]
    omega
  exact ne_nil_of_mapM_capture hsome hcaptures

end

/-- Capturing a text of several commands, with any blank rows around them, in one call. The call
hands over what capturing each command in turn gives. Calls with one command after the other do the
same if each is captured alike by itself and among others. A command that is not is captured without
its redirections among others, and by itself it is run and gives nothing but its status. -/
theorem shell_rows_sameCapture (hs : Running s f) (m : Machine) (hwanted : wanted.IsCapturing)
    {rows : List (List Char)} (hrows : ∀ r ∈ rows, IsBlankRow r ∨ IsCommandRow r)
    (hlength : 2 ≤ (commandRows rows).length)
    (hexpansions : expansions (['\n'].intercalate (commandRows rows)) = []) :
    Answers Holds s
      ((Shell.jointAnswer wanted <$> ((commandRows rows).map String.ofList).mapM Shell.capture)
        s.world)
      (callCapturing m wanted (String.ofList (['\n'].intercalate rows)) s) ∧
    ((∀ r ∈ commandRows rows, Shell.CapturedAlike (String.ofList r)) →
      SameCapture wanted s (callCapturing m wanted (String.ofList (['\n'].intercalate rows)) s)
        (((commandRows rows).map String.ofList).mapM (callCapturing m wanted) s)) ∧
    ∀ r ∈ commandRows rows, ¬ Shell.CapturedAlike (String.ofList r) →
      Shell.capture (String.ofList r) = Shell.captureBare (String.ofList r) ∧
      Shell.invoke wanted (String.ofList r) =
        (fun st => Shell.answer wanted ⟨st.code, "", ""⟩) <$> Shell.run (String.ofList r) := by
  refine ⟨hs.answers_rows m hwanted hrows hlength hexpansions,
    hs.sameCapture_rows m hwanted hrows hlength hexpansions, fun r hr halike => ?_⟩
  have hredirect : hasRedirect (String.ofList r).toList = true := by
    by_contra hnot
    exact halike (.unredirected (by simpa using hnot))
  rw [Shell.invoke_of_isCommandRow (mem_commandRows hr)]
  exact ⟨Shell.capture_of_not_capturedAlike halike,
    Shell.invokeLine_of_hasRedirect hwanted hredirect⟩

/-- A program, a builtin that is redirected and a pipeline, with a blank row between them. -/
def capturedRows : List (List Char) :=
  ["args a b", " \t", "echo c > f", "args d | cat"].map String.toList

/-- A program that is redirected, with another command behind it. -/
def redirectedRows : List (List Char) := ["args a > f", "true"].map String.toList

theorem capturedRows_sameCapture_redirectedRows_bare :
    SameCapture .outcome (Conch.Session.initial (World.Setup.plain ["ROOT"]).world)
      (callCapturing standardMachine .outcome "args a b\n \t\necho c > f\nargs d | cat"
        (Conch.Session.initial (World.Setup.plain ["ROOT"]).world))
      (["args a b", "echo c > f", "args d | cat"].mapM (callCapturing standardMachine .outcome)
        (Conch.Session.initial (World.Setup.plain ["ROOT"]).world)) ∧
    Shell.capture "args a > f" = Shell.captureBare "args a > f" ∧
    Shell.invoke .output "args a > f" = (fun _ => .text "") <$> Shell.run "args a > f" := by
  have hstart := running_initial (World.Setup.plain ["ROOT"]).world
  constructor
  · have hcommands : (commandRows capturedRows).map String.ofList =
        ["args a b", "echo c > f", "args d | cat"] := by decide
    have hrows : ∀ r ∈ capturedRows, IsBlankRow r ∨ IsCommandRow r := by decide
    have houtcome : Capture.IsCapturing .outcome := .inr rfl
    have halike : ∀ line ∈ ["args a b", "echo c > f", "args d | cat"],
        Shell.CapturedAlike line := by
      have hstage : pipeline "echo c > f" = [⟨["echo", "c"], [⟨"f", .write⟩], []⟩] := by
        decide
      have hbuiltin : Shell.builtin? ⟨["echo", "c"], [⟨"f", .write⟩], []⟩ = some .echo := by decide
      simp only [List.forall_mem_cons, List.not_mem_nil, false_implies, implies_true, and_true]
      exact ⟨.unredirected (by decide), .builtin hstage hbuiltin rfl,
        .unredirected (by decide)⟩
    have hcaptured := shell_rows_sameCapture hstart standardMachine houtcome hrows
      (by decide) (by decide)
    rw [hcommands] at hcaptured
    refine hcaptured.2.1 ?_
    rwa [← hcommands, List.forall_mem_map] at halike
  · have hrows : ∀ r ∈ redirectedRows, IsBlankRow r ∨ IsCommandRow r := by decide
    have houtput : Capture.IsCapturing .output := .inl rfl
    have hcaptured := shell_rows_sameCapture hstart standardMachine houtput hrows
      (by decide) (by decide)
    refine hcaptured.2.2 "args a > f".toList (by decide) ?_
    intro halike
    cases halike with
    | unredirected plain => exact absurd plain (by decide)
    | @builtin stage b hstage hbuiltin =>
      have hpipeline : pipeline (String.ofList "args a > f".toList) =
          [⟨["args", "a"], [⟨"f", .write⟩], []⟩] := by decide
      obtain rfl : _ = stage := by simpa using hpipeline.symm.trans hstage
      have hnone : Shell.builtin? ⟨["args", "a"], [⟨"f", .write⟩], []⟩ = none := by decide
      rw [hnone] at hbuiltin
      cases hbuiltin

end Conch.Eval
