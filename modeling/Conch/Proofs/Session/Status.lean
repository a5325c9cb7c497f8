import Mathlib
import Conch.Proofs.Eval.Command
import Conch.Proofs.Session.Course
import Conch.Proofs.Shell.Expand
import Conch.Session.Start

/-!
# The status of a segment

What `&&` and `||` go by is the status that is kept among the variables when a segment is done. A
command keeps its own there, so its status is its own whatever was kept before. Code that runs no
command keeps nothing: its status is the one that was there before it, whether it ran to its end or
failed. Only where telling of an error fails as well is the status one.
-/

namespace Conch.Session

open Effect Eval Line

variable {α β : Type} {a : Addr}

/-- A computation that gives a value in every session. -/
def Succeeds (x : Run α) : Prop := ∀ s, ∃ v t, x s = (.ok v, t)

theorem succeeds_pure (v : α) : Succeeds (pure v) := fun s => ⟨v, s, rfl⟩

theorem Succeeds.bind {x : Run α} {f : α → Run β} (hx : Succeeds x) (hf : ∀ v, Succeeds (f v)) :
    Succeeds (x >>= f) := by
  intro s
  obtain ⟨v, t, ht⟩ := hx s
  obtain ⟨w, u, hu⟩ := hf v t
  exact ⟨w, u, by rw [bind_apply, ht]; exact hu⟩

theorem succeeds_tryCatch (x : Run α) {handler : Raised → Run α} (h : ∀ r, Succeeds (handler r)) :
    Succeeds (tryCatch x handler) := by
  intro s
  rw [tryCatch_apply]
  rcases x s with ⟨r | v, t⟩
  · exact h r t
  · exact ⟨v, t, rfl⟩

theorem succeeds_forIn (items : List α) {step : α → PUnit → Run (ForInStep PUnit)}
    (h : ∀ item, Succeeds (step item ⟨⟩)) : Succeeds (forIn items PUnit.unit step) := by
  induction items with
  | nil => exact succeeds_pure _
  | cons item items ih =>
    rw [List.forIn_cons]
    refine (h item).bind fun next => ?_
    cases next with
    | done b => exact succeeds_pure b
    | yield b => exact ih

/-- Whatever comes of closing a file that is let go, nobody hears of it. -/
theorem succeeds_settle : Succeeds settle := by
  unfold settle
  refine Succeeds.bind (fun s => ⟨s, s, rfl⟩) fun s => ?_
  dsimp only
  split
  · exact succeeds_pure ()
  · refine (succeeds_forIn _ fun entry => ?_).bind fun _ => succeeds_pure ()
    split
    · exact (succeeds_tryCatch _ fun _ => succeeds_pure ()).bind fun _ => succeeds_pure _
    · exact succeeds_pure _

/-- The status that is kept among some variables; zero if there is none. -/
def statusAt (s : Eval.Session) (main : Addr) : Value :=
  (lookupName (s.entries main) Library.statusName).getD (.int 0)

/-- How a segment ends by how telling of its code went. An error that comes out of that and that
programs may handle is told of, and the status is one, unless its text cannot be made. -/
def endingAfter (main : Addr) (t : Eval.Session) : Except Raised Bool → Except Raised (Ending Value)
  | .ok _ => .ok (endingOf (statusAt t main))
  | .error (.exception e) =>
    if (Raised.exception e).isA "Exception" t then
      (formatted standardMachine e "" t).1.map fun _ => .status (.int 1)
    else .error (.exception e)
  | .error .exhausted => .error .exhausted

/-- What a segment is lowered to with the variables of a session. -/
def lowered (s : Eval.Session) (segment : List Char) : Except LoweringFault String :=
  lower .module (fun n => (lookupName (s.entries s.main) n).isSome) (String.ofList segment)

/-- Files that are let go do not change how a computation ends. -/
theorem settling_fst (x : Run α) (s : Eval.Session) : (settling x s).1 = (x s).1 := by
  rcases h : x s with ⟨result, t⟩
  obtain ⟨_, u, hu⟩ := succeeds_settle t
  rw [settling, finallyDo, bind_apply, tryCatch_apply, map_apply, h]
  cases result with
  | ok v => simp only [bind_apply, hu, pure_apply]
  | error e => simp only [pure_apply, bind_apply, hu, throw_apply]

theorem runSegment_of_error {s : Eval.Session} {segment : List Char} {why : LoweringFault}
    (h : lowered s segment = .error why) : ∃ t, runSegment segment s = (.ok (.status (.int 1)), t) := by
  unfold lowered at h
  simp only [runSegment, bind_apply, get_apply, entriesAt_apply, h]
  exact ⟨_, rfl⟩

theorem runSegment_of_ok {s t : Eval.Session} {segment : List Char} {program : String}
    {result : Except Raised Bool} (h : lowered s segment = .ok program)
    (hrun : interpret standardMachine s.main program s = (result, t)) :
    runSegment segment s = (result.map fun _ => endingOf (statusAt t s.main), t) := by
  unfold lowered at h
  simp only [runSegment, bind_apply, get_apply, entriesAt_apply, h, hrun]
  cases result with
  | error r => rfl
  | ok wentWell =>
    simp only [lastStatus, getGlobal?_apply, pure_apply]
    rfl

theorem executeSegment_of_error {s : Eval.Session} {segment : List Char} {why : LoweringFault}
    (h : lowered s segment = .error why) :
    (executeSegment segment s).1 = .ok (.status (.int 1)) := by
  obtain ⟨t, ht⟩ := runSegment_of_error h
  rw [executeSegment, settling_fst, catching, tryCatch_apply, ht]

theorem executeSegment_of_ok {s t : Eval.Session} {segment : List Char} {program : String}
    {result : Except Raised Bool} (h : lowered s segment = .ok program)
    (hrun : interpret standardMachine s.main program s = (result, t)) :
    (executeSegment segment s).1 = endingAfter s.main t result := by
  have hsegment := runSegment_of_ok h hrun
  rw [executeSegment, settling_fst, catching, tryCatch_apply, hsegment]
  cases result with
  | ok wentWell => rfl
  | error r =>
    cases r with
    | exhausted => rfl
    | exception e =>
      simp only [Except.map, bind_apply, errorIs_apply, endingAfter]
      cases (Raised.exception e).isA "Exception" t with
      | false => rfl
      | true =>
        simp only [if_true, bind_apply]
        rcases formatted standardMachine e "" t with ⟨_ | text, u⟩ <;> rfl

/-- The levels of the machine that are left for the expansions of a command. -/
def innerMachine : Machine := machine (manyLevels - 2)

theorem machine_levels : manyLevels = manyLevels - 3 + 3 := by decide

/-- The status of a command is its own, whatever was kept before. -/
theorem executeSegment_of_command {s t : Eval.Session} {segment : List Char} {line : String}
    {code : Int} (h : lowered s segment = .ok (commandCall line)) (hdepth : s.depth < 1000)
    (hshell : lookupName (s.entries s.main) shellCall = some (.builtin "shell"))
    (hreply : plainReply innerMachine (s.store.size + 1) line (s.scoped s.main) =
      (.ok (.status code), t)) :
    (executeSegment segment s).1 = .ok (.status (.int code)) := by
  have hrun : interpret standardMachine s.main (commandCall line) s =
      (.ok true, (t.withStatus s.main code).back s) := by
    have hreply' : plainReply (machine (manyLevels - 3 + 1)) (s.store.size + 1) line
        (s.scoped s.main) = (.ok (.status code), t) := hreply
    rw [standardMachine, machine_levels]
    exact interpret_commandCall hdepth hshell hreply'
  have hstatus : statusAt ((t.withStatus s.main code).back s) s.main = .int code := by
    have hentries : ((t.withStatus s.main code).back s).entries s.main =
        setName Library.statusName (.int code) (t.entries s.main) := entries_put_self t.nonempty _
    rw [statusAt, hentries, lookupName_setName, Option.getD_some]
  rw [executeSegment_of_ok h hrun, endingAfter, hstatus]
  rfl

/-- A session that lines are run in: calls are not nested too deep and commands go to the shell. -/
structure AtPrompt (s : Eval.Session) : Prop where
  depth_lt : s.depth < 1000
  shell : lookupName (s.entries s.main) shellCall = some (.builtin "shell")

theorem atPrompt_initial (w : World) : AtPrompt (initial w) where
  depth_lt := (by decide : 0 < 1000)
  shell := rfl

/-- A line without expansions is run as it is. -/
theorem plainReply_of_invoke {m : Machine} {scope : Addr} {line : String} {s : Eval.Session}
    {reply : Shell.Reply} {w : World} (hline : expansions line.toList = [])
    (h : Shell.invoke .nothing line s.world = (.ok reply, w)) :
    plainReply m scope line s = (.ok reply, { s with world := w }) := by
  have hexpand : Library.expandText m scope line s = (.ok line, s) := by
    simp only [Library.expandText, Shell.Performer.expand_eq_weave, hline, List.mapM_nil,
      pure_bind, bind_apply, pure_apply, Shell.Performer.weave]
    simp
  simp only [plainReply, bind_apply, hexpand, act, get_apply, h, set_apply, pure_apply]

theorem executeSegment_of_plain_command {s : Eval.Session} {segment : List Char} {line : String}
    {code : Int} {w : World} (hs : AtPrompt s) (h : lowered s segment = .ok (commandCall line))
    (hline : expansions line.toList = [])
    (hinvoke : Shell.invoke .nothing line s.world = (.ok (.status code), w)) :
    (executeSegment segment s).1 = .ok (.status (.int code)) := by
  have hworld : Shell.invoke .nothing line (s.scoped s.main).world = (.ok (.status code), w) :=
    hinvoke
  exact executeSegment_of_command h hs.depth_lt hs.shell (plainReply_of_invoke hline hworld)

/-- A computation gives a value in a session and leaves all entries as they are. -/
def Leaves (x : Run α) (s : Eval.Session) (v : α) : Prop :=
  ∃ t, x s = (.ok v, t) ∧ ∀ a, t.entries a = s.entries a

/-- Code that leaves all variables as they are has the status that was kept before it. -/
theorem executeSegment_of_leaves {s : Eval.Session} {program : String} {wentWell : Bool}
    (hlower : ∀ defined, lower .module defined program = .ok program)
    (hrun : Leaves (interpret standardMachine s.main program) s wentWell) :
    (interpret standardMachine s.main program s).1 = .ok wentWell ∧
      (executeSegment program.toList s).1 = .ok (endingOf (statusAt s s.main)) := by
  obtain ⟨t, ht, hkept⟩ := hrun
  have hlowered : lowered s program.toList = .ok program := by
    rw [lowered, String.ofList_toList, hlower]
  have hstatus : statusAt t s.main = statusAt s s.main := by rw [statusAt, statusAt, hkept]
  refine ⟨by rw [ht], ?_⟩
  rw [executeSegment_of_ok hlowered ht, endingAfter, hstatus]

/-- The text `None`, or `None()` if it is called. -/
def noneText (called : Bool) : String := if called then "None()" else "None"

/-- The expression `None`, or a call of it. -/
def noneExpr (called : Bool) : Code.Expr :=
  if called then .call (.constant .none) [] [] else .constant .none

/-- The program that `None`, or a call of it, is read as. -/
def noneProgram (called : Bool) : Code.Mode → Code.Program
  | .expression => .expression (noneExpr called)
  | _ => .module [.expr (noneExpr called)]

/-- Recognises `noneExpr` among the expressions, which have no decidable equality. -/
def isNoneExpr (called : Bool) : Code.Expr → Bool
  | .constant .none => !called
  | .call (.constant .none) [] [] => called
  | _ => false

/-- Recognises `noneProgram` among what can come of reading a text. -/
def isNoneProgram (called : Bool) : Code.Mode → Except Code.Rejection Code.Program → Bool
  | .expression, .ok (.expression e) => isNoneExpr called e
  | .module, .ok (.module [.expr e]) => isNoneExpr called e
  | _, _ => false

theorem eq_noneExpr {called : Bool} {e : Code.Expr} (h : isNoneExpr called e = true) :
    e = noneExpr called := by
  unfold isNoneExpr at h
  split at h
  · obtain rfl : called = false := by simpa using h
    rfl
  · rw [h]
    rfl
  · cases h

theorem eq_noneProgram {called : Bool} {mode : Code.Mode}
    {outcome : Except Code.Rejection Code.Program} (h : isNoneProgram called mode outcome = true) :
    outcome = .ok (noneProgram called mode) := by
  unfold isNoneProgram at h
  split at h
  · rw [eq_noneExpr h]
    rfl
  · rw [eq_noneExpr h]
    rfl
  · cases h

theorem parse_noneText (called : Bool) :
    Code.parse .expression (noneText called) = .ok (noneProgram called .expression) := by
  have hread : ∀ called, isNoneProgram called .expression
      (Code.parse .expression (noneText called)) = true := by decide +kernel
  exact eq_noneProgram (hread called)

theorem parse_spliced_noneText (called : Bool) :
    Code.parse .module (spliced (Text.strip (noneText called))).text =
      .ok (noneProgram called .module) := by
  have hread : ∀ called, isNoneProgram called .module
      (Code.parse .module (spliced (Text.strip (noneText called))).text) = true := by
    decide +kernel
  exact eq_noneProgram (hread called)

theorem lower_noneText (called : Bool) (defined : String → Bool) :
    lower .module defined (noneText called) = .ok (noneText called) := by
  simp only [lower, parse_spliced_noneText]
  cases called <;> cbv

/-- Code that does nothing runs to its end. -/
theorem leaves_interpret_none {s : Eval.Session} {main : Addr} (hdepth : s.depth < 1000) :
    Leaves (interpret standardMachine main "None") s true := by
  have hfirst : ∀ c ∈ "None".toList.head?, c ≠ ' ' ∧ c ≠ '\t' := by simp
  have heval : standardMachine.eval (noneExpr false) (s.enter (moduleFrame main)) =
      (.ok .none, s.enter (moduleFrame main)) := by
    rw [standardMachine, machine_levels]
    rfl
  have hsource : evalSource standardMachine (moduleFrame main) "None" s =
      (.ok .none, (s.enter (moduleFrame main)).back s) := by
    rw [evalSource_of_parse _ hdepth hfirst (parse_noneText false) rfl, heval]
  refine ⟨(s.enter (moduleFrame main)).back s, ?_, entries_enter s _⟩
  simp only [interpret, reporting, runSource, catching, tryCatch_apply, bind_apply, hsource, showResult,
    pure_apply]

/-- An error in an expression is told, and the code did not go well. -/
theorem interpret_of_error {m : Machine} {main : Addr} {text kind message : String}
    {s t : Eval.Session}
    (hsource : evalSource m (moduleFrame main) text s = (.error (.exception (.ref a)), t))
    (hobject : object a t = (.ok (errorObject kind message), t))
    (hkind : kind ∈ ["NameError", "TypeError", "ValueError", "RuntimeError"]) :
    ∃ report, interpret m main text s = (.ok false, (printErr report t).2) := by
  obtain ⟨hordinary, hclass, hinterrupt⟩ := isA_of_mem hkind hobject
  have hname : errorName (.ref a) t = (.ok kind, t) := by
    simp only [errorName, bind_apply, object?_errorObject hobject, errorObject]
    rfl
  have hreport : errorReport m (.ref a) t =
      (.ok (if message.isEmpty then kind else kind ++ ": " ++ message), t) := by
    simp only [errorReport, bind_apply, hname, tryCatch_apply,
      display_errorObject (isPlainError_of_mem hkind) hobject, pure_apply]
  refine ⟨(if message.isEmpty then kind else kind ++ ": " ++ message) ++ "\n", ?_⟩
  have hrun : runSource m main text (showResult m) s = (.error (.exception (.ref a)), t) := by
    simp only [runSource, catching, tryCatch_apply, bind_apply, hsource, errorIs_apply, hclass,
      Bool.false_eq_true, if_false, throw_apply]
  simp only [interpret, reporting, tryCatch_apply, bind_apply, hrun, errorIs_apply, hinterrupt, hclass,
    hordinary, hreport, Bool.false_eq_true, if_false, if_true]
  rfl

/-- Code that calls what cannot be called fails. -/
theorem leaves_interpret_none_call {s : Eval.Session} {main : Addr} (hdepth : s.depth < 1000) :
    Leaves (interpret standardMachine main "None()") s false := by
  have hfirst : ∀ c ∈ "None()".toList.head?, c ≠ ' ' ∧ c ≠ '\t' := by simp
  let inside := s.enter (moduleFrame main)
  let o := errorObject "TypeError" "'NoneType' object is not callable"
  let e : Value := .ref inside.store.size
  let t := (inside.push o).back s
  have heval : standardMachine.eval (noneExpr true) inside =
      (.error (.exception e), inside.push o) := by
    rw [standardMachine, machine_levels]
    rfl
  have hsource : evalSource standardMachine (moduleFrame main) "None()" s =
      (.error (.exception e), t) := by
    rw [evalSource_of_parse _ hdepth hfirst (parse_noneText true) rfl, heval]
  have hobject : object inside.store.size t = (.ok o, t) := by
    simp [object_apply, t, Session.back, Session.push]
  obtain ⟨report, hreport⟩ := interpret_of_error hsource hobject (by simp)
  refine ⟨_, hreport, fun b => ?_⟩
  calc
    ((printErr report t).2).entries b = (inside.push o).entries b := rfl
    _ = inside.entries b := entries_push rfl inside b
    _ = s.entries b := entries_enter s _ b

/-- Segments by their kind. A text that cannot be made code has status one. The status of code is
what is kept when it is done, and nothing else of how it went, unless an error comes out of telling
how it went; that one is told of, with status one, or ends the line. The status of a command is its own,
with or without expansions, whatever was kept before. The segments `None`, which always runs to its
end, and `None()`, which always fails, have the status that was kept before them. What follows a
segment is run or passed over by its status. -/
theorem executeSegment_status (segment : List Char) (s : Eval.Session) :
    (∀ why, lowered s segment = .error why →
      (executeSegment segment s).1 = .ok (.status (.int 1))) ∧
    (∀ program result t, lowered s segment = .ok program →
      interpret standardMachine s.main program s = (result, t) →
      (executeSegment segment s).1 = endingAfter s.main t result) ∧
    (AtPrompt s → ∀ line, lowered s segment = .ok (commandCall line) → ∀ code,
      (∀ w, expansions line.toList = [] →
        Shell.invoke .nothing line s.world = (.ok (.status code), w) →
        (executeSegment segment s).1 = .ok (.status (.int code))) ∧
      ∀ t, plainReply innerMachine (s.store.size + 1) line (s.scoped s.main) =
          (.ok (.status code), t) →
        (executeSegment segment s).1 = .ok (.status (.int code))) ∧
    (AtPrompt s →
      (interpret standardMachine s.main "None" s).1 = .ok true ∧
      (executeSegment "None".toList s).1 = .ok (endingOf (statusAt s s.main)) ∧
      (interpret standardMachine s.main "None()" s).1 = .ok false ∧
      (executeSegment "None()".toList s).1 = .ok (endingOf (statusAt s s.main))) ∧
    ∀ code o next rest, runPieces isZero executeSegment (.int code) (⟨some o, next⟩ :: rest) =
      if (o = .both ∧ code ≠ 0) ∨ (o = .either ∧ code = 0) then
        runPieces isZero executeSegment (.int code) rest
      else executeSegment next >>= resume isZero executeSegment (.int code) rest := by
  refine ⟨fun why => executeSegment_of_error, fun program result t => executeSegment_of_ok,
    fun hs line hline code => ⟨fun w => executeSegment_of_plain_command hs hline,
      fun t => executeSegment_of_command hline hs.depth_lt hs.shell⟩, fun hs => ?_,
    fun code o next rest => runPieces_link isZero .int isZero_int executeSegment o next rest code⟩
  obtain ⟨hwell, hkept⟩ :=
    executeSegment_of_leaves (lower_noneText false) (leaves_interpret_none hs.depth_lt)
  obtain ⟨hfailed, hkept'⟩ :=
    executeSegment_of_leaves (lower_noneText true) (leaves_interpret_none_call hs.depth_lt)
  exact ⟨hwell, hkept, hfailed, hkept'⟩

end Conch.Session
