import Mathlib
import Conch.Proofs.Eval.Command
import Conch.Proofs.Shell.Relay
import Conch.Session.Start

/-!
# How often a text is run

A text is tried as an expression first, and is run as statements if that meets a syntax error. Such
an error may say that the text is no expression; then nothing of it has been run. But code that the
expression runs can raise one as well, and then the text is run a second time, in the session that
the first run has left. In no other case is a text run twice, and it is never run three times.
-/

namespace Conch.Eval

open Effect Code

/-- The expression that a text is read as, or what keeps it from being one. -/
def asExpression (text : String) : Except Rejection Expr :=
  match parse .expression (unindented text) with
  | .ok (.expression e) =>
    match (Program.expression e).fault? with
    | none => .ok e
    | some cause => .error (.fault ⟨cause, 1, 1⟩)
  | .ok _ => .error (.fault ⟨.unexpected, 1, 1⟩)
  | .error why => .error why

/-- The error that says what keeps a text from being a program. -/
def refusal (text : String) : Rejection → Run Value
  | .fault f => makeSyntaxError text f
  | .nul => make (.instance (.type "SyntaxError") [("msg", .text nulMessage)] [.text nulMessage])

theorem reject_eq {α : Type} (text : String) (why : Rejection) :
    (reject text why : Run α) = refusal text why >>= raise := by
  cases why <;> rfl

section Readings

variable (m : Machine) (frame : Frame) {text : String}

theorem raise_bind {α β : Type} (x : Value) (f : α → Run β) : raise x >>= f = raise x := rfl

/-- A text that is an expression is evaluated in a frame of its own. -/
theorem evalSource_of_ok {e : Expr} (h : asExpression text = .ok e) :
    evalSource m frame text = (do
      let a ← alloc (.frame frame)
      withFrame a (m.eval e)) := by
  have hcompile : compileSource .expression (unindented text) = pure (.expression e) := by
    unfold asExpression at h
    unfold compileSource
    split at h
    · next e' hparse =>
      split at h <;> cases h
      next hsound => simp only [hparse, hsound]
    · cases h
    · cases h
  change (compileSource .expression (unindented text) >>= _) = _
  rw [hcompile, pure_bind]

/-- A text that is no expression is refused before anything of it is run. -/
theorem evalSource_of_error {why : Rejection} (h : asExpression text = .error why) :
    evalSource m frame text = refusal (unindented text) why >>= raise := by
  have hcompile : compileSource .expression (unindented text) =
      reject (unindented text) why := by
    unfold asExpression at h
    unfold compileSource
    split at h
    · next e hparse =>
      split at h <;> cases h
      next cause hfault => simp only [hparse, hfault]
    · next program hno hparse =>
      obtain ⟨e, rfl⟩ := exists_expression_of_parse hparse
      exact absurd rfl (hno e)
    · next why' hparse =>
      cases h
      simp only [hparse]
  change (compileSource .expression (unindented text) >>= _) = _
  simp only [hcompile, reject_eq, bind_assoc, raise_bind]

end Readings

/-- Whatever keeps a text from being a program is said by a syntax error. -/
theorem exists_refusal (text : String) (why : Rejection) (s : Session) :
    ∃ x t, refusal text why s = (.ok x, t) ∧
      (Raised.exception x).isA "SyntaxError" t = true := by
  have hmade (kind : String) (attrs : Vars) (args : List Value)
      (hkind : "SyntaxError" ∈ ancestors kind) :
      ∃ x t, make (.instance (.type kind) attrs args) s = (.ok x, t) ∧
        (Raised.exception x).isA "SyntaxError" t = true :=
    ⟨.ref s.store.size, s.push _, rfl, by
      rw [isA_of_instance (object_push s _), decide_eq_true hkind]⟩
  cases why with
  | nul => exact hmade _ _ _ (by decide)
  | fault f =>
    refine hmade _ _ _ ?_
    unfold errorClass
    cases f.cause.family <;> decide

/-- A run of a text as statements while an error is being handled. -/
def runStatements (m : Machine) (globals : Addr) (text : String) (x : Value) : Run Value :=
  whileHandling x do
    execSource m (moduleFrame globals) text
    return .none

/-- One run of a text: as the expression that it is, whose value is put to some use, or as statements
if it is none. -/
def runOnce (m : Machine) (globals : Addr) (text : String) (use : Value → Run Value) : Run Value :=
  match asExpression text with
  | .ok e => do
    let a ← alloc (.frame (moduleFrame globals))
    let v ← withFrame a (m.eval e)
    use v
  | .error why => do
    let x ← refusal (unindented text) why
    runStatements m globals text x

/-- The run of a text ends with a syntax error that is not about the text: it is an expression, and
what it runs has raised the error. -/
structure RunsAgain (m : Machine) (globals : Addr) (text : String) (use : Value → Run Value)
    (s : Session) (x : Value) (t : Session) : Prop where
  isExpression : ∃ e, asExpression text = .ok e
  fails : runOnce m globals text use s = (.error (.exception x), t)
  isSyntaxError : (Raised.exception x).isA "SyntaxError" t = true

section Runs

variable {m : Machine} {globals : Addr} {text : String} {use : Value → Run Value} {s t : Session}
  {x : Value}

theorem runSource_eq : runSource m globals text use =
    catching "SyntaxError" (evalSource m (moduleFrame globals) text >>= use)
      (runStatements m globals text) := rfl

theorem catching_of_caught {α : Type} {cls : String} {y : Run α} (handler : Value → Run α)
    (h : y s = (.error (.exception x), t)) (hclass : (Raised.exception x).isA cls t = true) :
    catching cls y handler s = handler x t := by
  simp only [catching, tryCatch_apply, h, bind_apply, errorIs_apply, hclass, if_true]

theorem catching_of_passed {α : Type} {cls : String} {y : Run α} (handler : Value → Run α)
    (h : ∀ x t, y s = (.error (.exception x), t) → ¬(Raised.exception x).isA cls t = true) :
    catching cls y handler s = y s := by
  rw [catching, tryCatch_apply]
  rcases hrun : y s with ⟨r | v, t⟩
  · cases r with
    | exhausted => rfl
    | exception x =>
      simp only [bind_apply, errorIs_apply, if_neg (h x t hrun)]
      rfl
  · rfl

theorem evalSource_bind {e : Expr} (h : asExpression text = .ok e) :
    evalSource m (moduleFrame globals) text >>= use = runOnce m globals text use := by
  simp only [evalSource_of_ok _ _ h, runOnce, h, bind_assoc]

theorem runSource_of_runsAgain (h : RunsAgain m globals text use s x t) :
    runSource m globals text use s = runStatements m globals text x t := by
  obtain ⟨e, he⟩ := h.isExpression
  rw [runSource_eq, evalSource_bind he]
  exact catching_of_caught _ h.fails h.isSyntaxError

theorem runSource_of_not_runsAgain (h : ¬∃ x t, RunsAgain m globals text use s x t) :
    runSource m globals text use s = runOnce m globals text use s := by
  rw [runSource_eq]
  rcases hread : asExpression text with why | e
  · -- the error that is caught is the refusal, and nothing has been run
    obtain ⟨x, t, hrefusal, hclass⟩ := exists_refusal (unindented text) why s
    have hfails : (evalSource m (moduleFrame globals) text >>= use) s =
        (.error (.exception x), t) := by
      simp only [evalSource_of_error _ _ hread, bind_apply, hrefusal, raise, throw_apply]
    rw [catching_of_caught _ hfails hclass]
    simp only [runOnce, hread, bind_apply, hrefusal]
  · rw [evalSource_bind hread]
    exact catching_of_passed _ fun x t hrun hclass => h ⟨x, t, ⟨e, hread⟩, hrun, hclass⟩

end Runs

/-- A text that is one expression, read as such and read as statements. -/
structure SaysOnly (text : String) (e : Expr) : Prop where
  expression : asExpression text = .ok e
  statements : parse .module text = .ok (.module [.expr e])
  sound : (Program.module [.expr e]).fault? = none

theorem withFrame_map {α β : Type} (a : Addr) (f : α → β) (y : Run α) :
    withFrame a (f <$> y) = f <$> withFrame a y := by
  funext s
  by_cases hdepth : s.depth < 1000
  · rw [map_apply, withFrame_apply hdepth, withFrame_apply hdepth, map_apply]
    rcases y _ with ⟨_ | _, t⟩ <;> rfl
  · have htoo : s.depth ≥ 1000 := Nat.not_lt.mp hdepth
    rw [map_apply]
    simp only [withFrame, bind_apply, get_apply, if_pos htoo]
    rfl

/-- Statements that are one expression run that expression, and nothing is done with its value. -/
theorem runStatements_eq {text : String} {e : Expr} (h : SaysOnly text e) (n : Nat) (globals : Addr)
    (x : Value) : runStatements (machine (n + 1)) globals text x =
      whileHandling x (runOnce (machine n) globals text fun _ => return .none) := by
  have hblock : execBlock (machine (n + 1)) [.expr e] = (fun _ => ()) <$> (machine n).eval e := by
    have hexec : (machine (n + 1)).exec [.expr e] = (do
        let _ ← (machine n).eval e
        return .next) := by
      change execAll (machine n) [.expr e] = _
      simp only [execAll, execStmt, bind_assoc, pure_bind]
    simp only [execBlock, hexec, bind_assoc, pure_bind, map_eq_pure_bind]
  have hcompile : compileSource .module text = pure (.module [.expr e]) := by
    simp only [compileSource, h.statements, h.sound]
  simp only [runStatements, execSource, hcompile, runOnce, h.expression, pure_bind, hblock,
    withFrame_map, bind_assoc, bind_map_left]

section Reports

variable {m : Machine} {text : String} {s t : Session} {x y : Run Value}

/-- What is reported depends on how a run ends, and not on where it has started. -/
theorem reporting_congr (h : x s = y t) : reporting m x s = reporting m y t := by
  simp only [reporting, tryCatch_apply, bind_apply, h]

theorem blaming_congr (h : x s = y t) : blaming m text x s = blaming m text y t := by
  simp only [blaming, tryCatch_apply, h]

end Reports

/-- A text is run once, for the user or for another text, unless it is an expression whose run raises
a syntax error. Then it is run once more, as statements, in the session that the first run has left,
and what is reported is how the second run ends. If the text is one expression as statements too,
the second run evaluates it again. -/
theorem interpret_runs_once_or_again (m : Machine) (globals : Addr) (text : String) (s : Session) :
    ((¬∃ x t, RunsAgain m globals text (showResult m) s x t) →
      interpret m globals text s = reporting m (runOnce m globals text (showResult m)) s) ∧
    (∀ x t, RunsAgain m globals text (showResult m) s x t →
      interpret m globals text s = reporting m (runStatements m globals text x) t) ∧
    ((¬∃ x t, RunsAgain m globals text pure s x t) →
      evaluateSource m globals text s = blaming m text (runOnce m globals text pure) s) ∧
    (∀ x t, RunsAgain m globals text pure s x t →
      evaluateSource m globals text s = blaming m text (runStatements m globals text x) t) ∧
    ∀ n e, m = machine (n + 1) → SaysOnly text e → ∀ x, runStatements m globals text x =
      whileHandling x (runOnce (machine n) globals text fun _ => return .none) := by
  refine ⟨fun h => ?_, fun x t h => ?_, fun h => ?_, fun x t h => ?_, ?_⟩
  · rw [interpret]
    exact reporting_congr (runSource_of_not_runsAgain h)
  · rw [interpret]
    exact reporting_congr (runSource_of_runsAgain h)
  · rw [evaluateSource]
    exact blaming_congr (runSource_of_not_runsAgain h)
  · rw [evaluateSource]
    exact blaming_congr (runSource_of_runsAgain h)
  · rintro n e rfl hsays x
    exact runStatements_eq hsays n globals x

/-- The name that an expression calls without arguments. -/
def calledName? : Expr → Option String
  | .call (.name f) [] [] => some f
  | _ => none

/-- The expression that a program consists of. -/
def loneExpr? : Program → Option Expr
  | .module [.expr e] => some e
  | _ => none

theorem eq_of_calledName? {e : Expr} {f : String} (h : calledName? e = some f) :
    e = .call (.name f) [] [] := by
  unfold calledName? at h
  split at h <;> cases h
  rfl

theorem eq_of_loneExpr? {program : Program} {e : Expr} (h : loneExpr? program = some e) :
    program = .module [.expr e] := by
  unfold loneExpr? at h
  split at h <;> cases h
  rfl

theorem saysOnly_call : SaysOnly "f()" (.call (.name "f") [] []) where
  expression := by
    have hcalled : (asExpression "f()").toOption.bind calledName? = some "f" := by decide +kernel
    rcases hread : asExpression "f()" with why | e <;> rw [hread] at hcalled
    · cases hcalled
    · rw [eq_of_calledName? hcalled]
  statements := by
    have hcalled : ((parse .module "f()").toOption.bind loneExpr?).bind calledName? = some "f" := by
      decide +kernel
    obtain ⟨e, he, hname⟩ := Option.bind_eq_some_iff.mp hcalled
    rcases hread : parse .module "f()" with why | program <;> rw [hread] at he
    · cases he
    · rw [eq_of_loneExpr? he, eq_of_calledName? hname]
  sound := rfl

/-- What has been written when a run ends with a syntax error. -/
def writtenBefore? : Except Raised Value × Session → Option Text.Bytes
  | (.error r, t) => if r.isA "SyntaxError" t then some t.world.out else none
  | _ => none

theorem exists_of_writtenBefore? {outcome : Except Raised Value × Session} {out : Text.Bytes}
    (h : writtenBefore? outcome = some out) :
    ∃ x t, outcome = (.error (.exception x), t) ∧
      (Raised.exception x).isA "SyntaxError" t = true ∧ t.world.out = out := by
  rcases outcome with ⟨(r | v), t⟩
  · cases r with
    | exhausted => cases h
    | exception x =>
      rw [writtenBefore?] at h
      split at h <;> cases h
      next hclass => exact ⟨x, t, rfl, hclass, rfl⟩
  · cases h

/-- A session with a function that prints and then raises a syntax error. -/
def faultySession : Session :=
  (interpret standardMachine 0 "def f():\n    print('x')\n    raise SyntaxError('s')"
    (Session.initial Shell.bareWorld)).2

/-- A line that calls the function is run twice, and prints twice. If the call stands in a statement,
it is run once. -/
theorem faultySession_prints_twice :
    (∃ x t, RunsAgain standardMachine 0 "f()" (showResult standardMachine) faultySession x t ∧
      t.world.out = Text.encode "x\n" ∧
      interpret standardMachine 0 "f()" faultySession = reporting standardMachine
        (whileHandling x (runOnce (machine (manyLevels - 1)) 0 "f()" fun _ => return .none)) t) ∧
    (interpret standardMachine 0 "f()" faultySession).2.world.out = Text.encode "x\nx\n" ∧
    interpret standardMachine 0 "y = f()" faultySession = reporting standardMachine
      (runOnce standardMachine 0 "y = f()" (showResult standardMachine)) faultySession ∧
    (interpret standardMachine 0 "y = f()" faultySession).2.world.out = Text.encode "x\n" := by
  obtain ⟨-, hagain, -, -, hsecond⟩ :=
    interpret_runs_once_or_again standardMachine 0 "f()" faultySession
  obtain ⟨honce, -⟩ := interpret_runs_once_or_again standardMachine 0 "y = f()" faultySession
  have hlevels : standardMachine = machine (manyLevels - 1 + 1) := rfl
  refine ⟨?_, by decide +kernel, honce ?_, by decide +kernel⟩
  · have hfirst : writtenBefore? (runOnce standardMachine 0 "f()" (showResult standardMachine)
        faultySession) = some (Text.encode "x\n") := by decide +kernel
    obtain ⟨x, t, hrun, hclass, hout⟩ := exists_of_writtenBefore? hfirst
    have hruns : RunsAgain standardMachine 0 "f()" (showResult standardMachine) faultySession x t :=
      ⟨⟨_, saysOnly_call.expression⟩, hrun, hclass⟩
    refine ⟨x, t, hruns, hout, ?_⟩
    rw [hagain x t hruns, hsecond _ _ hlevels saysOnly_call]
  · rintro ⟨x, t, ⟨e, he⟩, -, -⟩
    have hnone : (asExpression "y = f()").toOption.isNone = true := by decide +kernel
    rw [he] at hnone
    cases hnone

end Conch.Eval
