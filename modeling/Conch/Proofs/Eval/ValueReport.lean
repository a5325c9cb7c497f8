import Mathlib
import Conch.Proofs.Eval.ValueExpansion
import Conch.Session.Start

/-!
# The report on a value that fails

When the code of a value raises an error, the evaluation wraps its message with the code, and the
expansion takes the wrapping off again and reports the expansion with the message. The wrapping is
taken off at the first colon with a blank behind it. That is where it ends unless the code holds such
a colon itself, as a dictionary or a `lambda` may: then the report goes on with the rest of the code.
An interruption is reported as such, whatever it says, and an error that is not ordinary passes.
-/

namespace Conch.Eval

open Effect Line

section

variable {m : Machine} {globals : Addr} {text : String} {s t : Session} {v : Value}

/-- An interruption is reported as a wrong value too, but not with its own message. -/
theorem evaluateSource_of_interrupt
    (h : runSource m globals text pure s = (.error (.exception v), t))
    (hinterrupt : (Raised.exception v).isA "KeyboardInterrupt" t = true) :
    evaluateSource m globals text s = (.error (.exception (.ref t.store.size)),
      t.push (errorObject "ValueError" "Interrupted")) := by
  simp [evaluateSource, blaming, tryCatch_apply, h, bind_apply, errorIs_apply, hinterrupt]
  rfl

/-- Any other error that is not ordinary passes the evaluation. -/
theorem evaluateSource_of_passing
    (h : runSource m globals text pure s = (.error (.exception v), t))
    (hclass : (Raised.exception v).isA "SyntaxError" t = false)
    (hinterrupt : (Raised.exception v).isA "KeyboardInterrupt" t = false)
    (hordinary : (Raised.exception v).isA "Exception" t = false) :
    evaluateSource m globals text s = (.error (.exception v), t) := by
  simp [evaluateSource, blaming, tryCatch_apply, h, bind_apply, errorIs_apply, hinterrupt, hclass,
    hordinary]
  rfl

end

/-- A computation raises a `RuntimeError` that has a message and nothing else. -/
def RaisesReport {α : Type} (outcome : Except Raised α × Session) (message : String) : Prop :=
  ∃ a t, outcome = (.error (.exception (.ref a)), t) ∧
    object a t = (.ok (errorObject "RuntimeError" message), t)

theorem RaisesReport.message_eq {α : Type} {outcome : Except Raised α × Session}
    {message message' : String} (h : RaisesReport outcome message)
    (h' : RaisesReport outcome message') : message = message' := by
  obtain ⟨a, t, rfl, hobject⟩ := h
  obtain ⟨a', t', heq, hobject'⟩ := h'
  cases heq
  rw [hobject] at hobject'
  cases hobject'
  rfl

/-- The error of a report is an ordinary one. -/
theorem RaisesReport.isA_exception {α : Type} {r : Raised} {t : Session} {message : String}
    (h : RaisesReport ((.error r, t) : Except Raised α × Session) message) :
    r.isA "Exception" t = true := by
  obtain ⟨a, t', heq, hobject⟩ := h
  cases heq
  exact (isA_of_mem (by simp) hobject).1

namespace Library

variable {m : Machine} {globals : Addr} {text c : String} {s t u : Session} {v : Value}
  {message : String}

/-- The report on a value: the expansion as it is written, and a cause. -/
def valueReport (c cause : String) : String := "@(" ++ c ++ "): " ++ cause

theorem valueReport_injective (c : String) : Function.Injective (valueReport c) := by
  intro cause cause' h
  apply String.toList_inj.mp
  simpa [valueReport] using congrArg String.toList h

theorem expansionMessage_value {c cause message : String}
    (h : innerMessage message.toList = cause.toList) :
    String.ofList (expansionMessage .value c.toList message.toList) = valueReport c cause := by
  apply String.toList_inj.mp
  simp [expansionMessage, h, valueReport, Sigil.char]

section

variable (hfirst : (expansions text.toList).head?.map Expansion.form = some (.value, c.toList))
  (hplain : expansions c.toList = [])
include hfirst hplain

/-- If the code of the first expansion fails, the text fails as that expansion reports it. -/
theorem expandText_of_evaluateSource {r : Raised} (h : evaluateSource m globals c s = (.error r, t)) :
    ∃ e : Expansion, e.form = (.value, c.toList) ∧
      expandText m globals text s = Prod.map .error id ((performer m globals).reported (r, t) e) := by
  obtain ⟨e, hhead, hform⟩ := Option.map_eq_some_iff.mp hfirst
  obtain ⟨after, hafter⟩ := List.head?_eq_some_iff.mp hhead
  obtain ⟨hsigil, hcontent⟩ := Prod.mk.inj hform
  have hsplit : expansions text.toList = [] ++ e :: after := hafter
  have hperform : (performer m globals).perform e.sigil e.content s = (.error r, t) := by
    rw [hsigil, perform_value, map_apply, evaluateText, bind_apply, hcontent, String.ofList_toList, h]
  have hevaluate := (performer m globals).evaluate_of_error (hcontent ▸ hplain) hperform
  refine ⟨e, hform, ?_⟩
  have hexpand := (performer m globals).expand_of_evaluate_error hsplit rfl hevaluate
  simp only [expandText, bind_apply, hexpand]
  rfl

/-- A wrong value is reported with what is left of its message. -/
theorem raisesReport_of_valueError {cause : String}
    (h : evaluateSource m globals c s =
      (.error (.exception (.ref t.store.size)), t.push (errorObject "ValueError" message)))
    (hcause : innerMessage message.toList = cause.toList) :
    RaisesReport (expandText m globals text s) (valueReport c cause) := by
  obtain ⟨e, hform, hexpand⟩ := expandText_of_evaluateSource hfirst hplain h
  obtain ⟨hsigil, hcontent⟩ := Prod.mk.inj hform
  have hobject := object_push t (errorObject "ValueError" message)
  have hordinary := (isA_of_mem (by simp) hobject).1
  have hdisplay := display_errorObject (isPlainError_of_mem (by simp)) hobject m
  rw [performer, reported_of_display_ok _ _ _ hordinary hdisplay, hsigil, hcontent,
    expansionMessage_value hcause] at hexpand
  exact ⟨_, _, hexpand, object_push _ _⟩

section

variable (hrun : runSource m globals c pure s = (.error (.exception v), t))
include hrun

/-- An interruption is reported as one. -/
theorem raisesReport_of_interrupt
    (hinterrupt : (Raised.exception v).isA "KeyboardInterrupt" t = true) :
    RaisesReport (expandText m globals text s) (valueReport c "Interrupted") :=
  raisesReport_of_valueError hfirst hplain (evaluateSource_of_interrupt hrun hinterrupt)
    (by decide)

variable (hclass : (Raised.exception v).isA "SyntaxError" t = false)
  (hinterrupt : (Raised.exception v).isA "KeyboardInterrupt" t = false)
include hclass hinterrupt

/-- An error that is not ordinary is not reported. -/
theorem expandText_of_passing (hordinary : (Raised.exception v).isA "Exception" t = false) :
    expandText m globals text s = (.error (.exception v), t) := by
  obtain ⟨e, -, hexpand⟩ := expandText_of_evaluateSource hfirst hplain
    (evaluateSource_of_passing hrun hclass hinterrupt hordinary)
  rw [performer, reported_of_not_exception _ _ _ hordinary] at hexpand
  exact hexpand

variable (hordinary : (Raised.exception v).isA "Exception" t = true)
  (hmessage : formatted m v "" t = (.ok message, u))
include hordinary hmessage

/-- The report on an ordinary error says what the error says if no colon with a blank is in the
code. -/
theorem raisesReport_of_ordinary (hcolon : ¬ ": ".toList <:+: c.toList) :
    RaisesReport (expandText m globals text s) (valueReport c message) :=
  raisesReport_of_valueError hfirst hplain
    (evaluateSource_of_ordinary hrun hclass hinterrupt hordinary hmessage)
    (innerMessage_evaluating hcolon message)

/-- Otherwise the report says what stands in the code behind the first such colon, and then what the
error says. -/
theorem raisesReport_of_colon {a b : List Char} (hsplit : c.toList = a ++ (": ".toList ++ b))
    (ha : ¬ ": ".toList <:+: a) :
    RaisesReport (expandText m globals text s)
      (valueReport c (String.ofList b ++ "': " ++ message)) := by
  refine raisesReport_of_valueError hfirst hplain
    (evaluateSource_of_ordinary hrun hclass hinterrupt hordinary hmessage) ?_
  have hwrapped : ("Error evaluating '" ++ c ++ "': " ++ message).toList =
      "Error evaluating '".toList ++ a ++
        (": ".toList ++ (String.ofList b ++ "': " ++ message).toList) := by
    simp [hsplit]
  rw [hwrapped, innerMessage_behind ha]

/-- The report on an ordinary error is just the message of the error if and only if no colon in the
code has a blank behind it. -/
theorem raisesReport_iff_of_ordinary :
    RaisesReport (expandText m globals text s) (valueReport c message) ↔
      ¬ ": ".toList <:+: c.toList := by
  refine ⟨fun hreports hcolon => ?_,
    raisesReport_of_ordinary hfirst hplain hrun hclass hinterrupt hordinary hmessage⟩
  -- the report is longer than the message
  obtain ⟨a, b, hsplit, ha⟩ := Text.exists_first_occurrence (by simp) hcolon
  have hlonger :=
    raisesReport_of_colon hfirst hplain hrun hclass hinterrupt hordinary hmessage hsplit ha
  have heq := valueReport_injective c (hreports.message_eq hlonger)
  have hlength := congrArg String.length heq
  simp at hlength

end

end

/-- What is told when the code of the first expansion of a text raises an error, whatever the code and
the message are; the message is the text that the error is laid out as. The report names the expansion and gives the message of the error, and nothing else,
just when the error is an ordinary one and no colon in the code has a blank behind it. If one has, the
rest of the code behind the first of them gets into the report. An interruption is always reported as
`Interrupted`, and any other error that is not ordinary goes on as it is. -/
theorem expandText_raisesReport_iff
    (hfirst : (expansions text.toList).head?.map Expansion.form = some (.value, c.toList))
    (hplain : expansions c.toList = [])
    (hrun : runSource m globals c pure s = (.error (.exception v), t))
    (hclass : (Raised.exception v).isA "SyntaxError" t = false)
    (hmessage : formatted m v "" t = (.ok message, u)) :
    (RaisesReport (expandText m globals text s) (valueReport c message) ↔
      if (Raised.exception v).isA "KeyboardInterrupt" t then message = "Interrupted"
      else (Raised.exception v).isA "Exception" t = true ∧ ¬ ": ".toList <:+: c.toList) ∧
    ((Raised.exception v).isA "KeyboardInterrupt" t = true →
      RaisesReport (expandText m globals text s) (valueReport c "Interrupted")) ∧
    ((Raised.exception v).isA "KeyboardInterrupt" t = false →
      (Raised.exception v).isA "Exception" t = true →
      ∀ a b, c.toList = a ++ (": ".toList ++ b) → ¬ ": ".toList <:+: a →
        RaisesReport (expandText m globals text s)
          (valueReport c (String.ofList b ++ "': " ++ message))) ∧
    ((Raised.exception v).isA "KeyboardInterrupt" t = false →
      (Raised.exception v).isA "Exception" t = false →
      expandText m globals text s = (.error (.exception v), t)) := by
  have hinterrupted := raisesReport_of_interrupt hfirst hplain hrun
  have hpassing := expandText_of_passing hfirst hplain hrun hclass
  refine ⟨?_, hinterrupted, fun hinterrupt hordinary a b => ?_, hpassing⟩
  · cases hinterrupt : (Raised.exception v).isA "KeyboardInterrupt" t with
    | true =>
      rw [if_pos rfl]
      constructor
      · intro hreports
        exact valueReport_injective c (hreports.message_eq (hinterrupted hinterrupt))
      · rintro rfl
        exact hinterrupted hinterrupt
    | false =>
      rw [if_neg Bool.false_ne_true]
      cases hordinary : (Raised.exception v).isA "Exception" t with
      | true =>
        rw [raisesReport_iff_of_ordinary hfirst hplain hrun hclass hinterrupt hordinary hmessage]
        simp
      | false =>
        rw [hpassing hinterrupt hordinary]
        have hnot : ¬ RaisesReport ((.error (.exception v), t) : Except Raised String × Session)
            (valueReport c message) := by
          intro hreports
          rw [hreports.isA_exception] at hordinary
          cases hordinary
        simpa using hnot
  · exact raisesReport_of_colon hfirst hplain hrun hclass hinterrupt hordinary hmessage

/-- What an error that comes out of a run says, if it is an ordinary error and not about the form of
the code. -/
def ordinaryCause? (m : Machine) (outcome : Except Raised Value × Session) : Option String :=
  match outcome with
  | (.error (.exception v), t) =>
    if (Raised.exception v).isA "SyntaxError" t || (Raised.exception v).isA "KeyboardInterrupt" t ||
        !(Raised.exception v).isA "Exception" t then none
    else (formatted m v "" t).1.toOption
  | _ => none

theorem exists_of_ordinaryCause? {outcome : Except Raised Value × Session}
    (h : ordinaryCause? m outcome = some message) : ∃ v t u,
      outcome = (.error (.exception v), t) ∧ (Raised.exception v).isA "SyntaxError" t = false ∧
      (Raised.exception v).isA "KeyboardInterrupt" t = false ∧
      (Raised.exception v).isA "Exception" t = true ∧ formatted m v "" t = (.ok message, u) := by
  unfold ordinaryCause? at h
  split at h
  next v t =>
    split at h
    · cases h
    next hclass =>
      simp only [Bool.or_eq_true, not_or, Bool.not_eq_true, Bool.not_eq_false'] at hclass
      rcases hformatted : formatted m v "" t with ⟨r | said, u⟩ <;> rw [hformatted] at h <;> cases h
      exact ⟨v, t, u, rfl, hclass.1.1, hclass.1.2, by simpa using hclass.2, hformatted⟩
  · cases h

/-- A division by zero is reported as such if the function around it is written without a blank; a
blank behind the colon brings the rest of the code into the report. -/
theorem raisesReport_division_by_zero :
    let s := Conch.Session.initial (World.Setup.plain ["ROOT"]).world
    RaisesReport (expandText standardMachine 0 "echo @((lambda:1/0)()) @(x)" s)
      (valueReport "(lambda:1/0)()" "division by zero") ∧
    RaisesReport (expandText standardMachine 0 "echo @((lambda: 1/0)()) @(x)" s)
      (valueReport "(lambda: 1/0)()" "1/0)()': division by zero") ∧
    ¬ RaisesReport (expandText standardMachine 0 "echo @((lambda: 1/0)()) @(x)" s)
      (valueReport "(lambda: 1/0)()" "division by zero") := by
  intro s
  have hfirst : (expansions "echo @((lambda:1/0)()) @(x)".toList).head?.map Expansion.form =
      some (.value, "(lambda:1/0)()".toList) := by decide
  have hfirst' : (expansions "echo @((lambda: 1/0)()) @(x)".toList).head?.map Expansion.form =
      some (.value, "(lambda: 1/0)()".toList) := by decide
  have hcause : ordinaryCause? standardMachine
      (runSource standardMachine 0 "(lambda:1/0)()" pure s) = some "division by zero" := by
    decide +kernel
  have hcause' : ordinaryCause? standardMachine
      (runSource standardMachine 0 "(lambda: 1/0)()" pure s) = some "division by zero" := by
    decide +kernel
  obtain ⟨v, t, u, hrun, hclass, hinterrupt, hordinary, hmessage⟩ := exists_of_ordinaryCause? hcause
  obtain ⟨v', t', u', hrun', hclass', hinterrupt', hordinary', hmessage'⟩ :=
    exists_of_ordinaryCause? hcause'
  obtain ⟨hexact, -⟩ :=
    expandText_raisesReport_iff hfirst (by decide) hrun hclass hmessage
  obtain ⟨hexact', -, hcolon, -⟩ :=
    expandText_raisesReport_iff hfirst' (by decide) hrun' hclass' hmessage'
  rw [hinterrupt, if_neg Bool.false_ne_true] at hexact
  rw [hinterrupt', if_neg Bool.false_ne_true] at hexact'
  have hplain : ¬ ": ".toList <:+: "(lambda:1/0)()".toList := by decide
  have hfront : ¬ ": ".toList <:+: "(lambda".toList := by decide
  have hsplit : "(lambda: 1/0)()".toList = "(lambda".toList ++ (": ".toList ++ "1/0)()".toList) := by
    decide
  exact ⟨hexact.mpr ⟨hordinary, hplain⟩,
    hcolon hinterrupt' hordinary' _ _ hsplit hfront,
    fun hreports => (hexact'.mp hreports).2 ⟨_, _, by rw [hsplit, List.append_assoc]⟩⟩

end Library

end Conch.Eval
