import Mathlib
import Conch.Proofs.Code.Program
import Conch.Proofs.Eval.Expansion
import Conch.Proofs.Eval.Lines
import Conch.Proofs.Line.Expansions
import Conch.Proofs.Text.Replace

/-!
# A value in a command

A command with a single expansion is expanded by performing it. If the expansion asks for a value and
holds no other, its content is evaluated as code, and the text of the value takes its place.
-/

namespace Conch.Shell.Performer

open Line

variable {ε σ : Type} (p : Performer ε σ)

theorem expand_of_plain {text : List Char} (h : expansions text = []) (s : σ) :
    p.expand text s = (.ok text, s) := by
  rw [expand_eq_weave, h]
  rfl

section

variable {e : Expansion} (hplain : expansions e.content = []) {s t : σ}
include hplain

/-- An expansion that holds no other is performed as it stands. -/
theorem evaluate_of_ok {v : List Char} (h : p.perform e.sigil e.content s = (.ok v, t)) :
    p.evaluate e s = (.ok v, t) := by
  rw [evaluate_apply, Effect.bind_apply, p.expand_of_plain hplain]
  simp only [h]

theorem evaluate_of_error {r : ε} (h : p.perform e.sigil e.content s = (.error r, t)) :
    p.evaluate e s = Prod.map .error id (p.reported (r, t) e) := by
  rw [evaluate_apply, Effect.bind_apply, p.expand_of_plain hplain]
  simp only [h]

variable {text : List Char} (hone : expansions text = [e])
include hone

/-- A text with one expansion is what is around it and what it gives. -/
theorem expand_of_ok {v : List Char} (h : p.perform e.sigil e.content s = (.ok v, t)) :
    p.expand text s = (.ok (text.take e.start ++ v ++ text.drop e.stop), t) := by
  simp only [expand_eq_weave, hone, List.mapM_cons, List.mapM_nil, Effect.bind_apply,
    p.evaluate_of_ok hplain h]
  rfl

theorem expand_of_error {r : ε} (h : p.perform e.sigil e.content s = (.error r, t)) :
    p.expand text s = Prod.map .error id (p.reported (r, t) e) := by
  have hsplit : expansions text = [] ++ e :: [] := hone
  exact p.expand_of_evaluate_error hsplit rfl (p.evaluate_of_error hplain h)

end

end Conch.Shell.Performer

namespace Conch.Code

open Line

/-- No expansion starts or ends in a name. -/
theorem IsIdentifier.plain {x : String} (hx : IsIdentifier x) : Plain x.toList := by
  intro c hc
  have hne {d : Char} (hd : Scan.continuesWord d = false) : c ≠ d :=
    Scan.ne_of_continuesWord (hx.forall_continuesWord c hc) hd
  exact ⟨hne rfl, hne rfl, fun sigil => by cases sigil <;> exact hne rfl⟩

end Conch.Code

namespace Conch.Eval

open Effect Line

variable {s t u : Session} {globals : Addr} {m : Machine} {text : String}

theorem evaluateSource_of_ok {v : Value}
    (h : evalSource m (moduleFrame globals) text s = (.ok v, t)) :
    evaluateSource m globals text s = (.ok v, t) := by
  simp only [evaluateSource, blaming, runSource, catching, tryCatch_apply, bind_apply, h, pure_apply]

/-- An error of code that has been read is not taken for a fault of its text. -/
theorem runSource_of_error {r : Raised}
    (h : evalSource m (moduleFrame globals) text s = (.error r, t))
    (hclass : r.isA "SyntaxError" t = false) :
    runSource m globals text pure s = (.error r, t) := by
  simp only [runSource, catching, tryCatch_apply, bind_apply, h]
  cases r with
  | exhausted => rfl
  | exception v =>
    simp only [errorIs_apply, bind_apply, hclass, Bool.false_eq_true, if_false]
    rfl

/-- An ordinary error is reported as a wrong value. -/
theorem evaluateSource_of_ordinary {v : Value} {message : String}
    (h : runSource m globals text pure s = (.error (.exception v), t))
    (hclass : (Raised.exception v).isA "SyntaxError" t = false)
    (hinterrupt : (Raised.exception v).isA "KeyboardInterrupt" t = false)
    (hordinary : (Raised.exception v).isA "Exception" t = true)
    (hmessage : formatted m v "" t = (.ok message, u)) :
    evaluateSource m globals text s =
      (.error (.exception (.ref u.store.size)), u.push (errorObject "ValueError"
        ("Error evaluating '" ++ text ++ "': " ++ message))) := by
  simp [evaluateSource, blaming, tryCatch_apply, h, bind_apply, errorIs_apply, hinterrupt, hclass,
    hordinary, hmessage]
  rfl

end Conch.Eval

namespace Conch.Eval.Library

open Effect Line

/-- Of a message that speaks of the evaluation of code, what stands behind the first colon with a
blank is kept. -/
theorem innerMessage_behind {a : List Char} (h : ¬ ": ".toList <:+: a) (b : List Char) :
    innerMessage ("Error evaluating '".toList ++ a ++ (": ".toList ++ b)) = b := by
  have hoccurs : Text.occursIn "Error evaluating".toList
      ("Error evaluating '".toList ++ a ++ (": ".toList ++ b)) = true := by
    simp [Text.occursIn, Text.find?]
  have hfront : ¬ ": ".toList <:+: "Error evaluating '".toList ++ a ++ ": ".toList.dropLast := by
    intro hinside
    rw [List.append_assoc] at hinside
    have hbehind := Text.infix_of_infix_append (c := ':') (by simp) hinside
    exact h (Text.infix_of_infix_concat (l := [':']) (by decide) hbehind)
  rw [innerMessage, if_pos hoccurs, Text.cut, Text.cutFrom_one hfront]
  rfl

/-- The words that the evaluation of code puts in front of a message are taken off again. -/
theorem innerMessage_evaluating {text : String} (h : ¬ ": ".toList <:+: text.toList)
    (message : String) :
    innerMessage ("Error evaluating '" ++ text ++ "': " ++ message).toList = message.toList := by
  have hquote : ¬ ": ".toList <:+: text.toList ++ ['\''] := fun hinside =>
    h (Text.infix_of_infix_concat (l := [':']) (by decide) hinside)
  have hsplit : ("Error evaluating '" ++ text ++ "': " ++ message).toList =
      "Error evaluating '".toList ++ (text.toList ++ ['\'']) ++ (": ".toList ++ message.toList) := by
    simp
  rw [hsplit, innerMessage_behind hquote]

variable {m : Machine} {globals : Addr} {a content : List Char}

/-- A text is its own words. -/
theorem commandText_text (m : Machine) (v : String) (s : Session) :
    commandText m (.text v) s = (.ok v, s) := rfl

/-- Code is evaluated for a value, and the value is put into words. -/
def evaluateText (m : Machine) (globals : Addr) (content : List Char) : Run String := do
  commandText m (← evaluateSource m globals (String.ofList content))

theorem perform_value (content : List Char) :
    (performer m globals).perform .value content =
      String.toList <$> evaluateText m globals content := by
  rw [map_eq_pure_bind, evaluateText, bind_assoc]
  rfl

section

variable (ha : Plain a) (hbalanced : IsBalanced content) (hplain : expansions content = [])
  {text : String} (htext : text.toList = a ++ '@' :: '(' :: (content ++ [')'])) {s t : Session}
include ha hbalanced hplain htext

/-- A command that ends with a value: the text of the value comes in its place. -/
theorem expandText_of_ok {given : String}
    (h : evaluateText m globals content s = (.ok given, t)) :
    expandText m globals text s = (.ok (String.ofList a ++ given), t) := by
  have hone := expansions_append_text ha hbalanced .value
  rw [show Sigil.value.char = '@' from rfl, ← htext] at hone
  have hperform : (performer m globals).perform .value content s = (.ok given.toList, t) := by
    rw [perform_value, map_apply, h]
  have hexpand := (performer m globals).expand_of_ok hplain hone hperform
  have hfront : text.toList.take a.length = a := by rw [htext, List.take_left]
  have hback : text.toList.drop (a.length + content.length + 3) = [] := by
    simp [htext]
    omega
  simp only [hfront, hback, List.append_nil] at hexpand
  simp only [expandText, bind_apply, hexpand, pure_apply, String.ofList_append,
    String.ofList_toList]

theorem expandText_of_error {r : Raised} (h : evaluateText m globals content s = (.error r, t)) :
    expandText m globals text s = Prod.map .error id ((performer m globals).reported (r, t)
      ⟨.value, content, a.length, a.length + content.length + 3⟩) := by
  have hone := expansions_append_text ha hbalanced .value
  rw [show Sigil.value.char = '@' from rfl, ← htext] at hone
  have hperform : (performer m globals).perform .value content s = (.error r, t) := by
    rw [perform_value, map_apply, h]
  simp only [expandText, bind_apply, (performer m globals).expand_of_error hplain hone hperform]
  rfl

end

end Conch.Eval.Library
