import Mathlib
import Conch.Proofs.Eval.Command
import Conch.Proofs.Line.Lowering

/-!
# A command is one call

A line that is taken for a command becomes code, a call with the line in quotes, and the code is
read and evaluated like any other. The main result says that nothing is lost on the way: whatever
characters the line holds, evaluating its code comes down to one call of the function that is kept
under the name of the shell, and the call is given the line and nothing else.
-/

namespace Conch.Line

open Code Eval

/-- Whether a program is rather a command: it is a single expression with a name that has no meaning.
-/
def isCommandProgram (defined : String → Bool) : Program → Bool
  | .module body | .interactive body => isCommandBody defined body
  | .expression _ => false

/-- Whether a line is taken for a command. -/
def isCommand (mode : Mode) (defined : String → Bool) (line : String) : Bool :=
  match parse mode (spliced line).text with
  | .ok program => isCommandProgram defined program
  | .error _ => !looksLikeCode line.toList

variable {mode : Mode} {defined : String → Bool} {text out : String}

theorem lowerProgram_of_isCommandProgram {line : String} {mapping : List (String × Expansion)}
    {program : Program} (h : isCommandProgram defined program = true) :
    lowerProgram defined line mapping program = .ok (commandCall line) := by
  cases program with
  | expression e => cases h
  | module body => exact if_pos h
  | interactive body => exact if_pos h

theorem lower_of_isCommand (h : isCommand mode defined (Text.strip text) = true) :
    lower mode defined text = .ok (commandCall (Text.strip text)) := by
  unfold isCommand at h
  unfold lower
  split at h
  next program hparse =>
    simp only [hparse]
    exact lowerProgram_of_isCommandProgram h
  next why hparse => simp [hparse, by simpa using h]

theorem printed_of_not_isCommandProgram {line : String} {program : Program}
    (h : isCommandProgram defined program = false)
    (hlower : lowerProgram defined line (spliced line).mapping program = .ok out) :
    Printer.program (withCalls line program) = .ok out := by
  unfold lowerProgram at hlower
  extract_lets print at hlower
  have hprint (hp : print program = .ok out) : Printer.program (withCalls line program) = .ok out := by
    simp only [print] at hp
    split at hp
    next printed hprinted =>
      cases hp
      exact hprinted
    next => cases hp
  cases program with
  | expression e => cases hlower
  | module body =>
    have hbody : ¬ isCommandBody defined body = true := Bool.eq_false_iff.mp h
    exact hprint ((if_neg hbody).symm.trans hlower)
  | interactive body =>
    have hbody : ¬ isCommandBody defined body = true := Bool.eq_false_iff.mp h
    exact hprint ((if_neg hbody).symm.trans hlower)

theorem printed_of_not_isCommand (h : isCommand mode defined (Text.strip text) = false)
    (hlower : lower mode defined text = .ok out) :
    ∃ program, parse mode (spliced (Text.strip text)).text = .ok program ∧
      Printer.program (withCalls (Text.strip text) program) = .ok out := by
  unfold isCommand at h
  unfold lower at hlower
  split at h
  next program hparse =>
    simp only [hparse] at hlower
    exact ⟨program, hparse, printed_of_not_isCommandProgram h hlower⟩
  next why hparse =>
    simp [hparse, by simpa using h] at hlower

/-- Evaluating a text is one call, with one text as its argument and no keywords: the function is
the value kept under a name, and how the call ends is how the evaluation ends. This holds of every
machine that takes expressions apart as programs do, however it answers calls, and of every session
with room for one more frame. -/
def CallsOnce (source name argument : String) : Prop :=
  ∀ (m inner core : Machine) (globals : Addr) (s : Session) (f : Value),
    m.eval = evalExpr inner → inner.eval = evalExpr core → s.depth < 1000 →
    lookupName (s.entries globals) name = some f →
    evalSource m (moduleFrame globals) source s =
      ((inner.call f [.text argument] [] (s.enter (moduleFrame globals))).1,
        (inner.call f [.text argument] [] (s.enter (moduleFrame globals))).2.back s)

theorem callsOnce_commandCall (line : String) : CallsOnce (commandCall line) shellCall line := by
  intro m inner core globals s f hm hinner hdepth hshell
  exact evalSource_commandCall hm hinner line hdepth hshell

/-- The machine of a session is one of those that take expressions apart. -/
example : ∃ inner core, standardMachine.eval = evalExpr inner ∧ inner.eval = evalExpr core :=
  ⟨machine (manyLevels - 1), machine (manyLevels - 2), rfl, rfl⟩

/-- A line that is taken for a command is lowered to a call with the line in quotes, and any other
line that is lowered is a program printed again. The call is read back with the line as its only
argument, and evaluating it makes just that call. -/
theorem lower_command_callsOnce (mode : Mode) (defined : String → Bool) (text : String) :
    (isCommand mode defined (Text.strip text) = true →
      lower mode defined text = .ok (commandCall (Text.strip text))) ∧
    (isCommand mode defined (Text.strip text) = false → ∀ out, lower mode defined text = .ok out →
      ∃ program, parse mode (spliced (Text.strip text)).text = .ok program ∧
        Printer.program (withCalls (Text.strip text) program) = .ok out) ∧
    parse .expression (commandCall (Text.strip text)) =
      .ok (.expression (.call (.name shellCall) [.constant (.text (Text.strip text) false)] [])) ∧
    CallsOnce (commandCall (Text.strip text)) shellCall (Text.strip text) := by
  refine ⟨lower_of_isCommand, ?_, parse_commandCall _, callsOnce_commandCall _⟩
  intro h out hlower
  exact printed_of_not_isCommand h hlower

/-- Quotes of both kinds, escapes, control characters and lines do not keep a line from being a
command. -/
example : isCommand .module (fun _ => false)
    "echo \"it's\" 'a\\tb' \t\u0085 é😀\nls | wc" = true := by
  decide +kernel

end Conch.Line
