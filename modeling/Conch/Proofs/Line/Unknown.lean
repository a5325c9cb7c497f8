import Mathlib
import Conch.Proofs.Code.Binding
import Conch.Proofs.Eval.OneCall

/-!
# Names without a meaning

A line that is one expression is taken for a command if some name in it has no meaning. The names
that an expression binds itself need no meaning from outside, but they are looked at like all
others, and only a comprehension that is the whole line is spared. For an expression whose free
names all have a meaning this leaves just one reason to be a command, which is a name that is bound
inside.
-/

namespace Conch.Line

open Code

/-- The expression that is the whole of a program. -/
def loneExpr? : Program → Option Expr
  | .module [.expr e] | .interactive [.expr e] => some e
  | _ => none

def isComprehension : Expr → Bool
  | .listComp .. | .setComp .. | .dictComp .. | .generator .. => true
  | _ => false

theorem isCommandExpr_eq (defined : String → Bool) (e : Expr) :
    isCommandExpr defined e =
      (!isComprehension e && e.names.any fun name => !isKnown defined name) := by
  cases e <;> rfl

theorem isCommandProgram_of_loneExpr? {defined : String → Bool} {program : Program} {e : Expr}
    (h : loneExpr? program = some e) :
    isCommandProgram defined program = isCommandExpr defined e := by
  unfold loneExpr? at h
  split at h
  next => cases h; rfl
  next => cases h; rfl
  next => cases h

/-- If the free names of an expression have a meaning, a name without one is bound inside. -/
theorem mem_binders_of_unknown {defined : String → Bool} {e : Expr} {name : String}
    (hfree : ∀ name ∈ e.free, isKnown defined name = true) (hname : name ∈ e.names)
    (hunknown : isKnown defined name = false) : name ∈ e.binders := by
  rcases e.mem_free_or_mem_binders hname with hmem | hmem
  · have hknown := hfree name hmem
    rw [hunknown] at hknown
    cases hknown
  · exact hmem

/-- A line that is one expression, all of whose free names have a meaning, is a command just if it
is no comprehension and holds a name that is bound inside it and has no meaning outside. A command
becomes a call with the line, and any other line is printed again. -/
theorem isCommand_iff_unknown_binder {mode : Mode} {defined : String → Bool} {text : String}
    {program : Program} {e : Expr}
    (hparse : parse mode (spliced (Text.strip text)).text = .ok program)
    (hlone : loneExpr? program = some e) (hfree : ∀ name ∈ e.free, isKnown defined name = true) :
    (isCommand mode defined (Text.strip text) = true ↔ isComprehension e = false ∧
      ∃ name ∈ e.names, name ∈ e.binders ∧ isKnown defined name = false) ∧
    (isCommand mode defined (Text.strip text) = true →
      lower mode defined text = .ok (commandCall (Text.strip text))) ∧
    (isCommand mode defined (Text.strip text) = false → ∀ out, lower mode defined text = .ok out →
      Printer.program (withCalls (Text.strip text) program) = .ok out) := by
  refine ⟨?_, lower_of_isCommand, ?_⟩
  · have hcommand : isCommand mode defined (Text.strip text) = isCommandExpr defined e := by
      rw [isCommand, hparse]
      exact isCommandProgram_of_loneExpr? hlone
    rw [hcommand, isCommandExpr_eq, Bool.and_eq_true, Bool.not_eq_true', List.any_eq_true]
    apply and_congr_right
    intro _
    constructor
    · rintro ⟨name, hname, hnot⟩
      have hunknown : isKnown defined name = false := by simpa using hnot
      exact ⟨name, hname, mem_binders_of_unknown hfree hname hunknown, hunknown⟩
    · rintro ⟨name, hname, -, hunknown⟩
      exact ⟨name, hname, by rw [hunknown]; rfl⟩
  · intro hnot out hlower
    obtain ⟨program', hparse', hprinted⟩ := printed_of_not_isCommand hnot hlower
    rw [hparse] at hparse'
    cases hparse'
    exact hprinted

/-- A sum over a generator: `sum` has a meaning and nothing else is free, but the line is a command
for the sake of `i`. -/
theorem isCommand_of_generator_argument :
    ∃ program e, parse .module (spliced (Text.strip "sum(i for i in [1, 2, 3])")).text =
        .ok program ∧ loneExpr? program = some e ∧
      (∀ name ∈ e.free, isKnown (fun _ => false) name = true) ∧
      isCommand .module (fun _ => false) (Text.strip "sum(i for i in [1, 2, 3])") = true := by
  have hread : ((parse .module (spliced (Text.strip "sum(i for i in [1, 2, 3])")).text).toOption.bind
      loneExpr?).any (fun e => decide ((∀ name ∈ e.free, isKnown (fun _ => false) name = true) ∧
        isComprehension e = false ∧
        ∃ name ∈ e.names, name ∈ e.binders ∧ isKnown (fun _ => false) name = false)) = true := by
    decide +kernel
  cases hparse : parse .module (spliced (Text.strip "sum(i for i in [1, 2, 3])")).text with
  | error why =>
    rw [hparse] at hread
    cases hread
  | ok program =>
    rw [hparse] at hread
    obtain ⟨e, hlone, he⟩ := (Option.any_eq_true _ _).mp hread
    obtain ⟨hfree, hunknown⟩ := of_decide_eq_true he
    have hiff := (isCommand_iff_unknown_binder hparse hlone hfree).1
    exact ⟨program, e, rfl, hlone, hfree, hiff.mpr hunknown⟩

end Conch.Line
