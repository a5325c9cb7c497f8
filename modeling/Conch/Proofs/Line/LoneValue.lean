import Mathlib
import Conch.Proofs.Line.Expansions
import Conch.Proofs.Line.Lowering

/-!
# A value as a line

A line that is a value and nothing else is code: its placeholder is a name that has a meaning, and is
replaced by the call that stands for the value. The call is given the content as an expression if it
is one, and as a text if it is not.
-/

namespace Conch.Line
open Code

/-- A line that is a value and nothing else, and the call that stands for it. -/
def valueLine (content : String) : String := "@(" ++ content ++ ")"

def valueCode (printed : String) : String := valueCall ++ "(" ++ printed ++ ")"

variable {c printed : String} {content : Expr} {mode : Mode} {defined : String → Bool}

theorem toList_valueLine (c : String) :
    (valueLine c).toList = '@' :: '(' :: (c.toList ++ [')']) := by
  simp [valueLine]

theorem strip_valueLine (c : String) : Text.strip (valueLine c) = valueLine c := by
  have hopen : Text.isBlank '@' = false := by decide
  have hclose : Text.isBlank ')' = false := by decide
  apply String.toList_inj.mp
  rw [Text.strip, String.toList_ofList, toList_valueLine, Text.trim, Text.trimLeft,
    List.dropWhile_cons_of_neg (by simp [hopen]), Text.trimRight]
  simp [hclose]

/-- The name that a program consists of. -/
def loneName? : Program → Option String
  | .module [.expr (.name x)] | .interactive [.expr (.name x)] => some x
  | _ => none

theorem eq_of_loneName? {program : Program} {x : String} (h : loneName? program = some x) :
    program = .module [.expr (.name x)] ∨ program = .interactive [.expr (.name x)] := by
  unfold loneName? at h
  split at h
  · cases h
    exact .inl rfl
  · cases h
    exact .inr rfl
  · cases h

/-- What is left of the line is a name. -/
theorem exists_parse_placeholder (h : mode ≠ .expression) :
    ∃ program, parse mode "__PH_0__" = .ok program ∧ loneName? program = some "__PH_0__" := by
  have hname : ∀ m ∈ [Mode.module, .interactive],
      (parse m "__PH_0__").toOption.bind loneName? = some "__PH_0__" := by decide +kernel
  have hmode : mode ∈ [Mode.module, .interactive] := by cases mode <;> simp_all
  obtain ⟨program, hparse, hlone⟩ := Option.bind_eq_some_iff.mp (hname mode hmode)
  refine ⟨program, ?_, hlone⟩
  cases hresult : parse mode "__PH_0__" <;> simp_all [Except.toOption]

theorem spliced_valueLine (h : IsBalanced c.toList) :
    spliced (valueLine c) =
      ⟨"__PH_0__", [("__PH_0__", ⟨.value, c.toList, 0, c.toList.length + 3⟩)]⟩ := by
  have hone := expansions_append_text (a := []) (by simp [Plain]) h .value
  rw [show Sigil.value.char = '@' from rfl, List.nil_append, ← toList_valueLine] at hone
  have hplaceholder : placeholder 0 = "__PH_0__" := by decide
  have hdrop : (valueLine c).toList.drop (c.toList.length + 3) = [] := by
    simp [toList_valueLine]
  simp [spliced, hone, splice, spliceFrom, hplaceholder, hdrop]

theorem stmt_valueCall (h : Printer.plain content = .ok printed) :
    Printer.stmt 0 (.expr (expansionCall .value content)) = .ok ("\n" ++ valueCode printed) := by
  unfold Printer.plain at h
  simp [Printer.stmt, expansionCall, Printer.expr, h, Printer.exprs, Printer.keywords, valueCode,
    Printer.commas, Printer.line]

theorem dropNewlines_valueCode (printed : String) :
    Printer.dropNewlines ("\n" ++ valueCode printed) = valueCode printed := by
  apply String.toList_inj.mp
  simp [Printer.dropNewlines, valueCode, valueCall]

section

variable {x : String} {e : Expansion}

theorem isCommandBody_name (h : startsWithTwoUnderscores x = true) (defined : String → Bool) :
    isCommandBody defined [.expr (.name x)] = false := by
  simp [isCommandBody, isCommandExpr, Expr.names, isKnown, h]

theorem replacement_singleton (hcontent : contentExpr e.sigil (String.ofList e.content) = content) :
    replacement [(x, e)] x = some (expansionCall e.sigil content) := by
  simp [replacement, List.lookup_cons_self, hcontent]

/-- A program that is nothing but a placeholder. -/
theorem lowerProgram_of_loneName? {program : Program} {line : String}
    (hlone : loneName? program = some x) (hx : startsWithTwoUnderscores x = true)
    (hcontent : contentExpr e.sigil (String.ofList e.content) = content)
    (hstmt : Printer.stmt 0 (.expr (expansionCall e.sigil content)) = .ok printed) :
    lowerProgram defined line [(x, e)] program = .ok (Printer.dropNewlines printed) := by
  have hcommand := isCommandBody_name hx defined
  have hbody : replaceInBody (replacement [(x, e)]) [.expr (.name x)] =
      [.expr (expansionCall e.sigil content)] := by
    simp only [replaceInBody, Stmt.replace, Expr.replace, replacement_singleton hcontent,
      Option.getD_some]
  have hdocumented : Printer.documented 0 [.expr (expansionCall e.sigil content)] =
      .ok printed := by
    obtain ⟨function, args, keywords, hcall⟩ := expansionCall_eq_call e.sigil content
    rw [hcall] at hstmt ⊢
    simp [Printer.documented, hstmt, Printer.stmts]
  rcases eq_of_loneName? hlone with rfl | rfl <;>
    simp [lowerProgram, hcommand, Program.replace, hbody, Printer.program, hstmt, hdocumented]

end

section

variable (hmode : mode ≠ .expression) (hbalanced : IsBalanced c.toList)
include hmode hbalanced

/-- A line that is a value and nothing else is lowered to the call that stands for it. -/
theorem lower_valueLine (hcontent : contentExpr .value c = content)
    (hprinted : Printer.plain content = .ok printed) (defined : String → Bool) :
    lower mode defined (valueLine c) = .ok (valueCode printed) := by
  obtain ⟨program, hparse, hlone⟩ := exists_parse_placeholder hmode
  rw [← dropNewlines_valueCode]
  simp only [lower, strip_valueLine, spliced_valueLine hbalanced, hparse]
  exact lowerProgram_of_loneName? hlone (by decide) (by rwa [String.ofList_toList])
    (stmt_valueCall hprinted)

end

end Conch.Line
