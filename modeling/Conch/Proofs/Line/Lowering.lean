import Mathlib
import Conch.Line.Lowering
import Conch.Proofs.Code.Printed

/-!
# Placeholders in the code of a line

Placeholders are put into a line without regard to what they stand in, and are taken out again where
they are names of the program that was read. One that ended up in a text, in the name of an
attribute, a parameter or a module, or in a longer name is no such name and stays. The main result
says which expansions become calls and when the code of a line still holds a placeholder.
-/

namespace Conch.Line

open Code Code.Printer

theorem placeholder_injective {j k : Nat} (h : placeholder j = placeholder k) : j = k := by
  have hlists := congrArg String.toList h
  simp only [placeholder_toList, List.cons.injEq, true_and] at hlists
  have hdigits : Nat.toDigits 10 j = Nat.toDigits 10 k := List.append_cancel_right hlists
  exact Nat.repr_injective (by simp [Nat.repr, hdigits])

/-- Placeholders are numbered in the order of the expansions. -/
theorem lookup_placeholder (es : List Expansion) (start k : Nat) :
    ((es.zipIdx start).map fun (e, k) => (placeholder k, e)).lookup (placeholder (start + k)) =
      es[k]? := by
  induction es generalizing start k with
  | nil => simp
  | cons e es ih =>
    rw [List.zipIdx_cons, List.map_cons]
    cases k with
    | zero => simp [List.lookup]
    | succ k =>
      have hne : placeholder (start + (k + 1)) ≠ placeholder start := by
        intro h
        have := placeholder_injective h
        omega
      have hnext : start + (k + 1) = start + 1 + k := by omega
      rw [List.lookup_cons, beq_eq_false_iff_ne.mpr hne, hnext, ih (start + 1) k]
      simp

theorem mapping_lookup (line : String) (k : Nat) :
    (spliced line).mapping.lookup (placeholder k) = (expansions line.toList)[k]? := by
  have h := lookup_placeholder (expansions line.toList) 0 k
  rwa [Nat.zero_add] at h

theorem replacement_placeholder {line : String} {k : Nat} {e : Expansion}
    (he : (expansions line.toList)[k]? = some e) :
    replacement (spliced line).mapping (placeholder k) =
      some (expansionCall e.sigil (contentExpr e.sigil (String.ofList e.content))) := by
  rw [replacement, mapping_lookup, he, Option.map_some]

theorem expansionCall_eq_call (sigil : Sigil) (content : Expr) :
    ∃ function args keywords, expansionCall sigil content = .call function args keywords := by
  cases sigil <;> exact ⟨_, _, _, rfl⟩

theorem givesCalls_replacement (mapping : List (String × Expansion)) :
    GivesCalls (replacement mapping) := by
  intro id e h
  obtain ⟨expansion, -, rfl⟩ := Option.map_eq_some_iff.mp h
  exact expansionCall_eq_call _ _

/-- The program of a line with a call in the place of each name that is a placeholder. -/
def withCalls (line : String) (program : Program) : Program :=
  program.replace (replacement (spliced line).mapping)

/-- The words that are printed where a word of the program of a line stood. -/
def wordsFor (line : String) (w : Word) : List Word := w.replace (replacement (spliced line).mapping)

theorem words_withCalls (line : String) (program : Program) :
    (withCalls line program).words = program.words.flatMap (wordsFor line) :=
  program.words_replace (givesCalls_replacement _)

/-- The `k`-th expansion of a line is one call: its placeholder is a name of the program at one place
only, and the words of the call stand there instead. -/
def BecomesOneCall (line : String) (program : Program) (k : Nat) : Prop :=
  ∃ e before after, (expansions line.toList)[k]? = some e ∧
    program.words = before ++ .name (placeholder k) :: after ∧
    Word.name (placeholder k) ∉ before ++ after ∧
    (withCalls line program).words = before.flatMap (wordsFor line) ++
      (expansionCall e.sigil (contentExpr e.sigil (String.ofList e.content))).words ++
      after.flatMap (wordsFor line)

theorem becomesOneCall_iff {line : String} {program : Program} {k : Nat}
    (hk : k < (expansions line.toList).length) :
    BecomesOneCall line program k ↔ program.words.count (.name (placeholder k)) = 1 := by
  constructor
  · rintro ⟨e, before, after, -, hwords, hnot, -⟩
    rw [hwords, List.count_append, List.count_cons_self]
    simp only [List.mem_append, not_or] at hnot
    rw [List.count_eq_zero.mpr hnot.1, List.count_eq_zero.mpr hnot.2]
  · intro hcount
    have hmem : Word.name (placeholder k) ∈ program.words :=
      List.count_pos_iff.mp (by omega)
    obtain ⟨e, he⟩ : ∃ e, (expansions line.toList)[k]? = some e :=
      ⟨_, List.getElem?_eq_getElem hk⟩
    obtain ⟨before, after, hwords⟩ := List.append_of_mem hmem
    have hnot : Word.name (placeholder k) ∉ before ++ after := by
      rw [hwords, List.count_append, List.count_cons_self] at hcount
      rw [← List.count_eq_zero, List.count_append]
      omega
    refine ⟨e, before, after, he, hwords, hnot, ?_⟩
    have hcall : wordsFor line (.name (placeholder k)) =
        (expansionCall e.sigil (contentExpr e.sigil (String.ofList e.content))).words := by
      rw [wordsFor, Word.replace, replacement_placeholder he, Option.map_some, Option.getD_some]
    rw [words_withCalls, hwords, List.flatMap_append, List.flatMap_cons, hcall, List.append_assoc]

/-- What is lowered to code is lowered as a command, or its program is printed with the calls. -/
theorem printed_of_lowerProgram {defined : String → Bool} {line out : String}
    {mapping : List (String × Expansion)} {program : Program}
    (h : lowerProgram defined line mapping program = .ok out) :
    out = commandCall line ∨ Printer.program (program.replace (replacement mapping)) = .ok out := by
  unfold lowerProgram at h
  extract_lets print at h
  have hprint (hp : print program = .ok out) :
      Printer.program (program.replace (replacement mapping)) = .ok out := by
    cases hout : Printer.program (program.replace (replacement mapping)) with
    | ok text => simpa [print, hout] using hp
    | error why => simp [print, hout] at hp
  have hbody (body : List Stmt)
      (hb : (if isCommandBody defined body then .ok (commandCall line) else print program) =
        .ok out) :
      out = commandCall line ∨
        Printer.program (program.replace (replacement mapping)) = .ok out := by
    split at hb
    · cases hb
      exact .inl rfl
    · exact .inr (hprint hb)
  cases program with
  | expression e => cases h
  | module body => exact hbody body h
  | interactive body => exact hbody body h

theorem printed_of_lower {mode : Mode} {defined : String → Bool} {text out : String}
    (h : lower mode defined text = .ok out) :
    out = commandCall (Text.strip text) ∨
      ∃ program, parse mode (spliced (Text.strip text)).text = .ok program ∧
        Printer.program (withCalls (Text.strip text) program) = .ok out := by
  unfold lower at h
  extract_lets line s at h
  split at h
  next program hparse =>
    refine (printed_of_lowerProgram h).imp_right fun hout => ?_
    exact ⟨program, hparse, hout⟩
  next =>
    split at h
    · cases h
    · cases h
      exact .inl rfl

/-- A line that is lowered to code is a command, or it is a program once its expansions are names.
The code is then that program printed with calls. It holds a placeholder just when a text or a label
of the program does, a name that is none of the placeholders, or what a call is given; and an
expansion is one call just when its placeholder is a name of the program exactly once. -/
theorem lower_eq_printed (mode : Mode) (defined : String → Bool) (text : String) :
    (∃ fault, lower mode defined text = .error fault) ∨
      lower mode defined text = .ok (commandCall (Text.strip text)) ∨
      ∃ program out, parse mode (spliced (Text.strip text)).text = .ok program ∧
        lower mode defined text = .ok out ∧
        Printer.program (withCalls (Text.strip text) program) = .ok out ∧
        (withCalls (Text.strip text) program).words =
          program.words.flatMap (wordsFor (Text.strip text)) ∧
        (Holds out.toList ↔ ∃ w ∈ program.words, Holding (wordsFor (Text.strip text) w)) ∧
        ∀ k < (expansions (Text.strip text).toList).length,
          BecomesOneCall (Text.strip text) program k ↔
            program.words.count (.name (placeholder k)) = 1 := by
  cases hlower : lower mode defined text with
  | error fault => exact .inl ⟨fault, rfl⟩
  | ok out =>
    refine .inr ?_
    obtain rfl | ⟨program, hparse, hout⟩ := printed_of_lower hlower
    · exact .inl rfl
    · have hwords := words_withCalls (Text.strip text) program
      refine .inr ⟨program, out, hparse, rfl, hout, hwords, ?_, fun k hk => ?_⟩
      · rw [program_holds _ hout, hwords, holding_flatMap]
      · exact becomesOneCall_iff hk

/-- A placeholder in a text stays. -/
example : (lower .module (fun _ => false) "print(\"$(ls)\")").toOption = some "print('__PH_0__')" := by
  decide +kernel

end Conch.Line
