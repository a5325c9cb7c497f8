import Mathlib
import Conch.Code.Check
import Conch.Code.Program
import Conch.Proofs.Code.Grammar

/-!
# Reading a text

A text is read as an expression when its tokens are. In particular, a name that stands alone is
scanned as one word and read as that name.
-/

namespace Conch.Code

open Scan Reader Grammar

theorem Scan.unifyLines_eq_self {cs : List Char} (h : '\r' ∉ cs) : unifyLines cs = cs := by
  fun_induction unifyLines cs with
  | case1 rest ih => simp at h
  | case2 rest _ ih => simp at h
  | case3 c rest _ _ ih => rw [ih (by simp at h; exact h.2)]
  | case4 => rfl

/-- A text is read as what its tokens are read as. -/
theorem parse_of_reads {text : String} {ts rest : List Token} {e : Expr}
    (hnul : '\x00' ∉ text.toList) (hreturn : '\r' ∉ text.toList)
    (htokens : Scan.tokens text.toList = ts)
    (hreads : ∀ n, Reads ((grammar (n + 1)).program .expression) ts (.expression e) rest) :
    parse .expression text = .ok (.expression e) := by
  have hplain : text.toList.contains '\x00' = false := by
    rwa [List.contains_eq_mem, decide_eq_false_iff_not]
  obtain ⟨taken, seen, hread⟩ : ∃ taken seen,
      ((grammar (text.toList.length + 8)).program .expression).run ⟨ts, 0, 0⟩ =
        (.ok (.expression e), ⟨rest, taken, seen⟩) := hreads (text.toList.length + 7) 0 0
  unfold parse Code.read
  simp only [hplain, Reading.tokens, unifyLines_eq_self hreturn, htokens, hread]
  rfl

/-- What a text is read as when it is read as an expression is one. -/
theorem exists_expression_of_parse {text : String} {program : Program}
    (h : parse .expression text = .ok program) : ∃ e, program = .expression e := by
  unfold parse Code.read at h
  by_cases hnul : text.toList.contains '\x00' = true
  · simp only [hnul, if_true] at h
    cases h
  · rcases hrun : ((grammar (text.toList.length + 8)).program .expression).run
      ⟨Reading.tokens ⟨.expression, true⟩ text.toList, 0, 0⟩ with ⟨failure | result, cursor⟩
    · simp only [hnul, hrun] at h
      cases failure <;> cases h
    · simp only [hnul, hrun] at h
      obtain rfl : result = program := Except.ok.inj h
      have hmap : (Program.expression <$> (grammar (text.toList.length + 8)).wholeExpression) _ =
          (.ok result, cursor) := hrun
      rw [Effect.map_apply] at hmap
      split at hmap <;> cases hmap
      exact ⟨_, rfl⟩

/-- A text that a program can use as a name. -/
structure IsIdentifier (x : String) : Prop where
  letters : Text.isIdentifier x.toList = true
  notKeyword : isKeyword x = false

namespace Scan

theorem startsWord_of_isIdentStart {c : Char} (h : Text.isIdentStart c = true) :
    startsWord c = true := by
  unfold Text.isIdentStart at h
  split at h
  · simp [startsWord, h]
  · next hc => simp [startsWord, Nat.le_of_not_lt hc]

theorem continuesWord_of_startsWord {c : Char} (h : startsWord c = true) :
    continuesWord c = true := by
  simp only [startsWord, continuesWord, Char.isAlphanum, Bool.or_eq_true] at h ⊢
  tauto

theorem continuesWord_of_isIdentRest {c : Char} (h : Text.isIdentRest c = true) :
    continuesWord c = true := by
  unfold Text.isIdentRest at h
  split at h
  · simp [continuesWord, h]
  · next hc => simp [continuesWord, Nat.le_of_not_lt hc]

theorem ne_of_continuesWord {c d : Char} (h : continuesWord c = true)
    (hd : continuesWord d = false) : c ≠ d := by
  rintro rfl
  rw [h] at hd
  cases hd

end Scan

variable {x : String}

theorem IsIdentifier.exists_cons (h : IsIdentifier x) :
    ∃ c tail, x.toList = c :: tail ∧ Text.isIdentStart c = true ∧
      ∀ d ∈ tail, Text.isIdentRest d = true := by
  have hletters := h.letters
  cases hx : x.toList with
  | nil => simp [hx, Text.isIdentifier] at hletters
  | cons c tail =>
    simp only [hx, Text.isIdentifier, Bool.and_eq_true, List.all_eq_true] at hletters
    exact ⟨c, tail, rfl, hletters⟩

theorem IsIdentifier.forall_continuesWord (h : IsIdentifier x) :
    ∀ c ∈ x.toList, continuesWord c = true := by
  obtain ⟨c, tail, hx, hc, htail⟩ := h.exists_cons
  rw [hx]
  refine List.forall_mem_cons.mpr ⟨?_, fun d hd => continuesWord_of_isIdentRest (htail d hd)⟩
  exact continuesWord_of_startsWord (startsWord_of_isIdentStart hc)

/-- A character that is part of no word is not in a name. -/
theorem IsIdentifier.not_mem (h : IsIdentifier x) {d : Char} (hd : continuesWord d = false) :
    d ∉ x.toList :=
  fun hmem => ne_of_continuesWord (h.forall_continuesWord d hmem) hd rfl

/-- A text that a word does not go on with, nor opens a literal with. -/
def Scan.EndsWord (rest : List Char) : Prop :=
  ∀ d ∈ rest.head?, continuesWord d = false ∧ d ≠ '\'' ∧ d ≠ '"'

theorem IsIdentifier.lexeme_eq (h : IsIdentifier x) {rest : List Char} (hrest : EndsWord rest)
    (line : Nat) : lexeme line (x.toList ++ rest) = (.word, x.toList) := by
  obtain ⟨c, tail, hx, hc, htail⟩ := h.exists_cons
  have hword := h.forall_continuesWord
  rw [hx] at hword ⊢
  have hbad : badLetter? (c :: tail) = none := by
    rw [badLetter?, if_pos hc, List.find?_eq_none]
    intro d hd
    simp [htail d hd]
  have hstop : rest.takeWhile continuesWord = [] ∧ rest.dropWhile continuesWord = rest := by
    cases rest with
    | nil => exact ⟨rfl, rfl⟩
    | cons d rest =>
      have hd := (hrest d rfl).1
      exact ⟨List.takeWhile_cons_of_neg (by simp [hd]), List.dropWhile_cons_of_neg (by simp [hd])⟩
  have htake : (c :: (tail ++ rest)).takeWhile continuesWord = c :: tail := by
    rw [← List.cons_append, List.takeWhile_append_of_pos hword, hstop.1, List.append_nil]
  have hdrop : (c :: (tail ++ rest)).dropWhile continuesWord = rest := by
    rw [← List.cons_append, List.dropWhile_append_of_pos hword, hstop.2]
  rw [List.cons_append]
  unfold lexeme
  simp only [htake, hdrop]
  cases rest with
  | nil => simp only [Bool.false_eq_true, if_false, startsWord_of_isIdentStart hc, if_true, hbad]
  | cons d rest =>
    have hquote : (d == '\'' || d == '"') = false := by simpa using (hrest d rfl).2
    simp only [hquote, Bool.false_and, Bool.false_eq_true, if_false,
      startsWord_of_isIdentStart hc, if_true, hbad]

section

variable (h : IsIdentifier x) (line col offset : Nat)
include h

theorem IsIdentifier.head_ne {c d : Char} {tail : List Char} (hx : x.toList = c :: tail)
    (hd : continuesWord d = false) : c ≠ d := by
  rintro rfl
  exact h.not_mem hd (by simp [hx])

theorem IsIdentifier.ne_blank_of_mem_head? : ∀ d ∈ x.toList.head?, d ≠ ' ' ∧ d ≠ '\t' := by
  intro d hd
  obtain ⟨tail, hx⟩ := List.head?_eq_some_iff.mp hd
  exact ⟨h.head_ne hx rfl, h.head_ne hx rfl⟩

/-- No indentation is in front of a name. -/
theorem IsIdentifier.step_fresh :
    State.step ⟨x.toList, line, col, offset, true, [], []⟩ =
      .go [] ⟨x.toList, line, col, offset, false, [], []⟩ := by
  obtain ⟨c, tail, hx, -, -⟩ := h.exists_cons
  have hmargin : margin 0 0 0 [] (c :: tail) = .ok ⟨0, 0, 0, []⟩ := by
    unfold margin
    split <;> simp_all [h.head_ne hx (d := ' ') rfl, h.head_ne hx (d := '\t') rfl,
      h.head_ne hx (d := '\x0c') rfl, h.head_ne hx (d := '\\') rfl]
  have hline := h.head_ne hx (d := '\n') rfl
  have hcomment := h.head_ne hx (d := '#') rfl
  rw [State.step, if_pos rfl, State.startLine, hx, hmargin]
  simp [State.skip, State.indent, advance, hline, hcomment]

theorem IsIdentifier.step_word {rest : List Char} (hrest : EndsWord rest)
    (indents : List (Nat × Nat)) (brackets : List (Char × Nat × Nat)) :
    ∃ line' col', State.step ⟨x.toList ++ rest, line, col, offset, false, indents, brackets⟩ =
      .go [⟨.word, x, line, col, offset + x.toList.length, rest.isEmpty⟩]
        ⟨rest, line', col', offset + x.toList.length, false, indents, brackets⟩ := by
  obtain ⟨c, tail, hx, -, -⟩ := h.exists_cons
  have hread : State.insideLine ⟨x.toList ++ rest, line, col, offset, false, indents, brackets⟩ =
      State.readToken ⟨x.toList ++ rest, line, col, offset, false, indents, brackets⟩ := by
    have hblank : (c :: (tail ++ rest)).takeWhile isInnerBlank = [] := by
      rw [List.takeWhile_cons_of_neg]
      simp [isInnerBlank, h.head_ne hx (d := ' ') rfl, h.head_ne hx (d := '\t') rfl,
        h.head_ne hx (d := '\x0c') rfl]
    rw [State.insideLine, hx, List.cons_append]
    simp only [hblank, State.skip, advance, List.length_nil, List.drop_zero, Nat.add_zero]
    simp [h.head_ne hx (d := '#') rfl, h.head_ne hx (d := '\n') rfl,
      h.head_ne hx (d := '\\') rfl]
  refine ⟨(advance line col x.toList).1, (advance line col x.toList).2, ?_⟩
  rw [State.step, if_neg (by simp), hread]
  simp only [State.readToken, h.lexeme_eq hrest, State.token, State.skip, String.ofList_toList,
    List.drop_left]

end

theorem IsIdentifier.tokens_eq (h : IsIdentifier x) :
    ∃ t finish, Scan.tokens x.toList = [t, finish] ∧ t.kind = .word ∧ t.text = x ∧
      finish.kind = .finish 0 := by
  have hend : EndsWord [] := by simp [EndsWord]
  obtain ⟨line, col, hword⟩ := h.step_word 1 0 0 hend [] []
  rw [List.append_nil] at hword
  have htokens : Scan.tokens x.toList =
      [⟨.word, x, 1, 0, 0 + x.toList.length, true⟩,
        ⟨.finish 0, "", line, col, 0 + x.toList.length + 0, true⟩] := by
    rw [Scan.tokens, run, h.step_fresh]
    simp only [List.nil_append]
    rw [run, hword]
    rfl
  exact ⟨_, _, htokens, rfl, rfl, rfl⟩

/-- A name is read as a name. -/
theorem IsIdentifier.parse_eq (h : IsIdentifier x) :
    parse .expression x = .ok (.expression (.name x)) := by
  obtain ⟨t, finish, htokens, hkind, rfl, hfinish⟩ := h.tokens_eq
  have hreads (n : Nat) : Reads ((grammar (n + 1)).program .expression) [t, finish]
      (.expression (.name t.text)) [finish] :=
    (reads_wholeExpression hfinish (reads_nameOperand hkind h.notKeyword (.finish hfinish))).map _
  exact parse_of_reads (h.not_mem rfl) (h.not_mem rfl) htokens hreads

end Conch.Code
