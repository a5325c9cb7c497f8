import Mathlib
import Conch.Proofs.Code.Program

/-!
# Texts that are no expressions

A text that is read as an expression is one line of a program. A program does not start with an
indentation, and no expression starts with a sigil. So blanks in front of code keep it from being an
expression, and so does an expansion.
-/

namespace Conch.Code

open Scan Reader Grammar

/-- A token that no expression starts with. -/
def StartsNone (t : Token) : Prop :=
  ∀ n ts, ((grammar (n + 1)).program .expression).run ⟨t :: ts, 0, 0⟩ =
    (.error .mismatch, ⟨t :: ts, 0, 1⟩)

/-- A text is no expression if its first token starts none. -/
theorem exists_parse_of_startsNone {text : List Char} {t : Token} {ts : List Token}
    (hnul : '\x00' ∉ text) (htokens : Scan.tokens (unifyLines text) = t :: ts)
    (ht : StartsNone t) : ∃ f, parse .expression (String.ofList text) = .error (.fault f) := by
  have hplain : text.contains '\x00' = false := by
    rwa [List.contains_eq_mem, decide_eq_false_iff_not]
  refine ⟨mismatchFault (t :: ts) 1, ?_⟩
  unfold parse Code.read
  simp only [String.toList_ofList, hplain, Reading.tokens, htokens, ht (text.length + 7) ts]
  rfl

namespace Scan

/-- Blanks that count as indentation. -/
def IsIndentation (blanks : List Char) : Prop := ∀ c ∈ blanks, c = ' ' ∨ c = '\t'

/-- A character that starts code, and neither goes on with the blanks before it nor ends them. -/
def StartsCode (c : Char) : Prop := c ∉ [' ', '\t', '\x0c', '\\', '\n', '\r', '#']

variable {blanks rest : List Char} {d : Char}

theorem unifyLines_cons {c : Char} (h : c ≠ '\r') (s : List Char) :
    unifyLines (c :: s) = c :: unifyLines s := by
  rw [unifyLines]
  · exact fun _ hc _ => h hc
  · exact h

theorem unifyLines_indented (hblanks : IsIndentation blanks) (hd : StartsCode d)
    (rest : List Char) : unifyLines (blanks ++ d :: rest) = blanks ++ d :: unifyLines rest := by
  induction blanks with
  | nil =>
    simp only [StartsCode, List.mem_cons, not_or] at hd
    exact unifyLines_cons hd.2.2.2.2.2.1 rest
  | cons c blanks ih =>
    obtain ⟨hc, hblanks⟩ := List.forall_mem_cons.mp hblanks
    have hreturn : c ≠ '\r' := by rcases hc with rfl | rfl <;> decide
    rw [List.cons_append, unifyLines_cons hreturn, ih hblanks, List.cons_append]

/-- Each blank makes the margin wider. -/
theorem exists_margin (hblanks : IsIndentation blanks) (hd : StartsCode d) (rest : List Char)
    (width alt : Nat) (read : List Char) :
    ∃ width' alt', margin width alt 0 read (blanks ++ d :: rest) =
        .ok ⟨width', alt', 0, read.reverse ++ blanks⟩ ∧
      width + blanks.length ≤ width' ∧ alt + blanks.length ≤ alt' := by
  induction blanks generalizing width alt read with
  | nil =>
    simp only [StartsCode, List.mem_cons, not_or] at hd
    refine ⟨width, alt, ?_, le_rfl, le_rfl⟩
    rw [List.nil_append, List.append_nil]
    unfold margin
    split <;> simp_all
  | cons c blanks ih =>
    obtain ⟨hc, hblanks⟩ := List.forall_mem_cons.mp hblanks
    have hstep : ∃ width', width + 1 ≤ width' ∧ ∀ s, margin width alt 0 read (c :: s) =
        margin width' (alt + 1) 0 (c :: read) s := by
      rcases hc with rfl | rfl
      · exact ⟨width + 1, le_rfl, fun s => by rw [margin]⟩
      · exact ⟨(width / 8 + 1) * 8, by omega, fun s => by rw [margin]⟩
    obtain ⟨next, hnext, hread⟩ := hstep
    obtain ⟨width', alt', hmargin, hwidth, halt⟩ := ih hblanks next (alt + 1) (c :: read)
    refine ⟨width', alt', ?_, ?_, ?_⟩
    · rw [List.cons_append, hread, hmargin]
      simp
    · simp only [List.length_cons]
      omega
    · simp only [List.length_cons]
      omega

/-- Blanks in front of code are an indentation. -/
theorem exists_tokens_of_indented (hblanks : IsIndentation blanks) (hne : blanks ≠ [])
    (hd : StartsCode d) (rest : List Char) :
    ∃ t ts, Scan.tokens (blanks ++ d :: rest) = t :: ts ∧ t.kind = .indent := by
  obtain ⟨width, alt, hmargin, hwidth, halt⟩ := exists_margin hblanks hd rest 0 0 []
  have hlength := List.length_pos_iff.mpr hne
  simp only [StartsCode, List.mem_cons, not_or] at hd
  have hstep : ∃ t next, t.kind = .indent ∧
      State.step ⟨blanks ++ d :: rest, 1, 0, 0, true, [], []⟩ = .go [t] next := by
    rw [State.step, if_pos rfl, State.startLine, hmargin]
    simp [State.skip, State.indent, State.token, maxIndents, hd, show width ≠ 0 by omega,
      show 0 < width by omega, show alt ≠ 0 by omega]
  obtain ⟨t, next, hkind, hstep⟩ := hstep
  obtain ⟨n, hn⟩ : ∃ n, 2 * (blanks ++ d :: rest).length + 4 = n + 1 := ⟨_, rfl⟩
  refine ⟨t, run n next, ?_, hkind⟩
  rw [Scan.tokens, hn, run, hstep]
  rfl

end Scan

theorem startsNone_indent {t : Token} (h : t.kind = .indent) : StartsNone t := by
  intro n ts
  obtain ⟨kind, text, line, col, stop, atEnd⟩ := t
  subst h
  cbv

/-- Code with blanks in front of it is no expression. -/
theorem exists_parse_of_indented {blanks rest : List Char} {d : Char}
    (hblanks : IsIndentation blanks) (hne : blanks ≠ []) (hd : StartsCode d)
    (hnul : '\x00' ∉ blanks ++ d :: rest) :
    ∃ f, parse .expression (String.ofList (blanks ++ d :: rest)) = .error (.fault f) := by
  obtain ⟨t, ts, htokens, hkind⟩ := exists_tokens_of_indented hblanks hne hd (unifyLines rest)
  rw [← unifyLines_indented hblanks hd] at htokens
  exact exists_parse_of_startsNone hnul htokens (startsNone_indent hkind)

theorem startsNone_sigil {c : Char} (h : c ∈ ['@', '$', '!']) (line col stop : Nat) (atEnd : Bool) :
    StartsNone ⟨.mark, String.singleton c, line, col, stop, atEnd⟩ := by
  intro n ts
  simp only [List.mem_cons, List.not_mem_nil, or_false] at h
  rcases h with rfl | rfl | rfl <;> cbv

theorem run_sigil {c : Char} (h : c ∈ ['@', '$', '!']) (n : Nat) (rest : List Char) :
    run (n + 2) ⟨c :: '(' :: rest, 1, 0, 0, true, [], []⟩ =
      ⟨.mark, String.singleton c, 1, 0, 1, false⟩ ::
        run n ⟨'(' :: rest, 1, 1, 1, false, [], []⟩ := by
  simp only [List.mem_cons, List.not_mem_nil, or_false] at h
  rcases h with rfl | rfl | rfl <;> cbv

/-- A text that starts with a sigil and a parenthesis is no expression. -/
theorem exists_parse_of_sigil {c : Char} {rest : List Char} (h : c ∈ ['@', '$', '!'])
    (hnul : '\x00' ∉ c :: '(' :: rest) :
    ∃ f, parse .expression (String.ofList (c :: '(' :: rest)) = .error (.fault f) := by
  have hreturn : c ≠ '\r' := by
    simp only [List.mem_cons, List.not_mem_nil, or_false] at h
    rcases h with rfl | rfl | rfl <;> decide
  have hunified : unifyLines (c :: '(' :: rest) = c :: '(' :: unifyLines rest := by
    rw [unifyLines_cons hreturn, unifyLines_cons (by decide)]
  exact exists_parse_of_startsNone hnul ((congrArg Scan.tokens hunified).trans (run_sigil h _ _))
    (startsNone_sigil h 1 0 1 false)

end Conch.Code
