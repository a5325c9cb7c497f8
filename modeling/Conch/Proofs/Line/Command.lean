import Mathlib
import Conch.Line.Lowering
import Conch.Proofs.Code.Literal
import Conch.Proofs.Code.Program

/-!
# Commands as code

A command becomes a call with the line as its argument, in quotes. Whatever the line holds, the text
of the call is scanned as five tokens and read as that call. The same goes for the other function
that programs call without writing it, and for a call with a name.
-/

namespace Conch.Line

open Code Code.Scan Code.Literal Code.Reader Code.Grammar Text

theorem quotedChars_eq (s : List Char) :
    ∃ q t, IsQuote q ∧ Writes q s t ∧ quotedChars s = q :: (t ++ [q]) :=
  ⟨_, _, isQuote_chooseQuote s, writes_flatMap (isQuote_chooseQuote s) s, rfl⟩

/-- The marks of a long literal are three quotes in a row. -/
theorem lexeme_quotedChars (line : Nat) (s : List Char) :
    lexeme line (quotedChars s ++ [')']) = (.literal, quotedChars s) := by
  obtain ⟨q, t, hq, hwrites, hs⟩ := quotedChars_eq s
  have hbody : literalBody q false (t ++ [q] ++ [')']) = some (t ++ [q], [')']) := by
    rw [List.append_assoc]
    exact hwrites.literalBody_eq hq [')']
  have hhead := hwrites.head_ne hq
  have hword : ¬continuesWord q = true := by rcases hq with rfl | rfl <;> decide
  have hquote : (q == '\'' || q == '"') = true := by rcases hq with rfl | rfl <;> rfl
  have hclose : (')' == q) = false := by rcases hq with rfl | rfl <;> rfl
  have hopens : literalMarks.contains (([] : List Char).map Char.toLower) = true := rfl
  rw [hs, List.cons_append]
  unfold lexeme
  simp only [List.takeWhile_cons_of_neg hword, List.dropWhile_cons_of_neg hword, hquote, hopens,
    Bool.and_self, if_pos, List.nil_append]
  cases t with
  | nil =>
    simp only [List.nil_append, List.singleton_append] at hbody ⊢
    simp only [hclose, Bool.and_false, hbody]
    rfl
  | cons c t =>
    have hc : (c == q) = false := by simpa using hhead c rfl
    obtain ⟨x, xs, hx⟩ : ∃ x xs, t ++ [q] ++ [')'] = x :: xs :=
      List.exists_cons_of_ne_nil (by simp)
    simp only [List.cons_append, hx] at hbody ⊢
    simp only [hc, Bool.false_and, hbody]
    rfl

theorem run_literal (n line col offset : Nat) (indents : List (Nat × Nat))
    (brackets : List (Char × Nat × Nat)) (s : List Char) :
    ∃ stop line' col' offset', run (n + 1)
        ⟨quotedChars s ++ [')'], line, col, offset, false, indents, brackets⟩ =
      ⟨.literal, String.ofList (quotedChars s), line, col, stop, false⟩ ::
        run n ⟨[')'], line', col', offset', false, indents, brackets⟩ := by
  obtain ⟨q, t, hq, -, hs⟩ := quotedChars_eq s
  -- no blank, comment or line end is in front of the quote
  have hinside : State.insideLine
      ⟨quotedChars s ++ [')'], line, col, offset, false, indents, brackets⟩ =
      State.readToken ⟨quotedChars s ++ [')'], line, col, offset, false, indents, brackets⟩ := by
    rw [hs, List.cons_append]
    rcases hq with rfl | rfl <;> rfl
  have hdrop : (quotedChars s ++ [')']).drop (quotedChars s).length = [')'] := List.drop_left
  refine ⟨offset + (quotedChars s).length, (advance line col (quotedChars s)).1,
    (advance line col (quotedChars s)).2, offset + (quotedChars s).length, ?_⟩
  rw [run, State.step, if_neg (by simp), hinside]
  simp only [State.readToken, lexeme_quotedChars, State.token, State.skip, hdrop,
    List.singleton_append]

/-- The functions that programs call without writing them. -/
def calledNames : List String := [shellCall, valueCall]

/-- A call with a text in quotes. -/
def textCall (name line : String) : String := name ++ "(" ++ quoted line ++ ")"

section

variable {name : String} (hname : name ∈ calledNames)
include hname

theorem run_open (n : Nat) (rest : List Char) :
    run (n + 3) ⟨(name ++ "(").toList ++ rest, 1, 0, 0, true, [], []⟩ =
      ⟨.word, name, 1, 0, name.length, false⟩ ::
        ⟨.mark, "(", 1, name.length, name.length + 1, rest.isEmpty⟩ ::
          run n ⟨rest, 1, name.length + 1, name.length + 1, false, [], [('(', 1, name.length)]⟩ := by
  simp only [calledNames, List.mem_cons, List.not_mem_nil, or_false] at hname
  rcases hname with rfl | rfl <;> cbv

omit hname in
theorem run_close (n line col offset start : Nat) :
    run (n + 2) ⟨[')'], line, col, offset, false, [], [('(', 1, start)]⟩ =
      [⟨.mark, ")", line, col, offset + 1, true⟩,
        ⟨.finish 0, "", line, col + 1, offset + 1, true⟩] := by
  cbv

/-- The tokens around the argument of a call. -/
structure CallTokens (called : String) (name opening closing finish : Token) : Prop where
  name_kind : name.kind = .word
  name_text : name.text = called
  opening : opening.kind = .mark ∧ opening.text = "("
  closing : closing.kind = .mark ∧ closing.text = ")"
  finish : finish.kind = .finish 0

section

variable {written : List Char} {argument : Token → Prop}
  (hscan : ∀ n, ∃ t line col offset, argument t ∧ run (n + 1)
      ⟨written ++ [')'], 1, name.length + 1, name.length + 1, false, [], [('(', 1, name.length)]⟩ =
    t :: run n ⟨[')'], line, col, offset, false, [], [('(', 1, name.length)]⟩)
include hscan

/-- A call is scanned as five tokens if its argument is scanned as one. -/
theorem exists_tokens_call :
    ∃ t₁ t₂ t₃ t₄ t₅, Scan.tokens ((name ++ "(").toList ++ (written ++ [')'])) =
      [t₁, t₂, t₃, t₄, t₅] ∧ CallTokens name t₁ t₂ t₄ t₅ ∧ argument t₃ := by
  obtain ⟨n, hn⟩ : ∃ n, 2 * ((name ++ "(").toList ++ (written ++ [')'])).length + 4 = n + 2 + 1 + 3 :=
    ⟨2 * ((name ++ "(").toList ++ (written ++ [')'])).length - 2, by simp; omega⟩
  obtain ⟨t, line, col, offset, ht, hrun⟩ := hscan (n + 2)
  have htokens := run_open hname (n + 2 + 1) (written ++ [')'])
  rw [hrun, run_close, ← hn] at htokens
  exact ⟨_, _, t, _, _, htokens, ⟨rfl, rfl, ⟨rfl, rfl⟩, ⟨rfl, rfl⟩, rfl⟩, ht⟩

/-- A call is read as one if its argument is read as an operand. -/
theorem parse_call {text : String}
    (htext : text.toList = (name ++ "(").toList ++ (written ++ [')']))
    (hnul : '\x00' ∉ text.toList) (hreturn : '\r' ∉ text.toList) {e : Expr}
    (hreads : ∀ n t u rest, argument t → Ends u →
      Starts t ∧ Reads (grammar (n + 1)).expression (t :: u :: rest) e (u :: rest)) :
    parse .expression text = .ok (.expression (.call (.name name) [e] [])) := by
  obtain ⟨t₁, t₂, t₃, t₄, t₅, htokens, h, hargument⟩ := exists_tokens_call hname hscan
  have hclose : Ends t₄ := .close h.closing.1 h.closing.2
  have hfinish : Ends t₅ := .finish h.finish
  have hnotKeyword : isKeyword t₁.text = false := by
    rw [h.name_text]
    simp only [calledNames, List.mem_cons, List.not_mem_nil, or_false] at hname
    rcases hname with rfl | rfl <;> decide
  have hprogram (n : Nat) : Reads ((grammar (n + 1)).program .expression) [t₁, t₂, t₃, t₄, t₅]
      (.expression (.call (.name name) [e] [])) [t₅] := by
    obtain ⟨hstart, hexpression⟩ := hreads n t₃ t₄ [t₅] hargument hclose
    have hcall := reads_call h.name_kind hnotKeyword h.opening hstart hexpression h.closing hfinish
    rw [h.name_text] at hcall
    exact (reads_wholeExpression h.finish
      (reads_expressionStep (.name h.name_kind hnotKeyword) hcall hfinish)).map _
  rw [← htext] at htokens
  exact parse_of_reads hnul hreturn htokens hprogram

end

theorem toNat_of_mem_open {c : Char} (h : c ∈ (name ++ "(").toList) :
    0x20 ≤ c.toNat ∧ c.toNat < 0x7F := by
  have hchars : ∀ c ∈ (name ++ "(").toList, 0x20 ≤ c.toNat ∧ c.toNat < 0x7F := by
    simp only [calledNames, List.mem_cons, List.not_mem_nil, or_false] at hname
    rcases hname with rfl | rfl <;> simp [shellCall, valueCall]
  exact hchars c h

theorem isPrintable_of_mem_textCall {line : String} {c : Char}
    (h : c ∈ (textCall name line).toList) : isPrintable c = true := by
  obtain ⟨q, t, hq, hwrites, hs⟩ := quotedChars_eq line.toList
  have hquote : isPrintable q = true := by rcases hq with rfl | rfl <;> decide
  have htext : (textCall name line).toList = (name ++ "(").toList ++ q :: (t ++ [q, ')']) := by
    simp [textCall, quoted, hs]
  rw [htext] at h
  simp only [List.mem_append, List.mem_cons, List.not_mem_nil, or_false] at h
  rcases h with h | rfl | h | rfl | rfl
  · simp [isPrintable, toNat_of_mem_open hname h]
  · exact hquote
  · exact hwrites.printable c h
  · exact hquote
  · decide

/-- The text of a call with a text in quotes is read as the call. -/
theorem parse_textCall (line : String) :
    parse .expression (textCall name line) =
      .ok (.expression (.call (.name name) [.constant (.text line false)] [])) := by
  have hprintable {c : Char} (hc : isPrintable c = false) : c ∉ (textCall name line).toList := by
    intro h
    rw [isPrintable_of_mem_textCall hname h] at hc
    cases hc
  have htext : (textCall name line).toList =
      (name ++ "(").toList ++ (quotedChars line.toList ++ [')']) := by
    simp [textCall, quoted]
  have hscan (n : Nat) : ∃ t line' col offset,
      (t.kind = .literal ∧ t.text.toList = quotedChars line.toList) ∧ run (n + 1)
        ⟨quotedChars line.toList ++ [')'], 1, name.length + 1, name.length + 1, false, [],
          [('(', 1, name.length)]⟩ =
      t :: run n ⟨[')'], line', col, offset, false, [], [('(', 1, name.length)]⟩ := by
    obtain ⟨stop, line', col, offset, hrun⟩ := run_literal n 1 (name.length + 1) (name.length + 1)
      [] [('(', 1, name.length)] line.toList
    exact ⟨_, line', col, offset, ⟨rfl, String.toList_ofList⟩, hrun⟩
  apply parse_call hname hscan htext (hprintable (by decide)) (hprintable (by decide))
  rintro n t u rest ⟨hkind, hwritten⟩ hend
  have hjoin : Template.join (grammar n).fieldExpression [t.text.toList] =
      .ok (.constant (.text line false)) := by
    rw [hwritten, join_quotedChars, String.ofList_toList]
  exact ⟨.literal hkind, reads_literal hkind hend hjoin⟩

/-- The text of a call with a name is read as the call. -/
theorem parse_nameCall {x : String} (hx : IsIdentifier x) :
    parse .expression (name ++ "(" ++ x ++ ")") =
      .ok (.expression (.call (.name name) [.name x] [])) := by
  have htext : (name ++ "(" ++ x ++ ")").toList = (name ++ "(").toList ++ (x.toList ++ [')']) := by
    simp
  have hscan (n : Nat) : ∃ t line col offset, (t.kind = .word ∧ t.text = x) ∧ run (n + 1)
        ⟨x.toList ++ [')'], 1, name.length + 1, name.length + 1, false, [],
          [('(', 1, name.length)]⟩ =
      t :: run n ⟨[')'], line, col, offset, false, [], [('(', 1, name.length)]⟩ := by
    have hend : EndsWord [')'] := by simp [EndsWord, continuesWord]
    obtain ⟨line, col, hstep⟩ := hx.step_word 1 (name.length + 1) (name.length + 1) hend []
      [('(', 1, name.length)]
    refine ⟨⟨.word, x, 1, name.length + 1, name.length + 1 + x.toList.length, false⟩, line, col,
      name.length + 1 + x.toList.length, ⟨rfl, rfl⟩, ?_⟩
    rw [run, hstep]
    rfl
  have hnot {d : Char} (hcontrol : d.toNat < 0x20) (hword : continuesWord d = false) :
      d ∉ (name ++ "(" ++ x ++ ")").toList := by
    rw [htext]
    simp only [List.mem_append, List.mem_singleton, not_or]
    refine ⟨fun hmem => ?_, hx.not_mem hword, ?_⟩
    · exact absurd hcontrol (not_lt.mpr (toNat_of_mem_open hname hmem).1)
    · rintro rfl
      exact absurd hcontrol (by decide)
  apply parse_call hname hscan htext (hnot (by decide) rfl) (hnot (by decide) rfl)
  rintro n t u rest ⟨hkind, rfl⟩ hend
  exact ⟨.name hkind hx.notKeyword, reads_nameOperand hkind hx.notKeyword hend⟩

end

/-- The call that a command becomes. -/
def commandExpr (line : String) : Expr := .call (.name shellCall) [.constant (.text line false)] []

/-- A command as code is read as the call. -/
theorem parse_commandCall (line : String) :
    parse .expression (commandCall line) = .ok (.expression (commandExpr line)) := by
  have hshell : shellCall ∈ calledNames := List.mem_cons_self
  exact parse_textCall hshell line

end Conch.Line
