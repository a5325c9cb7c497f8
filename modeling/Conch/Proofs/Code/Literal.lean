import Mathlib
import Conch.Code.Grammar.Template
import Conch.Text.Quoted

/-!
# Quoted texts read back

What is written for a character in a quoted text is one plain character or an escape. The scanner
goes over it without meeting the closing quote, and reading the escapes gives the character back. So
a quoted text is one literal, and its value is the text.
-/

namespace Conch.Code.Literal

open Text

theorem hexValue?_hexDigit : ∀ n < 16, hexValue? (hexDigit n) = some n := by decide

theorem length_hexDigits (width n : Nat) : (hexDigits width n).length = width := by
  induction width generalizing n with
  | zero => rfl
  | succ width ih => simp [hexDigits, ih]

theorem hexNumber?_append (acc : Nat) (ds : List Char) (d : Char) :
    hexNumber? acc (ds ++ [d]) =
      (hexNumber? acc ds).bind fun n => (hexValue? d).map fun v => n * 16 + v := by
  induction ds generalizing acc with
  | nil => cases h : hexValue? d <;> simp [hexNumber?, h]
  | cons e ds ih => cases h : hexValue? e <;> simp [hexNumber?, h, ih]

theorem hexNumber?_hexDigits {width n : Nat} (h : n < 16 ^ width) :
    hexNumber? 0 (hexDigits width n) = some n := by
  induction width generalizing n with
  | zero =>
    obtain rfl : n = 0 := by simpa using h
    rfl
  | succ width ih =>
    have hfront : n / 16 < 16 ^ width := by
      rw [Nat.pow_succ] at h
      exact Nat.div_lt_of_lt_mul (by rwa [Nat.mul_comm])
    rw [hexDigits, hexNumber?_append, ih hfront, hexValue?_hexDigit _ (Nat.mod_lt n (by decide))]
    simp only [Option.map_some, Option.bind_some, Option.some.injEq]
    omega

/-- No character has the code of a surrogate. -/
theorem charOf?_toNat (c : Char) : charOf? c.toNat = some c := by
  have hvalid : c.toNat < 0xD800 ∨ 0xDFFF < c.toNat ∧ c.toNat < 0x110000 := c.valid
  unfold charOf?
  rw [if_neg (by omega), if_neg (by simp; omega), Char.ofNat_toNat]

/-- The marks that a text is quoted with. -/
def IsQuote (q : Char) : Prop := q = '\'' ∨ q = '"'

theorem isQuote_chooseQuote (s : List Char) : IsQuote (chooseQuote s) := by
  unfold chooseQuote
  split
  · exact .inr rfl
  · exact .inl rfl

/-- Behind a backslash, this stands for a character, whatever follows it. -/
def Names (escape : List Char) (c : Char) : Prop :=
  ∀ rest, textEscape (escape ++ rest) = .ok (some ([c], rest))

theorem names_hexDigits {mark : Char} {width : Nat} (c : Char)
    (hmark : (mark, width) ∈ [('x', 2), ('u', 4), ('U', 8)]) (hc : c.toNat < 16 ^ width) :
    Names (mark :: hexDigits width c.toNat) c := by
  intro rest
  have hlength := length_hexDigits width c.toNat
  have hnumber := hexNumber?_hexDigits hc
  have htake : (hexDigits width c.toNat ++ rest).take width = hexDigits width c.toNat := by
    rw [List.take_append_of_le_length hlength.ge, List.take_of_length_le hlength.le]
  have hdrop : (hexDigits width c.toNat ++ rest).drop width = rest := by
    rw [List.drop_append_of_le_length hlength.ge, List.drop_of_length_le hlength.le,
      List.nil_append]
  simp only [List.mem_cons, Prod.mk.injEq, List.not_mem_nil, or_false] at hmark
  rcases hmark with ⟨rfl, rfl⟩ | ⟨rfl, rfl⟩ | ⟨rfl, rfl⟩ <;>
    simp [textEscape, shortEscape?, Scan.isOctalDigit, htake, hdrop, hlength, hnumber,
      charOf?_toNat]

/-- A character that stands for itself between quotes. -/
structure Plain (q c : Char) : Prop where
  ne_backslash : c ≠ '\\'
  ne_quote : c ≠ q
  printable : isPrintable c = true

/-- What may be written for a character between quotes. -/
inductive Written (q c : Char) : List Char → Prop where
  | plain (h : Plain q c) : Written q c [c]
  | escape {d : Char} {more : List Char} (names : Names (d :: more) c) (hd : isPrintable d = true)
      (hmore : ∀ e ∈ more, Plain q e) : Written q c ('\\' :: d :: more)

theorem plain_hexDigit {q : Char} (hq : IsQuote q) : ∀ n < 16, Plain q (hexDigit n) := by
  intro n hn
  rcases hq with rfl | rfl <;> interval_cases n <;> exact ⟨by decide, by decide, by decide⟩

theorem plain_of_mem_hexDigits {q : Char} (hq : IsQuote q) {width n : Nat} {d : Char}
    (h : d ∈ hexDigits width n) : Plain q d := by
  induction width generalizing n with
  | zero => simp [hexDigits] at h
  | succ width ih =>
    simp only [hexDigits, List.mem_append, List.mem_singleton] at h
    rcases h with h | rfl
    · exact ih h
    · exact plain_hexDigit hq _ (Nat.mod_lt n (by decide))

theorem written_codeEscape {q : Char} (hq : IsQuote q) (c : Char) :
    Written q c (codeEscape c.toNat) := by
  have hplain {width : Nat} : ∀ e ∈ hexDigits width c.toNat, Plain q e :=
    fun e he => plain_of_mem_hexDigits hq he
  have hvalid : c.toNat < 0xD800 ∨ 0xDFFF < c.toNat ∧ c.toNat < 0x110000 := c.valid
  unfold codeEscape
  split
  · exact .escape (names_hexDigits c (by decide) (by omega)) (by decide) hplain
  · split
    · exact .escape (names_hexDigits c (by decide) (by omega)) (by decide) hplain
    · exact .escape (names_hexDigits c (by decide) (by omega)) (by decide) hplain

theorem written_quoteChar {q : Char} (hq : IsQuote q) (c : Char) : Written q c (quoteChar q c) := by
  unfold quoteChar
  split
  next h =>
    have hc : c = '\'' ∨ c = '"' ∨ c = '\\' := by
      simp only [Bool.or_eq_true, beq_iff_eq] at h
      rcases hq with rfl | rfl <;> tauto
    refine .escape (fun rest => ?_) ?_ (by simp)
    · rcases hc with rfl | rfl | rfl <;> rfl
    · rcases hc with rfl | rfl | rfl <;> decide
  next h =>
    simp only [Bool.or_eq_true, beq_iff_eq, not_or] at h
    split
    next hc => exact beq_iff_eq.mp hc ▸ .escape (fun _ => rfl) (by decide) (by simp)
    next =>
      split
      next hc => exact beq_iff_eq.mp hc ▸ .escape (fun _ => rfl) (by decide) (by simp)
      next =>
        split
        next hc => exact beq_iff_eq.mp hc ▸ .escape (fun _ => rfl) (by decide) (by simp)
        next =>
          split
          next hc => exact .plain ⟨h.2, h.1, hc⟩
          next => exact written_codeEscape hq c

/-- A text with something written for each of its characters. -/
inductive Writes (q : Char) : List Char → List Char → Prop where
  | nil : Writes q [] []
  | cons {c : Char} {s written rest : List Char} (hc : Written q c written) (hs : Writes q s rest) :
      Writes q (c :: s) (written ++ rest)

theorem writes_flatMap {q : Char} (hq : IsQuote q) (s : List Char) :
    Writes q s (s.flatMap (quoteChar q)) := by
  induction s with
  | nil => exact .nil
  | cons c s ih => exact .cons (written_quoteChar hq c) ih

theorem Writes.unescapeFrom_eq {q : Char} {s t : List Char} (h : Writes q s t) {fuel : Nat}
    (hfuel : t.length < fuel) : unescapeFrom fuel t = .ok s := by
  induction h generalizing fuel with
  | nil =>
    obtain ⟨n, rfl⟩ := Nat.exists_eq_add_of_lt hfuel
    rfl
  | @cons c s written rest hc _ ih =>
    cases fuel with
    | zero => simp at hfuel
    | succ n =>
      cases hc with
      | plain hplain =>
        have hrest : unescapeFrom n rest = .ok s := ih (by simpa using hfuel)
        simp [unescapeFrom, hplain.ne_backslash, hrest]
      | @escape d more names hd hmore =>
        have hrest : unescapeFrom n rest = .ok s := ih (by simp at hfuel; omega)
        have hnames : textEscape (d :: (more ++ rest)) = .ok (some ([c], rest)) := names rest
        rw [List.cons_append, List.cons_append, unescapeFrom, if_pos (by rfl), hnames]
        simp [hrest, bind, Except.bind, pure, Except.pure]

theorem literalBody_plain {q c : Char} (h : Plain q c) (rest : List Char) :
    Scan.literalBody q false (c :: rest) =
      (Scan.literalBody q false rest).map fun (body, tail) => (c :: body, tail) := by
  have hline : c ≠ '\n' := by
    rintro rfl
    cases h.printable
  rcases rest with _ | ⟨a, _ | ⟨b, tail⟩⟩ <;>
    simp [Scan.literalBody, h.ne_backslash, h.ne_quote, hline]

theorem literalBody_plains {q : Char} {cs : List Char} (h : ∀ c ∈ cs, Plain q c)
    (rest : List Char) :
    Scan.literalBody q false (cs ++ rest) =
      (Scan.literalBody q false rest).map fun (body, tail) => (cs ++ body, tail) := by
  induction cs with
  | nil => simp
  | cons c cs ih =>
    rw [List.cons_append, literalBody_plain (h c List.mem_cons_self),
      ih fun d hd => h d (List.mem_cons_of_mem c hd), Option.map_map]
    rfl

theorem Written.literalBody_eq {q c : Char} {written : List Char} (h : Written q c written)
    (rest : List Char) :
    Scan.literalBody q false (written ++ rest) =
      (Scan.literalBody q false rest).map fun (body, tail) => (written ++ body, tail) := by
  cases h with
  | plain hplain => exact literalBody_plain hplain rest
  | @escape d more names hd hmore =>
    rw [List.cons_append, List.cons_append, Scan.literalBody, literalBody_plains hmore,
      Option.map_map]
    rfl

/-- The scanner takes the whole of what is written, and the quote behind it. -/
theorem Writes.literalBody_eq {q : Char} {s t : List Char} (h : Writes q s t) (hq : IsQuote q)
    (rest : List Char) :
    Scan.literalBody q false (t ++ q :: rest) = some (t ++ [q], rest) := by
  induction h with
  | nil => rcases hq with rfl | rfl <;> rfl
  | cons hc _ ih => rw [List.append_assoc, hc.literalBody_eq, ih, Option.map_some, List.append_assoc]

theorem Writes.head_ne {q : Char} {s t : List Char} (h : Writes q s t) (hq : IsQuote q) :
    ∀ c ∈ t.head?, c ≠ q := by
  cases h with
  | nil => simp
  | cons hc _ =>
    cases hc with
    | plain hplain => simpa using hplain.ne_quote
    | escape => rcases hq with rfl | rfl <;> simp

theorem Writes.printable {q : Char} {s t : List Char} (h : Writes q s t) :
    ∀ c ∈ t, isPrintable c = true := by
  induction h with
  | nil => simp
  | cons hc _ ih =>
    intro d hd
    rcases List.mem_append.mp hd with hd | hd
    · cases hc with
      | plain hplain => exact List.mem_singleton.mp hd ▸ hplain.printable
      | @escape e more names he hmore =>
        simp only [List.mem_cons] at hd
        rcases hd with rfl | rfl | hd
        · decide
        · exact he
        · exact (hmore d hd).printable
    · exact ih d hd

/-- A quoted text is a short literal without marks in front. -/
theorem Writes.split_eq {q : Char} {s t : List Char} (h : Writes q s t) (hq : IsQuote q) :
    split (q :: (t ++ [q])) = ⟨false, false, false, false, t⟩ := by
  have hmarks : (q :: (t ++ [q])).takeWhile (fun c => c != '\'' && c != '"') = [] := by
    rcases hq with rfl | rfl <;> rfl
  have hhead := h.head_ne hq
  unfold split
  simp only [hmarks, List.length_nil, List.drop_zero]
  cases t with
  | nil => rfl
  | cons c t =>
    have hc : (q == c) = false := by simpa using (hhead c rfl).symm
    rcases t with _ | ⟨d, _ | ⟨e, t⟩⟩
    · rfl
    · rfl
    · obtain ⟨x, xs, hx⟩ : ∃ x xs, t ++ [q] = x :: xs := List.exists_cons_of_ne_nil (by simp)
      have hlength : t.length = xs.length := by simpa using congrArg List.length hx
      have htake : (x :: xs).take xs.length = t := by
        rw [← hx, ← hlength, List.take_left]
      simp only [List.cons_append, hx, hc, Bool.false_and]
      simp [htake]

/-- The value of a quoted text is the text. -/
theorem join_quotedChars (parse : List Char → Except Cause Expr) (s : List Char) :
    Template.join parse [quotedChars s] = .ok (.constant (.text (String.ofList s) false)) := by
  have hq := isQuote_chooseQuote s
  have hwrites := writes_flatMap hq s
  have hsplit := hwrites.split_eq hq
  have hvalue : unescape (s.flatMap (quoteChar (chooseQuote s))) = .ok s :=
    hwrites.unescapeFrom_eq (by simp)
  simp only [Template.join, quotedChars, quotedWith, List.map_cons, List.map_nil, hsplit]
  generalize s.flatMap (quoteChar (chooseQuote s)) = body at hvalue
  cases s with
  | nil => simp [textValue, hvalue, Template.pushText, bind, Except.bind, pure, Except.pure]
  | cons c s => simp [textValue, hvalue, Template.pushText, bind, Except.bind, pure, Except.pure]

end Conch.Code.Literal
