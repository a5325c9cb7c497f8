import Mathlib
import Conch.Code.Quoting
import Conch.Proofs.Line.Placeholder

/-!
# Placeholders in literals

However a literal is quoted, marks stand for themselves in it and what is written for another
character holds no placeholder. So a literal holds a placeholder just when its text does.
-/

namespace Conch.Code.Quoting

open Line Text

theorem toNat_of_isMark {c : Char} (h : isMark c = true) : 0x20 ≤ c.toNat ∧ c.toNat < 0x7F := by
  simp only [isMark, Bool.or_eq_true, beq_iff_eq] at h
  rcases h with ((rfl | rfl) | rfl) | h
  · decide
  · decide
  · decide
  · have hzero : '0'.toNat = 48 := rfl
    have hnine : '9'.toNat = 57 := rfl
    rw [Char.isDigit_iff_toNat] at h
    omega

theorem isPrintable_of_isMark {c : Char} (h : isMark c = true) : isPrintable c = true := by
  simp [isPrintable, toNat_of_isMark h]

theorem hexDigit_ne_underscore {n : Nat} (h : n < 16) : hexDigit n ≠ '_' := by
  interval_cases n <;> decide

theorem underscore_not_mem_hexDigits (width n : Nat) : '_' ∉ hexDigits width n := by
  induction width generalizing n with
  | zero => simp [hexDigits]
  | succ width ih =>
    have hlast := hexDigit_ne_underscore (Nat.mod_lt n (by decide : 0 < 16))
    simp [hexDigits, ih, hlast.symm]

theorem isEscape_codeEscape (n : Nat) : IsEscape (codeEscape n) := by
  unfold codeEscape
  split
  · exact isEscape_cons rfl (by simpa using underscore_not_mem_hexDigits 2 n)
  · split
    · exact isEscape_cons rfl (by simpa using underscore_not_mem_hexDigits 4 n)
    · exact isEscape_cons rfl (by simpa using underscore_not_mem_hexDigits 8 n)

theorem quoteChar_escape {quote : Char} (hquote : isMark quote = false) (c : Char) :
    quoteChar quote c = [c] ∨ isMark c = false ∧ IsEscape (quoteChar quote c) := by
  cases hmark : isMark c with
  | true =>
    have hother (d : Char) (hd : isMark d = false) : c ≠ d := ne_of_isMark hmark hd
    simp [quoteChar, hother quote hquote, hother '\\' rfl, hother '\n' rfl, hother '\r' rfl,
      hother '\t' rfl, isPrintable_of_isMark hmark]
  | false =>
    have hc : '_' ∉ [c] := by simpa using (ne_underscore hmark).symm
    unfold quoteChar
    split
    · exact .inr ⟨rfl, isEscape_cons rfl hc⟩
    · split
      · exact .inr ⟨rfl, isEscape_cons rfl (by decide)⟩
      · split
        · exact .inr ⟨rfl, isEscape_cons rfl (by decide)⟩
        · split
          · exact .inr ⟨rfl, isEscape_cons rfl (by decide)⟩
          · split
            · exact .inl rfl
            · exact .inr ⟨rfl, isEscape_codeEscape _⟩

theorem escapeChar_escape (escapeLines : Bool) (c : Char) :
    escapeChar escapeLines c = [c] ∨ isMark c = false ∧ IsEscape (escapeChar escapeLines c) := by
  cases hmark : isMark c with
  | true =>
    have hother (d : Char) (hd : isMark d = false) : c ≠ d := ne_of_isMark hmark hd
    simp [escapeChar, hother '\\' rfl, isPrintable_of_isMark hmark]
  | false =>
    unfold escapeChar
    split
    · exact .inl rfl
    · split
      · exact .inr ⟨rfl, isEscape_cons rfl (by decide)⟩
      · split
        · exact .inl rfl
        · split
          · exact .inr ⟨rfl, isEscape_cons rfl (by decide)⟩
          · split
            · exact .inr ⟨rfl, isEscape_cons rfl (by decide)⟩
            · split
              · exact .inr ⟨rfl, isEscape_cons rfl (by decide)⟩
              · exact .inr ⟨rfl, isEscape_codeEscape _⟩

theorem isMark_chooseQuote (s : List Char) : isMark (chooseQuote s) = false := by
  unfold chooseQuote
  split <;> rfl

theorem escapes_quoteChar (quote : Char) (hquote : isMark quote = false) (s : List Char) :
    Escapes s (s.flatMap (quoteChar quote)) :=
  Escapes.flatMap (quoteChar_escape hquote) s

theorem holds_quotedChars (s : List Char) : Holds (quotedChars s) ↔ Holds s := by
  have hquote := isMark_chooseQuote s
  rw [quotedChars, quotedWith, holds_cons_of_ne (ne_underscore hquote), holds_append_cons hquote,
    or_iff_left not_holds_nil, (escapes_quoteChar _ hquote s).holds_iff]

/-- Quotes are made of quotation marks. -/
def AreQuotes (quotes : List (List Char)) : Prop := ∀ q ∈ quotes, ∀ c ∈ q, c = '\'' ∨ c = '"'

theorem AreQuotes.mono {quotes quotes' : List (List Char)} (h : AreQuotes quotes)
    (hsub : quotes' ⊆ quotes) : AreQuotes quotes' := fun q hq => h q (hsub hq)

theorem areQuotes_allQuotes : AreQuotes allQuotes := by
  simp [AreQuotes, allQuotes, singleQuotes, longQuotes]

theorem isMark_of_areQuotes {quotes : List (List Char)} (h : AreQuotes quotes) {c : Char}
    (hc : (quotes.headD []).head? = some c) : isMark c = false := by
  cases quotes with
  | nil => cases hc
  | cons q quotes =>
    obtain rfl | rfl := h q List.mem_cons_self c (List.mem_of_head? hc)
    · rfl
    · rfl

/-- Fitting a text into quotes escapes some of its characters, and leaves quotes to choose from. -/
theorem escapes_fit {quotes : List (List Char)} (hquotes : AreQuotes quotes) (escapeLines : Bool)
    (s : List Char) :
    Escapes s (fit quotes escapeLines s).1 ∧ AreQuotes (fit quotes escapeLines s).2 := by
  have hescaped : Escapes s (s.flatMap (escapeChar escapeLines)) :=
    Escapes.flatMap (escapeChar_escape escapeLines) s
  unfold fit
  extract_lets escaped possible possible' plain quote chosen
  have hpossible : AreQuotes possible' := by
    refine hquotes.mono fun q hq => ?_
    have hq' : q ∈ possible := List.mem_of_mem_filter hq
    by_cases hline : escaped.contains '\n' = true
    · simp only [possible, if_pos hline] at hq'
      exact List.mem_of_mem_filter hq'
    · simpa only [possible, if_neg hline] using hq'
  split
  · -- no quotes fit: the text is quoted plainly
    have hquote := isMark_chooseQuote s
    have hbody : (plain.drop 1).dropLast = s.flatMap (quoteChar (chooseQuote s)) := by
      simp [plain, quotedChars, quotedWith]
    refine ⟨hbody ▸ escapes_quoteChar _ hquote s, fun q hq c hc => ?_⟩
    rw [List.mem_singleton.mp hq] at hc
    cases hfind : quotes.find? fun q => q.contains quote with
    | some q' =>
      simp only [chosen, hfind, Option.getD_some] at hc
      exact hquotes q' (List.mem_of_find?_eq_some hfind) c hc
    | none =>
      simp only [chosen, hfind, Option.getD_none, List.mem_singleton] at hc
      rw [hc, show quote = chooseQuote s from rfl, chooseQuote]
      split <;> simp
  · split
    · exact ⟨hescaped, hpossible⟩
    next last hlast =>
      extract_lets sorted
      have hsorted : AreQuotes sorted := hpossible.mono (by simp [sorted])
      split
      next hhead =>
        have hmark : isMark last = false := isMark_of_areQuotes hsorted (by simpa using hhead)
        obtain ⟨x, hx⟩ : ∃ x, escaped = x ++ [last] := List.getLast?_eq_some_iff.mp hlast
        refine ⟨?_, hsorted⟩
        simp only [hx, List.dropLast_concat]
        exact Escapes.backslash hmark (hx ▸ hescaped)
      next => exact ⟨hescaped, hsorted⟩

theorem holds_between {quote : List Char} (hquote : ∀ c ∈ quote, c = '\'' ∨ c = '"')
    (body : List Char) : Holds (quote ++ body ++ quote) ↔ Holds body := by
  have hmark (c : Char) (hc : c ∈ quote) : isMark c = false := by
    obtain rfl | rfl := hquote c hc
    · rfl
    · rfl
  have hmem : '_' ∉ quote := fun h => Bool.noConfusion (hmark '_' h)
  have hapart : Apart quote := fun c hc => hmark c (List.mem_of_head? hc)
  rw [List.append_assoc, holds_append_of_not_mem hmem, holds_append hapart,
    or_iff_left (not_holds_of_not_mem hmem)]

theorem AreQuotes.headD {quotes : List (List Char)} (h : AreQuotes quotes) :
    ∀ c ∈ quotes.headD ['\''], c = '\'' ∨ c = '"' := by
  cases quotes with
  | nil => simp
  | cons q quotes => exact h q List.mem_cons_self

theorem holds_fitted {quotes : List (List Char)} (hquotes : AreQuotes quotes) (s : List Char) :
    Holds (fitted quotes s) ↔ Holds s := by
  obtain ⟨hbody, hfitting⟩ := escapes_fit hquotes false s
  rw [fitted, holds_between hfitting.headD, hbody.holds_iff]

theorem escapes_fitParts {quotes last : List (List Char)} (hquotes : AreQuotes quotes)
    {parts : List (List Char × Bool)} {bodies : List (List Char)}
    (h : fitParts quotes parts = some (bodies, last)) :
    Escapes (parts.map (·.1)).flatten bodies.flatten ∧ AreQuotes last := by
  induction parts generalizing quotes bodies with
  | nil =>
    obtain ⟨rfl, rfl⟩ : [] = bodies ∧ quotes = last := by simpa [fitParts] using h
    exact ⟨.nil, hquotes⟩
  | cons part parts ih =>
    obtain ⟨text, isText⟩ := part
    obtain ⟨hbody, hleft⟩ := escapes_fit hquotes isText text
    simp only [fitParts] at h
    split at h
    · obtain ⟨⟨rest, last'⟩, hrest, heq⟩ := Option.map_eq_some_iff.mp h
      obtain ⟨rfl, rfl⟩ : _ = bodies ∧ last' = last := by simpa using heq
      obtain ⟨hrest, hlast⟩ := ih hleft hrest
      exact ⟨hbody.append hrest, hlast⟩
    · cases h

theorem plainPart_eq (part : List Char) : plainPart part = part.flatMap (quoteChar '\'') := by
  simp [plainPart, quotedChars, chooseQuote, quotedWith, quoteChar, isPrintable]

/-- A template holds a placeholder just when its parts, one behind the other, do. -/
theorem holds_template (parts : List (List Char × Bool)) :
    Holds (template parts) ↔ Holds (parts.map (·.1)).flatten := by
  unfold template
  split
  next bodies quotes hfit =>
    obtain ⟨hbodies, hquotes⟩ := escapes_fitParts areQuotes_allQuotes hfit
    rw [holds_between hquotes.headD, hbodies.holds_iff]
  next =>
    have hbodies : Escapes (parts.map (·.1)).flatten (parts.map fun p => plainPart p.1).flatten :=
      Escapes.flatten (fun p => plainPart_eq p.1 ▸ escapes_quoteChar '\'' rfl p.1) parts
    rw [holds_between (by simp), hbodies.holds_iff]

theorem lt_ten_of_mem_digitsOf {n d : Nat} (h : d ∈ Decimal.digitsOf n) : d < 10 := by
  obtain ⟨c, hc, rfl⟩ := List.mem_map.mp h
  have hdigit := Nat.isDigit_of_mem_toDigits (by decide) (by decide) hc
  have hnine : '9'.toNat = 57 := rfl
  rw [Char.isDigit_iff_toNat] at hdigit
  omega

theorem lt_ten_of_mem_ofLength? {value low high : Decimal.Ratio} {closed : Bool} {lead : Int}
    {count : Nat} {ds : Decimal.Digits}
    (h : Decimal.ofLength? value low high closed lead count = some ds) :
    ∀ d ∈ ds.digits, d < 10 := by
  have hdone (n : Nat) (e : Int) (heq : ⟨Decimal.dropTrailingZeros (Decimal.digitsOf n), e⟩ = ds) :
      ∀ d ∈ ds.digits, d < 10 := by
    subst heq
    intro d hd
    apply lt_ten_of_mem_digitsOf (n := n)
    rw [Decimal.dropTrailingZeros, List.mem_reverse] at hd
    simpa using (List.dropWhile_sublist _).subset hd
  unfold Decimal.ofLength? at h
  extract_lets unit scaled inside done at h
  have hone (n : Nat) (hn : done n = some ds) : ∀ d ∈ ds.digits, d < 10 :=
    hdone n _ (Option.some.inj hn)
  split at h
  · split at h
    · exact hone _ h
    · exact hone _ h
  · exact hone _ h
  · exact hone _ h
  · cases h

theorem lt_ten_of_mem_shortest (b : Decimal.Binary) : ∀ d ∈ (Decimal.shortest b).digits, d < 10 := by
  have hzero : ∀ d ∈ [0], d < 10 := by decide
  unfold Decimal.shortest
  split
  · exact hzero
  · extract_lets value narrow low high closed guess lead
    rcases hfind : (List.range 17).findSome? fun k =>
        Decimal.ofLength? value low high closed lead (k + 1) with _ | ds
    · exact hzero
    · obtain ⟨k, -, hk⟩ := List.exists_of_findSome?_eq_some hfind
      exact lt_ten_of_mem_ofLength? hk

theorem underscore_not_mem_digitsText {ds : List Nat} (h : ∀ d ∈ ds, d < 10) :
    '_' ∉ (Decimal.digitsText ds).toList := by
  rw [Decimal.digitsText, String.toList_ofList, List.mem_map]
  rintro ⟨d, hd, heq⟩
  have hlt := h d hd
  interval_cases d <;> revert heq <;> decide

theorem underscore_not_mem_exponentText (e : Int) : '_' ∉ (Decimal.exponentText e).toList := by
  unfold Decimal.exponentText
  extract_lets digits
  have hdigits : '_' ∉ digits.toList := by simp [digits]
  split <;> split <;> simp [hdigits]

theorem underscore_not_mem_text (point : Bool) {ds : Decimal.Digits} (h : ∀ d ∈ ds.digits, d < 10) :
    '_' ∉ (Decimal.text point ds).toList := by
  have hdigits (ns : List Nat) (hns : ∀ n ∈ ns, n ∈ ds.digits ∨ n = 0) :
      '_' ∉ (Decimal.digitsText ns).toList := by
    refine underscore_not_mem_digitsText fun n hn => ?_
    obtain hn | rfl := hns n hn
    · exact h n hn
    · decide
  have hexponent := underscore_not_mem_exponentText ds.exponent
  have hpart (ns : List Nat) (hns : ns ⊆ ds.digits) : '_' ∉ (Decimal.digitsText ns).toList :=
    hdigits ns fun n hn => .inl (hns hn)
  unfold Decimal.text
  extract_lets e
  split
  · split
    · decide
    next a hds => simp [hpart [a] (by simp [hds]), hexponent, e]
    next a rest hne hds =>
      simp [hpart [a] (by simp [hds]), hpart rest (by simp [hds]), hexponent, e]
  · split
    · have hzeros := hdigits (List.replicate ((-e).toNat - 1) 0 ++ ds.digits) fun n hn => by
        simp only [List.mem_append, List.mem_replicate] at hn
        tauto
      simp [hzeros]
    next whole front _ _ =>
      have hfront := hdigits front fun n hn => by
        simp only [front, List.mem_append, List.mem_replicate] at hn
        exact hn.imp List.mem_of_mem_take And.right
      split
      · split <;> simp [hfront]
      next hds => simp [hfront, hpart _ (List.drop_subset whole ds.digits)]

theorem underscore_not_mem_floatText (point : Bool) (x : Float) :
    '_' ∉ (floatText point x).toList := by
  unfold floatText
  split
  · decide
  · decide
  next b hb =>
    have htext := underscore_not_mem_text point (lt_ten_of_mem_shortest b)
    rw [Decimal.render, hb]
    simp only [String.toList_append]
    split <;> simpa using htext

theorem holds_bytesText (value : List UInt8) :
    Holds (bytesText value) ↔ Holds (value.map fun b => Char.ofNat b.toNat) := by
  unfold bytesText
  extract_lets cs quote one
  have hquote : isMark quote = false := isMark_chooseQuote cs
  have hone (c : Char) : one c = [c] ∨ isMark c = false ∧ IsEscape (one c) := by
    by_cases hascii : c.toNat < 0x80
    · simpa only [one, if_pos hascii] using quoteChar_escape hquote c
    · have hmark : isMark c = false := by
        refine Bool.eq_false_iff.mpr fun h => ?_
        have hrange := toNat_of_isMark h
        omega
      simpa only [one, if_neg hascii] using .inr ⟨hmark, isEscape_codeEscape c.toNat⟩
  rw [holds_cons_of_ne (by decide), holds_cons_of_ne (ne_underscore hquote),
    holds_append_cons hquote, or_iff_left not_holds_nil, (Escapes.flatMap hone cs).holds_iff]

/-- The text of a constant; numbers and the like have none. -/
def constantText : Constant → List Char
  | .text s _ => s.toList
  | .bytes value => value.map fun b => Char.ofNat b.toNat
  | _ => []

/-- A constant holds a placeholder just when its text does. -/
theorem holds_constant (avoid : Bool) (c : Constant) :
    Holds (constant avoid c).toList ↔ Holds (constantText c) := by
  have hnone {s : List Char} (h : '_' ∉ s) : Holds s ↔ Holds [] :=
    iff_of_false (not_holds_of_not_mem h) not_holds_nil
  cases c with
  | none => exact hnone (by simp [constant])
  | bool b => cases b <;> exact hnone (by simp [constant])
  | ellipsis => exact hnone (by simp [constant])
  | int n => exact hnone (by simp [constant])
  | float x => exact hnone (underscore_not_mem_floatText true x)
  | imaginary x => exact hnone (by simp [constant, underscore_not_mem_floatText false x])
  | bytes value =>
    rw [constant, String.toList_ofList]
    exact holds_bytesText value
  | text s marked =>
    have hbody : Holds (if avoid then String.ofList (fitted allQuotes s.toList)
        else quoted s).toList ↔ Holds s.toList := by
      cases avoid with
      | true => simpa using holds_fitted areQuotes_allQuotes s.toList
      | false => simpa [quoted] using holds_quotedChars s.toList
    rw [constant, constantText, String.toList_append, holds_append_of_not_mem, hbody]
    cases marked <;> decide

end Conch.Code.Quoting
