import Mathlib
import Conch.Text.Utf8

/-!
# Text as bytes and back

The bytes of a text are read as that text. Captured bytes are read in the same way, with line ends
made one; a text without carriage returns comes through unchanged.
-/

namespace Conch.Text

theorem toNat_ofNat_byte {n : Nat} (h : n < 256) : (UInt8.ofNat n).toNat = n := by
  rw [UInt8.toNat_ofNat', Nat.mod_eq_of_lt h]

/-- One more byte gives six more bits of a character. -/
theorem continuation_cons {low high digit : Nat} (hdigit : digit < 64) (hlow : low ≤ digit + 0x80)
    (hhigh : digit + 0x80 ≤ high) (value got need : Nat) (rest : Bytes) :
    continuation low high value got (need + 1) (UInt8.ofNat (digit + 0x80) :: rest) =
      continuation 0x80 0xBF (value * 64 + digit) (got + 1) need rest := by
  have hbyte : (UInt8.ofNat (digit + 0x80)).toNat = digit + 0x80 := toNat_ofNat_byte (by omega)
  simp only [continuation, hbyte, hlow, hhigh, decide_true, Bool.and_self, if_true,
    Nat.add_sub_cancel]

theorem continuation_zero (low high value got : Nat) (rest : Bytes) :
    continuation low high value got 0 rest = .char (Char.ofNat value) got := by
  simp only [continuation]

/-- The first byte of a character says how many follow. -/
theorem lead_cons {first width low high : Nat} (hfirst : first < 256)
    (hwidth : leadWidth first = some (width, low, high)) (hascii : ¬first < 0x80) (rest : Bytes) :
    lead (UInt8.ofNat first :: rest) =
      continuation low high
        (if width == 2 then first - 0xC0 else if width == 3 then first - 0xE0 else first - 0xF0) 1
        (width - 1) rest := by
  simp only [lead, toNat_ofNat_byte hfirst, if_neg hascii, hwidth]

theorem leadWidth_two {n : Nat} (hlow : 0xC2 ≤ n) (hhigh : n ≤ 0xDF) :
    leadWidth n = some (2, 0x80, 0xBF) := by
  simp [leadWidth, hlow, hhigh]

/-- The second byte of three keeps clear of what two bytes can say, and of the surrogates. -/
theorem leadWidth_three {n : Nat} (hlow : 0xE0 ≤ n) (hhigh : n ≤ 0xEF) :
    leadWidth n =
      some (3, if n = 0xE0 then 0xA0 else 0x80, if n = 0xED then 0x9F else 0xBF) := by
  interval_cases n <;> rfl

/-- The second byte of four keeps clear of what three bytes can say, and of what is no character. -/
theorem leadWidth_four {n : Nat} (hlow : 0xF0 ≤ n) (hhigh : n ≤ 0xF4) :
    leadWidth n =
      some (4, if n = 0xF0 then 0x90 else 0x80, if n = 0xF4 then 0x8F else 0xBF) := by
  interval_cases n <;> rfl

/-- The bytes of a character are read as that character. -/
theorem lead_utf8EncodeChar (c : Char) (rest : Bytes) :
    lead (String.utf8EncodeChar c ++ rest) = .char c (String.utf8EncodeChar c).length := by
  have hvalid : c.toNat < 0xD800 ∨ 0xDFFF < c.toNat ∧ c.toNat < 0x110000 := c.valid
  have hvalue {n : Nat} (h : n = c.toNat) : Char.ofNat n = c := by rw [h, Char.ofNat_toNat]
  unfold String.utf8EncodeChar
  rw [show c.val.toNat = c.toNat from rfl]
  extract_lets v
  have hv : v = c.toNat := rfl
  clear_value v
  split
  · have hbyte : (UInt8.ofNat v).toNat = v := toNat_ofNat_byte (by omega)
    simp only [List.cons_append, List.nil_append, lead, hbyte, if_pos (by omega : v < 0x80),
      hvalue hv, List.length_singleton]
  · split
    · rw [List.cons_append, lead_cons (by omega) (leadWidth_two (by omega) (by omega)) (by omega),
        List.cons_append, continuation_cons (by omega) (by omega) (by omega), continuation_zero,
        hvalue (by simp; omega)]
      rfl
    · split
      · rw [List.cons_append, lead_cons (by omega) (leadWidth_three (by omega) (by omega)) (by omega),
          List.cons_append, continuation_cons (by omega) (by split <;> omega) (by split <;> omega),
          List.cons_append, continuation_cons (by omega) (by omega) (by omega), continuation_zero,
          hvalue (by simp; omega)]
        rfl
      · rw [List.cons_append, lead_cons (by omega) (leadWidth_four (by omega) (by omega)) (by omega),
          List.cons_append, continuation_cons (by omega) (by split <;> omega) (by split <;> omega),
          List.cons_append, continuation_cons (by omega) (by omega) (by omega),
          List.cons_append, continuation_cons (by omega) (by omega) (by omega), continuation_zero,
          hvalue (by simp; omega)]
        rfl

theorem decodeFrom_skip (bytes : Bytes) (position : Nat) (rest : Bytes) :
    decodeFrom position bytes.length (bytes ++ rest) =
      decodeFrom (position + bytes.length) 0 rest := by
  induction bytes generalizing position with
  | nil => rfl
  | cons b bytes ih =>
    rw [List.cons_append, List.length_cons, decodeFrom, ih]
    congr 1
    omega

theorem decodeFrom_utf8EncodeChar (position : Nat) (c : Char) (rest : Bytes) :
    decodeFrom position 0 (String.utf8EncodeChar c ++ rest) =
      (decodeFrom (position + (String.utf8EncodeChar c).length) 0 rest).map (c :: ·) := by
  have hlead := lead_utf8EncodeChar c rest
  obtain ⟨b, bytes, hbytes⟩ := List.exists_cons_of_ne_nil (String.utf8EncodeChar_ne_nil (c := c))
  rw [hbytes, List.cons_append] at hlead ⊢
  rw [decodeFrom]
  simp only [hlead, List.length_cons, Nat.add_sub_cancel, decodeFrom_skip]
  congr 2
  omega

theorem encode_eq_flatMap (s : String) : encode s = s.toList.flatMap String.utf8EncodeChar := by
  rw [encode, String.toUTF8_eq_toByteArray, ← String.utf8Encode_toList]
  simp [List.utf8Encode]

theorem decodeFrom_flatMap (position : Nat) (cs : List Char) :
    decodeFrom position 0 (cs.flatMap String.utf8EncodeChar) = .ok cs := by
  induction cs generalizing position with
  | nil => rfl
  | cons c cs ih =>
    rw [List.flatMap_cons, decodeFrom_utf8EncodeChar, ih]
    rfl

/-- The bytes of a text are read as that text. -/
theorem decode_encode (s : String) : decode (encode s) = .ok s := by
  rw [decode, encode_eq_flatMap, decodeFrom_flatMap]
  simp [Except.map]

theorem encode_injective : Function.Injective encode := by
  intro s t h
  have hdecode : decode (encode s) = decode (encode t) := by rw [h]
  simpa [decode_encode] using hdecode

theorem unifyNewlines_eq_self {cs : List Char} (h : '\r' ∉ cs) : unifyNewlines cs = cs := by
  fun_induction unifyNewlines cs with
  | case1 rest ih => simp at h
  | case2 rest _ ih => simp at h
  | case3 c rest _ _ ih => rw [ih (by simp at h; exact h.2)]
  | case4 => rfl

end Conch.Text
