import Mathlib
import Conch.Line.Expansion
import Conch.Proofs.Effect

/-!
# Texts that hold placeholders

A placeholder is made of a few characters only, its marks, and starts with an underscore. So a text
that is put together from parts holds one just when a part does, as long as the parts are kept apart
by a character that is no mark; and escaping other characters makes no difference.
-/

namespace Conch.Line

/-- The characters of placeholders. -/
def isMark (c : Char) : Bool := c == '_' || c == 'P' || c == 'H' || c.isDigit

/-- A text with a placeholder in it. -/
def Holds (text : List Char) : Prop := ∃ k, (placeholder k).toList <:+: text

theorem ne_of_isMark {c d : Char} (hc : isMark c = true) (hd : isMark d = false) : c ≠ d := by
  rintro rfl
  rw [hc] at hd
  cases hd

theorem ne_underscore {c : Char} (h : isMark c = false) : c ≠ '_' := (ne_of_isMark rfl h).symm

theorem placeholder_toList (k : Nat) :
    (placeholder k).toList = '_' :: '_' :: 'P' :: 'H' :: '_' :: (Nat.toDigits 10 k ++ ['_', '_']) := by
  simp [placeholder, Nat.toString_eq_repr]

theorem isMark_of_mem_placeholder {k : Nat} {c : Char} (h : c ∈ (placeholder k).toList) :
    isMark c = true := by
  rw [placeholder_toList] at h
  simp only [List.mem_cons, List.mem_append, List.not_mem_nil, or_false] at h
  rcases h with rfl | rfl | rfl | rfl | rfl | h | rfl | rfl
  · rfl
  · rfl
  · rfl
  · rfl
  · rfl
  · simp [isMark, Nat.isDigit_of_mem_toDigits (by decide) (by decide) h]
  · rfl
  · rfl

/-- A text that does not go on with a mark. -/
def Apart (text : List Char) : Prop := ∀ c ∈ text.head?, isMark c = false

theorem apart_iff {text : List Char} : Apart text ↔ text.head?.all (!isMark ·) = true := by
  simp [Apart, Option.all_eq_true]

instance : DecidablePred Apart := fun _ => decidable_of_iff _ apart_iff.symm

theorem apart_nil : Apart [] := by simp [Apart]

theorem apart_cons {c : Char} (h : isMark c = false) (text : List Char) : Apart (c :: text) := by
  simpa [Apart] using h

theorem Apart.append {xs ys : List Char} (hxs : Apart xs) (hys : Apart ys) : Apart (xs ++ ys) := by
  cases xs with
  | nil => exact hys
  | cons x xs => exact hxs

/-- Marks at the front of a text do not reach into one that is apart from it. -/
theorem marks_prefix_append_iff {p xs ys : List Char} (hp : ∀ c ∈ p, isMark c = true)
    (hys : Apart ys) : p <+: xs ++ ys ↔ p <+: xs := by
  induction p generalizing xs with
  | nil => simp
  | cons a p ih =>
    cases xs with
    | nil =>
      cases ys with
      | nil => rfl
      | cons c ys =>
        have hne : a ≠ c := ne_of_isMark (hp a List.mem_cons_self) (hys c rfl)
        simp [hne]
    | cons x xs =>
      have hrest : p <+: xs ++ ys ↔ p <+: xs := ih fun c hc => hp c (List.mem_cons_of_mem a hc)
      simp only [List.cons_append, List.cons_prefix_cons, hrest]

@[simp]
theorem not_holds_nil : ¬Holds [] := by
  rintro ⟨k, h⟩
  simp [placeholder_toList] at h

theorem not_holds_singleton (c : Char) : ¬Holds [c] := by
  rintro ⟨k, h⟩
  have hlength := h.length_le
  simp [placeholder_toList] at hlength

theorem holds_cons {c : Char} {text : List Char} :
    Holds (c :: text) ↔ (∃ k, (placeholder k).toList <+: c :: text) ∨ Holds text := by
  simp only [Holds, List.infix_cons_iff, exists_or]

@[simp]
theorem holds_cons_of_ne {c : Char} (h : c ≠ '_') {text : List Char} :
    Holds (c :: text) ↔ Holds text := by
  have hstart : ¬∃ k, (placeholder k).toList <+: c :: text := by
    rintro ⟨k, hk⟩
    rw [placeholder_toList, List.cons_prefix_cons] at hk
    exact h hk.1.symm
  rw [holds_cons, or_iff_right hstart]

theorem holds_append {xs ys : List Char} (h : Apart ys) :
    Holds (xs ++ ys) ↔ Holds xs ∨ Holds ys := by
  induction xs with
  | nil => simp [not_holds_nil]
  | cons x xs ih =>
    have hstart (k : Nat) : (placeholder k).toList <+: x :: xs ++ ys ↔
        (placeholder k).toList <+: x :: xs :=
      marks_prefix_append_iff (fun _ => isMark_of_mem_placeholder) h
    rw [List.cons_append, holds_cons, holds_cons, ih, or_assoc]
    simp only [← List.cons_append, hstart]

/-- A character that is no mark keeps two texts apart. -/
@[simp]
theorem holds_append_cons {c : Char} (h : isMark c = false) {xs ys : List Char} :
    Holds (xs ++ c :: ys) ↔ Holds xs ∨ Holds ys := by
  rw [holds_append (apart_cons h ys), holds_cons_of_ne (ne_underscore h)]

theorem holds_append_of_not_mem {xs ys : List Char} (h : '_' ∉ xs) :
    Holds (xs ++ ys) ↔ Holds ys := by
  induction xs with
  | nil => rfl
  | cons x xs ih =>
    rw [List.mem_cons, not_or] at h
    rw [List.cons_append, holds_cons_of_ne (Ne.symm h.1), ih h.2]

theorem not_holds_of_not_mem {xs : List Char} (h : '_' ∉ xs) : ¬Holds xs := by
  have hnil : Holds (xs ++ []) ↔ Holds [] := holds_append_of_not_mem h
  rw [List.append_nil] at hnil
  exact fun hxs => not_holds_nil (hnil.mp hxs)

/-- What may be written for a character that is no mark, so that no mark is joined to what stands in
front of it and no placeholder begins in it. -/
structure IsEscape (written : List Char) : Prop where
  ne_nil : written ≠ []
  apart : Apart written
  no_underscore : '_' ∉ written

theorem isEscape_iff {written : List Char} :
    IsEscape written ↔ written ≠ [] ∧ Apart written ∧ '_' ∉ written :=
  ⟨fun h => ⟨h.ne_nil, h.apart, h.no_underscore⟩, fun ⟨hne, hapart, h⟩ => ⟨hne, hapart, h⟩⟩

instance : DecidablePred IsEscape := fun _ => decidable_of_iff _ isEscape_iff.symm

theorem isEscape_cons {c : Char} {rest : List Char} (hc : isMark c = false) (hrest : '_' ∉ rest) :
    IsEscape (c :: rest) where
  ne_nil := List.cons_ne_nil c rest
  apart := apart_cons hc rest
  no_underscore := by simpa [(ne_underscore hc).symm] using hrest

theorem IsEscape.apart_append {written : List Char} (h : IsEscape written) (text : List Char) :
    Apart (written ++ text) := by
  obtain ⟨c, rest, rfl⟩ := List.exists_cons_of_ne_nil h.ne_nil
  exact apart_cons (h.apart c rfl) (rest ++ text)

/-- A text and how it is written: marks stand for themselves, other characters may be escaped, and
empty braces may be filled. The last argument lists what they are filled with. -/
inductive Writes : List Char → List Char → List (List Char) → Prop
  | nil : Writes [] [] []
  | keep (c : Char) {s t : List Char} {fills : List (List Char)} (rest : Writes s t fills) :
      Writes (c :: s) (c :: t) fills
  | change {c : Char} {written s t : List Char} {fills : List (List Char)}
      (other : isMark c = false) (escape : IsEscape written) (rest : Writes s t fills) :
      Writes (c :: s) (written ++ t) fills
  | fill (body : List Char) {s t : List Char} {fills : List (List Char)} (rest : Writes s t fills) :
      Writes ('\x7b' :: '\x7d' :: s) ('\x7b' :: body ++ '\x7d' :: t) (body :: fills)

/-- Writing a text with escapes only. -/
abbrev Escapes (s t : List Char) : Prop := Writes s t []

theorem Writes.append {s t s' t' : List Char} {fills fills' : List (List Char)}
    (h : Writes s t fills) (h' : Writes s' t' fills') :
    Writes (s ++ s') (t ++ t') (fills ++ fills') := by
  induction h with
  | nil => exact h'
  | keep c _ ih => exact .keep c ih
  | change other escape _ ih =>
    rw [List.append_assoc]
    exact .change other escape ih
  | fill body _ ih =>
    rw [List.append_assoc]
    exact .fill body ih

theorem Escapes.flatten {α : Type} {f g : α → List Char} (h : ∀ a, Escapes (f a) (g a))
    (as : List α) : Escapes (as.map f).flatten (as.map g).flatten := by
  induction as with
  | nil => exact .nil
  | cons a as ih => exact (h a).append ih

theorem Escapes.flatMap {f : Char → List Char}
    (h : ∀ c, f c = [c] ∨ isMark c = false ∧ IsEscape (f c)) (s : List Char) :
    Escapes s (s.flatMap f) := by
  induction s with
  | nil => exact .nil
  | cons c s ih =>
    rw [List.flatMap_cons]
    obtain hc | ⟨hother, hescape⟩ := h c
    · rw [hc]
      exact .keep c ih
    · exact .change hother hescape ih

/-- A backslash may be put in front of the last character of a written text. -/
theorem Escapes.backslash {s x : List Char} {last : Char} (hlast : isMark last = false)
    (h : Escapes s (x ++ [last])) : Escapes s (x ++ ['\\', last]) := by
  have hpair : IsEscape ['\\', last] :=
    ⟨by simp, apart_cons rfl _, by simpa using (ne_underscore hlast).symm⟩
  generalize ht : x ++ [last] = t at h
  obtain ⟨fills, hfills, hwrites⟩ : ∃ fills, [] = fills ∧ Writes s t fills := ⟨[], rfl, h⟩
  clear h
  induction hwrites generalizing x with
  | nil => simp at ht
  | fill => cases hfills
  | keep c rest ih =>
    subst hfills
    cases x with
    | nil =>
      obtain ⟨rfl, rfl⟩ : last = c ∧ [] = _ := by simpa using ht
      simpa using Writes.change hlast hpair rest
    | cons a x =>
      obtain ⟨rfl, hrest⟩ : a = c ∧ x ++ [last] = _ := by simpa using ht
      exact .keep a (ih hrest rfl)
  | @change c written s t fills other escape rest ih =>
    subst hfills
    obtain rfl | ⟨t', d, rfl⟩ := List.eq_nil_or_concat t
    · -- the escape is the last thing written, and grows by a backslash
      rw [List.append_nil] at ht
      have hwritten : IsEscape (x ++ ['\\', last]) := by
        refine ⟨by simp, ?_, ?_⟩
        · have hapart := escape.apart
          cases x with
          | nil => exact hpair.apart
          | cons a x => exact apart_cons (hapart a (by simp [← ht])) _
        · have hmem := escape.no_underscore
          rw [← ht] at hmem
          simpa using hmem
      simpa using Writes.change other hwritten rest
    · rw [List.concat_eq_append, ← List.append_assoc] at ht
      obtain ⟨rfl, hd⟩ := List.append_inj' ht rfl
      rw [List.append_assoc]
      exact .change other escape (ih (by simp [hd]) rfl)

/-- A written text starts with a placeholder just when the text does. -/
theorem Writes.prefix_iff {p s t : List Char} {fills : List (List Char)} (h : Writes s t fills)
    (hp : ∀ c ∈ p, isMark c = true) : p <+: t ↔ p <+: s := by
  induction h generalizing p with
  | nil => rfl
  | keep c _ ih =>
    cases p with
    | nil => simp
    | cons a p =>
      rw [List.cons_prefix_cons, List.cons_prefix_cons,
        ih fun c hc => hp c (List.mem_cons_of_mem a hc)]
  | change other escape _ ih =>
    cases p with
    | nil => simp
    | cons a p =>
      have hmark := hp a List.mem_cons_self
      obtain ⟨d, rest, rfl⟩ := List.exists_cons_of_ne_nil escape.ne_nil
      simp [ne_of_isMark hmark other, ne_of_isMark hmark (escape.apart d rfl)]
  | fill body _ ih =>
    cases p with
    | nil => simp
    | cons a p => simp [ne_of_isMark (hp a List.mem_cons_self) (rfl : isMark '\x7b' = false)]

/-- A written text holds a placeholder just when the text does or one of the things that its braces
are filled with. -/
theorem Writes.holds_iff {s t : List Char} {fills : List (List Char)} (h : Writes s t fills) :
    Holds t ↔ Holds s ∨ ∃ body ∈ fills, Holds body := by
  induction h with
  | nil => simp
  | keep c rest ih =>
    have hstart (k : Nat) := (Writes.keep c rest).prefix_iff fun _ =>
      isMark_of_mem_placeholder (k := k)
    rw [holds_cons, holds_cons, ih, or_assoc]
    simp only [hstart]
  | change other escape _ ih =>
    rw [holds_append_of_not_mem escape.no_underscore, ih, holds_cons_of_ne (ne_underscore other)]
  | fill body _ ih =>
    rw [List.cons_append, holds_cons_of_ne (by decide), holds_append_cons rfl, ih,
      holds_cons_of_ne (by decide), holds_cons_of_ne (by decide)]
    simp only [List.exists_mem_cons_iff]
    exact or_left_comm

theorem Escapes.holds_iff {s t : List Char} (h : Escapes s t) : Holds t ↔ Holds s := by
  simpa using Writes.holds_iff h

end Conch.Line
