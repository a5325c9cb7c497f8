import Mathlib
import Conch.Line.Word

/-!
# Words as they are written

A word is spelt by plain characters, by characters behind a backslash and by texts in quotes. A
command is laid out when it spells words with blanks between them. Reading gives the words of every
layout, and a command that can be read has one, so the words of a command are known without the
reader.
-/

namespace Conch.Line

/-- Inside double quotes a backslash keeps a double quote or a backslash, and stays otherwise. -/
inductive SpellsQuoted : List Char → List Char → Prop where
  | nil : SpellsQuoted [] []
  | plain {c : Char} {s v : List Char} (quote : c ≠ '"') (escape : c ≠ '\\')
      (rest : SpellsQuoted s v) : SpellsQuoted (c :: s) (c :: v)
  | kept {c : Char} {s v : List Char} (special : c = '\\' ∨ c = '"') (rest : SpellsQuoted s v) :
      SpellsQuoted ('\\' :: c :: s) (c :: v)
  | stays {c : Char} {s v : List Char} (special : ¬ (c = '\\' ∨ c = '"'))
      (rest : SpellsQuoted s v) : SpellsQuoted ('\\' :: c :: s) ('\\' :: c :: v)

/-- A text that spells a word: plain characters, escaped ones, and texts in quotes. -/
inductive Spells : List Char → List Char → Prop where
  | nil : Spells [] []
  | plain {c : Char} {raw word : List Char}
      (special : isGap c = false ∧ c ≠ '\\' ∧ c ≠ '\'' ∧ c ≠ '"') (rest : Spells raw word) :
      Spells (c :: raw) (c :: word)
  | escaped {c : Char} {raw word : List Char} (rest : Spells raw word) :
      Spells ('\\' :: c :: raw) (c :: word)
  | single {s raw word : List Char} (quote : '\'' ∉ s) (rest : Spells raw word) :
      Spells ('\'' :: (s ++ '\'' :: raw)) (s ++ word)
  | double {s v raw word : List Char} (inside : SpellsQuoted s v) (rest : Spells raw word) :
      Spells ('"' :: (s ++ '"' :: raw)) (v ++ word)

theorem readWords_single {s : List Char} (h : '\'' ∉ s) (word rest : List Char) :
    readWords (.quoted false) word (s ++ '\'' :: rest) =
      readWords .word (s.reverse ++ word) rest := by
  induction s generalizing word with
  | nil => simp [readWords]
  | cons c s ih =>
    obtain ⟨hc, hs⟩ := not_or.1 (fun hor => h (List.mem_cons.2 hor))
    have hread : readWords (.quoted false) word (c :: (s ++ '\'' :: rest)) =
        readWords (.quoted false) (c :: word) (s ++ '\'' :: rest) := by
      simp [readWords, Ne.symm hc]
    rw [List.cons_append, hread, ih hs]
    simp

theorem readWords_double {s v : List Char} (h : SpellsQuoted s v) (word rest : List Char) :
    readWords (.quoted true) word (s ++ '"' :: rest) =
      readWords .word (v.reverse ++ word) rest := by
  induction h generalizing word with
  | nil => simp [readWords]
  | plain quote escape _ ih => simp [readWords, quote, escape, ih]
  | kept special _ ih => simp [readWords, special, ih]
  | stays special _ ih => simp [readWords, special, ih]

/-- What spells a word is read as it, with any text behind it. -/
theorem readWords_spells {raw w : List Char} (h : Spells raw w) (word rest : List Char) :
    readWords .word word (raw ++ rest) = readWords .word (w.reverse ++ word) rest := by
  induction h generalizing word with
  | nil => rfl
  | plain special _ ih =>
    obtain ⟨hgap, hescape, hsingle, hdouble⟩ := special
    simp [readWords, hgap, hescape, hsingle, hdouble, ih]
  | escaped _ ih => simp [readWords, isGap, ih]
  | single quote _ ih => simp [readWords, isGap, readWords_single quote, ih]
  | double inside _ ih => simp [readWords, isGap, readWords_double inside, ih]

/-- Reading a word begins with its first character. -/
theorem readWords_gap_cons {c : Char} (h : isGap c = false) (word rest : List Char) :
    readWords .gap word (c :: rest) = readWords .word [] (c :: rest) := by
  simp [readWords, h]

theorem Spells.not_isGap_head {c : Char} {raw w : List Char} (h : Spells (c :: raw) w) :
    isGap c = false := by
  cases h with
  | plain special _ => exact special.1
  | escaped _ => rfl
  | single _ _ => rfl
  | double _ _ => rfl

theorem SpellsQuoted.subset {s v : List Char} (h : SpellsQuoted s v) : v ⊆ s := by
  induction h with
  | nil => exact List.Subset.refl []
  | plain _ _ _ ih => exact List.cons_subset_cons _ ih
  | kept _ _ ih => exact List.subset_cons_of_subset _ (List.cons_subset_cons _ ih)
  | stays _ _ ih => exact List.cons_subset_cons _ (List.cons_subset_cons _ ih)

/-- Every character of a word is written in the text that spells it. -/
theorem Spells.subset {raw w : List Char} (h : Spells raw w) : w ⊆ raw := by
  induction h with
  | nil => exact List.Subset.refl []
  | plain _ _ ih => exact List.cons_subset_cons _ ih
  | escaped _ ih => exact List.subset_cons_of_subset _ (List.cons_subset_cons _ ih)
  | single _ _ ih => grind
  | double inside _ ih =>
    have := inside.subset
    grind

/-- A word as it is written, with the blanks in front of it. -/
structure Spelt where
  gap : List Char
  raw : List Char
  word : List Char
  gaps : ∀ c ∈ gap, isGap c = true
  nonempty : raw ≠ []
  spells : Spells raw word

/-- Words as they are written, and the blanks behind them. -/
def layout (xs : List Spelt) (tail : List Char) : List Char :=
  xs.flatMap (fun x => x.gap ++ x.raw) ++ tail

theorem layout_cons (x : Spelt) (xs : List Spelt) (tail : List Char) :
    layout (x :: xs) tail = x.gap ++ (x.raw ++ layout xs tail) := by
  simp [layout]

theorem spells_self {word : List Char}
    (h : ∀ c ∈ word, isGap c = false ∧ c ≠ '\\' ∧ c ≠ '\'' ∧ c ≠ '"') : Spells word word := by
  induction word with
  | nil => exact .nil
  | cons c word ih =>
    obtain ⟨hc, hword⟩ := List.forall_mem_cons.1 h
    exact .plain hc (ih hword)

theorem readWords_gaps {g : List Char} (h : ∀ c ∈ g, isGap c = true) (word rest : List Char) :
    readWords .gap word (g ++ rest) = readWords .gap word rest := by
  induction g with
  | nil => rfl
  | cons c g ih =>
    obtain ⟨hc, hg⟩ := List.forall_mem_cons.1 h
    rw [List.cons_append, readWords, if_pos hc, ih hg]

theorem Spelt.readWords_eq (x : Spelt) (word rest : List Char) :
    readWords .gap word (x.gap ++ (x.raw ++ rest)) = readWords .word x.word.reverse rest := by
  have hread := readWords_spells x.spells [] rest
  have hspells := x.spells
  obtain ⟨c, raw, hraw⟩ := List.exists_cons_of_ne_nil x.nonempty
  rw [hraw] at hread hspells ⊢
  rw [readWords_gaps x.gaps, List.cons_append, readWords_gap_cons hspells.not_isGap_head,
    ← List.cons_append, hread, List.append_nil]

theorem readWords_layout {xs : List Spelt} {tail : List Char} (hapart : ∀ x ∈ xs, x.gap ≠ [])
    (htail : ∀ c ∈ tail, isGap c = true) (word : List Char) :
    readWords .word word (layout xs tail) = .ok (word.reverse :: xs.map Spelt.word) := by
  induction xs generalizing word with
  | nil =>
    cases tail with
    | nil => rfl
    | cons c tail =>
      obtain ⟨hc, htail⟩ := List.forall_mem_cons.1 htail
      have hrest := readWords_gaps htail [] []
      rw [List.append_nil] at hrest
      have hlayout : layout [] (c :: tail) = c :: tail := rfl
      rw [hlayout, readWords, if_pos hc, hrest]
      rfl
  | cons x xs ih =>
    obtain ⟨hx, hxs⟩ := List.forall_mem_cons.1 hapart
    obtain ⟨c, g, hgap⟩ := List.exists_cons_of_ne_nil hx
    have hgaps := x.gaps
    rw [hgap] at hgaps
    obtain ⟨hc, hg⟩ := List.forall_mem_cons.1 hgaps
    -- the first blank ends the word before, and the others are passed over
    have hread : readWords .gap [] (g ++ (x.raw ++ layout xs tail)) =
        readWords .word x.word.reverse (layout xs tail) := by
      rw [← x.readWords_eq [] (layout xs tail), readWords_gaps hg, readWords_gaps x.gaps]
    rw [layout_cons, hgap, List.cons_append, readWords, if_pos hc, hread, ih hxs,
      List.reverse_reverse]
    rfl

/-- Words are kept apart by blanks, and only blanks stand behind the last one. -/
structure Laid (xs : List Spelt) (tail : List Char) : Prop where
  apart : ∀ x ∈ xs.tail, x.gap ≠ []
  tailGaps : ∀ c ∈ tail, isGap c = true

/-- The words of a layout are those that are spelt in it. -/
theorem Laid.quotedWords_layout {xs : List Spelt} {tail : List Char} (h : Laid xs tail) :
    quotedWords (layout xs tail) = .ok (xs.map Spelt.word) := by
  unfold quotedWords
  cases xs with
  | nil =>
    have hrest := readWords_gaps h.tailGaps [] []
    rw [List.append_nil] at hrest
    exact hrest
  | cons x xs =>
    have hapart : ∀ y ∈ xs, y.gap ≠ [] := h.apart
    have hread := readWords_layout hapart h.tailGaps
    rw [layout_cons, x.readWords_eq, hread, List.reverse_reverse]
    rfl

theorem Laid.commandWords_layout {xs : List Spelt} {tail : List Char} (h : Laid xs tail) :
    commandWords (layout xs tail) = xs.map Spelt.word := by
  rw [commandWords, h.quotedWords_layout]

section

variable {c : Char} {raw w : List Char}

theorem Spells.single_cons (hc : c ≠ '\'') (h : Spells ('\'' :: raw) w) :
    Spells ('\'' :: c :: raw) (c :: w) := by
  cases h with
  | plain special _ => exact absurd rfl special.2.2.1
  | @single s r v quote rest =>
    have hs : '\'' ∉ c :: s := by simp [quote, Ne.symm hc]
    exact .single hs rest

/-- What spells a word from a double quote on goes on as the same word behind more of the quote. -/
theorem Spells.double_append {a b : List Char} (h : Spells ('"' :: raw) w)
    (hinside : ∀ s v, SpellsQuoted s v → SpellsQuoted (a ++ s) (b ++ v)) :
    Spells ('"' :: (a ++ raw)) (b ++ w) := by
  cases h with
  | plain special _ => exact absurd rfl special.2.2.2
  | @double s v r w' inside rest =>
    have hspells := Spells.double (hinside s v inside) rest
    rwa [List.append_assoc, List.append_assoc] at hspells

end

/-- A blank in front of a layout keeps all its words apart from what stands before. -/
theorem Laid.exists_cons_gap {xs : List Spelt} {tail : List Char} (h : Laid xs tail) {c : Char}
    (hc : isGap c = true) :
    ∃ xs' tail', (∀ x ∈ xs', x.gap ≠ []) ∧ (∀ d ∈ tail', isGap d = true) ∧
      layout xs' tail' = c :: layout xs tail ∧ xs'.map Spelt.word = xs.map Spelt.word := by
  cases xs with
  | nil => exact ⟨[], c :: tail, by simp, List.forall_mem_cons.2 ⟨hc, h.tailGaps⟩, rfl, rfl⟩
  | cons x xs =>
    have hgaps : ∀ d ∈ c :: x.gap, isGap d = true := List.forall_mem_cons.2 ⟨hc, x.gaps⟩
    refine ⟨{ x with gap := c :: x.gap, gaps := hgaps } :: xs, tail, ?_, h.tailGaps, ?_, rfl⟩
    · exact List.forall_mem_cons.2 ⟨by simp, h.apart⟩
    · rw [layout_cons, layout_cons]
      rfl

/-- What the reader has passed over of a word besides its letters. -/
def opening : WordState → List Char
  | .gap | .word => []
  | .quoted false => ['\'']
  | .quoted true => ['"']
  | .escaped false => ['\\']
  | .escaped true => ['"', '\\']

/-- A text behind some letters of a word: it spells the rest of the word, and more words follow. -/
def Continues (state : WordState) (word text : List Char) (ws : List (List Char)) : Prop :=
  ∃ raw w xs tail, (∀ x ∈ xs, x.gap ≠ []) ∧ (∀ c ∈ tail, isGap c = true) ∧
    text = raw ++ layout xs tail ∧ Spells (opening state ++ raw) w ∧
    ws = (word.reverse ++ w) :: xs.map Spelt.word

/-- What a text is that is read as words from a state on. -/
def ReadsAs : WordState → List Char → List Char → List (List Char) → Prop
  | .gap, _, text, ws => ∃ xs tail, Laid xs tail ∧ text = layout xs tail ∧ ws = xs.map Spelt.word
  | state, word, text, ws => Continues state word text ws

/-- One more character of a word: what spells the rest behind it spells, with it, the rest in
front. -/
def Extends (state state' : WordState) (word word' : List Char) (c : Char) : Prop :=
  ∀ raw w, Spells (opening state' ++ raw) w →
    ∃ w', Spells (opening state ++ c :: raw) w' ∧ word.reverse ++ w' = word'.reverse ++ w

section

variable {state state' : WordState} {word word' text : List Char} {c : Char}
  {ws : List (List Char)}

theorem Extends.continues (h : Extends state state' word word' c)
    (hrest : Continues state' word' text ws) : Continues state word (c :: text) ws := by
  obtain ⟨raw, w, xs, tail, hapart, htail, rfl, hspells, rfl⟩ := hrest
  obtain ⟨w', hspells', hword⟩ := h raw w hspells
  exact ⟨c :: raw, w', xs, tail, hapart, htail, rfl, hspells', by rw [hword]⟩

/-- The first character of a word begins it. -/
theorem Extends.readsAs_gap (h : Extends .word state' [] word' c)
    (hrest : Continues state' word' text ws) : ReadsAs .gap word (c :: text) ws := by
  obtain ⟨raw, w, xs, tail, hapart, htail, rfl, hspells, rfl⟩ := hrest
  obtain ⟨w', hspells', hword⟩ := h raw w hspells
  refine ⟨⟨[], c :: raw, w', by simp, by simp, hspells'⟩ :: xs, tail, ⟨hapart, htail⟩, ?_, ?_⟩
  · rw [layout_cons]
    rfl
  · rw [← hword]
    rfl

/-- A quote or a backslash that opens something is no letter yet. -/
theorem extends_opening (h : opening state' = opening state ++ [c]) :
    Extends state state' word word c := by
  intro raw w hspells
  rw [h, List.append_assoc] at hspells
  exact ⟨w, hspells, rfl⟩

theorem extends_plain (hc : isGap c = false ∧ c ≠ '\\' ∧ c ≠ '\'' ∧ c ≠ '"') :
    Extends .word .word word (c :: word) c := by
  intro raw w h
  exact ⟨c :: w, .plain hc h, by simp⟩

theorem extends_escaped : Extends (.escaped false) .word word (c :: word) c := by
  intro raw w h
  exact ⟨c :: w, .escaped h, by simp⟩

theorem extends_close (double : Bool) :
    Extends (.quoted double) .word word word (if double then '"' else '\'') := by
  intro raw w h
  cases double with
  | false => exact ⟨w, .single (by simp) h, rfl⟩
  | true => exact ⟨w, .double .nil h, rfl⟩

theorem extends_inside {double : Bool} (hquote : c ≠ if double then '"' else '\'')
    (hescape : ¬ (double = true ∧ c = '\\')) :
    Extends (.quoted double) (.quoted double) word (c :: word) c := by
  intro raw w h
  refine ⟨c :: w, ?_, by simp⟩
  cases double with
  | false => exact h.single_cons hquote
  | true =>
    apply h.double_append (a := [c]) (b := [c])
    intro s v hinside
    exact .plain hquote (fun heq => hescape ⟨rfl, heq⟩) hinside

theorem extends_kept (hc : c = '\\' ∨ c = '"') :
    Extends (.escaped true) (.quoted true) word (c :: word) c := by
  intro raw w h
  refine ⟨c :: w, ?_, by simp⟩
  apply h.double_append (a := ['\\', c]) (b := [c])
  intro s v hinside
  exact .kept hc hinside

theorem extends_stays (hc : ¬ (c = '\\' ∨ c = '"')) :
    Extends (.escaped true) (.quoted true) word (c :: '\\' :: word) c := by
  intro raw w h
  refine ⟨'\\' :: c :: w, ?_, by simp⟩
  apply h.double_append (a := ['\\', c]) (b := ['\\', c])
  intro s v hinside
  exact .stays hc hinside

end

/-- What is read as words is written as words, whatever the reader has seen before. -/
theorem readsAs_of_readWords {state : WordState} {word text : List Char} {ws : List (List Char)}
    (h : readWords state word text = .ok ws) : ReadsAs state word text ws := by
  -- one case for each way in which the reader takes a character
  fun_induction readWords state word text generalizing ws with
  | case1 =>
    cases h
    exact ⟨[], [], ⟨by simp, by simp⟩, rfl, rfl⟩
  | case2 word =>
    cases h
    exact ⟨[], [], [], [], by simp, by simp, rfl, .nil, by simp⟩
  | case3 => cases h
  | case4 => cases h
  | case5 word c rest hc ih =>
    obtain ⟨xs, tail, hlaid, rfl, rfl⟩ := ih h
    obtain ⟨xs', tail', hapart, htail, hlayout, hwords⟩ := hlaid.exists_cons_gap hc
    exact ⟨xs', tail', ⟨fun x hx => hapart x (List.mem_of_mem_tail hx), htail⟩, hlayout.symm,
      hwords.symm⟩
  | case6 word rest _ ih => exact Extends.readsAs_gap (extends_opening (by rfl)) (ih h)
  | case7 word rest _ _ ih => exact Extends.readsAs_gap (extends_opening (by rfl)) (ih h)
  | case8 word rest _ _ _ ih => exact Extends.readsAs_gap (extends_opening (by rfl)) (ih h)
  | case9 word c rest hgap hescape hsingle hdouble ih =>
    apply Extends.readsAs_gap _ (ih h)
    exact extends_plain ⟨Bool.eq_false_iff.2 hgap, hescape, hsingle, hdouble⟩
  | case10 word c rest hc ih =>
    cases hrest : readWords .gap [] rest with
    | error fault =>
      rw [hrest] at h
      cases h
    | ok ws' =>
      rw [hrest] at h
      cases h
      obtain ⟨xs, tail, hlaid, rfl, rfl⟩ := ih hrest
      obtain ⟨xs', tail', hapart, htail, hlayout, hwords⟩ := hlaid.exists_cons_gap hc
      exact ⟨[], [], xs', tail', hapart, htail, hlayout.symm, .nil, by simp [hwords]⟩
  | case11 word rest _ ih => exact Extends.continues (extends_opening (by rfl)) (ih h)
  | case12 word rest _ _ ih => exact Extends.continues (extends_opening (by rfl)) (ih h)
  | case13 word rest _ _ _ ih => exact Extends.continues (extends_opening (by rfl)) (ih h)
  | case14 word c rest hgap hescape hsingle hdouble ih =>
    apply Extends.continues _ (ih h)
    exact extends_plain ⟨Bool.eq_false_iff.2 hgap, hescape, hsingle, hdouble⟩
  | case15 double word rest ih => exact (extends_close double).continues (ih h)
  | case16 double word c rest _ hescape ih =>
    obtain ⟨rfl, rfl⟩ := hescape
    exact Extends.continues (extends_opening (by rfl)) (ih h)
  | case17 double word c rest hquote hescape ih =>
    exact (extends_inside hquote hescape).continues (ih h)
  | case18 word c rest hc ih => exact (extends_kept hc).continues (ih h)
  | case19 word c rest hc ih => exact (extends_stays hc).continues (ih h)
  | case20 double word c rest hdouble ih =>
    obtain rfl : double = false := Bool.eq_false_iff.2 hdouble
    exact extends_escaped.continues (ih h)

/-- A command can be read by the rules of quoting just when it is laid out as words. -/
theorem quotedWords_eq_ok_iff {text : List Char} {ws : List (List Char)} :
    quotedWords text = .ok ws ↔
      ∃ xs tail, Laid xs tail ∧ text = layout xs tail ∧ ws = xs.map Spelt.word := by
  constructor
  · intro h
    exact readsAs_of_readWords h
  · rintro ⟨xs, tail, hlaid, rfl, rfl⟩
    exact hlaid.quotedWords_layout

/-- The words of a text: those that are spelt in it, and where it has no layout, as with a quote
left open, its parts between blanks. -/
def HasWords (text : List Char) (ws : List (List Char)) : Prop :=
  (∃ xs tail, Laid xs tail ∧ text = layout xs tail ∧ ws = xs.map Spelt.word) ∨
    ((∀ xs tail, Laid xs tail → text ≠ layout xs tail) ∧ ws = Text.words text)

theorem hasWords_iff {text : List Char} {ws : List (List Char)} :
    HasWords text ws ↔ ws = commandWords text := by
  unfold HasWords commandWords
  rw [← quotedWords_eq_ok_iff]
  cases h : quotedWords text with
  | ok vs =>
    obtain ⟨xs, tail, hlaid, htext, -⟩ := quotedWords_eq_ok_iff.1 h
    constructor
    · rintro (hread | ⟨hnone, -⟩)
      · exact (Except.ok.inj hread).symm
      · exact absurd htext (hnone xs tail hlaid)
    · rintro rfl
      exact .inl rfl
  | error fault =>
    constructor
    · rintro (hread | ⟨-, hws⟩)
      · cases hread
      · exact hws
    · intro hws
      refine .inr ⟨?_, hws⟩
      rintro xs tail hlaid rfl
      rw [hlaid.quotedWords_layout] at h
      cases h

end Conch.Line
