import Mathlib
import Conch.Line.Word
import Conch.Proofs.Line.Readers

/-!
# The quotes of words and of segments

Words are read with a backslash that escapes the next character, in double quotes and outside quotes.
The cutter of a text knows it in double quotes only. So the two agree on the quotes as long as no
quotation mark is escaped outside quotes, and a text that can be read as words is cut between its
words exactly if no operator is escaped there either and no escaped blank stands at the end of a
segment, where trimming takes it away.
-/

namespace Conch.Line

open Place Text

namespace WordState

/-- The state behind a character. -/
def next (st : WordState) (c : Char) : WordState :=
  match st with
  | .gap | .word =>
    if isGap c then .gap
    else if c = '\\' then .escaped false
    else if c = '\'' then .quoted false
    else if c = '"' then .quoted true
    else .word
  | .quoted double =>
    if c = (if double then '"' else '\'') then .word
    else if double ∧ c = '\\' then .escaped true
    else .quoted double
  | .escaped double => if double then .quoted true else .word

/-- The state behind a text. -/
def after (st : WordState) (s : List Char) : WordState := s.foldl next st

/-- Outside quotes, and not behind a backslash. -/
def IsFree : WordState → Prop
  | .gap | .word => True
  | _ => False

/-- Where a reader is that knows no backslash outside quotes. -/
def place : WordState → Place
  | .gap | .word | .escaped false => outside
  | .quoted false => within .single
  | .quoted true => within .double
  | .escaped true => .escaped

variable {st : WordState} {c : Char} {s : List Char}

theorem after_cons (st : WordState) (c : Char) (s : List Char) :
    st.after (c :: s) = (st.next c).after s := rfl

theorem after_append (st : WordState) (s t : List Char) :
    st.after (s ++ t) = (st.after s).after t := List.foldl_append

theorem next_of_isFree (h : st.IsFree) (c : Char) : st.next c = gap.next c := by
  cases st <;> first | rfl | exact h.elim

/-- Where a word starts does not matter behind its first character. -/
theorem after_of_isFree (h : st.IsFree) (hs : s ≠ []) : st.after s = gap.after s := by
  obtain ⟨c, s, rfl⟩ := List.exists_cons_of_ne_nil hs
  rw [after_cons, after_cons, next_of_isFree h]

theorem place_eq_outside_iff : st.place = outside ↔ st.IsFree ∨ st = .escaped false := by
  cases st with
  | gap | word => simp [place, IsFree]
  | quoted double => cases double <;> simp [place, IsFree, outside]
  | escaped double => cases double <;> simp [place, IsFree, outside]

theorem next_eq_escaped_iff : st.next c = .escaped false ↔ st.IsFree ∧ c = '\\' := by
  cases st with
  | gap | word =>
    by_cases hc : c = '\\'
    · simp [next, IsFree, hc, isGap]
    · simp only [next, IsFree, true_and, hc, if_false, iff_false]
      split_ifs <;> simp
  | quoted double =>
    simp only [next, IsFree, false_and, iff_false]
    split_ifs <;> simp
  | escaped double => cases double <;> simp [next, IsFree]

/-- The readers part at a quotation mark that is escaped outside quotes, and nowhere else. -/
theorem place_next_eq_iff :
    (st.next c).place = st.place.next c ↔ ¬(st = .escaped false ∧ (c = '\'' ∨ c = '"')) := by
  cases st with
  | gap | word =>
    simp only [next, place, Place.next, outside, Quote.next]
    grind [isGap]
  | quoted double =>
    cases double <;> simp only [next, place, Place.next, outside, Quote.next] <;> grind
  | escaped double =>
    cases double <;> simp only [next, place, Place.next, outside, Quote.next] <;> grind

end WordState

/-- A text that is words, with its quotes closed and nothing escaped at its end. -/
def Readable (s : List Char) : Prop := ∃ words, quotedWords s = .ok words

instance (s : List Char) : Decidable (Readable s) :=
  match h : quotedWords s with
  | .ok words => isTrue ⟨words, h⟩
  | .error _ => isFalse fun ⟨_, hwords⟩ => by cases h.symm.trans hwords

theorem exists_readWords_cons (st : WordState) (word : List Char) (c : Char) :
    ∃ word' done, ∀ rest, readWords st word (c :: rest) =
      (readWords (st.next c) word' rest).map (done ++ ·) := by
  have hkeep (x : Except WordFault (List (List Char))) : x = x.map ([] ++ ·) := by
    cases x <;> rfl
  cases st with
  | gap =>
    simp only [readWords, WordState.next]
    split_ifs <;> exact ⟨_, [], fun rest => hkeep _⟩
  | word =>
    simp only [readWords, WordState.next]
    split_ifs
    · exact ⟨[], [word.reverse], fun rest => rfl⟩
    all_goals exact ⟨_, [], fun rest => hkeep _⟩
  | quoted double =>
    simp only [readWords, WordState.next]
    split_ifs <;> exact ⟨_, [], fun rest => hkeep _⟩
  | escaped double =>
    simp only [readWords, WordState.next]
    split_ifs <;> exact ⟨_, [], fun rest => hkeep _⟩

/-- A text can be read if the reader of words is free at its end. -/
theorem exists_readWords_iff (st : WordState) (word s : List Char) :
    (∃ words, readWords st word s = .ok words) ↔ (st.after s).IsFree := by
  induction s generalizing st word with
  | nil => cases st <;> simp [readWords, WordState.after, WordState.IsFree]
  | cons c s ih =>
    obtain ⟨word', done, hread⟩ := exists_readWords_cons st word c
    rw [hread, WordState.after_cons, ← ih (st.next c) word']
    cases readWords (st.next c) word' s with
    | error fault => simp [Except.map]
    | ok words => simp [Except.map]

theorem readable_iff {s : List Char} : Readable s ↔ (WordState.gap.after s).IsFree :=
  exists_readWords_iff .gap [] s

/-- What stands at a position is escaped outside quotes: a backslash is in front of it, and the text
in front of that can be read. -/
def EscapedAt (text : List Char) (p : Nat) : Prop :=
  ∃ q, p = q + 1 ∧ text[q]? = some '\\' ∧ Readable (text.take q)

/-- A quotation mark is escaped outside quotes. -/
def EscapesQuote (text : List Char) : Prop :=
  ∃ p, EscapedAt text p ∧ (text[p]? = some '\'' ∨ text[p]? = some '"')

/-- An operator is escaped outside quotes. -/
def EscapesOperator (text : List Char) : Prop :=
  ∃ p, EscapedAt text p ∧ operator? (text.drop p) ≠ none

/-- A blank is escaped outside quotes, and behind it come only blanks before the text ends or an
operator starts. -/
def EscapesLastBlank (text : List Char) : Prop :=
  ∃ p, EscapedAt text p ∧ text[p]?.any isBlank ∧
    (trimLeft (text.drop (p + 1)) = [] ∨ operator? (trimLeft (text.drop (p + 1))) ≠ none)

variable {text a b : List Char}

theorem EscapedAt.le_length {p : Nat} (h : EscapedAt text p) : p ≤ text.length := by
  obtain ⟨q, rfl, hback, -⟩ := h
  exact (List.getElem?_eq_some_iff.mp hback).1

section Decidable

instance (text : List Char) (p : Nat) : Decidable (EscapedAt text p) :=
  match p with
  | 0 => isFalse fun ⟨_, hq, _⟩ => nomatch hq
  | q + 1 => decidable_of_iff (text[q]? = some '\\' ∧ Readable (text.take q))
      ⟨fun h => ⟨q, rfl, h⟩, fun ⟨_, hq, h⟩ => by obtain rfl := Nat.succ.inj hq; exact h⟩

theorem exists_escapedAt_iff {P : Nat → Prop} :
    (∃ p ≤ text.length, EscapedAt text p ∧ P p) ↔ ∃ p, EscapedAt text p ∧ P p := by
  constructor
  · rintro ⟨p, -, h⟩
    exact ⟨p, h⟩
  · rintro ⟨p, h⟩
    exact ⟨p, h.1.le_length, h⟩

instance (text : List Char) : Decidable (EscapesQuote text) :=
  decidable_of_iff _ exists_escapedAt_iff

instance (text : List Char) : Decidable (EscapesOperator text) :=
  decidable_of_iff _ exists_escapedAt_iff

instance (text : List Char) : Decidable (EscapesLastBlank text) :=
  decidable_of_iff _ exists_escapedAt_iff

end Decidable

theorem escapedAt_append :
    EscapedAt (a ++ b) a.length ↔ WordState.gap.after a = .escaped false := by
  rcases List.eq_nil_or_concat a with rfl | ⟨x, c, rfl⟩
  · simp [EscapedAt, WordState.after]
  · have hafter : WordState.gap.after (x ++ [c]) = (WordState.gap.after x).next c :=
      WordState.after_append _ x [c]
    rw [List.concat_eq_append, hafter, WordState.next_eq_escaped_iff, ← readable_iff, EscapedAt]
    constructor
    · rintro ⟨q, hq, hback, hread⟩
      obtain rfl : x.length = q := by simpa using hq
      simp only [List.append_assoc, List.take_left] at hread
      exact ⟨hread, by simpa using hback⟩
    · rintro ⟨hread, rfl⟩
      exact ⟨x.length, by simp, by simp, by simpa using hread⟩

theorem EscapedAt.exists_append {p : Nat} (h : EscapedAt text p) :
    ∃ a b, text = a ++ b ∧ a.length = p ∧ WordState.gap.after a = .escaped false := by
  have hlength : (text.take p).length = p := List.length_take_of_le h.le_length
  refine ⟨text.take p, text.drop p, (List.take_append_drop p text).symm, hlength, ?_⟩
  rwa [← escapedAt_append (b := text.drop p), List.take_append_drop, hlength]

/-- The cutter keeps in step with the reader of words exactly if no quotation mark is escaped outside
quotes. -/
theorem inStep_place_iff :
    InStep WordState.next Place.next WordState.place .gap text ↔ ¬EscapesQuote text := by
  simp only [InStep, WordState.place_next_eq_iff]
  constructor
  · rintro h ⟨p, hescaped, hquote⟩
    obtain ⟨a, b, rfl, rfl, hafter⟩ := hescaped.exists_append
    rw [← @List.take_left _ a b] at hafter
    rcases hquote with hquote | hquote
    · exact h _ _ hquote ⟨hafter, .inl rfl⟩
    · exact h _ _ hquote ⟨hafter, .inr rfl⟩
  · rintro h k c hc ⟨hafter, hquote⟩
    have hlength : (text.take k).length = k :=
      List.length_take_of_le (List.getElem?_eq_some_iff.mp hc).1.le
    have hescaped := (escapedAt_append (b := text.drop k)).mpr hafter
    rw [List.take_append_drop, hlength] at hescaped
    exact h ⟨k, hescaped, by rcases hquote with rfl | rfl <;> simp [hc]⟩

theorem place_after (h : ¬EscapesQuote (a ++ b)) :
    (WordState.gap.after a).place = outside.after a :=
  (inStep_place_iff.mpr h).of_append.view_foldl

/-- At the first quotation mark that is escaped outside quotes, the cutter is in quotes and the reader
of words is not. -/
theorem forall_place_iff :
    (∀ a b, text = a ++ b →
      ((WordState.gap.after a).place = outside ↔ outside.after a = outside)) ↔
        ¬EscapesQuote text := by
  have hparting (st : WordState) (c : Char) (h : (st.next c).place ≠ st.place.next c) :
      ¬((st.next c).place = outside ↔ st.place.next c = outside) := by
    obtain ⟨rfl, rfl | rfl⟩ := not_not.mp fun hnot => h (WordState.place_next_eq_iff.mpr hnot)
    · decide
    · decide
  rw [← inStep_place_iff, inStep_iff_forall (P := (· = outside)) hparting]
  rfl

theorem closed_iff_readable (h : ¬EscapesQuote (a ++ b)) :
    Closed a ↔ Readable a ∨ EscapedAt (a ++ b) a.length := by
  rw [Closed, ← place_after h, WordState.place_eq_outside_iff, readable_iff, escapedAt_append]

/-- A piece of a cut in its place: in front of it stands nothing or an operator outside quotes, and
so it does behind it. -/
structure Cut.Placed (c : Cut) (before piece after : List Char) : Prop where
  mem : piece ∈ c.pieces.map Piece.text
  line_eq : c.line = before ++ piece ++ after
  front : before = [] ∨ ∃ (x : List Char) (o : Operator), before = x ++ o.text ∧ Closed x
  back : after = [] ∨ Closed (before ++ piece) ∧ operator? after ≠ none

namespace Cut

section Placed

variable {s t before piece after : List Char} {o : Operator} {links : List (Operator × List Char)}

theorem placed_first (h : IsExact ⟨s, links⟩) : Placed ⟨s, links⟩ [] s (linked links) where
  mem := by simp [pieces]
  line_eq := rfl
  front := .inl rfl
  back := by
    cases links with
    | nil => exact .inl rfl
    | cons l links =>
      refine .inr ⟨(isExact_cons.mp h).1, ?_⟩
      rw [linked_cons, operator?_eq_some_iff.mpr ⟨_, rfl⟩]
      simp

/-- A piece keeps its place behind the first operator of a longer cut. -/
theorem Placed.behind (h : Placed ⟨t, links⟩ before piece after) (hs : Closed s) :
    Placed ⟨s, (o, t) :: links⟩ (s ++ o.text ++ before) piece after where
  mem := by
    have hmem := h.mem
    rw [map_text_pieces] at hmem ⊢
    exact List.mem_cons_of_mem s hmem
  line_eq := by rw [line_cons, h.line_eq]; simp
  front := by
    refine .inr ?_
    rcases h.front with rfl | ⟨x, o', rfl, hx⟩
    · exact ⟨s, o, by simp, hs⟩
    · refine ⟨s ++ o.text ++ x, o', by simp, ?_⟩
      have hplace : outside.after s = outside := hs
      simpa [Closed, hplace] using hx
  back := by
    refine h.back.imp_right fun hback => ⟨?_, hback.2⟩
    have hplace : outside.after s = outside := hs
    simpa [Closed, hplace] using hback.1

end Placed

theorem IsExact.exists_placed_of_mem {c : Cut} (h : c.IsExact) {piece : List Char}
    (hp : piece ∈ c.pieces.map Piece.text) : ∃ before after, c.Placed before piece after := by
  obtain ⟨s, links⟩ := c
  induction links generalizing s with
  | nil =>
    obtain rfl : piece = s := by simpa [pieces] using hp
    exact ⟨_, _, placed_first h⟩
  | cons l links ih =>
    obtain ⟨o, t⟩ := l
    obtain ⟨hs, -, hrest⟩ := isExact_cons.mp h
    rw [map_text_pieces, List.map_cons] at hp
    rcases List.mem_cons.mp hp with rfl | hp
    · exact ⟨_, _, placed_first h⟩
    · obtain ⟨before, after, hplaced⟩ := ih t hrest (by rwa [map_text_pieces])
      exact ⟨_, _, hplaced.behind hs⟩

/-- A piece ends where an operator of the cut starts, and where the line ends. -/
theorem IsExact.exists_placed_of_end {c : Cut} (h : c.IsExact) {p : Nat}
    (hp : p ∈ c.joints ∨ p = c.line.length) :
    ∃ before piece after, c.Placed before piece after ∧ (before ++ piece).length = p := by
  obtain ⟨s, links⟩ := c
  induction links generalizing s p with
  | nil =>
    refine ⟨_, _, _, placed_first h, ?_⟩
    simpa [joints, Line.joints, line, eq_comm] using hp
  | cons l links ih =>
    obtain ⟨o, t⟩ := l
    obtain ⟨hs, -, hrest⟩ := isExact_cons.mp h
    have hcases : p = s.length ∨ ∃ q, (q ∈ joints ⟨t, links⟩ ∨ q = (line ⟨t, links⟩).length) ∧
        p = s.length + o.text.length + q := by
      rcases hp with hp | rfl
      · refine (mem_joints_cases hp).imp_right ?_
        rintro ⟨q, hq, rfl⟩
        exact ⟨q, .inl hq, rfl⟩
      · exact .inr ⟨_, .inr rfl, by rw [line_cons, List.length_append, List.length_append]⟩
    rcases hcases with rfl | ⟨q, hq, rfl⟩
    · exact ⟨_, _, _, placed_first h, rfl⟩
    · obtain ⟨before, piece, after, hplaced, rfl⟩ := ih t hrest hq
      refine ⟨_, _, _, hplaced.behind hs, ?_⟩
      simp only [List.length_append]
      omega

end Cut

/-! ## Pieces as words -/

namespace WordState

variable {st : WordState} {s : List Char}

theorem isFree_after_operator (h : st.place = outside) (o : Operator) :
    (st.after o.text).IsFree := by
  rcases place_eq_outside_iff.mp h with hfree | rfl
  · cases st with
    | gap | word => cases o <;> exact trivial
    | _ => exact hfree.elim
  · cases o <;> exact trivial

theorem isFree_next_blank {c : Char} (h : isBlank c = true) : (gap.next c).IsFree := by
  have hne (d : Char) (hd : isBlank d = false) : c ≠ d := by
    rintro rfl
    rw [h] at hd
    cases hd
  simp only [next, hne '\\' (by decide), hne '\'' (by decide), hne '"' (by decide), if_false]
  split <;> exact trivial

theorem isFree_after_blanks (hst : st.IsFree) (h : ∀ c ∈ s, isBlank c = true) :
    (st.after s).IsFree := by
  induction s generalizing st with
  | nil => exact hst
  | cons c s ih =>
    obtain ⟨hc, hs⟩ := List.forall_mem_cons.mp h
    rw [after_cons, next_of_isFree hst]
    exact ih (isFree_next_blank hc) hs

/-- A blank ends an escape. -/
theorem isFree_after_escaped_blanks (hs : s ≠ []) (h : ∀ c ∈ s, isBlank c = true) :
    ((escaped false).after s).IsFree := by
  obtain ⟨c, s, rfl⟩ := List.exists_cons_of_ne_nil hs
  have hword : ((escaped false).next c).IsFree := trivial
  rw [after_cons]
  exact isFree_after_blanks hword (List.forall_mem_cons.mp h).2

/-- Blanks do not close quotes, so only an escape can end with them. -/
theorem isFree_or_escaped_of_blanks (h : ∀ c ∈ s, isBlank c = true) (hfree : (st.after s).IsFree) :
    st.IsFree ∨ st = .escaped false := by
  have hstep : InStep next Place.next place st s := by
    intro k c hc
    refine place_next_eq_iff.mpr ?_
    rintro ⟨-, rfl | rfl⟩ <;> exact absurd (h _ (List.mem_of_getElem? hc)) (by decide)
  have hplace : st.place.after s = outside :=
    hstep.view_foldl.symm.trans (place_eq_outside_iff.mpr (.inl hfree))
  exact place_eq_outside_iff.mp (eq_outside_of_after_blanks h hplace)

end WordState

/-- A text is cut between its words: an operator separates exactly if the text in front of it can be
read, unless another one that separates reaches over its start; and every segment can be read. -/
structure SplitsAsWords (text : List Char) : Prop where
  separates : ∀ p, p ∈ separators text ↔ operator? (text.drop p) ≠ none ∧
    Readable (text.take p) ∧ ∀ q ∈ separators text, ¬Overlaps text q p
  readable : ∀ s ∈ segments text, Readable s.text

section Separators

variable {text : List Char} {p : Nat}

theorem mem_separators_iff_readable (h : ¬EscapesQuote text) :
    p ∈ separators text ↔ operator? (text.drop p) ≠ none ∧
      (Readable (text.take p) ∨ EscapedAt text p) ∧ ∀ q ∈ separators text, ¬Overlaps text q p := by
  rw [mem_separators_iff, OperatorAt, and_comm (a := Closed _), and_assoc]
  refine and_congr_right fun hop => and_congr_left fun _ => ?_
  have hp : p ≤ text.length := by
    by_contra hlt
    rw [List.drop_eq_nil_of_le (by omega)] at hop
    exact hop rfl
  rw [← List.take_append_drop p text] at h
  rw [closed_iff_readable h, List.take_append_drop, List.length_take_of_le hp]

/-- An operator that is escaped is not reached over by another one. -/
theorem EscapedAt.not_overlaps (h : EscapedAt text p) (q : Nat) : ¬Overlaps text q p := by
  intro hoverlaps
  obtain ⟨q', rfl, hback, -⟩ := h
  obtain rfl : q' = q := by simpa using hoverlaps.eq_succ
  rcases hoverlaps.getElem? with ⟨hfirst, -⟩ | ⟨hfirst, -⟩ <;> simp [hback] at hfirst

theorem not_readable_of_escapedAt (h : EscapedAt text p) : ¬Readable (text.take p) := by
  obtain ⟨a, b, rfl, rfl, hafter⟩ := h.exists_append
  rw [List.take_left, readable_iff, hafter]
  exact id

/-- Between words an operator separates exactly if none is escaped. -/
theorem separates_iff (h : ¬EscapesQuote text) :
    (∀ p, p ∈ separators text ↔ operator? (text.drop p) ≠ none ∧
        Readable (text.take p) ∧ ∀ q ∈ separators text, ¬Overlaps text q p) ↔
      ¬EscapesOperator text := by
  constructor
  · rintro hseparates ⟨p, hescaped, hop⟩
    have hmem : p ∈ separators text := (mem_separators_iff_readable h).mpr
      ⟨hop, .inr hescaped, fun q _ => hescaped.not_overlaps q⟩
    exact not_readable_of_escapedAt hescaped ((hseparates p).mp hmem).2.1
  · intro hescapes p
    rw [mem_separators_iff_readable h]
    refine and_congr_right fun hop => and_congr_left fun _ => ?_
    exact or_iff_left fun hescaped => hescapes ⟨p, hescaped, hop⟩

end Separators

section Segments

variable {c : Cut} {before piece after : List Char}

/-- In front of a piece the reader of words is free. -/
theorem Cut.Placed.isFree_before (h : c.Placed before piece after)
    (hquote : ¬EscapesQuote c.line) : (WordState.gap.after before).IsFree := by
  rcases h.front with rfl | ⟨x, o, rfl, hclosed⟩
  · exact trivial
  · have hline : c.line = x ++ (o.text ++ (piece ++ after)) := by rw [h.line_eq]; simp
    have hplace : (WordState.gap.after x).place = outside :=
      (place_after (hline ▸ hquote)).trans hclosed
    rw [WordState.after_append]
    exact WordState.isFree_after_operator hplace o

/-- A piece without the blanks in front of it is read by itself as it is in its place. -/
theorem Cut.Placed.after_eq (h : c.Placed before piece after) (hquote : ¬EscapesQuote c.line)
    {x s : List Char} (hx : ∀ d ∈ x, isBlank d = true) (hs : s ≠ []) :
    WordState.gap.after (before ++ x ++ s) = WordState.gap.after s := by
  rw [WordState.after_append, WordState.after_append]
  exact WordState.after_of_isFree (WordState.isFree_after_blanks (h.isFree_before hquote) hx) hs

theorem trimLeft_of_operator {s : List Char} (h : operator? s ≠ none) : trimLeft s = s := by
  obtain ⟨o, ho⟩ := Option.ne_none_iff_exists'.mp h
  obtain ⟨rest, rfl⟩ := operator?_eq_some_iff.mp ho
  cases o <;> rfl

/-- At the end of a piece the reader of words is free if no operator is escaped. -/
theorem Cut.Placed.isFree_end (h : c.Placed before piece after) (hread : Readable c.line)
    (hquote : ¬EscapesQuote c.line) (hoperator : ¬EscapesOperator c.line) :
    (WordState.gap.after (before ++ piece)).IsFree := by
  rcases h.back with rfl | ⟨hclosed, hop⟩
  · rw [← readable_iff]
    simpa [h.line_eq] using hread
  · rw [h.line_eq] at hquote hoperator
    refine ((closed_iff_readable hquote).mp hclosed).elim readable_iff.mp fun hescaped => ?_
    exact absurd ⟨_, hescaped, by rwa [List.drop_left]⟩ hoperator

/-- A piece that is trimmed can be read if no blank is escaped at its end. -/
theorem Cut.Placed.readable_trim (h : c.Placed before piece after) (hread : Readable c.line)
    (hquote : ¬EscapesQuote c.line) (hoperator : ¬EscapesOperator c.line)
    (hblank : ¬EscapesLastBlank c.line) (hne : trim piece ≠ []) : Readable (trim piece) := by
  obtain ⟨x, y, hx, hy, hpiece⟩ := exists_pad_trim piece
  have hinner := h.after_eq hquote hx hne
  have hend := h.isFree_end hread hquote hoperator
  have hsplit : before ++ piece = before ++ x ++ trim piece ++ y := by
    rw [List.append_assoc, List.append_assoc, ← List.append_assoc x, ← hpiece]
  rw [hsplit, WordState.after_append, hinner] at hend
  rcases WordState.isFree_or_escaped_of_blanks hy hend with hfree | hescaped
  · exact readable_iff.mpr hfree
  · -- the first of the blanks that were trimmed off was escaped
    exfalso
    cases y with
    | nil =>
      rw [hescaped] at hend
      exact hend
    | cons d y =>
      obtain ⟨hd, hy⟩ := List.forall_mem_cons.mp hy
      have hline : c.line = before ++ x ++ trim piece ++ d :: (y ++ after) := by
        rw [h.line_eq, hsplit]
        simp
      have hat : EscapedAt c.line (before ++ x ++ trim piece).length := by
        rw [hline, escapedAt_append, hinner, hescaped]
      have hbehind : c.line.drop ((before ++ x ++ trim piece).length + 1) = y ++ after := by
        rw [hline, ← List.drop_drop, List.drop_left]
        rfl
      refine hblank ⟨_, hat, by rw [hline]; simpa using hd, ?_⟩
      rw [hbehind, trimLeft, List.dropWhile_append_of_pos hy]
      rcases h.back with rfl | ⟨-, hop⟩
      · exact .inl rfl
      · refine .inr ?_
        rwa [← trimLeft, trimLeft_of_operator hop]

/-- A text that does not end with a blank. -/
def Solid (s : List Char) : Prop := ∃ x d, s = x ++ [d] ∧ isBlank d = false

theorem eq_of_solid {a b y z : List Char} (ha : Solid a) (hb : Solid b)
    (hy : ∀ d ∈ y, isBlank d = true) (hz : ∀ d ∈ z, isBlank d = true) (h : a ++ y = b ++ z) :
    a = b := by
  have htrim {s : List Char} (hs : Solid s) {t : List Char} (ht : ∀ d ∈ t, isBlank d = true) :
      trimRight (s ++ t) = s := by
    obtain ⟨x, d, rfl, hd⟩ := hs
    exact trimRight_append ht (by simp) (by simp [trimRight, hd])
  rw [← htrim ha hy, h, htrim hb hz]

theorem solid_trim {s : List Char} (h : trim s ≠ []) : Solid (trim s) :=
  ⟨_, _, (List.dropLast_append_getLast h).symm,
    Bool.eq_false_iff.mpr (List.rdropWhile_last_not isBlank (trimLeft s) h)⟩

theorem Solid.append {s : List Char} (h : Solid s) (t : List Char) : Solid (t ++ s) := by
  obtain ⟨x, d, rfl, hd⟩ := h
  exact ⟨t ++ x, d, by simp, hd⟩

theorem exists_concat_of_escaped {a : List Char} (h : WordState.gap.after a = .escaped false) :
    ∃ x, a = x ++ ['\\'] := by
  rcases List.eq_nil_or_concat a with rfl | ⟨x, d, rfl⟩
  · cases h
  · rw [List.concat_eq_append, WordState.after_append] at h
    obtain ⟨-, rfl⟩ := WordState.next_eq_escaped_iff.mp h
    exact ⟨x, List.concat_eq_append⟩

theorem exists_concat_operator (o : Operator) :
    ∃ v d, o.text = v ++ [d] ∧ isBlank d = false ∧ d ≠ '\\' := by
  cases o with
  | both => exact ⟨['&'], '&', rfl, rfl, by decide⟩
  | either => exact ⟨['|'], '|', rfl, rfl, by decide⟩
  | always => exact ⟨[], ';', rfl, rfl, by decide⟩

/-- A piece that ends in an escaped blank and further blanks has the backslash left when it is
trimmed. -/
theorem Cut.Placed.trim_eq (h : c.Placed before piece after) {a y : List Char}
    (hescaped : WordState.gap.after a = .escaped false) (hy : ∀ d ∈ y, isBlank d = true)
    (hends : before ++ piece = a ++ y) :
    trim piece ≠ [] ∧
      ∃ x, (∀ d ∈ x, isBlank d = true) ∧ a = before ++ x ++ trim piece := by
  obtain ⟨a', ha⟩ := exists_concat_of_escaped hescaped
  have hsolid : Solid a := ⟨a', '\\', ha, rfl⟩
  obtain ⟨x, z, hx, hz, hpiece⟩ := exists_pad_trim piece
  by_cases hne : trim piece = []
  · -- then the backslash would be the end of an operator
    exfalso
    have hblank : ∀ d ∈ piece, isBlank d = true := by
      rw [hpiece, hne]
      simpa using fun d => Or.rec (hx d) (hz d)
    rcases h.front with rfl | ⟨w, o, rfl, -⟩
    · have hmem : '\\' ∈ piece := by
        rw [List.nil_append] at hends
        simp [hends, ha]
      exact absurd (hblank _ hmem) (by decide)
    · obtain ⟨v, d, htext, hd, hback⟩ := exists_concat_operator o
      have hoperator : Solid (w ++ o.text) := Solid.append ⟨v, d, htext, hd⟩ w
      have heq : w ++ o.text = a := eq_of_solid hoperator hsolid hblank hy hends
      have hlast : (w ++ (v ++ [d])).getLast? = (a' ++ ['\\']).getLast? := by
        rw [← htext, heq, ha]
      exact hback (by simpa using hlast)
  · refine ⟨hne, x, hx, ?_⟩
    refine eq_of_solid hsolid ((solid_trim hne).append _) hy hz ?_
    rw [← hends]
    conv_lhs => rw [hpiece]
    simp

theorem Cut.IsExact.exists_segment (hexact : c.IsExact) (hp : piece ∈ c.pieces.map Piece.text)
    (hne : trim piece ≠ []) : ∃ s ∈ segments c.line, s.text = trim piece := by
  obtain ⟨q, hq, rfl⟩ := List.mem_map.mp hp
  refine ⟨q.trimmed, ?_, rfl⟩
  rw [segments_of_isExact hexact, if_neg fun hblank => hne (hblank q hq)]
  exact List.mem_map_of_mem (List.mem_filter.mpr ⟨hq, by simpa using hne⟩)

/-- A segment is a piece that is trimmed, or the whole line. -/
theorem Cut.IsExact.segment_cases (hexact : c.IsExact) {s : Piece} (hs : s ∈ segments c.line) :
    s.text = c.line ∨
      ∃ piece ∈ c.pieces.map Piece.text, trim piece ≠ [] ∧ s.text = trim piece := by
  rw [segments_of_isExact hexact] at hs
  split at hs
  · rw [List.mem_singleton.mp hs]
    exact .inl rfl
  · obtain ⟨q, hq, rfl⟩ := List.mem_map.mp hs
    obtain ⟨hmem, hne⟩ := List.mem_filter.mp hq
    exact .inr ⟨q.text, List.mem_map_of_mem hmem, by simpa using hne, rfl⟩

/-- A text that escapes the last blank of a segment, cut up: the backslash stands in front of the
blanks, and behind them the text ends or an operator starts. -/
theorem EscapesLastBlank.exists_append {text : List Char} (h : EscapesLastBlank text) :
    ∃ a y b, text = a ++ y ++ b ∧ WordState.gap.after a = .escaped false ∧ y ≠ [] ∧
      (∀ d ∈ y, isBlank d = true) ∧ (b = [] ∨ operator? b ≠ none) := by
  obtain ⟨p, hescaped, hany, hbehind⟩ := h
  obtain ⟨d, hd, hblank⟩ := (Option.any_eq_true _ _).mp hany
  obtain ⟨a, b, rfl, rfl, hafter⟩ := hescaped.exists_append
  obtain ⟨rest, rfl⟩ : ∃ rest, b = d :: rest := by
    rw [List.getElem?_append_right le_rfl, Nat.sub_self] at hd
    exact ⟨b.tail, List.eq_cons_of_mem_head? (by rwa [List.head?_eq_getElem?])⟩
  have hrest : (a ++ d :: rest).drop (a.length + 1) = rest := by
    rw [← List.drop_drop, List.drop_left]
    rfl
  rw [hrest] at hbehind
  refine ⟨a, d :: rest.takeWhile isBlank, trimLeft rest, ?_, hafter, by simp, ?_, hbehind⟩
  · simp [trimLeft]
  · exact List.forall_mem_cons.mpr ⟨hblank, fun e => List.mem_takeWhile_imp⟩

/-- Behind blanks that follow readable text, an operator separates. -/
theorem mem_separators_behind_blanks {a y b : List Char} (hquote : ¬EscapesQuote (a ++ y ++ b))
    (hread : Readable (a ++ y)) (hne : y ≠ []) (hy : ∀ d ∈ y, isBlank d = true)
    (hop : operator? b ≠ none) : (a ++ y).length ∈ separators (a ++ y ++ b) := by
  rw [mem_separators_iff_readable hquote, List.take_left, List.drop_left]
  refine ⟨hop, .inl hread, fun q _ hoverlaps => ?_⟩
  -- an operator that reaches over the start would have the last blank as its first character
  obtain ⟨w, e, rfl⟩ := (List.eq_nil_or_concat y).resolve_left hne
  have hblank : isBlank e = true := hy e (by simp)
  obtain rfl : q = (a ++ w).length := by
    have hsucc := hoverlaps.eq_succ
    simp only [List.concat_eq_append, List.length_append, List.length_singleton] at hsucc ⊢
    omega
  have hget : (a ++ w.concat e ++ b)[(a ++ w).length]? = some e := by simp
  rcases hoverlaps.getElem? with ⟨hfirst, -⟩ | ⟨hfirst, -⟩ <;>
  · rw [hget] at hfirst
    rw [Option.some.inj hfirst] at hblank
    exact absurd hblank (by decide)

/-- If all segments can be read, no blank is escaped at the end of one. -/
theorem Cut.IsExact.not_escapesLastBlank (hexact : c.IsExact) (hquote : ¬EscapesQuote c.line)
    (hread : ∀ s ∈ segments c.line, Readable s.text) : ¬EscapesLastBlank c.line := by
  intro hescapes
  obtain ⟨a, y, b, hline, hafter, hne, hy, hbehind⟩ := hescapes.exists_append
  have hreadable : Readable (a ++ y) := by
    rw [readable_iff, WordState.after_append, hafter]
    exact WordState.isFree_after_escaped_blanks hne hy
  -- a piece ends behind the blanks
  have hend : (a ++ y).length ∈ c.joints ∨ (a ++ y).length = c.line.length := by
    rcases hbehind with rfl | hop
    · exact .inr (by rw [hline, List.append_nil])
    · rw [← hexact.separators_line]
      rw [hline] at hquote ⊢
      exact .inl (mem_separators_behind_blanks hquote hreadable hne hy hop)
  obtain ⟨before, piece, after, hplaced, hlength⟩ := hexact.exists_placed_of_end hend
  have hends : before ++ piece = a ++ y :=
    (List.append_inj (hplaced.line_eq.symm.trans hline) hlength).1
  obtain ⟨hpiece, x, hx, ha⟩ := hplaced.trim_eq hafter hy hends
  -- trimming leaves the backslash at the end of the segment
  obtain ⟨s, hs, htext⟩ := hexact.exists_segment hplaced.mem hpiece
  have hfree : (WordState.gap.after (trim piece)).IsFree := by
    rw [← htext, ← readable_iff]
    exact hread s hs
  rw [← hplaced.after_eq hquote hx hpiece, ← ha, hafter] at hfree
  exact hfree

/-- A text that can be read is cut between its words exactly if no operator is escaped, and no blank
at the end of a segment. -/
theorem splitsAsWords_iff {text : List Char} (hquote : ¬EscapesQuote text) (hread : Readable text) :
    SplitsAsWords text ↔ ¬EscapesOperator text ∧ ¬EscapesLastBlank text := by
  obtain ⟨c, rfl, hexact⟩ := Cut.exists_isExact text
  constructor
  · intro h
    exact ⟨(separates_iff hquote).mp h.separates, hexact.not_escapesLastBlank hquote h.readable⟩
  · rintro ⟨hoperator, hblank⟩
    refine ⟨(separates_iff hquote).mpr hoperator, fun s hs => ?_⟩
    rcases hexact.segment_cases hs with hwhole | ⟨piece, hp, hne, htrim⟩
    · rwa [hwhole]
    · obtain ⟨before, after, hplaced⟩ := hexact.exists_placed_of_mem hp
      rw [htrim]
      exact hplaced.readable_trim hread hquote hoperator hblank hne

end Segments

/-- A semicolon may be put anywhere into a text, and separates exactly where what stands in front can
be read or the semicolon is escaped, if and only if the text escapes no quotation mark outside
quotes. The operators of such a text separate in the same way. If it can be read, it is cut between
its words exactly if it escapes neither an operator nor the last blank of a segment. -/
theorem separators_agree_with_words (text : List Char) :
    ((∀ a b, text = a ++ b → (a.length ∈ separators (a ++ ';' :: b) ↔
        Readable a ∨ EscapedAt (a ++ ';' :: b) a.length)) ↔ ¬EscapesQuote text) ∧
      (¬EscapesQuote text →
        (∀ p, p ∈ separators text ↔ operator? (text.drop p) ≠ none ∧
          (Readable (text.take p) ∨ EscapedAt text p) ∧
            ∀ q ∈ separators text, ¬Overlaps text q p) ∧
        (Readable text →
          (SplitsAsWords text ↔ ¬EscapesOperator text ∧ ¬EscapesLastBlank text))) := by
  refine ⟨?_, fun hquote => ⟨fun p => mem_separators_iff_readable hquote, splitsAsWords_iff hquote⟩⟩
  have hboth (a b : List Char) : (a.length ∈ separators (a ++ ';' :: b) ↔
      Readable a ∨ EscapedAt (a ++ ';' :: b) a.length) ↔
        ((WordState.gap.after a).place = outside ↔ outside.after a = outside) := by
    rw [mem_separators_semicolon, readable_iff, escapedAt_append, ← WordState.place_eq_outside_iff]
    exact iff_comm
  simp only [hboth]
  exact forall_place_iff

/-- A line with an operator behind a quotation mark that is escaped in double quotes, one between its
commands, and a backslash outside quotes. -/
def quotedOperators : List Char := "echo \"a\\\" ; b\" && x\\y".toList

theorem quotedOperators_splitsAsWords :
    Readable quotedOperators ∧ SplitsAsWords quotedOperators ∧ separators quotedOperators = [15] := by
  have hquote : ¬EscapesQuote quotedOperators := by decide
  have hread : Readable quotedOperators := by decide
  refine ⟨hread, ?_, by decide⟩
  exact (((separators_agree_with_words quotedOperators).2 hquote).2 hread).mpr (by decide)

/-- A line with a semicolon that is escaped outside quotes. -/
def escapedSemicolon : List Char := "echo \\; b".toList

/-- The semicolon is part of a word, and separates segments. The first of them cannot be read. -/
theorem escapedSemicolon_separates :
    Readable escapedSemicolon ∧ ¬Readable (escapedSemicolon.take 6) ∧
      6 ∈ separators escapedSemicolon ∧ ∃ s ∈ segments escapedSemicolon, ¬Readable s.text := by
  decide

end Conch.Line
