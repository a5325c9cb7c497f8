import Mathlib
import Conch.Proofs.Line.Chain

/-!
# The cut of a line

A line can be written in exactly one way as pieces with operators between them such that every
operator starts outside quotes and none starts outside quotes within a piece. The segments of the
line are those pieces, trimmed and in order, without the blank ones. A segment stands by itself:
cutting it again leaves it whole.
-/

namespace Conch.Line

open Text

/-- Where a reader of a line stands. -/
inductive Place where
  | within (q : Quote)
  /-- Behind a backslash inside double quotes, which hides the next character. -/
  | escaped
  deriving DecidableEq, Repr

namespace Place

def outside : Place := .within .none

/-- The place behind a character. -/
def next : Place → Char → Place
  | .escaped, _ => .within .double
  | .within q, c => if c = '\\' ∧ q = .double then .escaped else .within (q.next c)

/-- The place behind a text. -/
def after (p : Place) (s : List Char) : Place := s.foldl next p

def quote : Place → Quote
  | .within q => q
  | .escaped => .double

def hides : Place → Bool
  | .within _ => false
  | .escaped => true

@[simp] theorem after_nil (p : Place) : p.after [] = p := rfl

@[simp] theorem after_cons (p : Place) (c : Char) (s : List Char) :
    p.after (c :: s) = (p.next c).after s := rfl

@[simp] theorem after_append (p : Place) (s t : List Char) :
    p.after (s ++ t) = (p.after s).after t := List.foldl_append

@[simp] theorem after_operator (o : Operator) : outside.after o.text = outside := by
  cases o <;> rfl

theorem next_within_of_blank {c : Char} (h : isBlank c = true) (q : Quote) :
    (within q).next c = within q := by
  have hne (d : Char) (hd : isBlank d = false) : c ≠ d := by
    rintro rfl
    rw [h] at hd
    cases hd
  have hsingle := hne '\'' (by decide)
  have hdouble := hne '"' (by decide)
  have hback := hne '\\' (by decide)
  cases q <;> simp [next, Quote.next, hsingle, hdouble, hback]

theorem after_blanks {s : List Char} (h : ∀ c ∈ s, isBlank c = true) (q : Quote) :
    (within q).after s = within q := by
  induction s with
  | nil => rfl
  | cons c s ih =>
    rw [after_cons, next_within_of_blank (h c List.mem_cons_self)]
    exact ih fun d hd => h d (List.mem_cons_of_mem c hd)

/-- Blanks do not close quotes. -/
theorem eq_outside_of_after_blanks {p : Place} {s : List Char} (h : ∀ c ∈ s, isBlank c = true)
    (hp : p.after s = outside) : p = outside := by
  cases p with
  | within q => rwa [after_blanks h] at hp
  | escaped =>
    cases s with
    | nil => cases hp
    | cons c s =>
      rw [after_cons, next, after_blanks fun d hd => h d (List.mem_cons_of_mem c hd)] at hp
      cases hp

end Place

open Place

/-- A text whose quotes are closed at its end. -/
def Closed (s : List Char) : Prop := outside.after s = outside

instance (s : List Char) : Decidable (Closed s) := inferInstanceAs (Decidable (_ = _))

/-- Read from a place on, no operator starts outside quotes within a text. What follows the text
counts, as the second character of an operator may stand there. -/
def Uncut (p : Place) (s rest : List Char) : Prop :=
  ∀ a b, s = a ++ b → b ≠ [] → p.after a = outside → operator? (b ++ rest) = none

theorem uncut_nil (p : Place) (rest : List Char) : Uncut p [] rest := by
  intro a b hab hb
  simp_all

theorem uncut_cons {p : Place} {c : Char} {s rest : List Char} :
    Uncut p (c :: s) rest ↔
      (p = outside → operator? (c :: (s ++ rest)) = none) ∧ Uncut (p.next c) s rest := by
  constructor
  · intro h
    refine ⟨fun hp => h [] (c :: s) rfl (by simp) hp, fun a b hab hb ha => ?_⟩
    exact h (c :: a) b (by rw [hab]; rfl) hb ha
  · rintro ⟨hfront, hs⟩ a b hab hb ha
    cases a with
    | nil =>
      obtain rfl : c :: s = b := hab
      exact hfront ha
    | cons d a =>
      obtain ⟨rfl, rfl⟩ : c = d ∧ s = a ++ b := by simpa using hab
      exact hs a b rfl hb ha

theorem operator?_eq_some_iff {s : List Char} {o : Operator} :
    operator? s = some o ↔ ∃ rest, s = o.text ++ rest := by
  constructor
  · intro h
    unfold operator? at h
    split at h <;> cases h <;> exact ⟨_, rfl⟩
  · rintro ⟨rest, rfl⟩
    cases o <;> rfl

/-- Texts behind their operators. -/
def linked (links : List (Operator × List Char)) : List Char := links.flatMap fun l => l.1.text ++ l.2

@[simp] theorem linked_nil : linked [] = [] := rfl

@[simp] theorem linked_cons (o : Operator) (s : List Char) (links : List (Operator × List Char)) :
    linked ((o, s) :: links) = o.text ++ (s ++ linked links) := by
  simp [linked]

/-- A line as pieces with operators between them. -/
structure Cut where
  first : List Char
  links : List (Operator × List Char)

namespace Cut

/-- The line that was cut. -/
def line (c : Cut) : List Char := c.first ++ linked c.links

def pieces (c : Cut) : List Piece := ⟨none, c.first⟩ :: c.links.map fun l => ⟨some l.1, l.2⟩

/-- Every operator of the cut starts outside quotes, and no operator does so within a piece. -/
structure IsExact (c : Cut) : Prop where
  operators : ∀ before o s after, c.links = before ++ (o, s) :: after →
    Closed (c.first ++ linked before)
  first_uncut : Uncut outside c.first (linked c.links)
  links_uncut : ∀ before o s after, c.links = before ++ (o, s) :: after →
    Uncut (outside.after (c.first ++ linked before ++ o.text)) s (linked after)

theorem isExact_nil {s : List Char} : IsExact ⟨s, []⟩ ↔ Uncut outside s [] :=
  ⟨fun h => h.first_uncut, fun h => ⟨by simp, h, by simp⟩⟩

/-- Behind an operator that starts outside quotes, the rest of a line is cut by itself. -/
theorem isExact_cons {s t : List Char} {o : Operator} {links : List (Operator × List Char)} :
    IsExact ⟨s, (o, t) :: links⟩ ↔
      Closed s ∧ Uncut outside s (linked ((o, t) :: links)) ∧ IsExact ⟨t, links⟩ := by
  constructor
  · intro h
    have hs : outside.after s = outside := by
      simpa [Closed] using h.operators [] o t links rfl
    refine ⟨hs, h.first_uncut, ⟨fun before o' t' rest hlinks => ?_, ?_,
      fun before o' t' rest hlinks => ?_⟩⟩
    · simpa [Closed, hs] using h.operators ((o, t) :: before) o' t' rest (by simpa using hlinks)
    · simpa [hs] using h.links_uncut [] o t links rfl
    · simpa [hs] using h.links_uncut ((o, t) :: before) o' t' rest (by simpa using hlinks)
  · rintro ⟨hs, hfirst, h⟩
    have hs' : outside.after s = outside := hs
    refine ⟨fun before o' t' rest hlinks => ?_, hfirst, fun before o' t' rest hlinks => ?_⟩
    · cases before with
      | nil => simpa [Closed] using hs
      | cons l before =>
        obtain ⟨rfl, htail⟩ := List.cons_eq_cons.mp hlinks
        simpa [Closed, hs'] using h.operators before o' t' rest htail
    · cases before with
      | nil =>
        obtain ⟨hl, rfl⟩ := List.cons_eq_cons.mp hlinks
        obtain ⟨rfl, rfl⟩ := Prod.mk.inj hl
        simpa [hs'] using h.first_uncut
      | cons l before =>
        obtain ⟨rfl, htail⟩ := List.cons_eq_cons.mp hlinks
        simpa [hs'] using h.links_uncut before o' t' rest htail

theorem isExact_of_rest {s : List Char} {links : List (Operator × List Char)}
    (hs : Uncut outside s (linked links))
    (hlinks : ∀ o t rest, links = (o, t) :: rest → Closed s ∧ IsExact ⟨t, rest⟩) :
    IsExact ⟨s, links⟩ := by
  cases links with
  | nil => exact isExact_nil.mpr hs
  | cons l links =>
    obtain ⟨hclosed, hrest⟩ := hlinks l.1 l.2 links rfl
    exact isExact_cons.mpr ⟨hclosed, hs, hrest⟩

/-- From every place on, a text has a first piece, and behind it an operator and a cut of the rest, or
nothing. -/
theorem exists_cut_from (p : Place) (text : List Char) :
    ∃ s links, s ++ linked links = text ∧ Uncut p s (linked links) ∧
      ∀ o t rest, links = (o, t) :: rest → p.after s = outside ∧ IsExact ⟨t, rest⟩ := by
  obtain ⟨n, hn⟩ : ∃ n, text.length = n := ⟨_, rfl⟩
  induction n using Nat.strong_induction_on generalizing p text with
  | _ n ih =>
    subst hn
    by_cases hop : p = outside ∧ ∃ o, operator? text = some o
    · obtain ⟨rfl, o, ho⟩ := hop
      obtain ⟨behind, rfl⟩ := operator?_eq_some_iff.mp ho
      have hshort : behind.length < (o.text ++ behind).length := by
        cases o <;> simp [Operator.text]
      obtain ⟨t, links, rfl, ht, hlinks⟩ := ih _ hshort outside behind rfl
      refine ⟨[], (o, t) :: links, by simp, uncut_nil _ _, ?_⟩
      rintro o' t' rest hl
      obtain ⟨⟨rfl, rfl⟩, rfl⟩ : (o = o' ∧ t = t') ∧ links = rest := by simpa using hl
      exact ⟨rfl, isExact_of_rest ht hlinks⟩
    · cases text with
      | nil => exact ⟨[], [], rfl, uncut_nil _ _, by simp⟩
      | cons c text =>
        obtain ⟨s, links, rfl, hs, hlinks⟩ := ih text.length (by simp) (p.next c) text rfl
        refine ⟨c :: s, links, rfl, uncut_cons.mpr ⟨fun hp => ?_, hs⟩, hlinks⟩
        by_contra hne
        exact hop ⟨hp, Option.ne_none_iff_exists'.mp hne⟩

theorem exists_isExact (text : List Char) : ∃ c : Cut, c.line = text ∧ c.IsExact := by
  obtain ⟨s, links, htext, hs, hlinks⟩ := exists_cut_from outside text
  exact ⟨⟨s, links⟩, htext, isExact_of_rest hs hlinks⟩

end Cut

/-- A quotation mark starts no operator. -/
theorem operator?_quote {c : Char} (h : c = '\'' ∨ c = '"') (rest : List Char) :
    operator? (c :: rest) = none := by
  rcases h with rfl | rfl <;> rfl

/-- A character that starts no operator outside quotes goes to the piece that is being read. -/
theorem piecesFrom_char {p : Place} {c : Char} {rest : List Char}
    (h : p = outside → operator? (c :: rest) = none) (op : Option Operator) (piece : List Char) :
    piecesFrom p.quote op piece p.hides false (c :: rest) =
      piecesFrom (p.next c).quote op (c :: piece) (p.next c).hides false rest := by
  cases p with
  | escaped => simp [piecesFrom, quote, hides, next]
  | within q =>
    by_cases hesc : c = '\\' ∧ q = .double
    · -- a backslash at the very end hides nothing, but nothing is read behind it either
      obtain ⟨rfl, rfl⟩ := hesc
      cases rest <;> simp [piecesFrom, quote, hides, next, Quote.next]
    · have hhidden : ¬(c = '\\' ∧ q = .double ∧ rest ≠ []) := fun hc => hesc ⟨hc.1, hc.2.1⟩
      have hop : (if q.next c = .none then operator? (c :: rest) else none) = none := by
        by_cases hq : q.next c = .none
        · rw [if_pos hq]
          cases q with
          | none => exact h rfl
          | single => exact operator?_quote (.inl (by simpa [Quote.next] using hq)) rest
          | double => exact operator?_quote (.inr (by simpa [Quote.next] using hq)) rest
        · rw [if_neg hq]
      simp only [quote, hides, next, if_neg hesc]
      rw [piecesFrom]
      simp only [Bool.false_eq_true, if_false, hhidden, hop]

/-- An operator ends the piece that is being read. -/
theorem piecesFrom_operator (o : Operator) (op : Option Operator) (piece rest : List Char) :
    piecesFrom .none op piece false false (o.text ++ rest) =
      ⟨op, piece.reverse⟩ :: piecesFrom .none (some o) [] false false rest := by
  cases o <;> simp [piecesFrom, Operator.text, operator?, Quote.next]

theorem piecesFrom_uncut {p : Place} {s rest : List Char} (h : Uncut p s rest)
    (op : Option Operator) (piece : List Char) :
    piecesFrom p.quote op piece p.hides false (s ++ rest) =
      piecesFrom (p.after s).quote op (s.reverse ++ piece) (p.after s).hides false rest := by
  induction s generalizing p piece with
  | nil => rfl
  | cons c s ih =>
    obtain ⟨hfront, hs⟩ := uncut_cons.mp h
    rw [List.cons_append, piecesFrom_char hfront, ih hs]
    simp

/-- Reading an exact cut gives its pieces. -/
theorem piecesFrom_exact {first : List Char} {links : List (Operator × List Char)}
    (h : Cut.IsExact ⟨first, links⟩) (op : Option Operator) :
    piecesFrom .none op [] false false (first ++ linked links) =
      ⟨op, first⟩ :: links.map fun l => ⟨some l.1, l.2⟩ := by
  induction links generalizing first op with
  | nil =>
    calc
      piecesFrom .none op [] false false (first ++ linked []) =
          piecesFrom (outside.after first).quote op (first.reverse ++ [])
            (outside.after first).hides false [] := piecesFrom_uncut h.first_uncut op []
      _ = [⟨op, first⟩] := by simp [piecesFrom]
  | cons l links ih =>
    obtain ⟨o, t⟩ := l
    obtain ⟨hclosed, hs, hrest⟩ := Cut.isExact_cons.mp h
    have hplace : outside.after first = outside := hclosed
    have hread := piecesFrom_uncut hs op []
    rw [hplace, linked_cons] at hread
    calc
      piecesFrom .none op [] false false (first ++ linked ((o, t) :: links)) =
          piecesFrom .none op (first.reverse ++ []) false false (o.text ++ (t ++ linked links)) := by
        rw [linked_cons]
        exact hread
      _ = ⟨op, first⟩ :: piecesFrom .none (some o) [] false false (t ++ linked links) := by
        rw [piecesFrom_operator]
        simp
      _ = ⟨op, first⟩ :: ⟨some o, t⟩ :: links.map fun l => ⟨some l.1, l.2⟩ := by
        rw [ih hrest]

theorem Cut.IsExact.pieces_eq {c : Cut} (h : c.IsExact) : Line.pieces c.line = c.pieces :=
  piecesFrom_exact h none

/-- There is only one exact cut of a line. -/
theorem Cut.IsExact.unique {c d : Cut} (hc : c.IsExact) (hd : d.IsExact) (h : c.line = d.line) :
    c = d := by
  have hpieces : c.pieces = d.pieces := by rw [← hc.pieces_eq, ← hd.pieces_eq, h]
  obtain ⟨s, links⟩ := c
  obtain ⟨s', links'⟩ := d
  obtain ⟨hfirst, hlinks⟩ := List.cons_eq_cons.mp hpieces
  have hinjective : Function.Injective fun l : Operator × List Char => (⟨some l.1, l.2⟩ : Piece) := by
    rintro ⟨o, t⟩ ⟨o', t'⟩ hl
    simpa using hl
  obtain rfl : s = s' := congrArg Piece.text hfirst
  obtain rfl : links = links' := List.map_injective_iff.mpr hinjective hlinks
  rfl

/-! ## Segments -/

/-- Trimming takes off nothing but blanks. -/
theorem exists_pad_trim (s : List Char) :
    ∃ a b, (∀ c ∈ a, isBlank c = true) ∧ (∀ c ∈ b, isBlank c = true) ∧ s = a ++ trim s ++ b := by
  refine ⟨s.takeWhile isBlank, (trimLeft s).rtakeWhile isBlank, fun c => List.mem_takeWhile_imp,
    fun c => List.mem_rtakeWhile_imp, ?_⟩
  have hright : trim s ++ (trimLeft s).rtakeWhile isBlank = trimLeft s :=
    List.rdropWhile_append_rtakeWhile
  rw [List.append_assoc, hright]
  exact List.takeWhile_append_dropWhile.symm

theorem trim_trim (s : List Char) : trim (trim s) = trim s := by
  obtain ⟨b, hb⟩ : trim s <+: trimLeft s := List.rdropWhile_prefix isBlank (trimLeft s)
  have hleft : trimLeft (trim s) = trim s := by
    refine List.dropWhile_eq_self_iff.mpr fun hlength hblank => ?_
    have hfirst : (trimLeft s).head? = some ((trim s).get ⟨0, hlength⟩) := by
      rw [← hb, List.head?_append_of_ne_nil _ (List.ne_nil_of_length_pos hlength)]
      exact List.head?_eq_getElem?.trans (List.getElem?_eq_getElem hlength)
    have hkept := List.head?_dropWhile_not isBlank s
    rw [show s.dropWhile isBlank = trimLeft s from rfl, hfirst] at hkept
    simp_all
  have hright : trimRight (trim s) = trim s := List.rdropWhile_idempotent isBlank (trimLeft s)
  rw [trim, hleft, hright]

theorem operator?_append_of_some {s : List Char} {o : Operator} (h : operator? s = some o)
    (rest : List Char) : operator? (s ++ rest) = some o := by
  obtain ⟨t, rfl⟩ := operator?_eq_some_iff.mp h
  exact operator?_eq_some_iff.mpr ⟨t ++ rest, List.append_assoc _ _ _⟩

/-- No operator comes up in a text when the blanks around it are taken off, nor when what follows it
is. -/
theorem Uncut.trim {s rest : List Char} (h : Uncut outside s rest) :
    Uncut outside (trim s) [] := by
  obtain ⟨x, y, hx, -, hs⟩ := exists_pad_trim s
  intro a b hab hb ha
  have hplace : outside.after (x ++ a) = outside := by
    rw [after_append, outside, after_blanks hx]
    exact ha
  have hnone := h (x ++ a) (b ++ y) (by rw [hs, hab]; simp) (by simp [hb]) hplace
  rw [List.append_nil]
  by_contra hne
  obtain ⟨o, ho⟩ := Option.ne_none_iff_exists'.mp hne
  rw [List.append_assoc, operator?_append_of_some ho] at hnone
  cases hnone

theorem Closed.trim {s : List Char} (h : Closed s) : Closed (trim s) := by
  obtain ⟨x, y, hx, hy, hs⟩ := exists_pad_trim s
  rw [Closed, hs, after_append, after_append, outside, after_blanks hx] at h
  exact eq_outside_of_after_blanks hy h

/-- A piece without the blanks around it. -/
def Piece.trimmed (p : Piece) : Piece := { p with text := Text.trim p.text }

theorem filterMap_kept (ps : List Piece) :
    ps.filterMap Piece.kept = (ps.filter fun p => trim p.text ≠ []).map Piece.trimmed := by
  induction ps with
  | nil => rfl
  | cons p ps ih =>
    by_cases hp : trim p.text = []
    · simpa [Piece.kept, hp] using ih
    · simpa [Piece.kept, hp, Piece.trimmed] using ih

/-- The segments of a line are the pieces of its cut that are not blank. -/
theorem segments_of_isExact {c : Cut} (h : c.IsExact) :
    segments c.line = if ∀ p ∈ c.pieces, trim p.text = [] then [⟨none, c.line⟩]
      else (c.pieces.filter fun p => trim p.text ≠ []).map Piece.trimmed := by
  have hsegments : segments c.line =
      if ((Line.pieces c.line).filterMap Piece.kept).isEmpty then [⟨none, c.line⟩]
      else (Line.pieces c.line).filterMap Piece.kept := rfl
  rw [hsegments, h.pieces_eq, filterMap_kept]
  simp only [List.isEmpty_iff, List.map_eq_nil_iff, List.filter_eq_nil_iff, decide_eq_true_eq,
    not_not]

theorem Cut.map_text_pieces (c : Cut) :
    c.pieces.map Piece.text = c.first :: c.links.map Prod.snd := by
  simp [Cut.pieces]

theorem Cut.IsExact.uncut_of_mem {c : Cut} (h : c.IsExact) :
    ∀ p ∈ c.pieces, ∃ rest, Uncut outside p.text rest := by
  suffices htexts : ∀ t ∈ c.pieces.map Piece.text, ∃ rest, Uncut outside t rest from
    fun p hp => htexts p.text (List.mem_map_of_mem hp)
  rw [c.map_text_pieces]
  obtain ⟨s, links⟩ := c
  induction links generalizing s with
  | nil => simpa using ⟨_, h.first_uncut⟩
  | cons l links ih =>
    obtain ⟨-, hs, hrest⟩ := Cut.isExact_cons.mp h
    rw [List.forall_mem_cons]
    exact ⟨⟨_, hs⟩, ih l.2 hrest⟩

theorem Cut.IsExact.closed_of_mem {c : Cut} (h : c.IsExact) :
    ∀ p ∈ c.pieces.dropLast, Closed p.text := by
  suffices htexts : ∀ t ∈ (c.pieces.map Piece.text).dropLast, Closed t from
    fun p hp => htexts p.text (List.map_dropLast ▸ List.mem_map_of_mem hp)
  rw [c.map_text_pieces]
  obtain ⟨s, links⟩ := c
  induction links generalizing s with
  | nil => simp
  | cons l links ih =>
    obtain ⟨hs, -, hrest⟩ := Cut.isExact_cons.mp h
    have htail := ih l.2 hrest
    simp only [List.map_cons, List.dropLast_cons_cons, List.forall_mem_cons]
    exact ⟨hs, htail⟩

/-- A trimmed text without an operator is one segment. -/
theorem segments_of_uncut {s : List Char} (h : Uncut outside s []) (hs : trim s = s) :
    segments s = [⟨none, s⟩] := by
  have hexact : Cut.IsExact ⟨s, []⟩ := Cut.isExact_nil.mpr h
  have hsegments := segments_of_isExact hexact
  simp only [Cut.line, linked_nil, List.append_nil, Cut.pieces, List.map_nil, List.mem_singleton,
    forall_eq, hs] at hsegments
  rw [hsegments]
  split
  · rfl
  next hne => simp [hs, hne, Piece.trimmed]

theorem dropLast_sublist_dropLast {α : Type} {l₁ l₂ : List α} (h : l₁.Sublist l₂) :
    l₁.dropLast.Sublist l₂.dropLast := by
  have hreverse : l₁.reverse.tail.Sublist l₂.reverse.tail := h.reverse.tail
  rwa [List.tail_reverse, List.tail_reverse, List.reverse_sublist] at hreverse

/-- A line has exactly one exact cut. Its segments are the pieces of that cut that are not blank,
trimmed and in order, each with the operator in front of it; a line with blank pieces only is its
own segment. All segments but the last close their quotes, and cutting a segment again leaves it
whole. -/
theorem segments_eq_cut (text : List Char) :
    ∃ c : Cut, (c.line = text ∧ c.IsExact) ∧ (∀ d : Cut, d.line = text → d.IsExact → d = c) ∧
      (segments text = if ∀ p ∈ c.pieces, trim p.text = [] then [⟨none, text⟩]
        else (c.pieces.filter fun p => trim p.text ≠ []).map Piece.trimmed) ∧
      (∀ p ∈ (segments text).dropLast, Closed p.text) ∧
      ∀ p ∈ segments text, segments p.text = [⟨none, p.text⟩] := by
  obtain ⟨c, rfl, hexact⟩ := Cut.exists_isExact text
  have hsegments := segments_of_isExact hexact
  refine ⟨c, ⟨rfl, hexact⟩, fun d hd hdexact => hdexact.unique hexact hd, hsegments, ?_, ?_⟩
  · rw [hsegments]
    split
    · simp
    · intro p hp
      rw [← List.map_dropLast] at hp
      obtain ⟨q, hq, rfl⟩ := List.mem_map.mp hp
      have hmem : q ∈ c.pieces.dropLast :=
        (dropLast_sublist_dropLast List.filter_sublist).subset hq
      exact (hexact.closed_of_mem q hmem).trim
  · intro p hp
    by_cases hblank : ∀ p ∈ c.pieces, trim p.text = []
    · rw [hsegments, if_pos hblank, List.mem_singleton] at hp
      rw [hp, hsegments, if_pos hblank]
    · rw [hsegments, if_neg hblank] at hp
      obtain ⟨q, hq, rfl⟩ := List.mem_map.mp hp
      obtain ⟨rest, huncut⟩ := hexact.uncut_of_mem q (List.mem_of_mem_filter hq)
      exact segments_of_uncut huncut.trim (trim_trim q.text)

end Conch.Line
