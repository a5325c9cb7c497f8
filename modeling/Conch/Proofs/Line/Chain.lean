import Mathlib
import Conch.Line.Segment

/-!
# Cutting a chain of segments

A chain is a text that is written as segments with operators between them, a blank on each side of
every operator. Whatever its segments hold, cutting the chain gives back exactly the segments and
the operators in front of them, provided each segment stands by itself: it is not blank at its ends,
closes its quotes, and shows no operator outside them.
-/

namespace Conch.Line

open Text

/-- The quotes that a text ends in when it is read from `q` on; nothing when an operator stands
outside quotes. Inside double quotes a backslash takes the character behind it along. -/
def scan (q : Quote) : List Char → Option Quote
  | [] => some q
  | [c] => if q.next c = .none ∧ (operator? [c]).isSome then none else some (q.next c)
  | c :: d :: rest =>
    if c = '\\' ∧ q = .double then scan q rest
    else if q.next c = .none ∧ (operator? (c :: d :: rest)).isSome then none
    else scan (q.next c) (d :: rest)

/-- A text that can stand between two operators and be found again there. -/
structure IsSegment (s : List Char) : Prop where
  ne_nil : s ≠ []
  trimmed : trim s = s
  closed : scan .none s = some .none

instance (s : List Char) : Decidable (IsSegment s) :=
  decidable_of_iff (s ≠ [] ∧ trim s = s ∧ scan .none s = some .none)
    ⟨fun h => ⟨h.1, h.2.1, h.2.2⟩, fun h => ⟨h.ne_nil, h.trimmed, h.closed⟩⟩

abbrev Segment := { s : List Char // IsSegment s }

/-- A first segment and further ones, each behind its operator. -/
def chain (first : List Char) (links : List (Operator × List Char)) : List Char :=
  first ++ links.flatMap fun l => ' ' :: l.1.text ++ ' ' :: l.2

theorem chain_cons (first : List Char) (o : Operator) (s : List Char)
    (links : List (Operator × List Char)) :
    chain first ((o, s) :: links) = first ++ (' ' :: o.text ++ ' ' :: chain s links) := by
  simp [chain]

theorem trimLeft_length_le (s : List Char) : (trimLeft s).length ≤ s.length :=
  List.length_dropWhile_le isBlank s

theorem trimRight_length_le (s : List Char) : (trimRight s).length ≤ s.length := by
  simpa [trimRight] using List.length_dropWhile_le isBlank s.reverse

theorem trimLeft_eq_self_of_trim {s : List Char} (h : trim s = s) : trimLeft s = s := by
  apply (List.dropWhile_suffix isBlank).eq_of_length
  have hle : (trim s).length ≤ (trimLeft s).length := trimRight_length_le (trimLeft s)
  rw [h] at hle
  exact le_antisymm (trimLeft_length_le s) hle

theorem trimRight_eq_self_of_trim {s : List Char} (h : trim s = s) : trimRight s = s := by
  rwa [trim, trimLeft_eq_self_of_trim h] at h

/-- A text that starts with no blank keeps its start when blanks are put in front of it. -/
theorem trimLeft_append {a s : List Char} (ha : ∀ c ∈ a, isBlank c = true) (hs : s ≠ [])
    (h : trimLeft s = s) (b : List Char) : trimLeft (a ++ s ++ b) = s ++ b := by
  obtain ⟨c, t, rfl⟩ := List.exists_cons_of_ne_nil hs
  have hc : isBlank c = false := by
    by_contra hblank
    have hlen := congrArg List.length h
    simp only [trimLeft, List.dropWhile_cons, Bool.not_eq_false] at hlen hblank
    rw [if_pos hblank] at hlen
    have hle := List.length_dropWhile_le isBlank t
    simp only [List.length_cons] at hlen
    omega
  rw [List.append_assoc, trimLeft, List.dropWhile_append_of_pos ha]
  simp [hc]

theorem trimRight_append {s b : List Char} (hb : ∀ c ∈ b, isBlank c = true) (hs : s ≠ [])
    (h : trimRight s = s) : trimRight (s ++ b) = s := by
  have hrev : trimLeft s.reverse = s.reverse := by
    rw [trimRight] at h
    exact List.reverse_eq_iff.mp h
  have hfront := trimLeft_append (a := b.reverse) (by simpa using hb) (by simpa using hs) hrev []
  simp only [List.append_nil, trimLeft] at hfront
  rw [trimRight, List.reverse_append, hfront, List.reverse_reverse]

/-- Blanks around a trimmed text are all that trimming takes off. -/
theorem trim_pad {a s b : List Char} (ha : ∀ c ∈ a, isBlank c = true)
    (hb : ∀ c ∈ b, isBlank c = true) (hs : s ≠ []) (h : trim s = s) : trim (a ++ s ++ b) = s := by
  rw [trim, trimLeft_append ha hs (trimLeft_eq_self_of_trim h)]
  exact trimRight_append hb hs (trimRight_eq_self_of_trim h)

/-- The operator in front of a text is settled by its first two characters, so a blank behind the
first one leaves `;` alone. -/
theorem operator?_blank (c : Char) (rest : List Char) :
    operator? (c :: ' ' :: rest) = operator? [c] := by
  unfold operator?
  split <;> simp_all

theorem operator?_append (c d : Char) (rest tail : List Char) :
    operator? (c :: d :: (rest ++ tail)) = operator? (c :: d :: rest) := by
  unfold operator?
  split <;> simp_all

/-- What may stand behind a segment in a chain. -/
def IsJoint (rest : List Char) : Prop := rest = [] ∨ ∃ tail, rest = ' ' :: tail

theorem operator?_joint {rest : List Char} (h : IsJoint rest) (c : Char) :
    operator? (c :: rest) = operator? [c] := by
  obtain rfl | ⟨tail, rfl⟩ := h
  · rfl
  · exact operator?_blank c tail

/-- Reading a text that ends outside quotes and shows no operator adds it to the piece that is being
read. -/
theorem piecesFrom_scan {q : Quote} {s rest : List Char} (h : scan q s = some .none)
    (hrest : IsJoint rest) (op : Option Operator) (piece : List Char) :
    piecesFrom q op piece false false (s ++ rest) =
      piecesFrom .none op (s.reverse ++ piece) false false rest := by
  fun_induction scan q s generalizing piece with
  | case1 q =>
    obtain rfl : q = .none := by simpa using h
    simp
  | case2 q c hop => simp at h
  | case3 q c hop =>
    simp only [Option.some.injEq] at h
    have hhidden : ¬(c = '\\' ∧ q = .double ∧ rest ≠ []) := by
      rintro ⟨rfl, rfl, -⟩
      simp [Quote.next] at h
    have hnone : operator? (c :: rest) = none := by
      rw [operator?_joint hrest]
      simpa [h] using hop
    simp [piecesFrom, hhidden, h, hnone]
  | case4 q c d rest' hesc ih =>
    obtain ⟨rfl, rfl⟩ := hesc
    simp only [List.cons_append, piecesFrom, ne_eq, reduceCtorEq, not_false_eq_true, and_self,
      Bool.false_eq_true, if_false, if_true]
    rw [ih h]
    simp
  | case5 q c d rest' hesc hop => simp at h
  | case6 q c d rest' hesc hop ih =>
    have hhidden : ¬(c = '\\' ∧ q = .double ∧ d :: (rest' ++ rest) ≠ []) :=
      fun hc => hesc ⟨hc.1, hc.2.1⟩
    have hnone : (if q.next c = .none then operator? (c :: d :: (rest' ++ rest)) else none) =
        none := by
      rw [operator?_append]
      split
      · next hq => simpa [hq] using hop
      · rfl
    simp only [List.cons_append] at ih ⊢
    rw [piecesFrom]
    simp only [Bool.false_eq_true, if_false, hhidden, hnone]
    rw [ih h]
    simp

/-- A joint closes the piece that is being read and opens the next one behind its operator. -/
theorem piecesFrom_joint (o : Operator) (op : Option Operator) (piece rest : List Char) :
    piecesFrom .none op piece false false (' ' :: o.text ++ ' ' :: rest) =
      ⟨op, piece.reverse ++ [' ']⟩ :: piecesFrom .none (some o) [' '] false false rest := by
  cases o <;> simp [piecesFrom, Operator.text, operator?, Quote.next]

/-- A piece without the blanks around it, unless there is nothing else in it. -/
def Piece.kept (p : Piece) : Option Piece :=
  let t := trim p.text
  if t.isEmpty then none else some ⟨p.operator, t⟩

theorem Piece.kept_pad {a s b : List Char} (ha : ∀ c ∈ a, isBlank c = true)
    (hb : ∀ c ∈ b, isBlank c = true) (hs : IsSegment s) (op : Option Operator) :
    Piece.kept ⟨op, a ++ s ++ b⟩ = some ⟨op, s⟩ := by
  unfold Piece.kept
  simp only [trim_pad ha hb hs.ne_nil hs.trimmed, List.isEmpty_iff]
  exact if_neg hs.ne_nil

/-- The pieces of a chain, once blanks are off, are its segments. -/
theorem kept_chain {first : List Char} (hfirst : IsSegment first)
    {links : List (Operator × List Char)} (hlinks : ∀ l ∈ links, IsSegment l.2)
    (op : Option Operator) {lead : List Char} (hlead : ∀ c ∈ lead, isBlank c = true) :
    (piecesFrom .none op lead false false (chain first links)).filterMap Piece.kept =
      ⟨op, first⟩ :: links.map fun l => ⟨some l.1, l.2⟩ := by
  induction links generalizing first op lead with
  | nil =>
    have hblank : ∀ c ∈ lead.reverse, isBlank c = true := by simpa using hlead
    have hkept := Piece.kept_pad hblank (b := []) (by simp) hfirst op
    rw [List.append_nil] at hkept
    have hread := piecesFrom_scan hfirst.closed (.inl rfl : IsJoint []) op lead
    simp only [List.append_nil] at hread
    simp [chain, hread, piecesFrom, hkept]
  | cons l links ih =>
    obtain ⟨o, s⟩ := l
    have hblank : ∀ c ∈ lead.reverse, isBlank c = true := by simpa using hlead
    have hs : IsSegment s := hlinks (o, s) List.mem_cons_self
    have hspace : ∀ c ∈ [' '], isBlank c = true := by simp [isBlank]
    have hnext := ih hs (fun l hl => hlinks l (List.mem_cons_of_mem _ hl)) (some o) hspace
    have hkept := Piece.kept_pad hblank hspace hfirst op
    have hjoint : IsJoint (' ' :: o.text ++ ' ' :: chain s links) := .inr ⟨_, rfl⟩
    have hread := piecesFrom_scan hfirst.closed hjoint op lead
    rw [chain_cons, hread, piecesFrom_joint, List.reverse_append, List.reverse_reverse,
      List.filterMap_cons_some hkept, hnext]
    rfl

/-- Cutting a chain gives its segments back, in order and with their operators. -/
theorem segments_chain {first : List Char} (hfirst : IsSegment first)
    {links : List (Operator × List Char)} (hlinks : ∀ l ∈ links, IsSegment l.2) :
    segments (chain first links) = ⟨none, first⟩ :: links.map fun l => ⟨some l.1, l.2⟩ := by
  have hkept := kept_chain hfirst hlinks none (show ∀ c ∈ [], isBlank c = true by simp)
  unfold segments pieces
  change (let kept := (piecesFrom .none none [] false false (chain first links)).filterMap Piece.kept
    if kept.isEmpty then _ else kept) = _
  rw [hkept]
  rfl

end Conch.Line
