import Mathlib
import Conch.Proofs.Line.Cut
import Conch.Proofs.Line.Expansions

/-!
# Expansions that a cut severs

Cutting a line looks at quotes and not at parentheses, finding its expansions looks at parentheses
and not at quotes. A cut severs an expansion if one of its operators stands in it. The segments of a
line have the expansions of the line, in order, exactly if none is severed; and an expansion is
severed exactly if an operator starts outside quotes where it is written.
-/

namespace Conch.Line

open Text Place

/-- Where operators start, if the first one does so at a given position. -/
def joints (i : Nat) : List (Operator × List Char) → List Nat
  | [] => []
  | (o, s) :: links => i :: joints (i + o.text.length + s.length) links

theorem mem_joints_add {i n p : Nat} {links : List (Operator × List Char)} :
    n + p ∈ joints (n + i) links ↔ p ∈ joints i links := by
  induction links generalizing i with
  | nil => simp [joints]
  | cons l links ih =>
    obtain ⟨o, s⟩ := l
    rw [joints, joints, List.mem_cons, List.mem_cons, Nat.add_left_cancel_iff, Nat.add_assoc n,
      Nat.add_assoc n, ih]

theorem le_of_mem_joints {i p : Nat} {links : List (Operator × List Char)}
    (h : p ∈ joints i links) : i ≤ p := by
  induction links generalizing i with
  | nil => simp [joints] at h
  | cons l links ih =>
    rcases List.mem_cons.mp h with rfl | h
    · exact le_rfl
    · have hle := ih h
      omega

theorem length_operator (o : Operator) : 1 ≤ o.text.length ∧ o.text.length ≤ 2 := by
  cases o <;> decide

/-- An operator starts outside quotes at a position of a text. -/
def OperatorAt (text : List Char) (p : Nat) : Prop :=
  Closed (text.take p) ∧ operator? (text.drop p) ≠ none

theorem operatorAt_append {s : List Char} (hs : Closed s) (t : List Char) (p : Nat) :
    OperatorAt (s ++ t) (s.length + p) ↔ OperatorAt t p := by
  have hplace : outside.after s = outside := hs
  simp only [OperatorAt, Closed, List.take_length_add_append, List.drop_length_add_append,
    after_append, hplace]

theorem not_operatorAt_of_uncut {s rest : List Char} (h : Uncut outside s rest) {p : Nat}
    (hp : p < s.length) : ¬OperatorAt (s ++ rest) p := by
  rintro ⟨hclosed, hop⟩
  rw [List.take_append_of_le_length hp.le] at hclosed
  rw [List.drop_append_of_le_length hp.le] at hop
  refine hop (h (s.take p) (s.drop p) (List.take_append_drop p s).symm ?_ hclosed)
  exact List.ne_nil_of_length_pos (by rw [List.length_drop]; omega)

/-- The operator that starts at a position reaches over a later one. -/
def Overlaps (text : List Char) (q p : Nat) : Prop :=
  ∃ o, operator? (text.drop q) = some o ∧ q < p ∧ p < q + o.text.length

theorem Overlaps.eq_succ {text : List Char} {q p : Nat} (h : Overlaps text q p) : p = q + 1 := by
  obtain ⟨o, -, hlt, hlt'⟩ := h
  have hlength := length_operator o
  omega

namespace Cut

/-- The positions at which the operators of a cut start. -/
def joints (c : Cut) : List Nat := Line.joints c.first.length c.links

/-- An operator of the cut stands in an expansion. -/
def Severs (c : Cut) (e : Expansion) : Prop := ∃ p ∈ c.joints, e.Straddles p

section Behind

variable {s t : List Char} {o : Operator} {links : List (Operator × List Char)}

theorem joints_cons : joints ⟨s, (o, t) :: links⟩ =
    s.length :: Line.joints (s.length + o.text.length + t.length) links := rfl

theorem line_cons : line ⟨s, (o, t) :: links⟩ = s ++ o.text ++ line ⟨t, links⟩ := by
  simp [line]

/-- Behind its first operator, a cut has the operators of the rest. -/
theorem mem_joints_behind {p : Nat} :
    s.length + o.text.length + p ∈ joints ⟨s, (o, t) :: links⟩ ↔ p ∈ joints ⟨t, links⟩ := by
  have hne : s.length + o.text.length + p ≠ s.length := by
    have hlength := length_operator o
    omega
  rw [joints_cons, List.mem_cons, mem_joints_add]
  simp [hne, joints]

theorem mem_joints_cases {p : Nat} (h : p ∈ joints ⟨s, (o, t) :: links⟩) :
    p = s.length ∨ ∃ q ∈ joints ⟨t, links⟩, p = s.length + o.text.length + q := by
  have hcases := h
  rw [joints_cons, List.mem_cons] at hcases
  refine hcases.imp_right fun hbehind => ?_
  obtain ⟨q, rfl⟩ := Nat.exists_eq_add_of_le (le_of_mem_joints hbehind)
  rw [Nat.add_assoc _ t.length] at h ⊢
  exact ⟨_, mem_joints_behind.mp h, rfl⟩

theorem operatorAt_behind (hs : Closed s) {p : Nat} :
    OperatorAt (line ⟨s, (o, t) :: links⟩) (s.length + o.text.length + p) ↔
      OperatorAt (line ⟨t, links⟩) p := by
  have hclosed : Closed (s ++ o.text) := by
    have hplace : outside.after s = outside := hs
    simp [Closed, hplace]
  rw [line_cons, ← List.length_append]
  exact operatorAt_append hclosed _ p

theorem operator?_line_cons :
    operator? ((line ⟨s, (o, t) :: links⟩).drop s.length) = some o := by
  rw [line_cons, List.append_assoc, List.drop_left]
  exact operator?_eq_some_iff.mpr ⟨_, rfl⟩

theorem overlaps_behind {q p : Nat} :
    Overlaps (line ⟨s, (o, t) :: links⟩) (s.length + o.text.length + q)
        (s.length + o.text.length + p) ↔ Overlaps (line ⟨t, links⟩) q p := by
  have hdrop : (line ⟨s, (o, t) :: links⟩).drop (s.length + o.text.length + q) =
      (line ⟨t, links⟩).drop q := by
    rw [line_cons, ← List.length_append, List.drop_length_add_append]
  rw [Overlaps, Overlaps, hdrop]
  simp only [Nat.add_assoc, Nat.add_lt_add_iff_left]

end Behind

theorem IsExact.operatorAt_of_mem {c : Cut} (h : c.IsExact) {p : Nat} (hp : p ∈ c.joints) :
    OperatorAt c.line p := by
  obtain ⟨s, links⟩ := c
  induction links generalizing s p with
  | nil => simp [joints, Line.joints] at hp
  | cons l links ih =>
    obtain ⟨o, t⟩ := l
    obtain ⟨hclosed, -, hrest⟩ := isExact_cons.mp h
    rcases mem_joints_cases hp with rfl | ⟨q, hq, rfl⟩
    · have hfront : OperatorAt (o.text ++ line ⟨t, links⟩) 0 := by
        refine ⟨rfl, ?_⟩
        rw [List.drop_zero, operator?_eq_some_iff.mpr ⟨_, rfl⟩]
        simp
      rw [line_cons, List.append_assoc]
      exact (operatorAt_append hclosed _ 0).mpr hfront
    · exact (operatorAt_behind hclosed).mpr (ih t hrest hq)

/-- An operator that starts outside quotes is one of the cut, or it overlaps one. -/
theorem IsExact.mem_or_overlaps {c : Cut} (h : c.IsExact) {p : Nat} (hp : OperatorAt c.line p) :
    p ∈ c.joints ∨ ∃ q ∈ c.joints, Overlaps c.line q p := by
  obtain ⟨s, links⟩ := c
  induction links generalizing s p with
  | nil =>
    rcases lt_or_ge p s.length with hlt | hge
    · exact absurd hp (not_operatorAt_of_uncut h.first_uncut hlt)
    · have hnil : (line ⟨s, []⟩).drop p = [] := by simpa [line] using hge
      exact absurd (by rw [hnil]; rfl) hp.2
  | cons l links ih =>
    obtain ⟨o, t⟩ := l
    obtain ⟨hclosed, huncut, hrest⟩ := isExact_cons.mp h
    rcases lt_or_ge p s.length with hlt | hge
    · exact absurd hp (not_operatorAt_of_uncut huncut hlt)
    · rcases lt_or_ge p (s.length + o.text.length) with hlt | hge'
      · rcases hge.eq_or_lt with rfl | hlt'
        · exact .inl (joints_cons ▸ List.mem_cons_self)
        · exact .inr ⟨s.length, joints_cons ▸ List.mem_cons_self, o, operator?_line_cons, hlt', hlt⟩
      · obtain ⟨q, rfl⟩ := Nat.exists_eq_add_of_le hge'
        rcases ih t hrest ((operatorAt_behind hclosed).mp hp) with hq | ⟨q', hq', hoverlaps⟩
        · exact .inl (mem_joints_behind.mpr hq)
        · exact .inr ⟨_, mem_joints_behind.mpr hq', overlaps_behind.mpr hoverlaps⟩

theorem IsExact.mem_of_operatorAt {c : Cut} (h : c.IsExact) {p : Nat} (hp : OperatorAt c.line p) :
    p ∈ c.joints ∨ ∃ q ∈ c.joints, p = q + 1 := by
  refine (h.mem_or_overlaps hp).imp_right ?_
  rintro ⟨q, hq, hoverlaps⟩
  exact ⟨q, hq, hoverlaps.eq_succ⟩

end Cut

theorem operator?_sigil (sigil : Sigil) (rest : List Char) :
    operator? (sigil.char :: rest) = none := by
  cases sigil <;> rfl

/-- A cut severs an expansion exactly if an operator starts outside quotes where it is written. -/
theorem Cut.IsExact.severs_iff {c : Cut} (h : c.IsExact) {e : Expansion}
    (he : e ∈ expansions c.line) :
    c.Severs e ↔ ¬Uncut (outside.after (c.line.take e.start)) e.text (c.line.drop e.stop) := by
  obtain ⟨x, y, hline, hstart, hstop⟩ := exists_text_of_mem he
  rw [Nat.zero_add] at hstart hstop
  have hbefore : c.line.take e.start = x := by
    rw [hline, hstart, List.append_assoc, List.take_left]
  have hbehind : c.line.drop e.stop = y := by
    rw [hline, hstop, ← List.length_append, List.drop_left]
  rw [hbefore, hbehind]
  -- an operator in the expansion, at a position of the line and at a position of the expansion
  have hat (a b : List Char) (hab : e.text = a ++ b) : OperatorAt c.line (e.start + a.length) ↔
      (outside.after x).after a = outside ∧ operator? (b ++ y) ≠ none := by
    have hsplit : c.line = x ++ a ++ (b ++ y) := by
      rw [hline, hab]
      simp
    rw [OperatorAt, Closed, hsplit, hstart, ← List.length_append, List.take_left, List.drop_left,
      after_append]
  have hnot : ¬OperatorAt c.line e.start := by
    rw [show e.start = e.start + ([] : List Char).length from rfl, hat [] e.text rfl]
    rintro ⟨-, hop⟩
    exact hop (operator?_sigil _ _)
  constructor
  · rintro ⟨p, hp, hlt, hlt'⟩ huncut
    obtain ⟨k, rfl⟩ := Nat.exists_eq_add_of_le hlt.le
    have hk : k < e.text.length := by omega
    have hlength : (e.text.take k).length = k := List.length_take_of_le hk.le
    have hop := h.operatorAt_of_mem hp
    have hab : e.text = e.text.take k ++ e.text.drop k := (List.take_append_drop k e.text).symm
    rw [← hlength, hat _ _ hab] at hop
    refine hop.2 (huncut _ _ hab (List.ne_nil_of_length_pos ?_) hop.1)
    rw [List.length_drop]
    omega
  · intro hcut
    simp only [Uncut, not_forall] at hcut
    obtain ⟨a, b, hab, hb, ha, hop⟩ := hcut
    have hat' : OperatorAt c.line (e.start + a.length) := (hat a b hab).mpr ⟨ha, hop⟩
    have hb' : 0 < b.length := List.length_pos_of_ne_nil hb
    have hshort : e.start + a.length < e.stop := by
      rw [hstop, hab, List.length_append, hstart]
      omega
    have ha' : a.length ≠ 0 := by
      intro hzero
      rw [hzero] at hat'
      exact hnot hat'
    rcases h.mem_of_operatorAt hat' with hp | ⟨q, hq, hpq⟩
    · exact ⟨_, hp, by omega, hshort⟩
    · have hne : q ≠ e.start := by
        rintro rfl
        exact hnot (h.operatorAt_of_mem hq)
      exact ⟨q, hq, by omega, by omega⟩

theorem plain_operator (o : Operator) : Plain o.text := by
  intro c hc
  have hmem : c = '&' ∨ c = '|' ∨ c = ';' := by
    cases o <;> simp_all [Operator.text]
  rcases hmem with rfl | rfl | rfl <;>
    exact ⟨by decide, by decide, fun sigil => by cases sigil <;> decide⟩

/-- What the expansions of the pieces of a cut are, in order. -/
def Cut.expansions (c : Cut) : List Expansion := c.pieces.flatMap fun p => Line.expansions p.text

theorem Cut.expansions_cons {s t : List Char} {o : Operator}
    {links : List (Operator × List Char)} :
    Cut.expansions ⟨s, (o, t) :: links⟩ = Line.expansions s ++ Cut.expansions ⟨t, links⟩ := by
  simp [Cut.expansions, Cut.pieces]

/-- Expansions on both sides of an operator that stands in none. -/
theorem expansionsFrom_line_cons {s t : List Char} {o : Operator}
    {links : List (Operator × List Char)} {i : Nat}
    (h : ∀ e ∈ expansionsFrom i 0 (Cut.line ⟨s, (o, t) :: links⟩), ¬e.Straddles (i + s.length)) :
    expansionsFrom i 0 (Cut.line ⟨s, (o, t) :: links⟩) = expansionsFrom i 0 s ++
      expansionsFrom (i + s.length + o.text.length) 0 (Cut.line ⟨t, links⟩) := by
  rw [Cut.line_cons, List.append_assoc] at h ⊢
  rw [expansionsFrom_append (Nat.zero_le _) h, expansionsFrom_plain_append (plain_operator o)]

/-- A cut that severs no expansion leaves them as they are. -/
theorem Cut.map_form_expansions {c : Cut} {i : Nat}
    (h : ∀ e ∈ expansionsFrom i 0 c.line, ∀ p ∈ c.joints, ¬e.Straddles (i + p)) :
    c.expansions.map Expansion.form = (expansionsFrom i 0 c.line).map Expansion.form := by
  obtain ⟨s, links⟩ := c
  induction links generalizing s i with
  | nil =>
    have hexpansions : Cut.expansions ⟨s, []⟩ = Line.expansions s := by
      simp [Cut.expansions, Cut.pieces]
    have hline : Cut.line ⟨s, []⟩ = s := by simp [Cut.line]
    rw [hexpansions, hline]
    exact map_form_expansionsFrom 0 i 0 s
  | cons l links ih =>
    obtain ⟨o, t⟩ := l
    have hsplit := expansionsFrom_line_cons fun e he => h e he s.length List.mem_cons_self
    have hrest : ∀ e ∈ expansionsFrom (i + s.length + o.text.length) 0 (Cut.line ⟨t, links⟩),
        ∀ p ∈ Cut.joints ⟨t, links⟩, ¬e.Straddles (i + s.length + o.text.length + p) := by
      intro e he p hp
      have hnot := h e (by rw [hsplit]; exact List.mem_append_right _ he) _
        (Cut.mem_joints_behind.mpr hp)
      rwa [← Nat.add_assoc, ← Nat.add_assoc] at hnot
    rw [hsplit, Cut.expansions_cons, List.map_append, List.map_append, ih t hrest]
    congr 1
    exact map_form_expansionsFrom 0 i 0 s

/-- If a cut severs an expansion, less is in the expansions of its pieces than in those of the
line. -/
theorem Cut.covered_expansions_lt {c : Cut} {i : Nat}
    (h : ∃ e ∈ expansionsFrom i 0 c.line, ∃ p ∈ c.joints, e.Straddles (i + p)) :
    covered c.expansions < covered (expansionsFrom i 0 c.line) := by
  obtain ⟨s, links⟩ := c
  induction links generalizing s i with
  | nil =>
    obtain ⟨-, -, p, hp, -⟩ := h
    simp [Cut.joints, Line.joints] at hp
  | cons l links ih =>
    obtain ⟨o, t⟩ := l
    have hfirst : covered (Line.expansions s) = covered (expansionsFrom i 0 s) :=
      covered_eq_of_map_form (map_form_expansionsFrom 0 i 0 s)
    rw [Cut.expansions_cons, covered_append, hfirst]
    by_cases hfront : ∃ e ∈ expansionsFrom i 0 (Cut.line ⟨s, (o, t) :: links⟩),
        e.Straddles (i + s.length)
    · -- the first operator severs an expansion
      obtain ⟨e, he, hstraddles⟩ := hfront
      have hrest : covered (Cut.expansions ⟨t, links⟩) ≤
          covered (expansionsFrom o.text.length 0 (Cut.line ⟨t, links⟩)) := by
        by_cases hsevered : ∃ e ∈ expansionsFrom o.text.length 0 (Cut.line ⟨t, links⟩),
            ∃ p ∈ Cut.joints ⟨t, links⟩, e.Straddles (o.text.length + p)
        · exact (ih t hsevered).le
        · refine (covered_eq_of_map_form (Cut.map_form_expansions fun e he p hp hst => ?_)).le
          exact hsevered ⟨e, he, p, hp, hst⟩
      rw [Cut.line_cons, List.append_assoc] at he ⊢
      have hlt := covered_lt_of_straddles (j := 0) (Nat.zero_le _) he hstraddles
      rw [expansionsFrom_plain_append (plain_operator o), Nat.zero_add] at hlt
      omega
    · have hsplit := expansionsFrom_line_cons fun e he hst => hfront ⟨e, he, hst⟩
      obtain ⟨e, he, p, hp, hstraddles⟩ := h
      have hsevered : ∃ e ∈ expansionsFrom (i + s.length + o.text.length) 0 (Cut.line ⟨t, links⟩),
          ∃ p ∈ Cut.joints ⟨t, links⟩, e.Straddles (i + s.length + o.text.length + p) := by
        rcases Cut.mem_joints_cases hp with rfl | ⟨q, hq, rfl⟩
        · exact absurd ⟨e, he, hstraddles⟩ hfront
        · rw [← Nat.add_assoc, ← Nat.add_assoc] at hstraddles
          refine ⟨e, ?_, q, hq, hstraddles⟩
          rw [hsplit] at he
          refine (List.mem_append.mp he).resolve_left fun hearly => ?_
          obtain ⟨x, y, htext, -, hstop⟩ := exists_text_of_mem hearly
          have hlength := congrArg List.length htext
          rw [List.length_append, List.length_append] at hlength
          have hlt := hstraddles.2
          omega
      have hlt := ih t hsevered
      rw [hsplit, covered_append]
      omega

theorem Cut.map_form_expansions_iff (c : Cut) :
    c.expansions.map Expansion.form = (Line.expansions c.line).map Expansion.form ↔
      ∀ e ∈ Line.expansions c.line, ¬c.Severs e := by
  have hzero (e : Expansion) : c.Severs e ↔ ∃ p ∈ c.joints, e.Straddles (0 + p) := by
    simp [Cut.Severs]
  constructor
  · intro heq e he hsevers
    have hlt := Cut.covered_expansions_lt ⟨e, he, (hzero e).mp hsevers⟩
    exact hlt.ne (covered_eq_of_map_form heq)
  · intro h
    exact Cut.map_form_expansions fun e he p hp hst => h e he ((hzero e).mpr ⟨p, hp, hst⟩)

theorem map_form_trim (s : List Char) :
    (expansions (trim s)).map Expansion.form = (expansions s).map Expansion.form := by
  obtain ⟨a, b, ha, hb, hs⟩ := exists_pad_trim s
  have hpadded : expansions s = expansionsFrom (0 + a.length) 0 (trim s) := by
    calc
      expansions s = expansionsFrom 0 0 (a ++ trim s ++ b) := by rw [← hs]; rfl
      _ = expansionsFrom 0 0 (a ++ trim s) := expansionsFrom_append_plain (plain_blanks hb) 0 _
      _ = expansionsFrom (0 + a.length) 0 (trim s) :=
        expansionsFrom_plain_append (plain_blanks ha) 0 _
  rw [hpadded]
  exact map_form_expansionsFrom _ _ 0 _

theorem plain_of_trim {s : List Char} (h : trim s = []) : Plain s := by
  obtain ⟨a, b, ha, hb, hs⟩ := exists_pad_trim s
  rw [hs, h]
  exact plain_blanks (by simpa using fun c => Or.rec (ha c) (hb c))

/-- A line with blank pieces only neither opens nor closes an expansion. -/
theorem Cut.plain_line {c : Cut} (h : ∀ p ∈ c.pieces, trim p.text = []) : Plain c.line := by
  have htexts : ∀ s ∈ c.first :: c.links.map Prod.snd, trim s = [] := by
    rw [← c.map_text_pieces]
    exact List.forall_mem_map.mpr h
  intro d hd
  rcases List.mem_append.mp hd with hfirst | hlinked
  · exact plain_of_trim (htexts _ List.mem_cons_self) d hfirst
  · obtain ⟨⟨o, s⟩, hl, hmem⟩ := List.mem_flatMap.mp hlinked
    rcases List.mem_append.mp hmem with hoperator | hpiece
    · exact plain_operator o d hoperator
    · exact plain_of_trim (htexts s (List.mem_cons_of_mem _ (List.mem_map_of_mem hl))) d hpiece

/-- Neither trimming the pieces of a cut nor leaving out the blank ones changes their expansions. -/
theorem Cut.IsExact.map_form_segments {c : Cut} (h : c.IsExact) :
    ((segments c.line).flatMap fun p => Line.expansions p.text).map Expansion.form =
      c.expansions.map Expansion.form := by
  have hblank {s : List Char} (hs : trim s = []) : (Line.expansions s).map Expansion.form = [] := by
    rw [← map_form_trim, hs]
    rfl
  rw [Cut.expansions, List.map_flatMap, List.map_flatMap, segments_of_isExact h]
  split
  next hall =>
    have hline : Line.expansions c.line = [] := expansionsFrom_plain (Cut.plain_line hall) 0 0
    have hpieces : (c.pieces.flatMap fun p => (Line.expansions p.text).map Expansion.form) = [] :=
      List.flatMap_eq_nil_iff.mpr fun p hp => hblank (hall p hp)
    rw [hpieces]
    simp [hline]
  next =>
    induction c.pieces with
    | nil => rfl
    | cons p ps ih =>
      by_cases hp : trim p.text = []
      · simpa [hp, hblank hp] using ih
      · simp [hp, Piece.trimmed, map_form_trim] at ih ⊢
        exact ih

/-- Cutting a line and finding its expansions: the segments have the expansions of the line, in
order, exactly if no operator of the cut stands in one of them. That is so for an expansion exactly
if, where it is written, an operator starts outside quotes. -/
theorem expansions_segments_iff (text : List Char) :
    ∃ c : Cut, (c.line = text ∧ c.IsExact) ∧
      (((segments text).flatMap fun p => expansions p.text).map Expansion.form =
          (expansions text).map Expansion.form ↔ ∀ e ∈ expansions text, ¬c.Severs e) ∧
      ∀ e ∈ expansions text, (c.Severs e ↔
        ¬Uncut (outside.after (text.take e.start)) e.text (text.drop e.stop)) := by
  obtain ⟨c, rfl, hexact⟩ := Cut.exists_isExact text
  refine ⟨c, ⟨rfl, hexact⟩, ?_, fun e he => hexact.severs_iff he⟩
  rw [hexact.map_form_segments]
  exact c.map_form_expansions_iff

/-- An expansion of two commands is lost. -/
example : (expansions "echo $(true && echo hi)".toList).length = 1 ∧
    (segments "echo $(true && echo hi)".toList).flatMap (fun p => expansions p.text) = [] := by
  decide

end Conch.Line
