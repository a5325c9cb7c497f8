import Mathlib
import Conch.Proofs.Line.Lowering
import Conch.Proofs.Line.Outermost

/-!
# Placeholders in the place of expansions

A text is read as gaps with expansions between them. Other parts can be put between the same gaps, and
the spans of the old parts are then patched from the last to the first: a patch moves only what stands
behind it, so the spans that are still to be patched stay where they are. Placeholders are put into a
text in this way, and putting back what the mapping has for each of them gives the text again.
-/

namespace Conch.Line

/-- A new text for a span of positions. -/
structure Patch where
  start : Nat
  stop : Nat
  text : List Char
  deriving DecidableEq, Repr

def Patch.apply (p : Patch) (s : List Char) : List Char :=
  s.take p.start ++ p.text ++ s.drop p.stop

/-- Applies patches from the last to the first. -/
def patchAll (ps : List Patch) (s : List Char) : List Char := ps.foldr Patch.apply s

theorem Patch.apply_between (front old new behind : List Char) :
    Patch.apply ⟨front.length, front.length + old.length, new⟩ (front ++ (old ++ behind)) =
      front ++ (new ++ behind) := by
  have hstop : (front ++ (old ++ behind)).drop (front.length + old.length) = behind := by
    rw [← List.append_assoc, ← List.length_append, List.drop_left]
  rw [apply, List.take_left, hstop, List.append_assoc]

/-- Gaps with expansions between them. -/
inductive Interlacing where
  | last (gap : List Char)
  | next (gap : List Char) (e : Expansion) (rest : Interlacing)
  deriving DecidableEq, Repr

/-- What is put in the place of an expansion, which has a number. -/
abbrev Part := Nat → Expansion → List Char

/-- Expansions as they are written. -/
def written : Part := fun _ e => e.text

/-- Placeholders. -/
def named : Part := fun k _ => (placeholder k).toList

namespace Interlacing

def expansions : Interlacing → List Expansion
  | last _ => []
  | next _ e rest => e :: rest.expansions

/-- Gaps and parts in turn; the expansions are numbered from `k` on. -/
def fill (part : Part) (k : Nat) : Interlacing → List Char
  | last gap => gap
  | next gap e rest => gap ++ (part k e ++ rest.fill part (k + 1))

/-- The positions at which the parts start, if the first gap does so at position `i`. -/
def points (part : Part) (i k : Nat) : Interlacing → List Nat
  | last _ => []
  | next gap e rest =>
    (i + gap.length) :: rest.points part (i + gap.length + (part k e).length) (k + 1)

/-- New parts for the spans of the old ones. -/
def patches (old new : Part) (i k : Nat) : Interlacing → List Patch
  | last _ => []
  | next gap e rest =>
    ⟨i + gap.length, i + gap.length + (old k e).length, new k e⟩ ::
      rest.patches old new (i + gap.length + (old k e).length) (k + 1)

/-- Patching all spans exchanges the parts. The text in front of the first gap is what the patches
leave alone, and it grows as one goes on to later gaps. -/
theorem patchAll_patches (old new : Part) (x : Interlacing) (front : List Char) (k : Nat) :
    patchAll (x.patches old new front.length k) (front ++ x.fill old k) =
      front ++ x.fill new k := by
  induction x generalizing front k with
  | last gap => rfl
  | next gap e rest ih =>
    -- the later patches are applied first, to a text that goes on behind the old part
    have hlater := ih (front ++ gap ++ old k e) (k + 1)
    have hpatch := Patch.apply_between (front ++ gap) (old k e) (new k e) (rest.fill new (k + 1))
    simp only [List.length_append, List.append_assoc, ← Nat.add_assoc] at hlater hpatch
    rw [patches, fill, fill, patchAll, List.foldr_cons, ← patchAll, hlater, hpatch]

/-- A text from a position on, as the gaps between some of its expansions. -/
def ofText (text : List Char) (lo : Nat) : List Expansion → Interlacing
  | [] => last (text.drop lo)
  | e :: es => next ((text.take e.start).drop lo) e (ofText text e.stop es)

theorem expansions_ofText (text : List Char) (lo : Nat) (es : List Expansion) :
    (ofText text lo es).expansions = es := by
  induction es generalizing lo with
  | nil => rfl
  | cons e es ih => rw [ofText, expansions, ih]

end Interlacing

variable {text : List Char} {e : Expansion} {es : List Expansion} {lo : Nat}

theorem drop_take_append_of_le {i j : Nat} (h : i ≤ j) :
    (text.take j).drop i ++ text.drop j = text.drop i := by
  have hsplit := List.drop_take_append_drop text i (j - i)
  rwa [← List.drop_take, Nat.add_sub_cancel' h] at hsplit

theorem Spans.stop_le (h : Spans text e) : e.stop ≤ text.length := by
  have hlast := (List.getElem?_eq_some_iff.mp h.closing).1
  omega

/-- The span of an expansion holds the expansion as it is written. -/
theorem Spans.text_eq (h : Spans text e) : (text.take e.stop).drop e.start = e.text := by
  have hlong := h.start_add_three_le
  obtain ⟨n, hn⟩ : ∃ n, e.stop = e.start + 2 + n + 1 := ⟨e.stop - e.start - 3, by omega⟩
  have hclosing := h.closing
  have hcontent := h.content
  rw [hn, Nat.add_sub_cancel] at hclosing hcontent
  rw [List.drop_take, Nat.add_sub_cancel_left] at hcontent
  calc
    (text.take e.stop).drop e.start = (text.drop e.start).take (n + 3) := by
      rw [List.drop_take, hn]
      congr 1
      omega
    _ = e.sigil.char :: '(' :: (text.drop (e.start + 2)).take (n + 1) := by
      rw [drop_eq_cons h.sigil, drop_eq_cons h.opening, List.take_succ_cons, List.take_succ_cons]
    _ = e.sigil.char :: '(' :: (e.content ++ [')']) := by
      rw [List.take_add_one, ← hcontent, List.getElem?_drop, hclosing]
      rfl

namespace IsOutermostFrom

theorem start_ge (h : IsOutermostFrom text lo (e :: es)) : lo ≤ e.start :=
  h.behind e List.mem_cons_self

theorem head_spans (h : IsOutermostFrom text lo (e :: es)) : Spans text e :=
  h.spans e List.mem_cons_self

/-- The gaps with the expansions between them are the text. -/
theorem fill_written (h : IsOutermostFrom text lo es) (k : Nat) :
    (Interlacing.ofText text lo es).fill written k = text.drop lo := by
  induction es generalizing lo k with
  | nil => rfl
  | cons e es ih =>
    have hspans := h.head_spans
    calc
      (Interlacing.ofText text lo (e :: es)).fill written k =
          (text.take e.start).drop lo ++ (e.text ++ text.drop e.stop) := by
        rw [Interlacing.ofText, Interlacing.fill, ih h.tail, written]
      _ = (text.take e.start).drop lo ++ text.drop e.start := by
        rw [← hspans.text_eq, drop_take_append_of_le hspans.start_lt_stop.le]
      _ = text.drop lo := drop_take_append_of_le h.start_ge

/-- Splicing puts placeholders between the gaps. -/
theorem spliceFrom_eq_fill (h : IsOutermostFrom text lo es) (k : Nat) :
    spliceFrom k lo (text.drop lo) es = (Interlacing.ofText text lo es).fill named k := by
  induction es generalizing lo k with
  | nil => rfl
  | cons e es ih =>
    have hgap : (text.drop lo).take (e.start - lo) = (text.take e.start).drop lo :=
      List.drop_take.symm
    have hrest : (text.drop lo).drop (e.stop - lo) = text.drop e.stop := by
      have hstart := h.start_ge
      have hlt := h.head_spans.start_lt_stop
      rw [List.drop_drop]
      congr 1
      omega
    rw [spliceFrom, hgap, hrest, ih h.tail, Interlacing.ofText, Interlacing.fill, named,
      List.append_assoc]

/-- Between the gaps, the expansions stand where they are said to. -/
theorem patches_written (h : IsOutermostFrom text lo es) (new : Part) (k : Nat) :
    (Interlacing.ofText text lo es).patches written new lo k =
      (es.zipIdx k).map fun x => ⟨x.1.start, x.1.stop, new x.2 x.1⟩ := by
  induction es generalizing lo k with
  | nil => rfl
  | cons e es ih =>
    have hspans := h.head_spans
    have hlt := hspans.start_lt_stop
    have hle := hspans.stop_le
    have hgap : lo + ((text.take e.start).drop lo).length = e.start := by
      have hstart := h.start_ge
      rw [List.length_drop, List.length_take]
      omega
    have hlength : e.start + (written k e).length = e.stop := by
      rw [written, ← hspans.text_eq, List.length_drop, List.length_take]
      omega
    rw [Interlacing.ofText, Interlacing.patches, hgap, hlength, ih h.tail, List.zipIdx_cons,
      List.map_cons]

end IsOutermostFrom

/-- Puts what the placeholders stand for back at the points where they start. -/
def Spliced.restore (s : Spliced) (points : List Nat) : List Char :=
  patchAll (List.zipWith (fun entry p => ⟨p, p + entry.1.length, entry.2.text⟩) s.mapping points)
    s.text.toList

/-- The patches that put the expansions back are those that exchange placeholders for them. -/
theorem zipWith_points (x : Interlacing) (i k : Nat) :
    List.zipWith (fun entry p => (⟨p, p + entry.1.length, entry.2.text⟩ : Patch))
        ((x.expansions.zipIdx k).map fun (e, k) => (placeholder k, e)) (x.points named i k) =
      x.patches named written i k := by
  induction x generalizing i k with
  | last gap => rfl
  | next gap e rest ih =>
    rw [Interlacing.expansions, List.zipIdx_cons, List.map_cons, Interlacing.points,
      List.zipWith_cons_cons, ih]
    rfl

theorem map_fst_mapping (line : String) :
    (spliced line).mapping.map Prod.fst =
      (List.range (expansions line.toList).length).map placeholder := by
  rw [spliced, List.map_map, List.range_eq_range', ← List.zipIdx_map_snd, List.map_map]
  rfl

theorem nodup_map_placeholder (n : Nat) : ((List.range n).map placeholder).Nodup :=
  List.nodup_range.map fun _ _ h => placeholder_injective h

/-- A line as gaps with its expansions between them, and what is made of it. -/
structure Splices (line : String) (s : Spliced) (x : Interlacing) : Prop where
  expansions_eq : x.expansions = expansions line.toList
  line_eq : x.fill written 0 = line.toList
  /-- Each expansion stands at the span that it is found at. -/
  spans : ∀ new, x.patches written new 0 0 =
    (expansions line.toList).zipIdx.map fun e => ⟨e.1.start, e.1.stop, new e.2 e.1⟩
  /-- The text has the same gaps, with placeholders between them. -/
  text_eq : x.fill named 0 = s.text.toList
  /-- The text also comes of putting the placeholders in one by one, from the last to the first. -/
  stepwise : patchAll ((expansions line.toList).zipIdx.map fun e =>
    ⟨e.1.start, e.1.stop, (placeholder e.2).toList⟩) line.toList = s.text.toList
  keys : s.mapping.map Prod.fst = (List.range (expansions line.toList).length).map placeholder
  distinct : (s.mapping.map Prod.fst).Nodup
  entries : ∀ k, s.mapping.lookup (placeholder k) = (expansions line.toList)[k]?
  /-- The line comes back from the text, the mapping and the points where the placeholders start. -/
  restored : s.restore (x.points named 0 0) = line.toList

/-- Placeholders, numbered from the left, are put between the gaps of a line in the place of its
expansions, and can be taken out again. -/
theorem exists_splices_spliced (line : String) : ∃ x, Splices line (spliced line) x := by
  have hfound : IsOutermostFrom line.toList 0 (expansions line.toList) :=
    isOutermostFrom_expansionsFrom line.toList 0
  obtain ⟨x, hx⟩ : ∃ x, x = Interlacing.ofText line.toList 0 (expansions line.toList) := ⟨_, rfl⟩
  have hexpansions : x.expansions = expansions line.toList := by
    rw [hx, Interlacing.expansions_ofText]
  have hwritten : x.fill written 0 = line.toList := by
    rw [hx, hfound.fill_written, List.drop_zero]
  have hnamed : x.fill named 0 = (spliced line).text.toList := by
    rw [hx, ← hfound.spliceFrom_eq_fill]
    simp [spliced, splice]
  have hspans (new : Part) := hx ▸ hfound.patches_written new 0
  have hstepwise := x.patchAll_patches written named [] 0
  have hback := x.patchAll_patches named written [] 0
  rw [List.length_nil, List.nil_append, List.nil_append, hwritten, hnamed] at hstepwise hback
  rw [hspans] at hstepwise
  have hkeys := map_fst_mapping line
  have hrestored : (spliced line).restore (x.points named 0 0) = line.toList := by
    rw [Spliced.restore, ← hback, ← zipWith_points, hexpansions]
    rfl
  exact ⟨x, hexpansions, hwritten, hspans, hnamed, hstepwise, hkeys,
    hkeys ▸ nodup_map_placeholder _, mapping_lookup line, hrestored⟩

end Conch.Line
