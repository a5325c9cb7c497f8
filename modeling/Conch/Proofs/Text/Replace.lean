import Mathlib.Data.List.Infix
import Conch.Text.Search

/-!
# Cutting and replacing

A text that is cut once is cut at the first occurrence of the separator. What is put in the place of a
part is determined from the left too: an occurrence at the front is replaced as a whole, and a
character where none starts is kept. So a text in which the part does not
occur stays as it is. A part that gives way to something shorter leaves a shorter text, and then only
such a text stays.
-/

namespace Conch.Text

/-- An occurrence does not start in a text without its first character. -/
theorem infix_of_infix_append {c : Char} {l a b : List Char} (ha : c ∉ a) (h : c :: l <:+: a ++ b) :
    c :: l <:+: b := by
  induction a with
  | nil => exact h
  | cons d a ih =>
    rw [List.mem_cons, not_or] at ha
    obtain hstarts | hrest := List.infix_cons_iff.mp h
    · exact absurd (List.cons_prefix_cons.mp hstarts).1 ha.1
    · exact ih ha.2 hrest

/-- An occurrence does not end with a character that is not its last one. -/
theorem infix_of_infix_concat {c d : Char} {l a : List Char} (hd : d ≠ c)
    (h : l ++ [c] <:+: a ++ [d]) : l ++ [c] <:+: a := by
  obtain hends | hfront := List.infix_concat_iff.mp h
  · obtain hnil | ⟨t, ht, -⟩ := List.suffix_concat_iff.mp hends
    · simp at hnil
    · exact absurd (List.append_inj' ht rfl).2 (by simpa using hd.symm)
  · exact hfront

/-- A part that occurs in a text has a first occurrence. -/
theorem exists_first_occurrence {part s : List Char} (hne : part ≠ []) (h : part <:+: s) :
    ∃ a b, s = a ++ (part ++ b) ∧ ¬ part <:+: a := by
  induction s with
  | nil => exact absurd (List.infix_nil.mp h) hne
  | cons c s ih =>
    by_cases hstarts : part <+: c :: s
    · obtain ⟨b, hb⟩ := hstarts
      exact ⟨[], b, hb.symm, fun hnil => hne (List.infix_nil.mp hnil)⟩
    · obtain ⟨a, b, rfl, ha⟩ := ih ((List.infix_cons_iff.mp h).resolve_left hstarts)
      refine ⟨c :: a, b, rfl, fun hinside => ?_⟩
      obtain hfront | hrest := List.infix_cons_iff.mp hinside
      · exact hstarts (hfront.trans (List.prefix_append (c :: a) (part ++ b)))
      · exact ha hrest

theorem cutFrom_zero (sep piece s : List Char) :
    cutFrom sep 0 0 piece s = [piece.reverse ++ s] := by
  induction s generalizing piece with
  | nil => simp [cutFrom]
  | cons c s ih => simp [cutFrom, ih]

/-- The rest of a separator is passed over. -/
theorem cutFrom_append (sep : List Char) (limit : Nat) (passed piece s : List Char) :
    cutFrom sep limit passed.length piece (passed ++ s) = cutFrom sep limit 0 piece s := by
  induction passed with
  | nil => rfl
  | cons c passed ih => exact ih

/-- A text is cut once, at the first occurrence of the separator. -/
theorem cutFrom_one {sep front : List Char} (h : ¬ sep <:+: front ++ sep.dropLast)
    (piece rest : List Char) :
    cutFrom sep 1 0 piece (front ++ (sep ++ rest)) = [piece.reverse ++ front, rest] := by
  have hsep : sep ≠ [] := by
    rintro rfl
    exact h List.nil_infix
  induction front generalizing piece with
  | nil =>
    obtain ⟨c, sep, rfl⟩ := List.exists_cons_of_ne_nil hsep
    have hstarts : (c :: sep).isPrefixOf (c :: (sep ++ rest)) = true := by simp
    simp only [List.nil_append, List.cons_append, cutFrom, hstarts, if_true, List.length_cons,
      Nat.add_sub_cancel, cutFrom_append, cutFrom_zero, List.reverse_nil, List.append_nil]
  | cons c front ih =>
    -- an occurrence at the front would end before the separator does
    have hstarts : ¬ sep <+: c :: (front ++ (sep ++ rest)) := by
      intro hstarts
      have hwhole : c :: front ++ sep.dropLast <+: c :: (front ++ (sep ++ rest)) := by
        rw [List.cons_append, List.cons_prefix_cons, List.prefix_append_right_inj]
        exact ⟨rfl, (List.dropLast_prefix sep).trans (List.prefix_append sep rest)⟩
      refine h (List.prefix_of_prefix_length_le hstarts hwhole ?_).isInfix
      simp
      omega
    have hnot : ¬ sep.isPrefixOf (c :: (front ++ (sep ++ rest))) = true := by simpa using hstarts
    have hrest : ¬ sep <:+: front ++ sep.dropLast := fun hinside => h (List.infix_cons hinside)
    simp [cutFrom, hnot, ih hrest]

theorem cutFrom_ne_nil (sep : List Char) (limit skip : Nat) (piece s : List Char) :
    cutFrom sep limit skip piece s ≠ [] := by
  fun_induction cutFrom sep limit skip piece s <;> simp_all

/-- What has been read since the last cut is the front of the next piece. -/
theorem intercalate_cutFrom (new sep : List Char) (limit : Nat) (piece s : List Char) :
    new.intercalate (cutFrom sep limit 0 piece s) =
      piece.reverse ++ new.intercalate (cutFrom sep limit 0 [] s) := by
  induction s generalizing piece with
  | nil => simp [cutFrom]
  | cons c s ih =>
    cases limit with
    | zero => simp [cutFrom_zero]
    | succ limit =>
      simp only [cutFrom]
      split
      · simp [List.intercalate_cons_of_ne_nil (cutFrom_ne_nil _ _ _ _ _)]
      · rw [ih (c :: piece), ih [c]]
        simp

variable {old new s : List Char} {limit : Nat}

theorem replace_nil (h : old ≠ []) : replace old new limit [] = [] := by
  simp [replace, h, cut, cutFrom]

theorem replace_append (h : old ≠ []) (s : List Char) :
    replace old new (limit + 1) (old ++ s) = new ++ replace old new limit s := by
  obtain ⟨c, old, rfl⟩ := List.exists_cons_of_ne_nil h
  have hstarts : (c :: old).isPrefixOf (c :: (old ++ s)) = true := by simp
  simp only [replace, List.isEmpty_cons, Bool.false_eq_true, if_false, cut, List.cons_append, cutFrom,
    hstarts, if_true, List.length_cons, Nat.add_sub_cancel]
  rw [List.intercalate_cons_of_ne_nil (cutFrom_ne_nil _ _ _ _ _), cutFrom_append]
  simp

theorem replace_cons {c : Char} (h : ¬ old <+: c :: s) :
    replace old new limit (c :: s) = c :: replace old new limit s := by
  have hne : old ≠ [] := by
    rintro rfl
    exact h List.nil_prefix
  have hstarts : ¬ old.isPrefixOf (c :: s) = true := by simpa using h
  cases limit with
  | zero => simp [replace, hne, cut, cutFrom_zero]
  | succ limit =>
    simp only [replace, List.isEmpty_iff, hne, if_false, cut, cutFrom, if_neg hstarts]
    rw [intercalate_cutFrom]
    rfl

theorem replace_eq_self (h : ¬ old <:+: s) : replace old new limit s = s := by
  induction s with
  | nil =>
    refine replace_nil ?_
    rintro rfl
    exact h List.nil_infix
  | cons c s ih =>
    rw [List.infix_cons_iff, not_or] at h
    rw [replace_cons h.1, ih h.2]

theorem length_replace_le (h : old ≠ []) (hnew : new.length ≤ old.length) :
    (replace old new limit s).length ≤ s.length := by
  induction hn : s.length using Nat.strong_induction_on generalizing s limit with
  | _ n ih =>
  subst hn
  cases limit with
  | zero => simp [replace, h, cut, cutFrom_zero]
  | succ limit =>
    by_cases hstarts : old <+: s
    · obtain ⟨rest, rfl⟩ := hstarts
      have hshorter : rest.length < (old ++ rest).length := by
        simpa using List.length_pos_iff.mpr h
      rw [replace_append h, List.length_append, List.length_append]
      exact Nat.add_le_add hnew (ih rest.length hshorter rfl)
    · cases s with
      | nil => rw [replace_nil h]
      | cons c s =>
        rw [replace_cons hstarts]
        exact Nat.succ_le_succ (ih s.length (Nat.lt_succ_self _) rfl)

theorem length_replace_lt (hnew : new.length < old.length) (hoccurs : old <:+: s)
    (hlimit : s.length ≤ limit) : (replace old new limit s).length < s.length := by
  have h : old ≠ [] := List.length_pos_iff.mp (Nat.zero_lt_of_lt hnew)
  induction s with
  | nil => exact absurd (List.infix_nil.mp hoccurs) h
  | cons c s ih =>
    by_cases hstarts : old <+: c :: s
    · obtain ⟨rest, hrest⟩ := hstarts
      obtain ⟨limit, rfl⟩ := Nat.exists_eq_add_one_of_ne_zero (Nat.ne_zero_of_lt hlimit)
      rw [← hrest, replace_append h, List.length_append, List.length_append]
      exact Nat.add_lt_add_of_lt_of_le hnew (length_replace_le h hnew.le)
    · rw [replace_cons hstarts]
      exact Nat.succ_lt_succ
        (ih ((List.infix_cons_iff.mp hoccurs).resolve_left hstarts) (Nat.le_of_succ_le hlimit))

end Conch.Text
