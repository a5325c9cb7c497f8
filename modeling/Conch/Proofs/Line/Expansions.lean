import Mathlib
import Conch.Proofs.Shell.Expand

/-!
# Expansions of a text that is put together

A text is put together from two. If no expansion of the whole reaches over the joint, its expansions
are those of the two texts. If one does, it is lost in the parts: what they have in its place are
expansions that stand inside it, and those cover less of the text than it does.
-/

namespace Conch.Line

open Shell.Performer (le_start_of_mem)

/-- The number of open parentheses behind a character; none if the character closes the one that was
opened before the text. -/
def level (d : Nat) (c : Char) : Option Nat :=
  if c = '(' then some (d + 1)
  else if c = ')' then if d = 0 then none else some (d - 1)
  else some d

theorem eq_paren_of_level_eq_none {d : Nat} {c : Char} (h : level d c = none) :
    c = ')' ∧ d = 0 := by
  unfold level at h
  split_ifs at h with _ hc hd
  exact ⟨hc, hd⟩

/-- The further out one starts, the further out one is behind a character. -/
theorem exists_level_of_lt {d d' : Nat} (hd : d < d') (c : Char) :
    ∃ e', level d' c = some e' ∧ ∀ e, level d c = some e → e < e' := by
  unfold level
  by_cases hopen : c = '('
  · exact ⟨d' + 1, if_pos hopen, by simp [hopen]; omega⟩
  · by_cases hclose : c = ')'
    · refine ⟨d' - 1, by simp [hclose]; omega, fun e he => ?_⟩
      by_cases hd : d = 0
      · simp [hclose, hd] at he
      · obtain rfl : d - 1 = e := by simpa [hclose, hd] using he
        omega
    · exact ⟨d', by simp [hopen, hclose], by simp [hopen, hclose]; omega⟩

theorem closing_nil (d : Nat) : closing d [] = none := rfl

theorem closing_cons (d : Nat) (c : Char) (s : List Char) :
    closing d (c :: s) =
      if c = '(' then (closing (d + 1) s).map (· + 1)
      else if c = ')' then
        match d with
        | 0 => some 0
        | d + 1 => (closing d s).map (· + 1)
      else (closing d s).map (· + 1) := rfl

theorem closing_cons_eq_some_iff {d k : Nat} {c : Char} {s : List Char} :
    closing d (c :: s) = some k ↔ (level d c = none ∧ k = 0) ∨
      ∃ d' k', level d c = some d' ∧ closing d' s = some k' ∧ k = k' + 1 := by
  by_cases hopen : c = '('
  · simp [closing_cons, level, hopen, eq_comm]
  · by_cases hclose : c = ')'
    · cases d <;> simp [closing_cons, level, hclose, eq_comm]
    · simp [closing_cons, level, hopen, hclose, eq_comm]

theorem closing_cons_cases {d k : Nat} {c : Char} {s : List Char}
    (h : closing d (c :: s) = some k) : (level d c = none ∧ k = 0) ∨
      ∃ d' k', level d c = some d' ∧ closing d' s = some k' ∧ k = k' + 1 :=
  closing_cons_eq_some_iff.mp h

theorem closing_lt_length {d k : Nat} {s : List Char} (h : closing d s = some k) :
    k < s.length := by
  induction s generalizing d k with
  | nil => simp [closing_nil] at h
  | cons c s ih =>
    rcases closing_cons_cases h with ⟨-, rfl⟩ | ⟨d', k', -, hk', rfl⟩
    · simp
    · simpa using ih hk'

/-- What follows a closing parenthesis does not matter. -/
theorem closing_append {d k : Nat} {s : List Char} (h : closing d s = some k) (t : List Char) :
    closing d (s ++ t) = some k := by
  induction s generalizing d k with
  | nil => simp [closing_nil] at h
  | cons c s ih =>
    rw [List.cons_append, closing_cons_eq_some_iff]
    rcases closing_cons_cases h with hclosed | ⟨d', k', hlevel, hk', rfl⟩
    · exact .inl hclosed
    · exact .inr ⟨d', k', hlevel, ih hk', rfl⟩

/-- The parenthesis that closes one is found in the part of the text that holds it. -/
theorem closing_of_append {d k : Nat} {s t : List Char} (h : closing d (s ++ t) = some k)
    (hk : k < s.length) : closing d s = some k := by
  induction s generalizing d k with
  | nil => simp at hk
  | cons c s ih =>
    rw [List.cons_append] at h
    rw [closing_cons_eq_some_iff]
    rcases closing_cons_cases h with hclosed | ⟨d', k', hlevel, hk', rfl⟩
    · exact .inl hclosed
    · exact .inr ⟨d', k', hlevel, ih hk' (by simpa using hk), rfl⟩

/-- Behind a text that closes too little, the search goes on at some depth. -/
theorem closing_behind {d k : Nat} {s t : List Char} (h : closing d (s ++ t) = some k)
    (hk : s.length ≤ k) : ∃ d', closing d' t = some (k - s.length) := by
  induction s generalizing d k with
  | nil => exact ⟨d, by simpa using h⟩
  | cons c s ih =>
    rw [List.cons_append] at h
    rcases closing_cons_cases h with ⟨-, rfl⟩ | ⟨d', k', -, hk', rfl⟩
    · simp at hk
    · simpa using ih hk' (by simpa using hk)

/-- A parenthesis that was opened further out is closed further on. -/
theorem closing_lt_of_lt {d d' k m : Nat} {s : List Char} (hd : d < d')
    (h : closing d s = some k) (h' : closing d' s = some m) : k < m := by
  induction s generalizing d d' k m with
  | nil => simp [closing_nil] at h
  | cons c s ih =>
    obtain ⟨e', he', hlt⟩ := exists_level_of_lt hd c
    obtain ⟨m', hm', rfl⟩ : ∃ m', closing e' s = some m' ∧ m = m' + 1 := by
      simpa [closing_cons_eq_some_iff, he'] using h'
    rcases closing_cons_cases h with ⟨-, rfl⟩ | ⟨e, k', he, hk', rfl⟩
    · exact Nat.succ_pos m'
    · exact Nat.succ_lt_succ (ih (hlt e he) hk' hm')

/-- What is found is a closing parenthesis. -/
theorem drop_closing {d k : Nat} {s : List Char} (h : closing d s = some k) :
    ∃ rest, s.drop k = ')' :: rest := by
  induction s generalizing d k with
  | nil => simp [closing_nil] at h
  | cons c s ih =>
    rcases closing_cons_cases h with ⟨hlevel, rfl⟩ | ⟨d', k', -, hk', rfl⟩
    · exact ⟨s, by rw [(eq_paren_of_level_eq_none hlevel).1, List.drop_zero]⟩
    · simpa using ih hk'

/-- The sigil of the expansion that a text starts with, and the length of its content. -/
def front? (text : List Char) : Option (Sigil × Nat) :=
  (opening? text).bind fun sigil => (closing 0 (text.drop 2)).map fun k => (sigil, k)

theorem exists_of_opening? {text : List Char} {sigil : Sigil} (h : opening? text = some sigil) :
    ∃ rest, text = sigil.char :: '(' :: rest := by
  unfold opening? at h
  split at h
  · unfold Sigil.ofChar? at h
    split_ifs at h with hc hc hc <;> cases h <;> exact ⟨_, by rw [hc]; rfl⟩
  · cases h

theorem exists_of_front? {text : List Char} {sigil : Sigil} {k : Nat}
    (h : front? text = some (sigil, k)) :
    ∃ rest, text = sigil.char :: '(' :: rest ∧ closing 0 rest = some k := by
  obtain ⟨sigil', hopen, hclose⟩ := Option.bind_eq_some_iff.mp h
  obtain ⟨k', hk', heq⟩ := Option.map_eq_some_iff.mp hclose
  obtain ⟨rfl, rfl⟩ := Prod.mk.inj heq
  obtain ⟨rest, rfl⟩ := exists_of_opening? hopen
  exact ⟨rest, rfl, hk'⟩

theorem front?_of_closing {rest : List Char} {k : Nat} (h : closing 0 rest = some k)
    (sigil : Sigil) : front? (sigil.char :: '(' :: rest) = some (sigil, k) := by
  have hopen : opening? (sigil.char :: '(' :: rest) = some sigil := by cases sigil <;> rfl
  simp [front?, hopen, h]

theorem front?_append {a : List Char} {sigil : Sigil} {k : Nat} (h : front? a = some (sigil, k))
    (b : List Char) : front? (a ++ b) = some (sigil, k) := by
  obtain ⟨rest, rfl, hclose⟩ := exists_of_front? h
  exact front?_of_closing (closing_append hclose b) sigil

theorem length_of_front? {a : List Char} {sigil : Sigil} {k : Nat}
    (h : front? a = some (sigil, k)) : k + 3 ≤ a.length := by
  obtain ⟨rest, rfl, hclose⟩ := exists_of_front? h
  have hlt := closing_lt_length hclose
  simp only [List.length_cons]
  omega

theorem front?_of_append {a b : List Char} {sigil : Sigil} {k : Nat}
    (h : front? (a ++ b) = some (sigil, k)) (hk : k + 3 ≤ a.length) :
    front? a = some (sigil, k) := by
  obtain ⟨rest, hrest, hclose⟩ := exists_of_front? h
  obtain ⟨c, d, a', rfl⟩ : ∃ c d a', a = c :: d :: a' := by
    match a, hk with
    | c :: d :: a', _ => exact ⟨c, d, a', rfl⟩
  obtain ⟨rfl, rfl, rfl⟩ : c = sigil.char ∧ d = '(' ∧ a' ++ b = rest := by simpa using hrest
  have hlt : k < a'.length := by
    simp only [List.length_cons] at hk
    omega
  exact front?_of_closing (closing_of_append hclose hlt) sigil

theorem front?_of_append_eq_none {a b : List Char} (h : front? (a ++ b) = none) :
    front? a = none := by
  by_contra hne
  obtain ⟨x, hx⟩ := Option.ne_none_iff_exists'.mp hne
  rw [front?_append hx b] at h
  cases h

/-- A text whose first character is no sigil starts with no expansion. -/
theorem front?_of_ne {c : Char} (h : ∀ sigil : Sigil, c ≠ sigil.char) (rest : List Char) :
    front? (c :: rest) = none := by
  by_contra hne
  obtain ⟨⟨sigil, k⟩, hfront⟩ := Option.ne_none_iff_exists'.mp hne
  obtain ⟨rest', hrest', -⟩ := exists_of_front? hfront
  exact h sigil (List.cons_eq_cons.mp hrest').1

theorem expansionsFrom_nil (i skip : Nat) : expansionsFrom i skip [] = [] := rfl

theorem expansionsFrom_succ (i skip : Nat) (c : Char) (rest : List Char) :
    expansionsFrom i (skip + 1) (c :: rest) = expansionsFrom (i + 1) skip rest := rfl

/-- Looking for expansions one character further on. -/
theorem expansionsFrom_zero (i : Nat) (c : Char) (rest : List Char) :
    expansionsFrom i 0 (c :: rest) = match front? (c :: rest) with
      | none => expansionsFrom (i + 1) 0 rest
      | some (sigil, k) =>
        ⟨sigil, (rest.drop 1).take k, i, i + k + 3⟩ :: expansionsFrom (i + 1) (k + 2) rest := by
  rw [expansionsFrom, front?]
  cases opening? (c :: rest) with
  | none => rfl
  | some sigil =>
    rw [Option.bind_some, show (c :: rest).drop 2 = rest.drop 1 by simp]
    cases closing 0 (rest.drop 1) <;> rfl

theorem expansionsFrom_of_front?_eq_none {c : Char} {rest : List Char}
    (h : front? (c :: rest) = none) (i : Nat) :
    expansionsFrom i 0 (c :: rest) = expansionsFrom (i + 1) 0 rest := by
  rw [expansionsFrom_zero, h]

theorem expansionsFrom_of_front? {c : Char} {rest : List Char} {sigil : Sigil} {k : Nat}
    (h : front? (c :: rest) = some (sigil, k)) (i : Nat) :
    expansionsFrom i 0 (c :: rest) =
      ⟨sigil, (rest.drop 1).take k, i, i + k + 3⟩ :: expansionsFrom (i + 1) (k + 2) rest := by
  rw [expansionsFrom_zero, h]

/-! ## Where expansions stand -/

/-- An expansion as it is written. -/
def Expansion.text (e : Expansion) : List Char := e.sigil.char :: '(' :: (e.content ++ [')'])

/-- What an expansion is, wherever it stands. -/
def Expansion.form (e : Expansion) : Sigil × List Char := (e.sigil, e.content)

/-- An expansion at the front of a text is written there. -/
theorem front?_text {c : Char} {rest : List Char} {sigil : Sigil} {k : Nat}
    (h : front? (c :: rest) = some (sigil, k)) (i : Nat) :
    ∃ b, c :: rest =
        (⟨sigil, (rest.drop 1).take k, i, i + k + 3⟩ : Expansion).text ++ b ∧
      (⟨sigil, (rest.drop 1).take k, i, i + k + 3⟩ : Expansion).text.length = k + 3 := by
  obtain ⟨tail, htail, hclose⟩ := exists_of_front? h
  obtain ⟨rfl, rfl⟩ := List.cons_eq_cons.mp htail
  obtain ⟨b, hb⟩ := drop_closing hclose
  have hlt := closing_lt_length hclose
  refine ⟨b, ?_, ?_⟩
  · have hsplit : tail = tail.take k ++ ')' :: b := by rw [← hb, List.take_append_drop]
    simpa [Expansion.text] using hsplit
  · simp only [Expansion.text, List.drop_succ_cons, List.drop_zero, List.length_cons,
      List.length_append, List.length_take, List.length_nil]
    omega

theorem exists_text_of_mem {i skip : Nat} {text : List Char} {e : Expansion}
    (h : e ∈ expansionsFrom i skip text) :
    ∃ a b, text = a ++ e.text ++ b ∧ e.start = i + a.length ∧
      e.stop = i + a.length + e.text.length := by
  induction text generalizing i skip with
  | nil => simp [expansionsFrom_nil] at h
  | cons c rest ih =>
    have hlater {skip' : Nat} (h : e ∈ expansionsFrom (i + 1) skip' rest) :
        ∃ a b, c :: rest = a ++ e.text ++ b ∧ e.start = i + a.length ∧
          e.stop = i + a.length + e.text.length := by
      obtain ⟨a, b, hrest, hstart, hstop⟩ := ih h
      refine ⟨c :: a, b, by rw [hrest]; rfl, ?_, ?_⟩ <;>
      · simp only [List.length_cons]
        omega
    cases skip with
    | succ k =>
      rw [expansionsFrom_succ] at h
      exact hlater h
    | zero =>
      cases hfront : front? (c :: rest) with
      | none =>
        rw [expansionsFrom_of_front?_eq_none hfront] at h
        exact hlater h
      | some x =>
        obtain ⟨sigil, k⟩ := x
        rw [expansionsFrom_of_front? hfront, List.mem_cons] at h
        rcases h with rfl | h
        · obtain ⟨b, hb, hlength⟩ := front?_text hfront i
          refine ⟨[], b, hb, by simp, ?_⟩
          rw [hlength]
          simp
          omega
        · exact hlater h

theorem expansionsFrom_eq_nil {text : List Char}
    (h : ∀ c ∈ text, ∀ sigil : Sigil, c ≠ sigil.char) (i skip : Nat) :
    expansionsFrom i skip text = [] := by
  by_contra hne
  obtain ⟨e, he⟩ := List.exists_mem_of_ne_nil _ hne
  obtain ⟨a, b, rfl, -, -⟩ := exists_text_of_mem he
  exact h e.sigil.char (by simp [Expansion.text]) e.sigil rfl

/-- Only the form of expansions is settled by a text, not where counting starts. -/
theorem map_form_expansionsFrom (i j skip : Nat) (text : List Char) :
    (expansionsFrom i skip text).map Expansion.form =
      (expansionsFrom j skip text).map Expansion.form := by
  induction text generalizing i j skip with
  | nil => rfl
  | cons c rest ih =>
    cases skip with
    | succ k =>
      rw [expansionsFrom_succ, expansionsFrom_succ]
      exact ih _ _ k
    | zero =>
      rw [expansionsFrom_zero, expansionsFrom_zero]
      cases front? (c :: rest) with
      | none => exact ih _ _ 0
      | some x =>
        obtain ⟨sigil, k⟩ := x
        rw [List.map_cons, List.map_cons, ih (i + 1) (j + 1)]
        rfl

/-- Characters that are passed over may as well be left out. -/
theorem expansionsFrom_skip {i skip : Nat} {a : List Char} (h : a.length ≤ skip) (b : List Char) :
    expansionsFrom i skip (a ++ b) = expansionsFrom (i + a.length) (skip - a.length) b := by
  induction a generalizing i skip with
  | nil => rfl
  | cons c a ih =>
    obtain ⟨k, rfl⟩ : ∃ k, skip = k + 1 := Nat.exists_eq_succ_of_ne_zero (by
      simp only [List.length_cons] at h
      omega)
    have hle : a.length ≤ k := by simpa using h
    rw [List.cons_append, expansionsFrom_succ, ih hle, List.length_cons,
      show i + 1 + a.length = i + (a.length + 1) by omega, Nat.add_sub_add_right]

/-- An expansion reaches over a position. -/
def Expansion.Straddles (e : Expansion) (p : Nat) : Prop := e.start < p ∧ p < e.stop

/-- If no expansion reaches over the joint of two texts, the expansions of the whole are those of
the first and those of the second. -/
theorem expansionsFrom_append {i skip : Nat} {a b : List Char} (hskip : skip ≤ a.length)
    (h : ∀ e ∈ expansionsFrom i skip (a ++ b), ¬e.Straddles (i + a.length)) :
    expansionsFrom i skip (a ++ b) =
      expansionsFrom i skip a ++ expansionsFrom (i + a.length) 0 b := by
  induction a generalizing i skip with
  | nil =>
    obtain rfl : skip = 0 := by simpa using hskip
    rfl
  | cons c a ih =>
    have hlength : i + (c :: a).length = i + 1 + a.length := by
      rw [List.length_cons]
      omega
    rw [hlength] at h ⊢
    rw [List.cons_append] at h ⊢
    cases skip with
    | succ k =>
      rw [expansionsFrom_succ] at h ⊢
      rw [expansionsFrom_succ, ih (by simpa using hskip) h]
    | zero =>
      cases hfront : front? (c :: (a ++ b)) with
      | none =>
        have hfront' : front? (c :: a) = none := front?_of_append_eq_none hfront
        rw [expansionsFrom_of_front?_eq_none hfront] at h ⊢
        rw [expansionsFrom_of_front?_eq_none hfront', ih (Nat.zero_le _) h]
      | some x =>
        obtain ⟨sigil, k⟩ := x
        rw [expansionsFrom_of_front? hfront] at h ⊢
        -- the first expansion ends before the joint, so the first text has it too
        have hk : k + 3 ≤ (c :: a).length := by
          have hfirst := h _ List.mem_cons_self
          simp only [Expansion.Straddles, List.length_cons] at hfirst ⊢
          omega
        have hfront' : front? (c :: a) = some (sigil, k) := front?_of_append hfront hk
        have hk' : k + 2 ≤ a.length := by simpa using hk
        have hcontent : ((a ++ b).drop 1).take k = (a.drop 1).take k := by
          rw [List.drop_append_of_le_length (by omega), List.take_append_of_le_length]
          rw [List.length_drop]
          omega
        rw [expansionsFrom_of_front? hfront', hcontent,
          ih hk' fun e he => h e (List.mem_cons_of_mem _ he), List.cons_append]

/-- A parenthesis that is opened before a text is closed between its expansions, and not in one of
them. -/
theorem not_straddles_of_closing {d m i skip : Nat} {b : List Char} (h : closing d b = some m)
    (hskip : skip ≤ m + 1) : ∀ e ∈ expansionsFrom i skip b, ¬e.Straddles (i + m + 1) := by
  induction b generalizing d m i skip with
  | nil => simp [closing_nil] at h
  | cons c b ih =>
    -- the parenthesis is the first character, or it is further on
    have hrest {skip' : Nat} (hskip : skip' ≤ m) :
        ∀ e ∈ expansionsFrom (i + 1) skip' b, ¬e.Straddles (i + m + 1) := by
      rcases closing_cons_cases h with ⟨-, rfl⟩ | ⟨d', m', -, hm', rfl⟩
      · rintro e he ⟨hlt, -⟩
        have hstart := le_start_of_mem he
        omega
      · rw [show i + (m' + 1) + 1 = i + 1 + m' + 1 by omega]
        exact ih hm' hskip
    cases skip with
    | succ k =>
      rw [expansionsFrom_succ]
      exact hrest (by omega)
    | zero =>
      cases hfront : front? (c :: b) with
      | none =>
        rw [expansionsFrom_of_front?_eq_none hfront]
        exact hrest (Nat.zero_le _)
      | some x =>
        obtain ⟨sigil, k⟩ := x
        obtain ⟨rest, hrest', hclose⟩ := exists_of_front? hfront
        obtain ⟨rfl, rfl⟩ := List.cons_eq_cons.mp hrest'
        -- an expansion at the front is closed first, as it was opened last
        have hk : k + 3 ≤ m := by
          have hopen : closing d (sigil.char :: '(' :: rest) =
              (closing (d + 1) rest).map (· + 2) := by
            cases sigil <;> simp [closing_cons, Sigil.char, Function.comp_def]
          rw [hopen] at h
          obtain ⟨m', hm', rfl⟩ := Option.map_eq_some_iff.mp h
          have hlt := closing_lt_of_lt (Nat.succ_pos d) hclose hm'
          omega
        rw [expansionsFrom_of_front? hfront]
        intro e he
        rcases List.mem_cons.mp he with rfl | he
        · rintro ⟨-, hstop⟩
          dsimp only at hstop
          omega
        · exact hrest (by omega) e he

/-- If the first expansion of a text reaches over a joint, no expansion of what stands behind the
joint reaches over its end. -/
theorem not_straddles_behind {c : Char} {a b : List Char} {sigil : Sigil} {k : Nat}
    (hfront : front? (c :: (a ++ b)) = some (sigil, k)) (hlong : a.length < k + 2) (j : Nat) :
    ∀ e ∈ expansionsFrom j 0 b, ¬e.Straddles (j + (k + 2 - a.length)) := by
  obtain ⟨rest, hrest, hclose⟩ := exists_of_front? hfront
  obtain ⟨-, hrest⟩ := List.cons_eq_cons.mp hrest
  cases a with
  | nil =>
    -- the second text starts with the parenthesis that opens the content
    obtain rfl : b = '(' :: rest := hrest
    have hparen : front? ('(' :: rest) = none :=
      front?_of_ne (fun sigil => by cases sigil <;> decide) rest
    rw [expansionsFrom_of_front?_eq_none hparen]
    have hnot := not_straddles_of_closing (i := j + 1) hclose (Nat.zero_le (k + 1))
    have hend : j + 1 + k + 1 = j + (k + 2 - ([] : List Char).length) := by
      rw [List.length_nil]
      omega
    rwa [hend] at hnot
  | cons d a =>
    obtain ⟨-, rfl⟩ := List.cons_eq_cons.mp hrest
    rw [List.length_cons] at hlong
    obtain ⟨d', hd'⟩ := closing_behind hclose (by omega)
    have hnot := not_straddles_of_closing (i := j) hd' (Nat.zero_le _)
    have hend : j + (k - a.length) + 1 = j + (k + 2 - (d :: a).length) := by
      rw [List.length_cons]
      omega
    rwa [hend] at hnot

/-! ## How much expansions cover -/

/-- The number of characters in some expansions. -/
def covered (es : List Expansion) : Nat := (es.map fun e => e.content.length + 3).sum

theorem covered_cons (e : Expansion) (es : List Expansion) :
    covered (e :: es) = e.content.length + 3 + covered es := by
  simp [covered]

theorem covered_append (es es' : List Expansion) :
    covered (es ++ es') = covered es + covered es' := by
  simp [covered]

theorem covered_eq_of_map_form {es es' : List Expansion}
    (h : es.map Expansion.form = es'.map Expansion.form) : covered es = covered es' := by
  have hform (es : List Expansion) :
      covered es = ((es.map Expansion.form).map fun x => x.2.length + 3).sum := by
    rw [List.map_map]
    rfl
  rw [hform, hform, h]

theorem covered_expansionsFrom_le (i skip : Nat) (text : List Char) :
    covered (expansionsFrom i skip text) ≤ text.length - skip := by
  induction text generalizing i skip with
  | nil => simp [expansionsFrom_nil, covered]
  | cons c rest ih =>
    cases skip with
    | succ k =>
      rw [expansionsFrom_succ, List.length_cons, Nat.add_sub_add_right]
      exact ih (i + 1) k
    | zero =>
      cases hfront : front? (c :: rest) with
      | none =>
        rw [expansionsFrom_of_front?_eq_none hfront, List.length_cons]
        have hle := ih (i + 1) 0
        omega
      | some x =>
        obtain ⟨sigil, k⟩ := x
        have hk := length_of_front? hfront
        have hle := ih (i + 1) (k + 2)
        rw [expansionsFrom_of_front? hfront, covered_cons]
        simp only [List.length_take, List.length_drop, List.length_cons] at hk hle ⊢
        omega

/-- The expansions of a text cover no more than those behind a position that none of them reaches
over, and all characters in front of it. -/
theorem covered_le_of_not_straddles {i n : Nat} {b : List Char} (hn : n ≤ b.length)
    (h : ∀ e ∈ expansionsFrom i 0 b, ¬e.Straddles (i + n)) :
    covered (expansionsFrom i 0 b) ≤ n + covered (expansionsFrom i n b) := by
  have hlength : (b.take n).length = n := by
    rw [List.length_take]
    omega
  have hsplit : expansionsFrom i 0 b =
      expansionsFrom i 0 (b.take n) ++ expansionsFrom (i + n) 0 (b.drop n) := by
    have happend := expansionsFrom_append (i := i) (b := b.drop n) (Nat.zero_le (b.take n).length)
    rw [List.take_append_drop, hlength] at happend
    exact happend h
  have hskip : expansionsFrom i n b = expansionsFrom (i + n) 0 (b.drop n) := by
    have hskip := expansionsFrom_skip (i := i) (le_of_eq hlength) (b.drop n)
    rwa [List.take_append_drop, hlength, Nat.sub_self] at hskip
  have hfront := covered_expansionsFrom_le i 0 (b.take n)
  rw [hlength] at hfront
  rw [hsplit, covered_append, hskip]
  omega

/-- An expansion that reaches over the joint of two texts is in neither of them, and what they have
in its place covers less. -/
theorem covered_lt_of_straddles {i j skip : Nat} {a b : List Char} (hskip : skip ≤ a.length)
    {e : Expansion} (he : e ∈ expansionsFrom i skip (a ++ b))
    (hstraddles : e.Straddles (i + a.length)) :
    covered (expansionsFrom i skip a) + covered (expansionsFrom j 0 b) <
      covered (expansionsFrom i skip (a ++ b)) := by
  induction a generalizing i skip with
  | nil =>
    have hstart := le_start_of_mem he
    have hlt := hstraddles.1
    simp only [List.length_nil] at hlt
    omega
  | cons c a ih =>
    have hlength : i + (c :: a).length = i + 1 + a.length := by
      rw [List.length_cons]
      omega
    rw [hlength] at hstraddles
    rw [List.cons_append] at he ⊢
    cases skip with
    | succ k =>
      rw [expansionsFrom_succ] at he ⊢
      rw [expansionsFrom_succ]
      exact ih (by simpa using hskip) he hstraddles
    | zero =>
      cases hfront : front? (c :: (a ++ b)) with
      | none =>
        have hfront' : front? (c :: a) = none := front?_of_append_eq_none hfront
        rw [expansionsFrom_of_front?_eq_none hfront] at he ⊢
        rw [expansionsFrom_of_front?_eq_none hfront']
        exact ih (Nat.zero_le _) he hstraddles
      | some x =>
        obtain ⟨sigil, k⟩ := x
        rw [expansionsFrom_of_front? hfront] at he ⊢
        by_cases hk : k + 3 ≤ (c :: a).length
        · -- the first expansion is in the first text, and another one reaches over the joint
          have hfront' : front? (c :: a) = some (sigil, k) := front?_of_append hfront hk
          have hk' : k + 2 ≤ a.length := by simpa using hk
          have he' : e ∈ expansionsFrom (i + 1) (k + 2) (a ++ b) := by
            rcases List.mem_cons.mp he with rfl | he
            · have hlt := hstraddles.2
              dsimp only at hlt
              omega
            · exact he
          have hlt := ih hk' he' hstraddles
          rw [expansionsFrom_of_front? hfront', covered_cons, covered_cons]
          simp only [List.length_take, List.length_drop, List.length_append]
          omega
        · -- the first expansion reaches over the joint
          have hfront' : front? (c :: a) = none := by
            by_contra hne
            obtain ⟨⟨sigil', k'⟩, hx⟩ := Option.ne_none_iff_exists'.mp hne
            have happend := front?_append hx b
            rw [List.cons_append, hfront] at happend
            cases happend
            exact hk (length_of_front? hx)
          have hlong : a.length < k + 2 := by
            simp only [List.length_cons] at hk
            omega
          have hwhole := length_of_front? hfront
          simp only [List.length_cons, List.length_append] at hwhole
          have hbehind := not_straddles_behind hfront hlong j
          have hle := covered_le_of_not_straddles (by omega) hbehind
          have hfirst := covered_expansionsFrom_le (i + 1) 0 a
          have hskip' : covered (expansionsFrom (i + 1) (k + 2) (a ++ b)) =
              covered (expansionsFrom j (k + 2 - a.length) b) := by
            rw [expansionsFrom_skip (by omega)]
            exact covered_eq_of_map_form (map_form_expansionsFrom _ _ _ b)
          rw [expansionsFrom_of_front?_eq_none hfront', covered_cons, hskip']
          simp only [List.length_take, List.length_drop, List.length_append]
          omega

/-- A text that neither opens nor closes an expansion. -/
def Plain (s : List Char) : Prop :=
  ∀ c ∈ s, c ≠ '(' ∧ c ≠ ')' ∧ ∀ sigil : Sigil, c ≠ sigil.char

theorem plain_blanks {s : List Char} (h : ∀ c ∈ s, Text.isBlank c = true) : Plain s := by
  intro c hc
  have hne (d : Char) (hd : Text.isBlank d = false) : c ≠ d := by
    rintro rfl
    rw [h c hc] at hd
    cases hd
  exact ⟨hne _ (by decide), hne _ (by decide), fun sigil => hne _ (by cases sigil <;> decide)⟩

theorem not_straddles_of_plain {i skip : Nat} {s b : List Char} (hb : Plain b) {e : Expansion}
    (he : e ∈ expansionsFrom i skip (s ++ b)) : ¬e.Straddles (i + s.length) := by
  rintro ⟨-, hstop⟩
  obtain ⟨x, y, htext, -, hstop'⟩ := exists_text_of_mem he
  have hclose : s ++ b = x ++ e.sigil.char :: '(' :: e.content ++ ')' :: y := by
    rw [htext]
    simp [Expansion.text]
  have hle : s.length ≤ (x ++ e.sigil.char :: '(' :: e.content).length := by
    simp only [Expansion.text, List.length_cons, List.length_append, List.length_nil] at hstop' ⊢
    omega
  have hmem : ')' ∈ b := by
    rcases List.append_eq_append_iff.mp hclose with ⟨z, -, hz⟩ | ⟨z, hz, hb'⟩
    · simp [hz]
    · have hnil : z = [] := by
        have hlength := congrArg List.length hz
        rw [List.length_append] at hlength
        exact List.length_eq_zero_iff.mp (by omega)
      rw [hnil, List.nil_append] at hb'
      simp [← hb']
  exact (hb ')' hmem).2.1 rfl

theorem expansionsFrom_plain {s : List Char} (h : Plain s) (i skip : Nat) :
    expansionsFrom i skip s = [] :=
  expansionsFrom_eq_nil (fun c hc => (h c hc).2.2) i skip

theorem expansionsFrom_append_plain {b : List Char} (hb : Plain b) (i : Nat) (s : List Char) :
    expansionsFrom i 0 (s ++ b) = expansionsFrom i 0 s := by
  rw [expansionsFrom_append (Nat.zero_le _) fun e he => not_straddles_of_plain hb he,
    expansionsFrom_plain hb, List.append_nil]

theorem expansionsFrom_plain_append {a : List Char} (ha : Plain a) (i : Nat) (s : List Char) :
    expansionsFrom i 0 (a ++ s) = expansionsFrom (i + a.length) 0 s := by
  induction a generalizing i with
  | nil => rfl
  | cons c a ih =>
    have hfront : front? (c :: (a ++ s)) = none := front?_of_ne (ha c List.mem_cons_self).2.2 _
    rw [List.cons_append, expansionsFrom_of_front?_eq_none hfront,
      ih (fun d hd => ha d (List.mem_cons_of_mem c hd)), List.length_cons,
      show i + 1 + a.length = i + (a.length + 1) by omega]

/-- The content of an expansion that is closed right behind it: its parentheses balance. -/
def IsBalanced (content : List Char) : Prop :=
  closing 0 (content ++ [')']) = some content.length

theorem isBalanced_of_plain {content : List Char} (h : Plain content) : IsBalanced content := by
  unfold IsBalanced
  induction content with
  | nil => rfl
  | cons c content ih =>
    obtain ⟨hopen, hclose, -⟩ := h c List.mem_cons_self
    rw [List.cons_append, closing_cons, if_neg hopen, if_neg hclose,
      ih fun d hd => h d (List.mem_cons_of_mem c hd)]
    rfl

/-- A text that ends with its only expansion. -/
theorem expansions_append_text {a content : List Char} (ha : Plain a) (h : IsBalanced content)
    (sigil : Sigil) :
    expansions (a ++ sigil.char :: '(' :: (content ++ [')'])) =
      [⟨sigil, content, a.length, a.length + content.length + 3⟩] := by
  have hskip : expansionsFrom (a.length + 1) (content.length + 2) ('(' :: (content ++ [')'])) = [] := by
    have hlength : ('(' :: (content ++ [')'])).length ≤ content.length + 2 := by simp
    rw [← List.append_nil ('(' :: (content ++ [')'])), expansionsFrom_skip hlength,
      expansionsFrom_nil]
  rw [expansions, expansionsFrom_plain_append ha, Nat.zero_add,
    expansionsFrom_of_front? (front?_of_closing h sigil), hskip]
  simp

end Conch.Line
