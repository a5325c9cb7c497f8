import Mathlib
import Conch.Text.Pattern

/-!
# What patterns take

Where a pattern fits, it takes a piece of what is behind the place, and goes on behind that piece. The
piece is never longer than the rest of the text, and a pattern's shape tells how long it is at least.
A repeated character is taken as long as it is there.
-/

namespace Conch.Text

namespace Place

@[simp] theorem advance_zero (here : Place) : here.advance 0 = here := rfl

@[simp] theorem after_advance (n : Nat) (here : Place) :
    (here.advance n).after = here.after.drop n := rfl

@[simp] theorem offset_advance (n : Nat) (here : Place) :
    (here.advance n).offset = here.offset + n := rfl

theorem advance_advance (m n : Nat) (here : Place) :
    (here.advance m).advance n = here.advance (m + n) := by
  simp [advance, List.take_add, Nat.add_assoc]

theorem advance_one {here : Place} {c : Char} {rest : List Char} (h : here.after = c :: rest) :
    here.advance 1 = ⟨c :: here.before, rest, here.offset + 1⟩ := by
  simp [advance, h]

end Place

namespace Pattern

/-- A walk goes on at a place further on in the text, or where it is. -/
def GoesOn (step : Place → Next → Option (List Nat)) (fewest : Nat) : Prop :=
  ∀ {here next lengths}, step here next = some lengths →
    ∃ n, fewest ≤ n ∧ n ≤ here.after.length ∧ next (here.advance n) = some lengths

theorem GoesOn.weaken {step : Place → Next → Option (List Nat)} {m n : Nat} (h : GoesOn step m)
    (hn : n ≤ m) : GoesOn step n := by
  intro here next lengths hstep
  obtain ⟨k, hk, hrest⟩ := h hstep
  exact ⟨k, hn.trans hk, hrest⟩

theorem GoesOn.again {step run : Place → Next → Option (List Nat)} (h : GoesOn step 0)
    (hrun : GoesOn run 0) {here : Place} {next : Next} {lengths : List Nat}
    (hstep : (step here fun there =>
      if there.offset > here.offset then run there next else none) = some lengths) :
    ∃ n, 0 ≤ n ∧ n ≤ here.after.length ∧ next (here.advance n) = some lengths := by
  obtain ⟨m, -, hm, hthere⟩ := h hstep
  obtain ⟨-, hthere⟩ := Option.ite_none_right_eq_some.mp hthere
  obtain ⟨n, -, hn, hnext⟩ := hrun hthere
  rw [Place.advance_advance] at hnext
  rw [Place.after_advance, List.length_drop] at hn
  exact ⟨m + n, Nat.zero_le _, by omega, hnext⟩

theorem most_goesOn {step : Place → Next → Option (List Nat)} (h : GoesOn step 0) (k : Nat) :
    GoesOn (most step k) 0 := by
  induction k with
  | zero =>
    intro here next lengths hnext
    exact ⟨0, le_rfl, Nat.zero_le _, hnext⟩
  | succ k ih =>
    intro here next lengths hmost
    rw [most] at hmost
    split at hmost
    next hstep =>
      cases hmost
      exact h.again ih hstep
    next => exact ⟨0, le_rfl, Nat.zero_le _, hmost⟩

theorem least_goesOn {step : Place → Next → Option (List Nat)} (h : GoesOn step 0) (k : Nat) :
    GoesOn (least step k) 0 := by
  induction k with
  | zero =>
    intro here next lengths hnext
    exact ⟨0, le_rfl, Nat.zero_le _, hnext⟩
  | succ k ih =>
    intro here next lengths hleast
    rw [least] at hleast
    split at hleast
    next hnext =>
      cases hleast
      exact ⟨0, le_rfl, Nat.zero_le _, hnext⟩
    next => exact h.again ih hleast

/-- The fewest characters that a pattern can take, by its shape. -/
def fewest : Pattern → Nat
  | nothing => 0
  | one _ => 1
  | sequence first second => first.fewest + second.fewest
  | choice first second => min first.fewest second.fewest
  | many _ => 0
  | few _ => 0
  | ahead _ => 0
  | notAhead _ => 0
  | edge _ => 0

theorem walk_goesOn (p : Pattern) : GoesOn p.walk p.fewest := by
  induction p with
  | nothing =>
    intro here next lengths h
    exact ⟨0, le_rfl, Nat.zero_le _, h⟩
  | one test =>
    intro here next lengths h
    rw [walk] at h
    split at h
    · cases h
    next c rest hafter =>
      obtain ⟨-, h⟩ := Option.ite_none_right_eq_some.mp h
      rw [← Place.advance_one hafter] at h
      exact ⟨1, le_rfl, by simp [hafter], h⟩
  | sequence first second ihfirst ihsecond =>
    intro here next lengths h
    rw [walk] at h
    obtain ⟨m, hm, hm', h⟩ := ihfirst h
    obtain ⟨n, hn, hn', h⟩ := ihsecond h
    rw [Place.advance_advance] at h
    rw [Place.after_advance, List.length_drop] at hn'
    exact ⟨m + n, Nat.add_le_add hm hn, by omega, h⟩
  | choice first second ihfirst ihsecond =>
    intro here next lengths h
    rw [walk] at h
    split at h
    next hfirst =>
      cases h
      exact ihfirst.weaken (Nat.min_le_left _ _) hfirst
    next => exact ihsecond.weaken (Nat.min_le_right _ _) h
  | many part ih =>
    intro here next lengths h
    rw [walk] at h
    exact most_goesOn (ih.weaken (Nat.zero_le _)) _ h
  | few part ih =>
    intro here next lengths h
    rw [walk] at h
    exact least_goesOn (ih.weaken (Nat.zero_le _)) _ h
  | ahead part =>
    intro here next lengths h
    rw [walk] at h
    exact ⟨0, le_rfl, Nat.zero_le _, (Option.ite_none_right_eq_some.mp h).2⟩
  | notAhead part =>
    intro here next lengths h
    rw [walk] at h
    exact ⟨0, le_rfl, Nat.zero_le _, (Option.ite_none_left_eq_some.mp h).2⟩
  | edge test =>
    intro here next lengths h
    rw [walk] at h
    exact ⟨0, le_rfl, Nat.zero_le _, (Option.ite_none_right_eq_some.mp h).2⟩

/-- Adjacent pieces: one length for each pattern, and together no more than there is. -/
theorem of_lengths_eq_some {ps : List Pattern} {here : Place} {ns : List Nat}
    (h : lengths ps here = some ns) :
    ns.length = ps.length ∧ (ps.map fewest).sum ≤ ns.sum ∧ ns.sum ≤ here.after.length := by
  induction ps generalizing here ns with
  | nil =>
    cases h
    simp
  | cons p ps ih =>
    rw [lengths] at h
    obtain ⟨n, hn, hn', h⟩ := p.walk_goesOn h
    obtain ⟨ns', hns', rfl⟩ := Option.map_eq_some_iff.mp h
    obtain ⟨hlength, hfewest, hsum⟩ := ih hns'
    rw [Place.after_advance, List.length_drop] at hsum
    simp only [List.length_cons, List.map_cons, List.sum_cons, Place.offset_advance]
    omega

/-- A repetition fits wherever one can go on without it. -/
theorem walk_many_isSome (part : Pattern) {here : Place} {next : Next}
    (h : (next here).isSome = true) : ((many part).walk here next).isSome = true := by
  rw [walk]
  cases here.after.length with
  | zero => exact h
  | succ n =>
    rw [most]
    split
    · rfl
    · exact h

theorem walk_oneOrMore_isSome {test : Char → Bool} {c : Char} {rest : List Char} {here : Place}
    {next : Next} (hafter : here.after = c :: rest) (hc : test c = true)
    (hnext : ∀ there, (next there).isSome = true) :
    ((oneOrMore (one test)).walk here next).isSome = true := by
  rw [oneOrMore, walk, walk]
  simp only [hafter, hc, if_true]
  exact walk_many_isSome _ (hnext _)

/-- A character that passes a test is taken as often as it is there. -/
theorem walk_many_one {test : Char → Bool} {s rest : List Char} {here : Place} {next : Next}
    {lengths : List Nat} (hafter : here.after = s ++ rest) (hs : ∀ c ∈ s, test c = true)
    (hrest : ∀ c ∈ rest.head?, test c = false)
    (hnext : next (here.advance s.length) = some lengths) :
    (many (one test)).walk here next = some lengths := by
  rw [walk]
  have henough : s.length ≤ here.after.length := by simp [hafter]
  generalize here.after.length = k at henough
  induction s generalizing here k with
  | nil =>
    cases k with
    | zero => exact hnext
    | succ k =>
      rw [most, walk]
      rw [List.nil_append] at hafter
      cases rest with
      | nil =>
        simp only [hafter]
        exact hnext
      | cons c rest =>
        simp only [hafter, hrest c rfl]
        exact hnext
  | cons c s ih =>
    obtain ⟨hc, hs⟩ := List.forall_mem_cons.mp hs
    cases k with
    | zero => simp at henough
    | succ k =>
      have hrun : most (walk (one test)) k (here.advance 1) next = some lengths := by
        apply ih _ hs
        · rw [Place.advance_advance, Nat.add_comm]
          exact hnext
        · simpa using henough
        · simp [hafter]
      rw [List.cons_append] at hafter
      rw [Place.advance_one hafter] at hrun
      rw [most, walk]
      simp [hafter, hc, hrun]

end Pattern

end Conch.Text
