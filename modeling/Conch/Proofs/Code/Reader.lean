import Mathlib
import Conch.Code.Reader
import Conch.Proofs.Effect

/-!
# What readers take

A reader takes tokens off the front and gives a value. How far it looked ahead only counts for
reports, so `Reads` leaves that open, and each way of putting readers together has one law.
-/

namespace Conch.Code.Reader

variable {α β : Type} {ts mid rest : List Token} {t : Token}

/-- A reader gives a value and leaves the rest of the tokens, however many were taken and looked at
before. -/
def Reads (p : Reader α) (ts : List Token) (a : α) (rest : List Token) : Prop :=
  ∀ taken seen, ∃ taken' seen', p ⟨ts, taken, seen⟩ = (.ok a, ⟨rest, taken', seen'⟩)

theorem reads_pure (a : α) : Reads (pure a) ts a ts := fun taken seen => ⟨taken, seen, rfl⟩

theorem Reads.bind {p : Reader α} {f : α → Reader β} {a : α} {b : β} (hp : Reads p ts a mid)
    (hf : Reads (f a) mid b rest) : Reads (p >>= f) ts b rest := by
  intro taken seen
  obtain ⟨taken', seen', hp⟩ := hp taken seen
  obtain ⟨taken'', seen'', hf⟩ := hf taken' seen'
  exact ⟨taken'', seen'', by rw [Effect.bind_apply, hp]; exact hf⟩

theorem Reads.map {p : Reader α} {a : α} (hp : Reads p ts a rest) (f : α → β) :
    Reads (f <$> p) ts (f a) rest := by
  intro taken seen
  obtain ⟨taken', seen', hp⟩ := hp taken seen
  exact ⟨taken', seen', by rw [Effect.map_apply, hp]⟩

/-- A token that is none. -/
def IsFault (t : Token) : Prop := ∃ cause, t.kind = .fault cause

theorem reads_peek (h : ¬IsFault t) : Reads peek (t :: ts) t (t :: ts) := by
  intro taken seen
  refine ⟨taken, max seen (taken + 1), ?_⟩
  simp only [peek, Effect.bind_apply, Effect.get_apply, Effect.set_apply]
  cases hkind : t.kind with
  | fault cause => exact absurd ⟨cause, hkind⟩ h
  | _ => rfl

theorem reads_peekSecond {u : Token} (h : ¬IsFault u) :
    Reads peekSecond (t :: u :: ts) u (t :: u :: ts) := by
  intro taken seen
  refine ⟨taken, max seen (taken + 2), ?_⟩
  simp only [peekSecond, Effect.bind_apply, Effect.get_apply, Effect.set_apply]
  cases hkind : u.kind with
  | fault cause => exact absurd ⟨cause, hkind⟩ h
  | _ => rfl

theorem reads_drop : Reads drop (t :: ts) () ts := fun taken seen => ⟨taken + 1, seen, rfl⟩

theorem reads_nextMark (h : ¬IsFault t) (m : String) :
    Reads (nextMark m) (t :: ts) (isMark t m) (t :: ts) :=
  (reads_peek h).bind (reads_pure _)

theorem reads_nextWord (h : ¬IsFault t) (w : String) :
    Reads (nextWord w) (t :: ts) (isWord t w) (t :: ts) :=
  (reads_peek h).bind (reads_pure _)

theorem reads_mark?_false (h : ¬IsFault t) {m : String} (hm : isMark t m = false) :
    Reads (mark? m) (t :: ts) false (t :: ts) := by
  refine (reads_nextMark h m).bind ?_
  rw [hm]
  exact reads_pure false

theorem reads_mark?_true (h : ¬IsFault t) {m : String} (hm : isMark t m = true) :
    Reads (mark? m) (t :: ts) true ts := by
  refine (reads_nextMark h m).bind ?_
  rw [hm]
  exact reads_drop.bind (reads_pure true)

theorem reads_mark (h : ¬IsFault t) {m : String} (hm : isMark t m = true) :
    Reads (mark m) (t :: ts) () ts :=
  (reads_mark?_true h hm).bind (reads_pure ())

theorem reads_word?_false (h : ¬IsFault t) {w : String} (hw : isWord t w = false) :
    Reads (word? w) (t :: ts) false (t :: ts) := by
  refine (reads_nextWord h w).bind ?_
  rw [hw]
  exact reads_pure false

theorem reads_name (h : ¬IsFault t) (hname : isName t = true) :
    Reads name (t :: ts) t.text ts := by
  refine (reads_peek h).bind ?_
  rw [hname]
  exact reads_drop.bind (reads_pure t.text)

theorem reads_markIn?_none (h : ¬IsFault t) {table : List (String × β)}
    (htable : t.kind = .mark → table.lookup t.text = none) :
    Reads (markIn? table) (t :: ts) none (t :: ts) := by
  refine (reads_peek h).bind ?_
  cases hkind : t.kind == .mark with
  | true =>
    simp only [if_pos, htable (beq_iff_eq.mp hkind)]
    exact reads_pure none
  | false => exact reads_pure none

theorem reads_many_nil {p : Reader (Option α)} (h : Reads p ts none ts) :
    Reads (many p) ts [] ts := by
  intro taken seen
  cases ts with
  | nil => exact ⟨taken, seen, rfl⟩
  | cons t ts =>
    obtain ⟨taken', seen', hp⟩ := h taken seen
    refine ⟨taken', seen', ?_⟩
    simp only [many, Effect.bind_apply, Effect.get_apply, List.length_cons, repeatFrom, hp]
    rfl

theorem reads_many_singleton {p : Reader (Option α)} {a : α} (hlength : 2 ≤ ts.length)
    (h : Reads p ts (some a) rest) (h' : Reads p rest none rest) : Reads (many p) ts [a] rest := by
  intro taken seen
  obtain ⟨n, hn⟩ := Nat.exists_eq_add_of_le hlength
  obtain ⟨taken', seen', hp⟩ := h taken seen
  obtain ⟨taken'', seen'', hp'⟩ := h' taken' seen'
  refine ⟨taken'', seen'', ?_⟩
  rw [Nat.add_comm] at hn
  simp only [many, Effect.bind_apply, Effect.get_apply, hn, repeatFrom, hp, hp']
  rfl

theorem reads_extend_none {p : α → Reader (Option α)} {a : α} (h : Reads (p a) ts none ts) :
    Reads (extend a p) ts a ts := by
  intro taken seen
  cases ts with
  | nil => exact ⟨taken, seen, rfl⟩
  | cons t ts =>
    obtain ⟨taken', seen', hp⟩ := h taken seen
    refine ⟨taken', seen', ?_⟩
    simp only [extend, Effect.bind_apply, Effect.get_apply, List.length_cons, extendFrom, hp]
    rfl

/-- One round, and no second one. -/
theorem reads_extend_once {p : α → Reader (Option α)} {a b : α} (hlength : 2 ≤ ts.length)
    (h : Reads (p a) ts (some b) rest) (h' : Reads (p b) rest none rest) :
    Reads (extend a p) ts b rest := by
  intro taken seen
  obtain ⟨n, hn⟩ := Nat.exists_eq_add_of_le hlength
  obtain ⟨taken', seen', hp⟩ := h taken seen
  obtain ⟨taken'', seen'', hp'⟩ := h' taken' seen'
  refine ⟨taken'', seen'', ?_⟩
  rw [Nat.add_comm] at hn
  simp only [extend, Effect.bind_apply, Effect.get_apply, hn, extendFrom, hp, hp']
  rfl

theorem reads_commaSeparated {item : Reader α} {a : α} (hitem : Reads item ts a (t :: rest))
    (h : ¬IsFault t) (hcomma : isMark t "," = false) :
    Reads (commaSeparated item) ts ([a], false) (t :: rest) := by
  have hmore : Reads (many do
      if ← nextMark "," then
        attempt do drop; item
      else return none) (t :: rest) [] (t :: rest) := by
    refine reads_many_nil ((reads_nextMark h ",").bind ?_)
    rw [hcomma]
    exact reads_pure none
  exact hitem.bind (hmore.bind ((reads_mark?_false h hcomma).bind (reads_pure _)))

end Conch.Code.Reader
