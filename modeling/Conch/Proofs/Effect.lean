import Mathlib
import Conch.Eval.Value

/-!
# Computations with errors and a state

A computation takes a state to a result or an error, and to a new state in both cases. One law for
each way of putting computations together says what the whole does to a state, so that a run can be
followed step by step.
-/

namespace Conch.Effect

variable {ε σ α β : Type}

/-- Goes on with a value; an error ends the computation and keeps the state it left. -/
theorem bind_apply (x : ExceptT ε (StateM σ) α) (f : α → ExceptT ε (StateM σ) β) (s : σ) :
    (x >>= f) s = match x s with
      | (.ok a, t) => f a t
      | (.error e, t) => (.error e, t) := by
  change (ExceptT.bindCont f (x s).1) (x s).2 = _
  rcases x s with ⟨_ | _, t⟩ <;> rfl

/-- What goes well as a whole has gone well in its first part. -/
theorem exists_of_bind_ok {x : ExceptT ε (StateM σ) α} {f : α → ExceptT ε (StateM σ) β} {s u : σ}
    {b : β} (h : (x >>= f) s = (.ok b, u)) :
    ∃ a t, x s = (.ok a, t) ∧ f a t = (.ok b, u) := by
  rw [bind_apply] at h
  rcases hx : x s with ⟨e | a, t⟩
  · rw [hx] at h
    cases h
  · rw [hx] at h
    exact ⟨a, t, rfl, h⟩

theorem pure_apply (a : α) (s : σ) : (pure a : ExceptT ε (StateM σ) α) s = (.ok a, s) := rfl

theorem throw_apply (e : ε) (s : σ) :
    (throw e : ExceptT ε (StateM σ) α) s = (.error e, s) := rfl

theorem map_apply (f : α → β) (x : ExceptT ε (StateM σ) α) (s : σ) :
    (f <$> x) s = match x s with
      | (.ok a, t) => (.ok (f a), t)
      | (.error e, t) => (.error e, t) := by
  change (match (x s).1 with
    | .ok a => (pure (Except.ok (f a)) : StateM σ (Except ε β))
    | .error e => pure (Except.error e)) (x s).2 = _
  rcases x s with ⟨_ | _, t⟩ <;> rfl

theorem tryCatch_apply (x : ExceptT ε (StateM σ) α) (handler : ε → ExceptT ε (StateM σ) α) (s : σ) :
    (tryCatch x handler) s = match x s with
      | (.ok a, t) => (.ok a, t)
      | (.error e, t) => handler e t := by
  change (match (x s).1 with
    | .ok a => (pure (Except.ok a) : StateM σ (Except ε α))
    | .error e => handler e) (x s).2 = _
  rcases x s with ⟨_ | _, t⟩ <;> rfl

theorem map_tryCatch (f : α → β) (x : ExceptT ε (StateM σ) α)
    (handler : ε → ExceptT ε (StateM σ) α) :
    f <$> tryCatch x handler = tryCatch (f <$> x) fun e => f <$> handler e := by
  funext s
  rw [map_apply, tryCatch_apply, tryCatch_apply, map_apply]
  rcases x s with ⟨e | a, t⟩
  · exact (map_apply f (handler e) t).symm
  · rfl

theorem get_apply (s : σ) : (get : ExceptT ε (StateM σ) σ) s = (.ok s, s) := rfl

theorem set_apply (t s : σ) : (set t : ExceptT ε (StateM σ) PUnit) s = (.ok (), t) := rfl

/-- A run over a list that meets an error: the items in front went well, and one item met it. -/
theorem exists_of_mapM_error {f : α → ExceptT ε (StateM σ) β} {xs : List α} {e : ε} {s t : σ}
    (h : xs.mapM f s = (.error e, t)) :
    ∃ before x after ys u, xs = before ++ x :: after ∧ before.mapM f s = (.ok ys, u) ∧
      f x u = (.error e, t) := by
  induction xs generalizing s with
  | nil => cases h
  | cons x xs ih =>
    rw [List.mapM_cons, bind_apply] at h
    rcases hx : f x s with ⟨e' | y, u⟩
    · rw [hx] at h
      cases h
      exact ⟨[], x, xs, [], s, rfl, rfl, hx⟩
    · rcases hxs : xs.mapM f u with ⟨e' | ys, v⟩
      · simp only [hx, bind_apply, hxs] at h
        cases h
        obtain ⟨before, z, after, zs, w, rfl, hbefore, hz⟩ := ih hxs
        refine ⟨x :: before, z, after, y :: zs, w, rfl, ?_, hz⟩
        simp only [List.mapM_cons, bind_apply, hx, hbefore, pure_apply]
      · simp only [hx, bind_apply, hxs, pure_apply] at h
        cases h

/-- A computation that only looks at the state: it gives a result and leaves the state as it is. -/
def Silent (x : ExceptT ε (StateM σ) α) : Prop := ∀ s, ∃ a, x s = (.ok a, s)

theorem silent_pure (a : α) : Silent (pure a : ExceptT ε (StateM σ) α) := fun _ => ⟨a, rfl⟩

theorem silent_bind {x : ExceptT ε (StateM σ) α} {f : α → ExceptT ε (StateM σ) β} (hx : Silent x)
    (hf : ∀ a, Silent (f a)) : Silent (x >>= f) := by
  intro s
  obtain ⟨a, ha⟩ := hx s
  obtain ⟨b, hb⟩ := hf a s
  exact ⟨b, by simp only [bind_apply, ha, hb]⟩

theorem silent_map (f : α → β) {x : ExceptT ε (StateM σ) α} (hx : Silent x) : Silent (f <$> x) := by
  intro s
  obtain ⟨a, ha⟩ := hx s
  exact ⟨f a, by simp only [map_apply, ha]⟩

theorem silent_mapM {f : α → ExceptT ε (StateM σ) β} (hf : ∀ a, Silent (f a)) (xs : List α) :
    Silent (xs.mapM f) := by
  induction xs with
  | nil => exact silent_pure []
  | cons x xs ih =>
    rw [List.mapM_cons]
    exact silent_bind (hf x) fun y => silent_bind ih fun ys => silent_pure (y :: ys)

/-- Each result of a run over a list that only looks at the state is the result for one item. -/
theorem exists_of_mem_mapM {f : α → ExceptT ε (StateM σ) β} (hf : ∀ a, Silent (f a)) {xs : List α}
    {ys : List β} {s t : σ} (h : xs.mapM f s = (.ok ys, t)) {y : β} (hy : y ∈ ys) :
    ∃ x ∈ xs, f x s = (.ok y, s) := by
  induction xs generalizing ys with
  | nil =>
    cases h
    simp at hy
  | cons x xs ih =>
    obtain ⟨z, hz⟩ := hf x s
    obtain ⟨zs, hzs⟩ := silent_mapM hf xs s
    simp only [List.mapM_cons, bind_apply, hz, hzs, pure_apply] at h
    cases h
    obtain rfl | hy := List.mem_cons.mp hy
    · exact ⟨x, List.mem_cons_self, hz⟩
    · obtain ⟨x', hx', hy⟩ := ih hzs hy
      exact ⟨x', List.mem_cons_of_mem x hx', hy⟩

end Conch.Effect
