import Mathlib
import Conch.Proofs.Effect
import Conch.Shell.Expand

/-!
# Expanding a text by its expansions

Expanding a text performs the expansions that `expansions` finds in it, from left to right, each
after its own content has been expanded by the same rule, and puts what they give between the gaps
of the text. The contents are shorter than the text, so the rule settles every text, and the loop
that rewrites a text in place gives the same. An error is met by one evaluation, and what is raised
is that error reported by the expansions around it.
-/

namespace Conch.Shell.Performer

open Line

variable {ε σ : Type} (p : Performer ε σ)

/-- The gaps of a text from a position on, with a value behind each. -/
def weave (text : List Char) (position : Nat) : List Expansion → List (List Char) → List Char
  | e :: es, v :: vs =>
    (text.drop position).take (e.start - position) ++ v ++ weave text e.stop es vs
  | _, _ => text.drop position

/-- Performs an expansion: first its content is expanded by `inner`. Errors are reported. -/
def evaluateWith (inner : List Char → ExceptT ε (StateM σ) (List Char)) (e : Expansion) :
    ExceptT ε (StateM σ) (List Char) :=
  tryCatch (do p.perform e.sigil (← inner e.content)) fun r => do
    throw (← p.report e.sigil e.content r)

/-- Performs an expansion of a text. -/
def evaluate (e : Expansion) : ExceptT ε (StateM σ) (List Char) := p.evaluateWith p.expand e

theorem le_start_of_mem {text : List Char} {i skip : Nat} {e : Expansion}
    (h : e ∈ expansionsFrom i skip text) : i + skip ≤ e.start := by
  induction text generalizing i skip with
  | nil => simp [expansionsFrom] at h
  | cons c rest ih =>
    unfold expansionsFrom at h
    split at h
    · have hle := ih h
      omega
    · split at h
      · have hle := ih h
        omega
      · split at h
        · have hle := ih h
          omega
        · obtain rfl | h := List.mem_cons.mp h
          · simp
          · have hle := ih h
            omega

theorem content_length_lt_of_mem {text : List Char} {i skip : Nat} {e : Expansion}
    (h : e ∈ expansionsFrom i skip text) : e.content.length < text.length := by
  induction text generalizing i skip with
  | nil => simp [expansionsFrom] at h
  | cons c rest ih =>
    have hrest (i skip : Nat) (h : e ∈ expansionsFrom i skip rest) :
        e.content.length < (c :: rest).length := Nat.lt_succ_of_lt (ih h)
    unfold expansionsFrom at h
    split at h
    · exact hrest _ _ h
    · split at h
      · exact hrest _ _ h
      · split at h
        · exact hrest _ _ h
        · obtain rfl | h := List.mem_cons.mp h
          · simp only [List.length_take, List.length_drop, List.length_cons]
            omega
          · exact hrest _ _ h

theorem expandWith_congr {inner inner' : List Char → ExceptT ε (StateM σ) (List Char)}
    {text : List Char} (h : ∀ content, content.length < text.length → inner content = inner' content)
    (skip : Nat) : p.expandWith inner skip text = p.expandWith inner' skip text := by
  induction text generalizing skip with
  | nil => rfl
  | cons c rest ih =>
    have hrest := ih fun content hlt => h content (Nat.lt_succ_of_lt hlt)
    cases skip with
    | succ k => simpa only [expandWith] using hrest k
    | zero =>
      have hcontent (k : Nat) : inner ((rest.drop 1).take k) = inner' ((rest.drop 1).take k) := by
        apply h
        simp only [List.length_take, List.length_drop, List.length_cons]
        omega
      simp only [expandWith, hcontent, hrest]

/-- Bounds above the length of the text are all the same. -/
theorem expandTo_eq_expandTo {depth depth' : Nat} {text : List Char} (h : text.length < depth)
    (h' : text.length < depth') : p.expandTo depth text = p.expandTo depth' text := by
  induction depth generalizing text depth' with
  | zero => omega
  | succ depth ih =>
    cases depth' with
    | zero => omega
    | succ depth' =>
      rw [expandTo, expandTo]
      exact p.expandWith_congr (fun content hlt => ih (by omega) (by omega)) 0

theorem expand_eq_expandWith (text : List Char) : p.expand text = p.expandWith p.expand 0 text := by
  rw [expand, expandTo]
  exact p.expandWith_congr (fun content h => p.expandTo_eq_expandTo h (Nat.lt_succ_self _)) 0

/-- Expands a text in place, from a position on. What an expansion gives is put into the text, and the
loop goes on behind it. -/
def expandInPlace (inner : List Char → ExceptT ε (StateM σ) (List Char)) (result : List Char)
    (i : Nat) : ExceptT ε (StateM σ) (List Char) :=
  if i < result.length then
    match opening? (result.drop i), closing 0 (result.drop (i + 2)) with
    | some sigil, some k => do
      let given ← p.evaluateWith inner ⟨sigil, (result.drop (i + 2)).take k, i, i + k + 3⟩
      expandInPlace inner (result.take i ++ given ++ result.drop (i + k + 3)) (i + given.length)
    | _, _ => expandInPlace inner result (i + 1)
  else return result
termination_by result.length - i
decreasing_by
  · simp only [List.length_append, List.length_take, List.length_drop]
    omega
  · omega

/-- Characters that are passed over do not matter. -/
theorem expandWith_eq_drop (inner : List Char → ExceptT ε (StateM σ) (List Char)) (skip : Nat)
    (rest : List Char) : p.expandWith inner skip rest = p.expandWith inner 0 (rest.drop skip) := by
  induction rest generalizing skip with
  | nil => simp [expandWith]
  | cons c rest ih =>
    cases skip with
    | zero => rfl
    | succ k => rw [expandWith, ih, List.drop_succ_cons]

/-- Behind a front that is done, the loop adds what the rest is expanded to. -/
theorem expandInPlace_append (inner : List Char → ExceptT ε (StateM σ) (List Char))
    (front rest : List Char) :
    p.expandInPlace inner (front ++ rest) front.length =
      (front ++ ·) <$> p.expandWith inner 0 rest := by
  induction hn : rest.length using Nat.strong_induction_on generalizing front rest with
  | _ n ih =>
    cases rest with
    | nil => simp [expandInPlace, expandWith]
    | cons c rest =>
      have hlt : front.length < (front ++ c :: rest).length := by simp
      have hdrop (k : Nat) : (front ++ c :: rest).drop (front.length + k) = (c :: rest).drop k := by
        simp
      have hrest : rest.length < n := by simp [← hn]
      -- a character that opens no expansion belongs to the front
      have hplain : p.expandInPlace inner (front ++ c :: rest) (front.length + 1) =
          (front ++ ·) <$> (do return c :: (← p.expandWith inner 0 rest)) := by
        have hnext := ih _ hrest (front ++ [c]) rest rfl
        simpa [Function.comp_def] using hnext
      rw [expandInPlace, if_pos hlt, hdrop 2, ← Nat.add_zero front.length, hdrop 0, Nat.add_zero,
        List.drop_zero, List.drop_succ_cons]
      cases hopen : opening? (c :: rest) with
      | none => simpa only [expandWith, hopen] using hplain
      | some sigil =>
        cases hclose : closing 0 (rest.drop 1) with
        | none => simpa only [expandWith, hopen, hclose] using hplain
        | some k =>
          have hnext (given : List Char) : p.expandInPlace inner
              (front ++ given ++ rest.drop (k + 2)) (front.length + given.length) =
                (front ++ given ++ ·) <$> p.expandWith inner (k + 2) rest := by
            have hshort : (rest.drop (k + 2)).length < n := by
              rw [List.length_drop]
              omega
            rw [expandWith_eq_drop, ← List.length_append]
            exact ih _ hshort (front ++ given) _ rfl
          simp only [expandWith, hopen, hclose, Nat.add_assoc, hdrop, List.take_left,
            List.drop_succ_cons, hnext, evaluateWith]
          simp

/-- Texts are expanded by the loop from their start on, with contents expanded in the same way, and
nothing else expands them so. -/
theorem eq_expand_iff {f : List Char → ExceptT ε (StateM σ) (List Char)} :
    f = p.expand ↔ ∀ text, f text = p.expandInPlace f text 0 := by
  have hloop (inner : List Char → ExceptT ε (StateM σ) (List Char)) (text : List Char) :
      p.expandInPlace inner text 0 = p.expandWith inner 0 text := by
    simpa using p.expandInPlace_append inner [] text
  simp only [hloop]
  constructor
  · rintro rfl text
    exact p.expand_eq_expandWith text
  · intro h
    funext text
    induction hn : text.length using Nat.strong_induction_on generalizing text with
    | _ n ih =>
      rw [h text, expand_eq_expandWith]
      exact p.expandWith_congr (fun content hlt => ih _ (hn ▸ hlt) content rfl) 0

/-- A character in front of the first expansion belongs to the first gap. -/
theorem weave_succ {text rest : List Char} {c : Char} {position : Nat}
    (h : text.drop position = c :: rest) {es : List Expansion}
    (hes : ∀ e ∈ es, position + 1 ≤ e.start) (vs : List (List Char)) :
    weave text position es vs = c :: weave text (position + 1) es vs := by
  have hrest : text.drop (position + 1) = rest := by
    rw [← List.drop_drop, h, List.drop_one, List.tail_cons]
  have hdrop : text.drop position = c :: text.drop (position + 1) := by rw [h, hrest]
  match es, vs with
  | [], _ | _ :: _, [] => simpa only [weave] using hdrop
  | e :: es, v :: vs =>
    have hstart : e.start - position = e.start - (position + 1) + 1 := by
      have hle := hes e List.mem_cons_self
      omega
    simp only [weave, hdrop, hstart, List.take_succ_cons, List.cons_append]

/-- What expanding the rest of a text comes to, when `skip` of its characters belong to an expansion
that is already performed. -/
theorem expandWith_eq_weave (inner : List Char → ExceptT ε (StateM σ) (List Char))
    {text rest : List Char} {i skip : Nat} (h : text.drop i = rest) :
    p.expandWith inner skip rest = do
      let vs ← (expansionsFrom i skip rest).mapM (p.evaluateWith inner)
      return weave text (i + skip) (expansionsFrom i skip rest) vs := by
  induction rest generalizing i skip with
  | nil =>
    have hnil : text.drop (i + skip) = [] := by rw [← List.drop_drop, h, List.drop_nil]
    simp [expandWith, expansionsFrom, weave, hnil]
  | cons c rest ih =>
    have hrest : text.drop (i + 1) = rest := by
      rw [← List.drop_drop, h, List.drop_one, List.tail_cons]
    cases skip with
    | succ k =>
      rw [expandWith, expansionsFrom, ih hrest, show i + 1 + k = i + (k + 1) by omega]
    | zero =>
      -- a character that opens no expansion: the first gap starts with it
      have hplain : (do return c :: (← p.expandWith inner 0 rest)) = (do
          let vs ← (expansionsFrom (i + 1) 0 rest).mapM (p.evaluateWith inner)
          return weave text (i + 0) (expansionsFrom (i + 1) 0 rest) vs) := by
        have hstarts : ∀ e ∈ expansionsFrom (i + 1) 0 rest, i + 1 ≤ e.start := by
          intro e he
          simpa using le_start_of_mem he
        rw [ih hrest]
        simp [weave_succ h hstarts]
      cases hopen : opening? (c :: rest) with
      | none => simpa only [expandWith, expansionsFrom, hopen] using hplain
      | some sigil =>
        cases hclose : closing 0 (rest.drop 1) with
        | none => simpa only [expandWith, expansionsFrom, hopen, hclose] using hplain
        | some k =>
          simp only [expandWith, expansionsFrom, hopen, hclose, ih hrest, List.mapM_cons,
            bind_assoc, pure_bind, weave, show i + 1 + (k + 2) = i + k + 3 by omega]
          simp [evaluateWith]

/-- Expanding a text performs its expansions from left to right and weaves what they give into its
gaps. -/
theorem expand_eq_weave (text : List Char) :
    p.expand text = do
      let vs ← (expansions text).mapM p.evaluate
      return weave text 0 (expansions text) vs := by
  rw [expand_eq_expandWith, p.expandWith_eq_weave p.expand (List.drop_zero : text.drop 0 = text)]
  rfl

/-- An evaluation meets an error when a text is expanded: all expansions in front of it went well,
and so did what its own content asks for. `around` holds the expansions that it happens in, from the
one that was to be performed outwards. -/
inductive Meets : List Char → σ → List Expansion → ε → σ → Prop
  | own {text : List Char} {before after : List Expansion} {e : Expansion} {vs : List (List Char)}
      {content : List Char} {r : ε} {s s₁ s₂ s₃ : σ}
      (split : expansions text = before ++ e :: after)
      (front : before.mapM p.evaluate s = (.ok vs, s₁))
      (inner : p.expand e.content s₁ = (.ok content, s₂))
      (error : p.perform e.sigil content s₂ = (.error r, s₃)) : Meets text s [e] r s₃
  | inside {text : List Char} {before after around : List Expansion} {e : Expansion}
      {vs : List (List Char)} {r : ε} {s s₁ s₂ : σ}
      (split : expansions text = before ++ e :: after)
      (front : before.mapM p.evaluate s = (.ok vs, s₁))
      (inner : Meets e.content s₁ around r s₂) : Meets text s (around ++ [e]) r s₂

theorem Meets.around_ne_nil {p : Performer ε σ} {text : List Char} {around : List Expansion} {r : ε}
    {s t : σ} (h : p.Meets text s around r t) : around ≠ [] := by
  cases h <;> simp

/-- An error and a state after an expansion has reported the error. An error met in reporting takes
the place of the reported one. -/
def reported (at? : ε × σ) (e : Expansion) : ε × σ :=
  match p.report e.sigil e.content at?.1 at?.2 with
  | (.ok r, s) | (.error r, s) => (r, s)

/-- Performing an expansion raises what its body raises, reported. -/
theorem evaluate_apply (e : Expansion) (s : σ) :
    p.evaluate e s =
      match (p.expand e.content >>= p.perform e.sigil) s with
      | (.ok v, t) => (.ok v, t)
      | (.error r, t) => Prod.map .error id (p.reported (r, t) e) := by
  have happly := Effect.tryCatch_apply (p.expand e.content >>= p.perform e.sigil)
    (fun r => do throw (← p.report e.sigil e.content r)) s
  rw [evaluate, evaluateWith, happly]
  rcases (p.expand e.content >>= p.perform e.sigil) s with ⟨r | v, t⟩
  · simp only [Effect.bind_apply, reported]
    rcases p.report e.sigil e.content r t with ⟨_ | _, u⟩ <;> rfl
  · rfl

/-- A text raises what its first failing expansion raises. -/
theorem expand_of_evaluate_error {text : List Char} {before after : List Expansion} {e : Expansion}
    {vs : List (List Char)} {r : ε} {s s₁ s₂ : σ} (split : expansions text = before ++ e :: after)
    (front : before.mapM p.evaluate s = (.ok vs, s₁)) (error : p.evaluate e s₁ = (.error r, s₂)) :
    p.expand text s = (.error r, s₂) := by
  simp only [expand_eq_weave, split, List.mapM_append, List.mapM_cons, Effect.bind_apply, front,
    error]

/-- What is raised is the error that an evaluation meets, reported by the expansions around it; no
other expansion takes part. -/
theorem expand_of_meets {text : List Char} {around : List Expansion} {r : ε} {s t : σ}
    (h : p.Meets text s around r t) :
    p.expand text s = Prod.map .error id (around.foldl p.reported (r, t)) := by
  induction h with
  | own split front inner error =>
    apply p.expand_of_evaluate_error split front
    simp only [evaluate_apply, Effect.bind_apply, inner, error]
    rfl
  | inside split front inner ih =>
    apply p.expand_of_evaluate_error split front
    rw [evaluate_apply, Effect.bind_apply, ih, List.foldl_append]
    rfl

/-- A text that raises an error has an evaluation that meets one. -/
theorem exists_meets_of_expand_error {text : List Char} {r : ε} {s t : σ}
    (h : p.expand text s = (.error r, t)) : ∃ around r' t', p.Meets text s around r' t' := by
  induction hn : text.length using Nat.strong_induction_on generalizing text r s t with
  | _ n ih =>
    obtain ⟨r, t, hmap⟩ : ∃ r t, (expansions text).mapM p.evaluate s = (.error r, t) := by
      rw [expand_eq_weave, Effect.bind_apply] at h
      rcases hmap : (expansions text).mapM p.evaluate s with ⟨r' | vs, t'⟩
      · exact ⟨r', t', rfl⟩
      · simp only [hmap, Effect.pure_apply] at h
        cases h
    obtain ⟨before, e, after, vs, s₁, split, front, error⟩ := Effect.exists_of_mapM_error hmap
    have hmem : e ∈ expansions text := by simp [split]
    have hlt : e.content.length < n := hn ▸ content_length_lt_of_mem hmem
    rcases inner : p.expand e.content s₁ with ⟨r₁ | content, s₂⟩
    · obtain ⟨around, r', t', hmeets⟩ := ih _ hlt inner rfl
      exact ⟨_, _, _, .inside split front hmeets⟩
    · rcases hperform : p.perform e.sigil content s₂ with ⟨r₁ | v, s₃⟩
      · exact ⟨_, _, _, .own split front inner hperform⟩
      · simp only [evaluate_apply, Effect.bind_apply, inner, hperform] at error
        cases error

end Conch.Shell.Performer
