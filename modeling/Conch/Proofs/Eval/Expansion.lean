import Mathlib
import Conch.Eval.Library.Shell
import Conch.Proofs.Eval.Class
import Conch.Proofs.Shell.Expand

/-!
# Expansions in commands

The expansions of a command are performed by an evaluator of code and by a runner of commands, and
nothing is assumed of either. An ordinary error becomes a `RuntimeError` that says which expansions it
was met in, provided that the error has a text. A program can give its errors a text that cannot be
made; what is raised then is the error met in making it.
-/

namespace Conch.Eval.Library

open Effect Line

/-- The message of an error as the expansions around it report it, from the inside outwards. -/
def nestedMessage (message : List Char) (around : List Expansion) : List Char :=
  around.foldl (fun message e => expansionMessage e.sigil e.content message) message

/-- A session with more objects. -/
def withObjects (s : Session) (objects : Array Object) : Session :=
  { s with
    store := s.store ++ objects, nonempty := by simpa using Nat.lt_add_right _ s.nonempty }

theorem withObjects_push (s : Session) (o : Object) (objects : Array Object) :
    withObjects (s.push o) objects = withObjects s (#[o] ++ objects) := by
  simp only [withObjects, Session.push, Array.push_eq_append, Array.append_assoc]

/-- The expansions around an error turn it into a `RuntimeError`: it is an ordinary one and its text
can be made, or else the error met in making the text is turned into one further out. -/
def Told (m : Machine) : List Expansion → Raised → Session → Prop
  | [], r, s => r.isA "RuntimeError" s
  | _ :: _, .exhausted, _ => False
  | _ :: around, .exception v, s =>
    (Raised.exception v).isA "Exception" s ∧
      match display m v s with
      | (.ok _, _) => True
      | (.error r, t) => Told m around r t

theorem isA_exception_of_told {m : Machine} {around : List Expansion} {r : Raised} {s : Session}
    (hne : around ≠ []) (h : Told m around r s) : r.isA "Exception" s = true := by
  match around, r with
  | [], _ => exact absurd rfl hne
  | _ :: _, .exhausted => exact h.elim
  | _ :: _, .exception _ => exact h.1

section

variable (m : Machine) (evaluate : List Char → Run Value) (capture : List Char → Run Shell.Captured)

theorem reported_of_not_exception {r : Raised} {s : Session} (h : r.isA "Exception" s = false)
    (e : Expansion) : (performerOf m evaluate capture).reported (r, s) e = (r, s) := by
  cases r with
  | exhausted => rfl
  | exception v =>
    simp [Shell.Performer.reported, performerOf, bind_apply, errorIs_apply, h, pure_apply]

theorem reported_of_display_error {v : Value} {r : Raised} {s t : Session}
    (h : (Raised.exception v).isA "Exception" s = true) (hdisplay : display m v s = (.error r, t))
    (e : Expansion) : (performerOf m evaluate capture).reported (.exception v, s) e = (r, t) := by
  simp [Shell.Performer.reported, performerOf, bind_apply, errorIs_apply, h, hdisplay]

theorem reported_of_display_ok {v : Value} {message : String} {s t : Session}
    (h : (Raised.exception v).isA "Exception" s = true) (hdisplay : display m v s = (.ok message, t))
    (e : Expansion) :
    (performerOf m evaluate capture).reported (.exception v, s) e =
      (.exception (.ref t.store.size), t.push (errorObject "RuntimeError"
        (String.ofList (expansionMessage e.sigil e.content message.toList)))) := by
  simp [Shell.Performer.reported, performerOf, bind_apply, errorIs_apply, h, hdisplay, map_apply,
    makeError_apply]

/-- An error that is not ordinary passes all expansions as it is. -/
theorem foldl_reported_of_not_exception {r : Raised} {s : Session}
    (h : r.isA "Exception" s = false) (around : List Expansion) :
    around.foldl (performerOf m evaluate capture).reported (r, s) = (r, s) := by
  induction around with
  | nil => rfl
  | cons e around ih => rw [List.foldl_cons, reported_of_not_exception m evaluate capture h, ih]

/-- Each expansion that a `RuntimeError` passes makes a new one, with its report on the message. -/
theorem foldl_reported_of_runtimeError {message : List Char} {a : Addr} {s : Session}
    (h : object a s = (.ok (errorObject "RuntimeError" (String.ofList message)), s))
    (around : List Expansion) : ∃ b objects,
      around.foldl (performerOf m evaluate capture).reported (.exception (.ref a), s) =
        (.exception (.ref b), withObjects s objects) ∧
      object b (withObjects s objects) =
        (.ok (errorObject "RuntimeError" (String.ofList (nestedMessage message around))),
          withObjects s objects) := by
  induction around generalizing message a s with
  | nil => exact ⟨a, #[], by simp [withObjects], by simpa [withObjects, nestedMessage] using h⟩
  | cons e around ih =>
    have hexception := (isA_of_mem (by simp) h).1
    let message' := expansionMessage e.sigil e.content message
    let o := errorObject "RuntimeError" (String.ofList message')
    have hreported : (performerOf m evaluate capture).reported (.exception (.ref a), s) e =
        (.exception (.ref s.store.size), s.push o) := by
      have hdisplay := display_errorObject (isPlainError_of_mem (by simp)) h m
      rw [reported_of_display_ok m evaluate capture hexception hdisplay, String.toList_ofList]
    obtain ⟨b, objects, hfold, hobject⟩ := ih (object_push s o)
    rw [withObjects_push] at hfold hobject
    exact ⟨b, #[o] ++ objects, by rw [List.foldl_cons, hreported, hfold], hobject⟩

/-- An ordinary error whose text can be made becomes a `RuntimeError` with the nested message. -/
theorem foldl_reported_of_display_ok {v : Value} {message : String} {s t : Session}
    (h : (Raised.exception v).isA "Exception" s = true) (hdisplay : display m v s = (.ok message, t))
    {around : List Expansion} (hne : around ≠ []) : ∃ b objects,
      around.foldl (performerOf m evaluate capture).reported (.exception v, s) =
        (.exception (.ref b), withObjects t objects) ∧
      object b (withObjects t objects) =
        (.ok (errorObject "RuntimeError" (String.ofList (nestedMessage message.toList around))),
          withObjects t objects) := by
  cases around with
  | nil => exact absurd rfl hne
  | cons e around =>
    let o := errorObject "RuntimeError"
      (String.ofList (expansionMessage e.sigil e.content message.toList))
    have hreported := reported_of_display_ok m evaluate capture h hdisplay e
    obtain ⟨b, objects, hfold, hobject⟩ :=
      foldl_reported_of_runtimeError m evaluate capture (object_push t o) around
    rw [withObjects_push] at hfold hobject
    exact ⟨b, #[o] ++ objects, by rw [List.foldl_cons, hreported, hfold], hobject⟩

/-- Exactly when a `RuntimeError` comes out of the expansions around an error. -/
theorem isA_foldl_reported_iff_told (around : List Expansion) (r : Raised) (s : Session) :
    (around.foldl (performerOf m evaluate capture).reported (r, s)).1.isA "RuntimeError"
      (around.foldl (performerOf m evaluate capture).reported (r, s)).2 = true ↔
        Told m around r s := by
  induction around generalizing r s with
  | nil => rfl
  | cons e around ih =>
    cases hordinary : r.isA "Exception" s with
    | false =>
      rw [foldl_reported_of_not_exception m evaluate capture hordinary]
      have hruntime : r.isA "RuntimeError" s ≠ true := by
        intro h
        rw [isA_exception_of_runtimeError h] at hordinary
        cases hordinary
      cases r with
      | exhausted => simpa [Told] using hruntime
      | exception v => simp [Told, hordinary, hruntime]
    | true =>
      cases r with
      | exhausted => cases hordinary
      | exception v =>
        rcases hdisplay : display m v s with ⟨r' | message, t⟩
        · rw [List.foldl_cons, reported_of_display_error m evaluate capture hordinary hdisplay, ih]
          simp [Told, hordinary, hdisplay]
        · obtain ⟨b, objects, hfold, hobject⟩ := foldl_reported_of_display_ok m evaluate capture
            hordinary hdisplay (List.cons_ne_nil e around)
          rw [hfold, isA_of_errorObject hobject, ancestors_of_mem (by simp)]
          simp [Told, hordinary, hdisplay]

/-- Expanding a text in which an error is met raises a `RuntimeError` just when the error is told. -/
theorem raises_runtimeError_iff_told {text : List Char} {around : List Expansion} {r : Raised}
    {s t : Session} (hmeets : (performerOf m evaluate capture).Meets text s around r t) :
    (∃ r' t', (performerOf m evaluate capture).expand text s = (.error r', t') ∧
      r'.isA "RuntimeError" t' = true) ↔ Told m around r t := by
  rw [Shell.Performer.expand_of_meets _ hmeets, ← isA_foldl_reported_iff_told m evaluate capture]
  constructor
  · rintro ⟨r', t', hexpand, hruntime⟩
    cases hexpand
    exact hruntime
  · intro hruntime
    exact ⟨_, _, rfl, hruntime⟩

end

/-- How a text is expanded, whatever evaluating code and running commands do to the session. Its
expansions are performed from left to right, each after its content, which is shorter, has been
expanded by the same rule, and the gaps of the text go between what they give. An error is raised
just when an evaluation meets one, and no other evaluation is begun after that: an error that is not
ordinary is raised as it is, an ordinary one as a `RuntimeError` with the nested message, unless its
text cannot be made, when the error met in making it goes on in its place. So ordinary errors are
raised as `RuntimeError`s just when each of them is `Told`. -/
theorem expand_reference (m : Machine) (evaluate : List Char → Run Value)
    (capture : List Char → Run Shell.Captured) (text : List Char) :
    let p := performerOf m evaluate capture
    (p.expand text = do
      let vs ← (expansions text).mapM p.evaluate
      return Shell.Performer.weave text 0 (expansions text) vs) ∧
    (∀ e ∈ expansions text, e.content.length < text.length) ∧
    (∀ code, p.perform .value code = do return (← commandText m (← evaluate code)).toList) ∧
    (∀ command, p.perform .output command = do return Text.trim (← capture command).out.toList) ∧
    (∀ command, p.perform .outcome command = do return Text.trim (← capture command).out.toList) ∧
    ∀ s,
      ((∃ r t, p.expand text s = (.error r, t)) ↔ ∃ around r t, p.Meets text s around r t) ∧
      (∀ around r t, p.Meets text s around r t →
        (r.isA "Exception" t = false → p.expand text s = (.error r, t)) ∧
        ∀ v, r = .exception v → r.isA "Exception" t = true →
          (∀ message u, display m v t = (.ok message, u) → ∃ b objects,
            p.expand text s = (.error (.exception (.ref b)), withObjects u objects) ∧
            object b (withObjects u objects) = (.ok (errorObject "RuntimeError"
              (String.ofList (nestedMessage message.toList around))), withObjects u objects)) ∧
          ∀ r' u, display m v t = (.error r', u) →
            p.expand text s = Prod.map .error id (around.tail.foldl p.reported (r', u))) ∧
      (((∃ r t, p.expand text s = (.error r, t) ∧ r.isA "RuntimeError" t = true) ↔
          ∃ around r t, p.Meets text s around r t ∧ r.isA "Exception" t = true) ↔
        ∀ around r t, p.Meets text s around r t → r.isA "Exception" t = true →
          Told m around r t) := by
  intro p
  refine ⟨p.expand_eq_weave text, fun e => Shell.Performer.content_length_lt_of_mem,
    fun _ => rfl, fun _ => rfl, fun _ => rfl, fun s => ⟨⟨?_, ?_⟩, ?_, ?_⟩⟩
  · rintro ⟨r, t, hexpand⟩
    exact p.exists_meets_of_expand_error hexpand
  · rintro ⟨around, r, t, hmeets⟩
    exact ⟨_, _, p.expand_of_meets hmeets⟩
  · intro around r t hmeets
    have hexpand := p.expand_of_meets hmeets
    refine ⟨fun hother => ?_, ?_⟩
    · rw [hexpand, foldl_reported_of_not_exception m evaluate capture hother]
      rfl
    · rintro v rfl hordinary
      refine ⟨fun message u hdisplay => ?_, fun r' u hdisplay => ?_⟩
      · obtain ⟨b, objects, hfold, hobject⟩ := foldl_reported_of_display_ok m evaluate capture
          hordinary hdisplay hmeets.around_ne_nil
        exact ⟨b, objects, by rw [hexpand, hfold]; rfl, hobject⟩
      · obtain ⟨e, around, rfl⟩ := List.exists_cons_of_ne_nil hmeets.around_ne_nil
        rw [hexpand, List.foldl_cons,
          reported_of_display_error m evaluate capture hordinary hdisplay, List.tail_cons]
  · constructor
    · intro hiff around r t hmeets hordinary
      exact (raises_runtimeError_iff_told m evaluate capture hmeets).mp
        (hiff.mpr ⟨around, r, t, hmeets, hordinary⟩)
    · intro htold
      constructor
      · rintro ⟨r', t', hexpand, hruntime⟩
        obtain ⟨around, r, t, hmeets⟩ := p.exists_meets_of_expand_error hexpand
        have hmet := (raises_runtimeError_iff_told m evaluate capture hmeets).mp
          ⟨r', t', hexpand, hruntime⟩
        exact ⟨around, r, t, hmeets, isA_exception_of_told hmeets.around_ne_nil hmet⟩
      · rintro ⟨around, r, t, hmeets, hordinary⟩
        exact (raises_runtimeError_iff_told m evaluate capture hmeets).mpr
          (htold around r t hmeets hordinary)

end Conch.Eval.Library
