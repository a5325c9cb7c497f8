import Mathlib
import Conch.Eval.Source
import Conch.Proofs.Effect

/-!
# What errors are

Whether an error belongs to a class is read off the store, and reading does not change the session.
An error of one of the common classes has its only argument as its text, which no program can alter.
-/

namespace Conch.Eval

open Effect

theorem object_apply (a : Addr) (s : Session) : object a s = (.ok (s.store.getD a default), s) := rfl

theorem silent_object? (v : Value) : Silent (object? v) := by
  cases v with
  | ref a => exact silent_map some fun s => ⟨_, object_apply a s⟩
  | _ => exact silent_pure none

theorem silent_className (cls : Value) : Silent (className cls) := by
  cases cls with
  | ref a =>
    refine silent_bind (fun s => ⟨_, object_apply a s⟩) fun o => ?_
    cases o <;> exact silent_pure _
  | _ => exact silent_pure _

theorem silent_typeName (v : Value) : Silent (typeName v) := by
  cases v with
  | ref a =>
    refine silent_bind (fun s => ⟨_, object_apply a s⟩) fun o => ?_
    cases o with
    | «instance» cls attrs args => exact silent_className cls
    | _ => exact silent_pure _
  | _ => exact silent_pure _

theorem silent_classOf (v : Value) : Silent (classOf v) := by
  refine silent_bind (silent_object? v) fun o => ?_
  rcases o with _ | o
  · exact silent_bind (silent_typeName v) fun name => silent_pure _
  · cases o with
    | «instance» cls attrs args => exact silent_pure cls
    | _ => exact silent_bind (silent_typeName v) fun name => silent_pure _

theorem silent_lineageFrom {behind : Value → Run (List Value)} (h : ∀ cls, Silent (behind cls))
    (cls : Value) : Silent (lineageFrom behind cls) := by
  refine silent_bind (silent_object? cls) fun o => ?_
  rcases o with _ | o
  · exact silent_pure _
  · cases o with
    | cls name fullName bases attrs =>
      exact silent_bind (silent_mapM h bases) fun lines => silent_pure _
    | _ => exact silent_pure _

theorem silent_lineage (depth : Nat) (cls : Value) : Silent (lineage depth cls) := by
  induction depth generalizing cls with
  | zero => cases cls <;> exact silent_pure _
  | succ depth ih =>
    cases cls with
    | type name => exact silent_pure _
    | _ => exact silent_lineageFrom ih _

theorem silent_isSubclass (cls above : Value) : Silent (isSubclass cls above) :=
  silent_bind (silent_lineage 64 cls) fun _ => silent_pure _

theorem silent_errorIs (e : Value) (cls : String) : Silent (errorIs e cls) :=
  silent_bind (silent_classOf e) fun c => silent_isSubclass c _

/-- Whether something raised is an error of a class that every program knows. -/
def Raised.isA (r : Raised) (cls : String) (s : Session) : Bool :=
  match r with
  | .exhausted => false
  | .exception e => match errorIs e cls s with
    | (.ok b, _) => b
    | (.error _, _) => false

theorem errorIs_apply (e : Value) (cls : String) (s : Session) :
    errorIs e cls s = (.ok ((Raised.exception e).isA cls s), s) := by
  obtain ⟨b, hb⟩ := silent_errorIs e cls s
  simp only [Raised.isA, hb]

theorem sameClass_type {name : String} {v : Value} :
    sameClass (.type name) v = true ↔ v = .type name := by
  cases v <;> simp [sameClass, eq_comm]

theorem any_sameClass_type {name : String} {line : List Value} :
    line.any (sameClass (.type name)) = true ↔ Value.type name ∈ line := by
  simp [List.any_eq_true, sameClass_type]

theorem type_mem_lastMentions {name : String} {line : List Value} :
    Value.type name ∈ lastMentions line ↔ Value.type name ∈ line := by
  induction line with
  | nil => rfl
  | cons c rest ih =>
    rw [lastMentions]
    split
    next hlater =>
      rw [ih, List.mem_cons]
      refine ⟨.inr, ?_⟩
      rintro (rfl | hrest)
      · exact any_sameClass_type.mp hlater
      · exact hrest
    next => rw [List.mem_cons, List.mem_cons, ih]

/-- Every class behind which `RuntimeError` stands is one of ordinary errors. -/
theorem exception_mem_ancestors {name : String} (h : "RuntimeError" ∈ ancestors name) :
    "Exception" ∈ ancestors name := by
  have htable : ∀ entry ∈ errorParents, "RuntimeError" ∈ ancestors entry.1 →
      "Exception" ∈ ancestors entry.1 := by decide
  rcases hlookup : errorParents.lookup name with _ | parent
  · -- a class that is no error stands right below `object`
    have hline : ancestors name ⊆ [name, "object"] := by
      rw [ancestors, classChain, hlookup]
      split <;> simp [classChain]
    have hname : name = "RuntimeError" := by simpa [eq_comm] using hline h
    rw [hname] at hlookup
    exact absurd hlookup (by decide)
  · obtain ⟨before, after, hsplit, -⟩ := List.lookup_eq_some_iff.mp hlookup
    exact htable (name, parent) (by simp [hsplit]) h

theorem exception_mem_lineageFrom {behind : Value → Run (List Value)}
    (hsilent : ∀ cls, Silent (behind cls)) {s : Session}
    (hbehind : ∀ cls line, behind cls s = (.ok line, s) → Value.type "RuntimeError" ∈ line →
      Value.type "Exception" ∈ line) {cls : Value} (hcls : ∀ name, cls ≠ .type name)
    {line : List Value} (h : lineageFrom behind cls s = (.ok line, s))
    (hline : Value.type "RuntimeError" ∈ line) : Value.type "Exception" ∈ line := by
  have hself : Value.type "RuntimeError" ∉ [cls] := by simpa using (hcls _).symm
  obtain ⟨o, ho⟩ := silent_object? cls s
  rw [lineageFrom, bind_apply, ho] at h
  rcases o with _ | o
  · cases h
    exact absurd hline hself
  · cases o with
    | cls name fullName bases attrs =>
      obtain ⟨lines, hlines⟩ := silent_mapM hsilent bases s
      simp only [bind_apply, hlines, pure_apply] at h
      cases h
      simp only [List.mem_cons, (hcls _).symm, type_mem_lastMentions, false_or, List.mem_append,
        List.mem_flatten] at hline ⊢
      rcases hline with ⟨line, hmem, hline⟩ | hroot
      · obtain ⟨base, -, hbase⟩ := exists_of_mem_mapM hsilent hlines hmem
        exact .inl ⟨line, hmem, hbehind base line hbase hline⟩
      · simp at hroot
    | _ =>
      cases h
      exact absurd hline hself

theorem exception_mem_lineage {depth : Nat} {cls : Value} {line : List Value} {s : Session}
    (h : lineage depth cls s = (.ok line, s)) (hline : Value.type "RuntimeError" ∈ line) :
    Value.type "Exception" ∈ line := by
  have htype (name : String) (hmem : Value.type "RuntimeError" ∈ (ancestors name).map Value.type) :
      Value.type "Exception" ∈ (ancestors name).map Value.type := by
    simp only [List.mem_map, Value.type.injEq, exists_eq_right] at hmem ⊢
    exact exception_mem_ancestors hmem
  induction depth generalizing cls line with
  | zero =>
    cases cls with
    | type name =>
      cases h
      exact htype name hline
    | _ =>
      cases h
      simp at hline
  | succ depth ih =>
    cases cls with
    | type name =>
      cases h
      exact htype name hline
    | _ => exact exception_mem_lineageFrom (silent_lineage depth) (fun _ _ => ih) (by simp) h hline

/-- A `RuntimeError` is an ordinary error. -/
theorem isA_exception_of_runtimeError {r : Raised} {s : Session}
    (h : r.isA "RuntimeError" s = true) : r.isA "Exception" s = true := by
  cases r with
  | exhausted => exact absurd h (by simp [Raised.isA])
  | exception e =>
    obtain ⟨cls, hcls⟩ := silent_classOf e s
    obtain ⟨line, hline⟩ := silent_lineage 64 cls s
    have happly (name : String) : (Raised.exception e).isA name s =
        line.any (sameClass (.type name)) := by
      simp only [Raised.isA, errorIs, isInstance, isSubclass, lineageOf, bind_apply, hcls, hline,
        pure_apply]
    rw [happly, any_sameClass_type] at h ⊢
    exact exception_mem_lineage hline h

/-- The object that an error of a class that every program knows is made as. -/
def errorObject (kind : String) (message : String) : Object :=
  .instance (.type kind) [] [.text message]

/-- A session with one more object. -/
def Session.push (s : Session) (o : Object) : Session :=
  { s with store := s.store.push o, nonempty := by simp }

/-- A session with the objects of another. -/
abbrev Session.withStoreOf (s t : Session) : Session :=
  { s with store := t.store, nonempty := t.nonempty }

theorem makeError_apply (kind message : String) (s : Session) :
    makeError kind [.text message] s =
      (.ok (.ref s.store.size), s.push (errorObject kind message)) := rfl

theorem object_push (s : Session) (o : Object) :
    object s.store.size (s.push o) = (.ok o, s.push o) := by
  simp [object_apply, Session.push]

theorem isSubclass_type_apply (kind cls : String) (s : Session) :
    isSubclass (.type kind) (.type cls) s = (.ok (decide (cls ∈ ancestors kind)), s) := by
  have hany : ((ancestors kind).map Value.type).any (sameClass (.type cls)) =
      decide (cls ∈ ancestors kind) := by
    rw [Bool.eq_iff_iff, any_sameClass_type]
    simp
  simp only [isSubclass, lineageOf, lineage, bind_apply, pure_apply, hany]

/-- No program has put anything into the classes that every program knows. -/
theorem findAlong_types_apply (name : String) (kinds : List String) (s : Session) :
    findAlong name (kinds.map Value.type) s = (.ok none, s) := by
  induction kinds with
  | nil => rfl
  | cons kind kinds ih =>
    simp only [List.map_cons, findAlong, object?, pure_bind]
    exact ih

/-- The class that an object is made of says which errors it is. -/
theorem isA_of_instance {kind : String} {attrs : Vars} {args : List Value} {a : Addr} {s : Session}
    (h : object a s = (.ok (.instance (.type kind) attrs args), s)) (cls : String) :
    (Raised.exception (.ref a)).isA cls s = decide (cls ∈ ancestors kind) := by
  have hobject : object? (.ref a) s = (.ok (some (.instance (.type kind) attrs args)), s) := by
    simp only [object?, map_apply, h]
  simp only [Raised.isA, errorIs, isInstance, classOf, bind_apply, hobject, pure_apply,
    isSubclass_type_apply]

section

variable {kind message : String} {a : Addr} {s : Session}
  (h : object a s = (.ok (errorObject kind message), s))

include h

theorem object?_errorObject : object? (.ref a) s = (.ok (some (errorObject kind message)), s) := by
  simp only [object?, map_apply, h]

theorem isA_of_errorObject (cls : String) :
    (Raised.exception (.ref a)).isA cls s = decide (cls ∈ ancestors kind) :=
  isA_of_instance h cls

theorem callSpecial_errorObject (m : Machine) (name : String) (args : List Value) :
    callSpecial m (.ref a) name args s = (.ok none, s) := by
  simp only [callSpecial, bind_apply, object?_errorObject h, errorObject, findInClass, lineageOf,
    lineage, pure_apply, findAlong_types_apply]

end

/-- Errors whose text is their only argument. -/
structure IsPlainError (kind : String) : Prop where
  error : "BaseException" ∈ ancestors kind
  not_syntax : "SyntaxError" ∉ ancestors kind
  not_system : "OSError" ∉ ancestors kind
  not_key : "KeyError" ∉ ancestors kind
  not_result : kind ≠ "CommandResult"

theorem display_errorObject {kind message : String} {a : Addr} {s : Session}
    (hkind : IsPlainError kind) (h : object a s = (.ok (errorObject kind message), s))
    (m : Machine) : display m (.ref a) s = (.ok message, s) := by
  have herror : isErrorType (.type kind) s = (.ok true, s) := by
    have h := isSubclass_type_apply kind "BaseException" s
    rwa [decide_eq_true hkind.error] at h
  have htext : errorText m (displayFrom m 15) (.type kind) [] [.text message] s =
      (.ok message, s) := by
    simp [errorText, bind_apply, isSubclass_type_apply, hkind.not_syntax, hkind.not_system,
      hkind.not_key, displayFrom, pure_apply]
  simp [display, displayFrom, bind_apply, h, errorObject, callSpecial_errorObject h, sameClass,
    commandResult, hkind.not_result, herror, htext]

/-- Without a layout of its own, a value is laid out as it is printed. -/
theorem formatted_eq_display {m : Machine} {v : Value} {s : Session}
    (h : callSpecial m v "__format__" [.text ""] s = (.ok none, s)) :
    formatted m v "" s = display m v s := by
  obtain ⟨type, htype⟩ := silent_typeName v s
  simp only [formatted, bind_apply, htype, h]
  rfl

theorem formatted_errorObject {kind message : String} {a : Addr} {s : Session}
    (hkind : IsPlainError kind) (h : object a s = (.ok (errorObject kind message), s))
    (m : Machine) : formatted m (.ref a) "" s = (.ok message, s) := by
  rw [formatted_eq_display (callSpecial_errorObject h m _ _), display_errorObject hkind h]

/-- The common classes of errors stand right below the class of all ordinary ones. -/
theorem ancestors_of_mem {kind : String}
    (h : kind ∈ ["NameError", "TypeError", "ValueError", "RuntimeError"]) :
    ancestors kind = [kind, "Exception", "BaseException", "object"] := by
  simp only [List.mem_cons, List.not_mem_nil, or_false] at h
  rcases h with rfl | rfl | rfl | rfl <;> rfl

theorem isPlainError_of_mem {kind : String}
    (h : kind ∈ ["NameError", "TypeError", "ValueError", "RuntimeError"]) : IsPlainError kind := by
  have hline := ancestors_of_mem h
  simp only [List.mem_cons, List.not_mem_nil, or_false] at h
  rcases h with rfl | rfl | rfl | rfl <;> constructor <;> simp [hline]

/-- An error of a common class is an ordinary one: it is not about the form of the code, and it is no
interruption. -/
theorem isA_of_mem {kind message : String} {a : Addr} {s : Session}
    (hkind : kind ∈ ["NameError", "TypeError", "ValueError", "RuntimeError"])
    (h : object a s = (.ok (errorObject kind message), s)) :
    (Raised.exception (.ref a)).isA "Exception" s = true ∧
    (Raised.exception (.ref a)).isA "SyntaxError" s = false ∧
    (Raised.exception (.ref a)).isA "KeyboardInterrupt" s = false := by
  simp only [isA_of_errorObject h, ancestors_of_mem hkind]
  simp only [List.mem_cons, List.not_mem_nil, or_false] at hkind
  rcases hkind with rfl | rfl | rfl | rfl <;> simp

end Conch.Eval
