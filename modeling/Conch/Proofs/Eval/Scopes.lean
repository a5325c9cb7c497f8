import Mathlib
import Conch.Eval.Comprehension
import Conch.Proofs.Eval.Lines

/-!
# Names within names

Code runs within functions, lambdas and comprehensions, each with names of its own. A command that it
runs is given the names of the innermost one, those that its code mentions from further out, and
those of the module. So a name of a function further out is missed if the innermost code does not
mention it, even though the code could: a name of the module is seen in its place, if there is one.
-/

namespace Conch.Eval

open Effect Code

/-- Code with names of its own. -/
inductive Layer where
  | function (params : Params) (body : List Stmt)
  | lambda (params : Params) (body : Expr)
  | comprehension (parts : Usage) (clauses : List Clause)

namespace Layer

def kind : Layer → FrameKind
  | .function .. | .lambda .. => .function
  | .comprehension .. => .comprehension

/-- What a function keeps, takes and leaves to others. -/
def functionScope (params : Params) (u : Usage) : Scope :=
  ⟨u.locals params.paramNames, u.free params.paramNames, u.nonlocals, u.globals⟩

def scope : Layer → Scope
  | .function params body => functionScope params (usageInBody body)
  | .lambda params body => functionScope params body.usage
  | .comprehension parts clauses =>
    comprehensionScope (parts ++ usageInClauses true clauses) clauses

variable {x : String}

/-- What a layer takes from further out is neither its own nor the module's. -/
theorem not_mem_of_mem_free {l : Layer} (h : x ∈ l.scope.free) :
    x ∉ l.scope.locals ∧ x ∉ l.scope.globals := by
  have hfunction {params : Params} {u : Usage} (h : x ∈ (functionScope params u).free) :
      x ∉ (functionScope params u).locals ∧ x ∉ (functionScope params u).globals := by
    simpa [functionScope, Usage.free] using (List.mem_filter.mp h).2
  cases l with
  | function params body => exact hfunction h
  | lambda params body => exact hfunction h
  | comprehension parts clauses =>
    simp only [scope, comprehensionScope, List.mem_filter] at h ⊢
    simpa using h.2

/-- Whether a name belongs to one of the layers, and not to the module. -/
def owns (x : String) : List Layer → Bool
  | [] => false
  | l :: around =>
    if l.scope.locals.contains x then true
    else if l.scope.globals.contains x then false
    else owns x around

/-- Whether a command that is run in the first layer is given a name as the layer itself sees it. -/
def Shows (x : String) : List Layer → Prop
  | [] => True
  | l :: around =>
    x ∈ l.scope.locals ∨ x ∈ l.scope.free ∨ x ∈ l.scope.globals ∨ owns x around = false

end Layer

variable {s : Session} {globals : Addr} {layers : List Layer} {x : String}

/-- A frame of code that runs within layers, the innermost of which is the first. Frames further out
are older. -/
inductive Within (s : Session) (globals : Addr) : List Layer → Addr → Prop
  | module {a : Addr} {f : Frame} (frame : s.store[a]? = some (.frame f)) (kind : f.kind = .module)
      (module : f.globals = globals) : Within s globals [] a
  | layer {l : Layer} {layers : List Layer} {a b : Addr} {f : Frame}
      (frame : s.store[a]? = some (.frame f)) (kind : f.kind = l.kind) (scope : f.scope = l.scope)
      (module : f.globals = globals) (unique : (f.vars.map Prod.fst).Nodup)
      (parent : f.parent = some b) (older : b < a) (around : Within s globals layers b) :
      Within s globals (l :: layers) a

theorem Layer.kind_ne (l : Layer) : l.kind ≠ .module ∧ l.kind ≠ .cls := by
  cases l <;> simp [kind]

theorem Within.mono {t : Session} {a : Addr} (h : Within s globals layers a)
    (hkept : ∀ (b : Addr) (f : Frame),
      s.store[b]? = some (.frame f) → t.store[b]? = some (.frame f)) :
    Within t globals layers a := by
  induction h with
  | module frame kind module => exact .module (hkept _ _ frame) kind module
  | layer frame kind scope module unique parent older around ih =>
    exact .layer (hkept _ _ frame) kind scope module unique parent older ih

theorem Within.exists_frame {a : Addr} (h : Within s globals layers a) :
    ∃ f : Frame, s.store[a]? = some (.frame f) ∧ f.globals = globals := by
  cases h with
  | module frame kind module => exact ⟨_, frame, module⟩
  | layer frame kind scope module => exact ⟨_, frame, module⟩

/-- There are no more layers around a frame than frames that are older. -/
theorem Within.length_le {a : Addr} (h : Within s globals layers a) : layers.length ≤ a := by
  induction h with
  | module => exact Nat.zero_le _
  | layer frame kind scope module unique parent older around ih => exact Nat.lt_of_le_of_lt ih older

/-- Code in a new frame runs within the layer of the frame and those around it. -/
theorem Within.enter {b : Addr} (h : Within s globals layers b) {l : Layer} {f : Frame}
    (kind : f.kind = l.kind) (scope : f.scope = l.scope) (module : f.globals = globals)
    (unique : (f.vars.map Prod.fst).Nodup) (parent : f.parent = some b) :
    Within (s.enter f) globals (l :: layers) (s.enter f).frame := by
  have hkept (a : Addr) (g : Frame) (hg : s.store[a]? = some (.frame g)) :
      (s.enter f).store[a]? = some (.frame g) := by
    rw [← hg]
    exact getElem?_push (.frame f) (Array.getElem?_eq_some_iff.mp hg).1
  obtain ⟨g, hg, -⟩ := h.exists_frame
  have older : b < s.store.size := (Array.getElem?_eq_some_iff.mp hg).1
  exact .layer Array.getElem?_push_size kind scope module unique parent older (h.mono hkept)

/-- The frame that a call of a function runs in. -/
def Function.frame (fn : Function) (vars : Vars) : Frame :=
  ⟨.function, fn.globals, fn.parent, vars, fn.scope, [], fn.owner, fn.fullName ++ ".<locals>."⟩

/-- The layer that a function adds to those that it was made in. -/
def Function.layer (fn : Function) : Layer :=
  match fn.body with
  | .block statements => .function fn.params statements
  | .result e => .lambda fn.params e

theorem Function.kind_layer (fn : Function) : fn.layer.kind = .function := by
  unfold Function.layer
  split <;> rfl

/-- What a function gives when its statements have been run. -/
def givenBack : Flow → Value
  | .ret v => v
  | _ => .none

def Body.run (m : Machine) : Body → Run Value
  | .block statements => givenBack <$> m.exec statements
  | .result e => m.eval e

/-- The body of a function that is called runs within the layer of the function. -/
theorem Within.callFunction {t : Session} {b : Addr} (h : Within t globals layers b)
    {fn : Function} {args : List Value} {keywords vars : Vars} (hyields : fn.yields = false)
    (scope : fn.scope = fn.layer.scope) (module : fn.globals = globals)
    (parent : fn.parent = some b)
    (hbind : bindArguments fn.fullName fn.params fn.defaults args keywords s = (.ok vars, t))
    (unique : (vars.map Prod.fst).Nodup) (hdepth : t.depth < 1000) (m : Machine) :
    ∃ u : Session, Within u globals (fn.layer :: layers) u.frame ∧
      Eval.callFunction m fn args keywords s =
        ((fn.body.run m u).1, (fn.body.run m u).2.back t) := by
  let f := fn.frame vars
  have hwithin : Within (t.enter f) globals (fn.layer :: layers) (t.enter f).frame :=
    h.enter fn.kind_layer.symm scope module unique parent
  refine ⟨t.enter f, hwithin, ?_⟩
  rw [Eval.callFunction, bind_apply, hbind, hyields]
  cases fn.body with
  | result e => exact withFrame_push_apply hdepth f (m.eval e)
  | block statements =>
    change (withFrame t.store.size (m.exec statements) >>= _) (t.push (.frame f)) = _
    rw [bind_apply, withFrame_push_apply hdepth, Body.run, map_apply]
    rcases m.exec statements (t.enter f) with ⟨r | flow, u⟩
    · rfl
    · cases flow <;> rfl

theorem currentFrame_of_getElem? {f : Frame} (h : s.store[s.frame]? = some (.frame f)) :
    currentFrame s = (.ok f, s) := by
  have hobject : object s.frame s = (.ok (.frame f), s) := by
    rw [object_apply, Array.getD_eq_getD_getElem?, h]
    rfl
  simp only [currentFrame, bind_apply, get_apply, hobject, pure_apply]

/-- What a comprehension evaluates for each of its rounds is evaluated within its layer. -/
theorem Within.exists_enterComprehension {r t : Session} (h : Within s globals layers s.frame)
    {m : Machine} {isAsync : Bool} {target source : Expr} {conditions : List Expr} {v it : Value}
    (hsource : m.eval source r = (.ok v, t)) (hit : iterator m v t = (.ok it, s)) (parts : Usage)
    (rest : List Clause) :
    ∃ u : Session, enterComprehension m parts (.mk isAsync target source conditions :: rest) r =
        (.ok (it, s.store.size), u) ∧
      Within u globals (.comprehension parts (.mk isAsync target source conditions :: rest) :: layers)
        s.store.size := by
  obtain ⟨f, hf, rfl⟩ := h.exists_frame
  let g : Frame :=
    { f with
      kind := .comprehension, parent := some s.frame, vars := [], yielded := [],
      scope := (Layer.comprehension parts (.mk isAsync target source conditions :: rest)).scope }
  refine ⟨s.push (.frame g), ?_, ?_⟩
  · simp only [enterComprehension, bind_apply, hsource, hit, currentFrame_of_getElem? hf, get_apply]
    rfl
  · exact (h.enter (f := g) rfl rfl rfl List.nodup_nil rfl).mono fun _ _ hkept => hkept

/-- The search for a name goes from layer to layer. -/
theorem Within.exists_owningFrame {a : Addr} (h : Within s globals layers a) {depth : Nat}
    (hdepth : layers.length < depth) (x : String) :
    ∃ owner, owningFrame x depth (some a) s = (.ok owner, s) ∧
      owner.isSome = Layer.owns x layers ∧
      ∀ b ∈ owner, ∃ g, s.store[b]? = some (.frame g) := by
  induction h generalizing depth with
  | module frame kind =>
    obtain ⟨depth, rfl⟩ := Nat.exists_eq_add_of_lt hdepth
    refine ⟨none, ?_, rfl, by simp⟩
    simp only [owningFrame, bind_apply, frameAt_of_getElem? frame, kind, pure_apply]
  | @layer l layers a b f frame kind scope _ unique parent older around ih =>
    obtain ⟨depth, rfl⟩ := Nat.exists_eq_succ_of_ne_zero (Nat.ne_zero_of_lt hdepth)
    have hless : layers.length < depth := by simpa using hdepth
    obtain ⟨owner, howner, hsome, hframe⟩ := ih hless
    have hstep : owningFrame x (depth + 1) (some a) s =
        if l.scope.locals.contains x then (.ok (some a), s)
        else if l.scope.globals.contains x then (.ok none, s)
        else owningFrame x depth (some b) s := by
      rw [owningFrame, bind_apply, frameAt_of_getElem? frame]
      dsimp only
      rw [scope, parent]
      cases l with
      | comprehension parts clauses =>
        rw [show f.kind = .comprehension from kind]
        split_ifs <;> rfl
      | _ =>
        rw [show f.kind = .function from kind]
        split_ifs <;> rfl
    rw [hstep, Layer.owns]
    split_ifs
    · exact ⟨some a, rfl, rfl, by simpa using ⟨f, frame⟩⟩
    · exact ⟨none, rfl, rfl, by simp⟩
    · exact ⟨owner, howner, hsome, hframe⟩

theorem lookupName_setName_of_ne {name : String} (h : name ≠ x) (v : Value)
    (es : List (Value × Value)) : lookupName (setName name v es) x = lookupName es x := by
  induction es with
  | nil => simp [setName, lookupName, h]
  | cons entry es ih =>
    obtain ⟨k, old⟩ := entry
    cases k with
    | text key =>
      by_cases hkey : key = name
      · simp [setName, lookupName, hkey, h]
      · simp only [setName, hkey, if_false, lookupName, List.findSome?_cons] at ih ⊢
        rw [ih]
    | _ => simpa [setName, lookupName] using ih

theorem lookup_cons_of_ne {n : String} (h : x ≠ n) (v : Value) (vars : Vars) :
    List.lookup x ((n, v) :: vars) = vars.lookup x := by
  simp only [List.lookup, beq_eq_false_iff_ne.mpr h]

/-- The last of the names that are set counts. -/
theorem lookupName_foldl_setName (vars : Vars) (es : List (Value × Value)) (x : String) :
    lookupName (vars.foldl (fun entries (n, v) => setName n v entries) es) x =
      (vars.reverse.lookup x).or (lookupName es x) := by
  induction vars generalizing es with
  | nil => rfl
  | cons entry vars ih =>
    obtain ⟨n, v⟩ := entry
    rw [List.foldl_cons, ih, List.reverse_cons, List.lookup_append, Option.or_assoc]
    congr 1
    by_cases hx : x = n
    · rw [hx, lookupName_setName, List.lookup_cons_self, Option.some_or]
    · rw [lookupName_setName_of_ne (Ne.symm hx), lookup_cons_of_ne hx, List.lookup_nil,
        Option.none_or]

/-- In a list of distinct names the last entry of a name is the first one. -/
theorem lookup_reverse_of_nodup {vars : Vars} (h : (vars.map Prod.fst).Nodup) (x : String) :
    vars.reverse.lookup x = vars.lookup x := by
  induction vars with
  | nil => rfl
  | cons entry vars ih =>
    obtain ⟨n, v⟩ := entry
    obtain ⟨hn, hvars⟩ := List.nodup_cons.mp h
    rw [List.reverse_cons, List.lookup_append, ih hvars]
    by_cases hx : x = n
    · have hnone : vars.lookup x = none := by
        rw [List.lookup_eq_none_iff]
        intro e he
        rw [bne_iff_ne, hx]
        intro hne
        apply hn
        exact List.mem_map.mpr ⟨e, he, hne.symm⟩
      rw [hnone, Option.none_or, hx, List.lookup_cons_self, List.lookup_cons_self]
    · rw [lookup_cons_of_ne hx, lookup_cons_of_ne hx, List.lookup_nil, Option.or_none]

theorem lookup_filter_fst (keep : String → Bool) (vars : Vars) (x : String) :
    (vars.filter fun e => keep e.1).lookup x = if keep x then vars.lookup x else none := by
  induction vars with
  | nil => simp
  | cons entry vars ih =>
    obtain ⟨n, v⟩ := entry
    rw [List.filter_cons]
    by_cases hx : x = n
    · subst hx
      cases hkeep : keep x with
      | true => simp only [if_true, List.lookup_cons_self]
      | false => simp only [hkeep, Bool.false_eq_true, if_false, ih]
    · rw [lookup_cons_of_ne hx, ← ih]
      split
      · rw [lookup_cons_of_ne hx]
      · rfl

/-- Values that are taken by name are found by name. -/
theorem lookup_filterMap (value : String → Option Value) (names : List String) (x : String) :
    (names.filterMap fun n => (value n).map fun v => (n, v)).lookup x =
      if x ∈ names then value x else none := by
  induction names with
  | nil => rfl
  | cons n names ih =>
    rw [List.filterMap_cons]
    by_cases hx : x = n
    · subst hx
      cases hvalue : value x with
      | none => simp only [Option.map_none, ih, hvalue, ite_self]
      | some v => simp only [Option.map_some, List.lookup_cons_self, List.mem_cons_self, if_true]
    · cases hvalue : value n with
      | none => simp only [Option.map_none, ih, List.mem_cons, hx, false_or]
      | some v =>
        simp only [Option.map_some, lookup_cons_of_ne hx, ih, List.mem_cons, hx, false_or]

theorem filterMapM_of_ok {α β : Type} {g : α → Run (Option β)} {value : α → Option β}
    (h : ∀ a, g a s = (.ok (value a), s)) (as : List α) :
    as.filterMapM g s = (.ok (as.filterMap value), s) := by
  induction as with
  | nil => rfl
  | cons a as ih =>
    rw [List.filterMapM_cons, bind_apply, h]
    cases hvalue : value a <;> simp [ih, hvalue, bind_apply, pure_apply]

/-! ## What a command is given -/

theorem builtinValue?_ne_text (name : String) (text : String) :
    builtinValue? name ≠ some (.text text) := by
  unfold builtinValue?
  cases errorAliases.lookup name <;> split_ifs <;> simp

theorem lookupName_of_lookupGlobal {t : Session} {v : String}
    (h : lookupGlobal globals x s = (.ok (.text v), t)) :
    lookupName (s.entries globals) x = some (.text v) := by
  simp only [lookupGlobal, bind_apply, getGlobal?_apply] at h
  cases hname : lookupName (s.entries globals) x with
  | some w =>
    rw [hname] at h
    cases h
    rfl
  | none =>
    rw [hname] at h
    cases hbuiltin : builtinValue? x with
    | none =>
      rw [hbuiltin] at h
      cases h
    | some w =>
      rw [hbuiltin] at h
      cases h
      exact absurd hbuiltin (builtinValue?_ne_text x v)

/-- A name that the code of a frame takes from further out, with its value. -/
def takenFrom (f : Frame) (name : String) : Run (Option (String × Value)) := do
  match ← owningFrame name (nesting f.parent) f.parent with
  | some a => return (((← frameAt a).vars.get? name).map fun v => (name, v))
  | none => return none

theorem localVars_eq {f : Frame} (h : f.kind ≠ .module ∧ f.kind ≠ .cls) : localVars f = (do
    let taken ← f.scope.free.eraseDups.filterMapM (takenFrom f)
    return f.vars.filter (fun e => f.scope.locals.contains e.1) ++ taken) := by
  unfold localVars
  cases hkind : f.kind with
  | module => exact absurd hkind h.1
  | cls => exact absurd hkind h.2
  | _ => rfl

/-- What is taken from further out is what the code sees there. -/
theorem Within.exists_takenFrom {b : Addr} (h : Within s globals layers b) {f : Frame}
    (hparent : f.parent = some b) (name : String) :
    ∃ value : Option Value,
      takenFrom f name s = (.ok (value.map fun v => (name, v)), s) ∧
      (Layer.owns name layers = true → ∀ v t, lookupOuter f name s = (.ok v, t) →
        value = some v) ∧
      (Layer.owns name layers = false → value = none ∧
        lookupOuter f name s = lookupGlobal f.globals name s) := by
  have hdepth : layers.length < nesting (some b) := Nat.lt_succ_of_le h.length_le
  obtain ⟨owner, howner, hsome, hframe⟩ := h.exists_owningFrame hdepth name
  rw [← hparent] at howner
  cases owner with
  | none =>
    refine ⟨none, ?_, ?_, fun _ => ⟨rfl, ?_⟩⟩
    · simp only [takenFrom, bind_apply, howner]
      rfl
    · simp [← hsome]
    · simp only [lookupOuter, bind_apply, howner]
  | some a =>
    obtain ⟨g, hg⟩ := hframe a rfl
    refine ⟨g.vars.get? name, ?_, ?_, ?_⟩
    · simp only [takenFrom, bind_apply, howner, frameAt_of_getElem? hg, pure_apply]
    · intro _ v t hv
      simp only [lookupOuter, bind_apply, howner, frameAt_of_getElem? hg] at hv
      cases hget : g.vars.get? name with
      | none =>
        rw [hget] at hv
        cases hv
      | some w =>
        rw [hget] at hv
        cases hv
        rfl
    · simp [← hsome]

section

variable {l : Layer} {b : Addr} {f : Frame} (hkind : f.kind = l.kind) (hscope : f.scope = l.scope)
  (hunique : (f.vars.map Prod.fst).Nodup) (hparent : f.parent = some b)
  (haround : Within s globals layers b)
include hkind hscope hunique hparent haround

/-- What a command finds as local under a name. -/
theorem Within.exists_localVars (x : String) :
    ∃ vars value, localVars f s = (.ok vars, s) ∧
      vars.reverse.lookup x =
        (if x ∈ l.scope.free then value
          else if x ∈ l.scope.locals then f.vars.get? x else none) ∧
      (Layer.owns x layers = true → ∀ v t, lookupOuter f x s = (.ok v, t) → value = some v) ∧
      (Layer.owns x layers = false → value = none ∧
        lookupOuter f x s = lookupGlobal f.globals x s) := by
  choose value hvalue howned hglobal using fun name =>
    haround.exists_takenFrom hparent name
  have htaken := filterMapM_of_ok hvalue f.scope.free.eraseDups
  have hlocals : localVars f s =
      (.ok (f.vars.filter (fun e => f.scope.locals.contains e.1) ++
        f.scope.free.eraseDups.filterMap fun n => (value n).map fun v => (n, v)), s) := by
    rw [localVars_eq (by rw [hkind]; exact l.kind_ne), bind_apply, htaken]
    rfl
  refine ⟨_, value x, hlocals, ?_, howned x, hglobal x⟩
  have hown : (f.vars.filter fun e => f.scope.locals.contains e.1).reverse.lookup x =
      if x ∈ l.scope.locals then f.vars.get? x else none := by
    rw [lookup_reverse_of_nodup (hunique.sublist (List.filter_sublist.map _)), lookup_filter_fst,
      hscope]
    simp only [List.contains_eq_mem, decide_eq_true_eq]
    rfl
  rw [List.reverse_append, List.lookup_append, ← List.filterMap_reverse, lookup_filterMap, hown,
    hscope]
  simp only [List.mem_reverse, List.mem_eraseDups]
  by_cases hfree : x ∈ l.scope.free
  · simp [hfree, (Layer.not_mem_of_mem_free hfree).1]
  · simp [hfree]

theorem Within.exists_visibleVars_layer {v : String} {t : Session} (hframe : f.globals = globals)
    (hcurrent : currentFrame s = (.ok f, s)) (hvalue : lookupVar x s = (.ok (.text v), t)) :
    ∃ vars, visibleVars f s = (.ok vars, s) ∧
      (Layer.Shows x (l :: layers) → lookupName vars x = some (.text v)) ∧
      (¬ Layer.Shows x (l :: layers) → lookupName vars x = lookupName (s.entries globals) x) := by
  obtain ⟨vars, value, hlocals, hlookup, howned, hglobal⟩ :=
    Within.exists_localVars hkind hscope hunique hparent haround x
  refine ⟨vars.foldl (fun entries (n, v) => setName n v entries) (s.entries globals), ?_, ?_⟩
  · simp only [visibleVars, bind_apply, entriesAt_apply, hframe, hlocals, pure_apply]
  have hne := l.kind_ne
  rw [← hkind] at hne
  simp only [lookupVar, bind_apply, hcurrent, if_neg hne.1, if_neg hne.2, hscope,
    List.contains_eq_mem, decide_eq_true_eq, hframe] at hvalue
  rw [lookupName_foldl_setName, hlookup]
  -- the cases are those in which the name is looked up
  by_cases hlocal : x ∈ l.scope.locals
  · have hfree : x ∉ l.scope.free := fun h => (Layer.not_mem_of_mem_free h).1 hlocal
    rw [if_pos hlocal] at hvalue
    cases hget : f.vars.get? x with
    | none =>
      rw [hget] at hvalue
      cases hvalue
    | some w =>
      rw [hget] at hvalue
      cases hvalue
      rw [if_neg hfree, if_pos hlocal]
      exact ⟨fun _ => rfl, fun h => absurd (.inl hlocal) h⟩
  rw [if_neg hlocal] at hvalue
  by_cases hmodule : x ∈ l.scope.globals
  · have hfree : x ∉ l.scope.free := fun h => (Layer.not_mem_of_mem_free h).2 hmodule
    rw [if_pos hmodule] at hvalue
    rw [if_neg hfree, if_neg hlocal, Option.none_or, lookupName_of_lookupGlobal hvalue]
    exact ⟨fun _ => rfl, fun _ => rfl⟩
  rw [if_neg hmodule] at hvalue
  cases howns : Layer.owns x layers with
  | true =>
    rw [howned howns _ _ hvalue]
    by_cases hfree : x ∈ l.scope.free
    · rw [if_pos hfree]
      exact ⟨fun _ => rfl, fun h => absurd (.inr (.inl hfree)) h⟩
    · rw [if_neg hfree, if_neg hlocal, Option.none_or]
      refine ⟨fun h => ?_, fun _ => rfl⟩
      rcases h with h | h | h | h
      · exact absurd h hlocal
      · exact absurd h hfree
      · exact absurd h hmodule
      · exact absurd (howns.symm.trans h) (by simp)
  | false =>
    obtain ⟨hnone, houter⟩ := hglobal howns
    rw [houter, hframe] at hvalue
    rw [hnone, if_neg hlocal, ite_self, Option.none_or, lookupName_of_lookupGlobal hvalue]
    exact ⟨fun _ => rfl, fun _ => rfl⟩

end

/-- What a command finds under a name that the code sees. -/
theorem Within.exists_visibleVars (h : Within s globals layers s.frame) {v : String} {t : Session}
    (hvalue : lookupVar x s = (.ok (.text v), t)) :
    ∃ f vars, currentFrame s = (.ok f, s) ∧ f.globals = globals ∧ visibleVars f s = (.ok vars, s) ∧
      (Layer.Shows x layers → lookupName vars x = some (.text v)) ∧
      (¬ Layer.Shows x layers → lookupName vars x = lookupName (s.entries globals) x) := by
  cases h with
  | @module _ f frame kind module =>
    refine ⟨f, s.entries globals, currentFrame_of_getElem? frame, module, ?_, fun _ => ?_, by simp⟩
    · simp only [visibleVars, bind_apply, entriesAt_apply, localVars, kind, module]
      rfl
    · apply lookupName_of_lookupGlobal (t := t)
      simpa [lookupVar, bind_apply, currentFrame_of_getElem? frame, kind, module] using hvalue
  | @layer l layers _ b f frame kind scope module unique parent older around =>
    have hcurrent := currentFrame_of_getElem? frame
    obtain ⟨vars, hvars⟩ := exists_visibleVars_layer kind scope unique parent around module hcurrent
      hvalue
    exact ⟨f, vars, hcurrent, module, hvars⟩

end Conch.Eval
