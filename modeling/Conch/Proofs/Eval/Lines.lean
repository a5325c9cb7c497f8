import Mathlib
import Conch.Proofs.Eval.Command
import Conch.Proofs.Line.Rows
import Conch.Proofs.Shell.Expand
import Conch.Session.Start

/-!
# Commands of several lines from within programs

Code that hands a text of several commands to the shell might as well hand them over one after the
other: the world is the same in the end, and so is the status that is kept. If a command leaves the
shell or fails, the same error is raised, and the commands behind it are not run in either case.
-/

namespace Conch.Eval

open Effect Line

variable {s t : Session} {α β : Type}

/-- All frames of a session are there in another one. -/
def KeepsFrames (s t : Session) : Prop :=
  ∀ (a : Addr) (f : Frame), s.store[a]? = some (.frame f) → t.store[a]? = some (.frame f)

/-- A computation that looks at frames only: if it gives something, it does so wherever the frames
are kept. -/
def LooksAtFrames (x : Run α) : Prop :=
  ∀ s t, KeepsFrames s t → ∀ v u, x s = (.ok v, u) → u = s ∧ x t = (.ok v, t)

theorem looksAtFrames_pure (v : α) : LooksAtFrames (pure v) := by
  intro s t _ w u h
  cases h
  exact ⟨rfl, rfl⟩

theorem LooksAtFrames.bind {x : Run α} {f : α → Run β} (hx : LooksAtFrames x)
    (hf : ∀ v, LooksAtFrames (f v)) : LooksAtFrames (x >>= f) := by
  intro s t hkeeps v u h
  rw [bind_apply] at h
  rcases hresult : x s with ⟨e | w, s'⟩
  · rw [hresult] at h
    cases h
  · rw [hresult] at h
    obtain ⟨rfl, hxt⟩ := hx s t hkeeps w s' hresult
    obtain ⟨rfl, hft⟩ := hf w _ t hkeeps v u h
    exact ⟨rfl, by rw [bind_apply, hxt]; exact hft⟩

theorem frameAt_of_getElem? {a : Addr} {f : Frame} (h : s.store[a]? = some (.frame f)) :
    frameAt a s = (.ok f, s) := by
  have hobject : object a s = (.ok (.frame f), s) := by
    rw [object_apply, Array.getD_eq_getD_getElem?, h]
    rfl
  simp only [frameAt, bind_apply, hobject, pure_apply]

theorem looksAtFrames_frameAt (a : Addr) : LooksAtFrames (frameAt a) := by
  intro s t hkeeps f u h
  have hframe : s.store[a]? = some (.frame f) ∧ u = s := by
    simp only [frameAt, bind_apply, object_apply, Array.getD_eq_getD_getElem?] at h
    cases hobject : s.store[a]? with
    | none =>
      rw [hobject] at h
      cases h
    | some o =>
      rw [hobject] at h
      cases o with
      | frame g =>
        cases h
        exact ⟨rfl, rfl⟩
      | _ => cases h
  exact ⟨hframe.2, frameAt_of_getElem? (hkeeps a f hframe.1)⟩

theorem looksAtFrames_owningFrame (name : String) (depth : Nat) (at? : Option Addr) :
    LooksAtFrames (owningFrame name depth at?) := by
  induction depth generalizing at? with
  | zero => exact looksAtFrames_pure none
  | succ depth ih =>
    cases at? with
    | none => exact looksAtFrames_pure none
    | some a =>
      refine (looksAtFrames_frameAt a).bind fun f => ?_
      cases f.kind with
      | module => exact looksAtFrames_pure none
      | cls => exact ih f.parent
      | _ =>
        dsimp only
        split
        · exact looksAtFrames_pure (some a)
        · split
          · exact looksAtFrames_pure none
          · exact ih f.parent

theorem looksAtFrames_filterMapM {f : α → Run (Option β)} (hf : ∀ v, LooksAtFrames (f v))
    (vs : List α) : LooksAtFrames (vs.filterMapM f) := by
  induction vs with
  | nil =>
    rw [List.filterMapM_nil]
    exact looksAtFrames_pure []
  | cons v vs ih =>
    rw [List.filterMapM_cons]
    refine (hf v).bind fun w => ?_
    cases w with
    | none => exact ih
    | some w => exact ih.bind fun ws => looksAtFrames_pure _

theorem looksAtFrames_localVars (f : Frame) : LooksAtFrames (localVars f) := by
  unfold localVars
  cases f.kind with
  | module => exact looksAtFrames_pure []
  | cls => exact looksAtFrames_pure f.vars
  | _ =>
    -- names that are taken from outside are looked for from frame to frame
    refine (looksAtFrames_filterMapM (fun name => ?_) _).bind fun taken => looksAtFrames_pure _
    refine (looksAtFrames_owningFrame name (nesting f.parent) f.parent).bind fun a => ?_
    cases a with
    | none => exact looksAtFrames_pure none
    | some a => exact (looksAtFrames_frameAt a).bind fun g => looksAtFrames_pure _

/-- Code of a frame that is being run in a session: its variables are in a dictionary, and the names
that it sees as local can be found. -/
structure Running (s : Session) (f : Frame) : Prop where
  current : s.store[s.frame]? = some (.frame f)
  globals : ∃ es, s.store[f.globals]? = some (.dict es)
  locals : ∃ vars, localVars f s = (.ok vars, s)

variable {f : Frame}

theorem Running.mono (hs : Running s f) (hkeeps : KeepsFrames s t) (hframe : t.frame = s.frame)
    (hglobals : ∃ es, t.store[f.globals]? = some (.dict es)) : Running t f where
  current := by
    rw [hframe]
    exact hkeeps s.frame f hs.current
  globals := hglobals
  locals := by
    obtain ⟨vars, hvars⟩ := hs.locals
    exact ⟨vars, (looksAtFrames_localVars f s t hkeeps vars s hvars).2⟩

theorem Running.currentFrame_eq (hs : Running s f) : currentFrame s = (.ok f, s) := by
  have hobject : object s.frame s = (.ok (.frame f), s) := by
    rw [object_apply, Array.getD_eq_getD_getElem?, hs.current]
    rfl
  simp only [currentFrame, bind_apply, get_apply, hobject, pure_apply]

theorem Running.exists_visibleVars (hs : Running s f) :
    ∃ vars, visibleVars f s = (.ok vars, s) := by
  obtain ⟨vars, hvars⟩ := hs.locals
  exact ⟨_, by simp only [visibleVars, bind_apply, entriesAt_apply, hvars, pure_apply]; rfl⟩

theorem expandText_of_plain {text : String} (h : expansions text.toList = []) (m : Machine)
    (scope : Addr) (s : Session) : Library.expandText m scope text s = (.ok text, s) := by
  simp only [Library.expandText, Shell.Performer.expand_eq_weave, h, List.mapM_nil, pure_bind,
    bind_apply, pure_apply, Shell.Performer.weave]
  simp

/-- The object that a fault is raised as. -/
def faultObject : World.Fault → Object
  | .os e path => .instance (.type (World.Fault.os e path).kind) []
      ([.int e.number, .text e.text] ++ (path.map Value.text).toList)
  | f => .instance (.type f.kind) [] (messageArgs f.message)

theorem faultError_apply (fault : World.Fault) (s : Session) :
    faultError fault s = (.ok (.ref s.store.size), s.push (faultObject fault)) := by
  cases fault <;> rfl

theorem act_of_ok {x : World.Act α} {v : α} {w : World} (h : x s.world = (.ok v, w)) :
    act x s = (.ok v, { s with world := w }) := by
  simp only [act, bind_apply, get_apply, h, set_apply, pure_apply]

theorem act_of_error {x : World.Act α} {fault : World.Fault} {w : World}
    (h : x s.world = (.error fault, w)) :
    act x s = (.error (.exception (.ref s.store.size)),
      Session.push { s with world := w } (faultObject fault)) := by
  simp only [act, bind_apply, get_apply, h, set_apply, faultError_apply]
  rfl

/-- A text without expansions is run as it is, with the variables in a dictionary of their own. -/
theorem Running.exists_runCommand_eq (hs : Running s f) {text : String}
    (htext : expansions text.toList = []) (m : Machine) (wanted : Shell.Capture) :
    ∃ vars, Library.runCommand m text wanted s =
      (act (Shell.invoke wanted text) >>= Library.receive f.globals) (s.push (.dict vars)) := by
  obtain ⟨vars, hvars⟩ := hs.exists_visibleVars
  have halloc : alloc (.dict vars) s = (.ok s.store.size, s.push (.dict vars)) := rfl
  refine ⟨vars, ?_⟩
  simp only [Library.runCommand, bind_apply, hs.currentFrame_eq, hvars, halloc,
    expandText_of_plain htext]

/-- The object that is raised to leave the shell. -/
def exitObject (code : Int) : Object := .instance (.type "SystemExit") [] [.int code]

theorem receive_leave (globals : Addr) (code : Int) (remembered : Bool) (s : Session) :
    Library.receive globals (.leave code remembered) s =
      (.error (.exception (.ref (if remembered then s.withStatus globals code else s).store.size)),
        (if remembered then s.withStatus globals code else s).push (exitObject code)) := by
  cases remembered with
  | false => rfl
  | true =>
    simp only [Library.receive, bind_apply, setGlobal_apply, if_true]
    rfl

theorem receive_status (globals : Addr) (code : Int) (s : Session) :
    Library.receive globals (.status code) s = (.ok .none, s.withStatus globals code) := by
  simp only [Library.receive, bind_apply, setGlobal_apply, pure_apply]
  rfl

/-- What comes of calls in a session when the commands that they run come to a reply: a value, and a
status that is kept, or else an error. Objects that were there before are then as they were, but for
the status among the variables; besides the store, only the world may differ. -/
inductive Follows (s : Session) (globals : Addr) (v : α) :
    Except World.Fault Shell.Reply × World → Except Raised α × Session → Prop
  | done {code : Int} {w : World} {t : Session} (rest : t = { s with world := w }.withStoreOf t)
      (kept : ∀ a < s.store.size, t.store[a]? = (s.withStatus globals code).store[a]?) :
      Follows s globals v (.ok (.status code), w) (.ok v, t)
  | left {code : Int} {remembered : Bool} {w : World} {t : Session} {a : Addr}
      (rest : t = { s with world := w }.withStoreOf t)
      (error : t.store[a]? = some (exitObject code)) :
      Follows s globals v (.ok (.leave code remembered), w) (.error (.exception (.ref a)), t)
  | failed {fault : World.Fault} {w : World} {t : Session} {a : Addr}
      (rest : t = { s with world := w }.withStoreOf t)
      (error : t.store[a]? = some (faultObject fault)) :
      Follows s globals v (.error fault, w) (.error (.exception (.ref a)), t)

/-- A reply to commands that are run for their effects. -/
def IsEffect : Shell.Reply → Prop
  | .status _ => True
  | .leave _ _ => True
  | _ => False

theorem isEffect_of_replyOf {x : World.Act Shell.Status} {reply : Shell.Reply} {w w' : World}
    (h : (Shell.replyOf <$> x) w = (.ok reply, w')) : IsEffect reply := by
  rw [map_eq_pure_bind] at h
  obtain ⟨status, v, -, hreply⟩ := exists_of_bind_ok h
  cases hreply
  unfold Shell.replyOf
  split <;> trivial

theorem isEffect_of_runLines {lines : List String} {last : Int} {reply : Shell.Reply} {w w' : World}
    (h : Shell.runLines last lines w = (.ok reply, w')) : IsEffect reply := by
  induction lines generalizing last w with
  | nil =>
    cases h
    trivial
  | cons line rest ih =>
    obtain ⟨status, v, -, hrest⟩ := exists_of_bind_ok h
    split at hrest
    · cases hrest
      trivial
    · exact ih hrest

section

variable {a globals : Addr} {code : Int}

theorem getElem?_withStatus (h : globals < s.store.size) :
    (s.withStatus globals code).store[a]? =
      if globals = a then some (.dict (setName Library.statusName (.int code) (s.entries globals)))
      else s.store[a]? := by
  rw [Session.withStatus, Session.put, Array.getElem?_setIfInBounds, if_pos h]

theorem entries_of_getElem? {es : List (Value × Value)} (h : s.store[a]? = some (.dict es)) :
    s.entries a = es := by
  rw [Session.entries, Array.getD_eq_getD_getElem?, h]
  rfl

theorem getElem?_push (o : Object) (h : a < s.store.size) :
    (s.push o).store[a]? = s.store[a]? := by
  simp [Session.push, Array.getElem?_push, h.ne]

end

theorem Running.globals_lt (hs : Running s f) : f.globals < s.store.size := by
  obtain ⟨es, hes⟩ := hs.globals
  exact (Array.getElem?_eq_some_iff.mp hes).1

/-- One call does what comes of the text that it is given. -/
theorem Running.follows (hs : Running s f) {text : String} (htext : expansions text.toList = [])
    (m : Machine)
    (heffect : ∀ reply w, Shell.invoke .nothing text s.world = (.ok reply, w) → IsEffect reply) :
    Follows s f.globals .none (Shell.invoke .nothing text s.world)
      (Library.shellFunction m [.text text] [] s) := by
  obtain ⟨vars, hcall⟩ := hs.exists_runCommand_eq htext m .nothing
  rw [shellFunction_text, hcall, bind_apply]
  rcases hinvoke : Shell.invoke .nothing text s.world with ⟨fault | reply, w⟩
  · rw [act_of_error (s := s.push (.dict vars)) hinvoke]
    exact .failed rfl Array.getElem?_push_size
  · rw [act_of_ok (s := s.push (.dict vars)) hinvoke]
    cases reply with
    | status code =>
      simp only [receive_status]
      refine .done rfl fun a ha => ?_
      have hsize : f.globals < (s.push (.dict vars)).store.size := by
        simpa [Session.push] using Nat.lt_succ_of_lt hs.globals_lt
      have hentries : (s.push (.dict vars)).entries f.globals = s.entries f.globals := by
        simp only [Session.entries, Array.getD_eq_getD_getElem?, getElem?_push _ hs.globals_lt]
      calc
        _ = ((s.push (.dict vars)).withStatus f.globals code).store[a]? := rfl
        _ = (s.withStatus f.globals code).store[a]? := by
          rw [getElem?_withStatus hsize, getElem?_withStatus hs.globals_lt, hentries,
            getElem?_push _ ha]
    | leave code remembered =>
      simp only [receive_leave]
      cases remembered <;> exact .left rfl Array.getElem?_push_size
    | _ => exact (heffect _ w hinvoke).elim

/-! ## Call after call -/

/-- Calls on the shell with one text after the other. -/
def callEach (m : Machine) : List String → Run Unit
  | [] => return ()
  | line :: rest => do
    let _ ← Library.shellFunction m [.text line] []
    callEach m rest

theorem setName_setName (name : String) (v w : Value) (es : List (Value × Value)) :
    setName name w (setName name v es) = setName name w es := by
  induction es with
  | nil => simp [setName]
  | cons entry es ih =>
    obtain ⟨k, old⟩ := entry
    cases k with
    | text key =>
      by_cases hkey : key = name
      · simp [setName, hkey]
      · simpa [setName, hkey] using ih
    | _ => simpa [setName] using ih

section

variable {code : Int} {w : World} (hs : Running s f)
  (hrest : t = { s with world := w }.withStoreOf t)
  (hkept : ∀ a < s.store.size, t.store[a]? = (s.withStatus f.globals code).store[a]?)
include hs hkept

theorem Running.getElem?_globals_of_kept : t.store[f.globals]? =
    some (.dict (setName Library.statusName (.int code) (s.entries f.globals))) := by
  rw [hkept _ hs.globals_lt, getElem?_withStatus hs.globals_lt, if_pos rfl]

theorem Running.getElem?_of_kept {a : Addr} (ha : a < s.store.size) (hne : f.globals ≠ a) :
    t.store[a]? = s.store[a]? := by
  rw [hkept a ha, getElem?_withStatus hs.globals_lt, if_neg hne]

include hrest

/-- The same code is running after a status has been kept. -/
theorem Running.of_kept : Running t f := by
  refine hs.mono ?_ (by rw [hrest]) ⟨_, hs.getElem?_globals_of_kept hkept⟩
  intro a g hframe
  have ha : a < s.store.size := (Array.getElem?_eq_some_iff.mp hframe).1
  have hne : f.globals ≠ a := by
    rintro rfl
    obtain ⟨es, hes⟩ := hs.globals
    rw [hes] at hframe
    cases hframe
  rw [hs.getElem?_of_kept hkept ha hne, hframe]

/-- What follows once a status has been kept follows from the session before. -/
theorem Running.follows_of_kept {v : α} {x : Except World.Fault Shell.Reply × World}
    {y : Except Raised α × Session} (h : Follows t f.globals v x y) :
    Follows s f.globals v x y := by
  have hrests : ∀ {u : Session} {w' : World}, u = { t with world := w' }.withStoreOf u →
      u = { s with world := w' }.withStoreOf u := by
    intro u w' hu
    rw [hu, hrest]
  cases h with
  | done rest kept =>
    refine .done (hrests rest) fun a ha => ?_
    have hat : a < t.store.size := by
      by_contra hnot
      have hsize := hkept a ha
      rw [Array.getElem?_eq_none (Nat.le_of_not_lt hnot), eq_comm, Array.getElem?_eq_none_iff,
        Session.withStatus, Session.put, Array.size_setIfInBounds] at hsize
      omega
    have hrunning := hs.of_kept hrest hkept
    rw [kept a hat, getElem?_withStatus hrunning.globals_lt, getElem?_withStatus hs.globals_lt,
      entries_of_getElem? (hs.getElem?_globals_of_kept hkept), setName_setName]
    split
    · rfl
    · next hne => exact hs.getElem?_of_kept hkept ha hne
  | left rest error => exact .left (hrests rest) error
  | failed rest error => exact .failed (hrests rest) error

end

section

variable (hs : Running s f) (m : Machine) {last : Int} {line : String} {rest : List String}
include hs

/-- One line more in front of lines that are run once its status has been kept. -/
theorem Running.follows_cons (hexpansions : expansions line.toList = [])
    (hinvoke : Shell.invoke .nothing line = Shell.replyOf <$> Shell.run line)
    (hrest : ∀ t w code, t = { s with world := w }.withStoreOf t →
      (∀ a < s.store.size, t.store[a]? = (s.withStatus f.globals code).store[a]?) →
      Follows s f.globals () (Shell.runLines code rest w) (callEach m rest t)) :
    Follows s f.globals () (Shell.runLines last (line :: rest) s.world)
      (callEach m (line :: rest) s) := by
  have hfirst := hs.follows hexpansions m fun reply w h => isEffect_of_replyOf (hinvoke ▸ h)
  rw [hinvoke, map_apply] at hfirst
  rw [Shell.runLines, callEach, bind_apply, bind_apply]
  generalize Library.shellFunction m [.text line] [] s = called at hfirst ⊢
  generalize Shell.run line s.world = ran at hfirst ⊢
  rcases ran with ⟨fault | status, w⟩
  · cases hfirst with
    | failed others error => exact .failed others error
  · cases hleaves : status.leaves with
    | true =>
      simp only [Shell.replyOf, hleaves, if_true] at hfirst ⊢
      cases hfirst with
      | left others error => exact .left others error
    | false =>
      simp only [Shell.replyOf, hleaves, Bool.false_eq_true, if_false] at hfirst ⊢
      cases hfirst with
      | done others kept => exact hrest _ w status.code others kept

/-- Calls with one line after the other do what comes of running the lines. -/
theorem Running.follows_callEach (hlines : ∀ l ∈ line :: rest, expansions l.toList = [] ∧
      Shell.invoke .nothing l = Shell.replyOf <$> Shell.run l) :
    Follows s f.globals () (Shell.runLines last (line :: rest) s.world)
      (callEach m (line :: rest) s) := by
  induction rest generalizing s last line with
  | nil =>
    obtain ⟨hexpansions, hinvoke⟩ := hlines line (by simp)
    exact hs.follows_cons m hexpansions hinvoke fun t w code hrest hkept => .done hrest hkept
  | cons next rest ih =>
    obtain ⟨⟨hexpansions, hinvoke⟩, hothers⟩ := List.forall_mem_cons.mp hlines
    refine hs.follows_cons m hexpansions hinvoke fun t w code hrest hkept => ?_
    obtain rfl : t.world = w := congrArg Session.world hrest
    exact hs.follows_of_kept hrest hkept (ih (hs.of_kept hrest hkept) hothers)

end

/-- One call ends as several calls do, in the same world. If they are done, the objects that were
there before the calls are the same, and so is the status among the variables. If they are not, the
errors that are raised are the same. -/
inductive SameEnd (s : Session) (globals : Addr) :
    Except Raised Value × Session → Except Raised Unit × Session → Prop
  | done {code : Int} {t u : Session} (rest : t = u.withStoreOf t)
      (objects : ∀ a < s.store.size, t.store[a]? = u.store[a]?)
      (status : lookupName (t.entries globals) Library.statusName = some (.int code))
      (status' : lookupName (u.entries globals) Library.statusName = some (.int code)) :
      SameEnd s globals (.ok .none, t) (.ok (), u)
  | left {code : Int} {t u : Session} {a b : Addr} (rest : t = u.withStoreOf t)
      (error : t.store[a]? = some (exitObject code))
      (error' : u.store[b]? = some (exitObject code)) :
      SameEnd s globals (.error (.exception (.ref a)), t) (.error (.exception (.ref b)), u)
  | failed {fault : World.Fault} {t u : Session} {a b : Addr}
      (rest : t = u.withStoreOf t)
      (error : t.store[a]? = some (faultObject fault))
      (error' : u.store[b]? = some (faultObject fault)) :
      SameEnd s globals (.error (.exception (.ref a)), t) (.error (.exception (.ref b)), u)

theorem Running.status_of_kept (hs : Running s f) {code : Int}
    (hkept : ∀ a < s.store.size, t.store[a]? = (s.withStatus f.globals code).store[a]?) :
    lookupName (t.entries f.globals) Library.statusName = some (.int code) := by
  rw [entries_of_getElem? (hs.getElem?_globals_of_kept hkept), lookupName_setName]

/-- What follows from one reply ends the same. -/
theorem Running.sameEnd_of_follows (hs : Running s f) {x : Except World.Fault Shell.Reply × World}
    {y : Except Raised Value × Session} {z : Except Raised Unit × Session}
    (hy : Follows s f.globals .none x y) (hz : Follows s f.globals () x z) :
    SameEnd s f.globals y z := by
  have hrests : ∀ {t u : Session} {w : World}, t = { s with world := w }.withStoreOf t →
      u = { s with world := w }.withStoreOf u → t = u.withStoreOf t := by
    intro t u w ht hu
    rw [ht, hu]
  cases hy with
  | done rest kept =>
    cases hz with
    | done rest' kept' =>
      refine .done (hrests rest rest') (fun a ha => ?_) (hs.status_of_kept kept)
        (hs.status_of_kept kept')
      rw [kept a ha, kept' a ha]
  | left rest error =>
    cases hz with
    | left rest' error' => exact .left (hrests rest rest') error error'
  | failed rest error =>
    cases hz with
    | failed rest' error' => exact .failed (hrests rest rest') error error'

/-- A text of several commands, with any blank rows around them, is given to the shell in one call:
this ends as calls with one command after the other do. -/
theorem shell_rows_sameEnd_callEach (hs : Running s f) (m : Machine) {rows : List (List Char)}
    (hrows : ∀ r ∈ rows, IsBlankRow r ∨ IsCommandRow r) (hlength : 2 ≤ (commandRows rows).length)
    (hexpansions : expansions (['\n'].intercalate (commandRows rows)) = []) :
    SameEnd s f.globals
      (Library.shellFunction m [.text (String.ofList (['\n'].intercalate rows))] [] s)
      (callEach m ((commandRows rows).map String.ofList) s) := by
  have hjoint : Follows s f.globals .none
      (Shell.runLines 0 ((commandRows rows).map String.ofList) s.world)
      (Library.shellFunction m [.text (String.ofList (['\n'].intercalate rows))] [] s) := by
    have htext := (thins_intercalate hrows).expansions_eq_nil hexpansions
    have hinvoke := Shell.invoke_rows hrows hlength
    rw [← hinvoke]
    refine hs.follows (by rwa [String.toList_ofList]) m fun reply w hreply => ?_
    rw [hinvoke] at hreply
    exact isEffect_of_runLines hreply
  have heach : ∀ l ∈ (commandRows rows).map String.ofList, expansions l.toList = [] ∧
      Shell.invoke .nothing l = Shell.replyOf <$> Shell.run l := by
    intro l hl
    obtain ⟨r, hr, rfl⟩ := List.mem_map.mp hl
    have hcommand : IsCommandRow r := by simpa using (List.mem_filter.mp hr).2
    refine ⟨?_, Shell.invoke_commandRow hcommand⟩
    rw [String.toList_ofList]
    exact expansions_eq_nil_of_infix (infix_intercalate hr) hexpansions
  cases hlines : commandRows rows with
  | nil => simp [hlines] at hlength
  | cons r rest =>
    rw [hlines] at heach hjoint
    exact hs.sameEnd_of_follows hjoint (hs.follows_callEach m heach)

/-- A command that leaves the shell, with another one behind it. -/
def leavingRows : List (List Char) :=
  ["", "echo a > f", " \t", "echo 'b\n\nc'", "exit 3", "", "echo d"].map String.toList

theorem running_initial (w : World) : Running (Conch.Session.initial w) (moduleFrame 0) where
  current := rfl
  globals := ⟨_, rfl⟩
  locals := ⟨[], rfl⟩

theorem leavingRows_sameEnd_callEach :
    (∀ r ∈ leavingRows, IsBlankRow r ∨ IsCommandRow r) ∧
    (commandRows leavingRows).map String.ofList =
      ["echo a > f", "echo 'b\n\nc'", "exit 3", "echo d"] ∧
    SameEnd (Conch.Session.initial (World.Setup.plain ["ROOT"]).world) 0
      (Library.shellFunction standardMachine
        [.text "\necho a > f\n \t\necho 'b\n\nc'\nexit 3\n\necho d"] []
        (Conch.Session.initial (World.Setup.plain ["ROOT"]).world))
      (callEach standardMachine ["echo a > f", "echo 'b\n\nc'", "exit 3", "echo d"]
        (Conch.Session.initial (World.Setup.plain ["ROOT"]).world)) := by
  have hrows : ∀ r ∈ leavingRows, IsBlankRow r ∨ IsCommandRow r := by decide
  have hcommands : (commandRows leavingRows).map String.ofList =
      ["echo a > f", "echo 'b\n\nc'", "exit 3", "echo d"] := by decide
  refine ⟨hrows, hcommands, ?_⟩
  have hsame := shell_rows_sameEnd_callEach (running_initial (World.Setup.plain ["ROOT"]).world)
    standardMachine hrows (by decide) (by decide)
  rwa [hcommands] at hsame

end Conch.Eval
