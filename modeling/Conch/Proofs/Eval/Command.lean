import Mathlib
import Conch.Eval.Machine
import Conch.Proofs.Eval.Class
import Conch.Proofs.Line.Command

/-!
# Running a command as code

The code of a command is a call that the session evaluates in a frame of its own. The run comes down
to the expansions in the line, which see a copy of the variables, and the command that they give;
its status is then kept among the variables, whatever was kept there before.
-/

namespace Conch.Eval

open Effect Code Line

/-- The entries of a dictionary; of anything else, none. -/
def Object.entries : Object → List (Value × Value)
  | .dict es => es
  | _ => []

def Session.entries (s : Session) (a : Addr) : List (Value × Value) :=
  (s.store.getD a default).entries

/-- A session with an object in the place of another. -/
def Session.put (s : Session) (a : Addr) (o : Object) : Session :=
  { s with store := s.store.setIfInBounds a o, nonempty := by simpa using s.nonempty }

variable {s t : Session} {a b globals : Addr}

theorem entriesAt_apply (a : Addr) (s : Session) : entriesAt a s = (.ok (s.entries a), s) := by
  simp only [entriesAt, bind_apply, object_apply, Session.entries]
  cases s.store.getD a default <;> rfl

theorem getGlobal?_apply (a : Addr) (name : String) (s : Session) :
    getGlobal? a name s = (.ok (lookupName (s.entries a) name), s) := by
  simp only [getGlobal?, bind_apply, entriesAt_apply, pure_apply]

theorem setGlobal_apply (a : Addr) (name : String) (v : Value) (s : Session) :
    setGlobal a name v s = (.ok (), s.put a (.dict (setName name v (s.entries a)))) := by
  simp only [setGlobal, bind_apply, entriesAt_apply]
  rfl

theorem entries_put_self (h : a < s.store.size) (es : List (Value × Value)) :
    (s.put a (.dict es)).entries a = es := by
  simp [Session.entries, Session.put, Object.entries, h]

theorem lookupName_setName (name : String) (v : Value) (es : List (Value × Value)) :
    lookupName (setName name v es) name = some v := by
  induction es with
  | nil => simp [setName, lookupName]
  | cons entry es ih =>
    obtain ⟨k, old⟩ := entry
    cases k with
    | text key =>
      by_cases hkey : key = name
      · simp [setName, lookupName, hkey]
      · simpa [setName, lookupName, hkey] using ih
    | _ => simpa [setName, lookupName] using ih

/-- An object that is no dictionary adds no entries. -/
theorem entries_push {o : Object} (h : o.entries = []) (s : Session) (a : Addr) :
    (s.push o).entries a = s.entries a := by
  have hdefault : (default : Object).entries = [] := rfl
  simp only [Session.entries, Session.push, Array.getD_eq_getD_getElem?, Array.getElem?_push]
  split
  next ha => simp [ha, h, hdefault]
  next => rfl

/-- A session in a new frame. -/
def Session.enter (s : Session) (f : Frame) : Session :=
  { s.push (.frame f) with frame := s.store.size, depth := s.depth + 1 }

/-- A session back in the frame of another one. -/
def Session.back (t s : Session) : Session := { t with frame := s.frame, depth := s.depth }

/-- A computation in another frame. -/
theorem withFrame_apply {α : Type} (h : s.depth < 1000) (a : Addr) (x : Run α) :
    withFrame a x s = ((x { s with frame := a, depth := s.depth + 1 }).1,
      (x { s with frame := a, depth := s.depth + 1 }).2.back s) := by
  have hdepth : ¬s.depth ≥ 1000 := Nat.not_le.mpr h
  simp only [withFrame, bind_apply, get_apply, if_neg hdepth, set_apply]
  generalize x _ = outcome
  rcases outcome with ⟨_ | _, t⟩ <;> rfl

/-- A computation in a new frame of its own. -/
theorem withFrame_push_apply {α : Type} (h : s.depth < 1000) (f : Frame) (x : Run α) :
    withFrame s.store.size x (s.push (.frame f)) =
      ((x (s.enter f)).1, (x (s.enter f)).2.back s) :=
  withFrame_apply (s := s.push (.frame f)) h s.store.size x

theorem currentFrame_enter (s : Session) (f : Frame) :
    currentFrame (s.enter f) = (.ok f, s.enter f) := by
  have hobject : object (s.enter f).frame (s.enter f) = (.ok (.frame f), s.enter f) := by
    simp [object_apply, Session.enter, Session.push]
  simp only [currentFrame, bind_apply, get_apply, hobject, pure_apply]

theorem entries_enter (s : Session) (f : Frame) (a : Addr) : (s.enter f).entries a = s.entries a :=
  entries_push rfl s a

theorem visibleVars_moduleFrame (globals : Addr) (s : Session) :
    visibleVars (moduleFrame globals) s = (.ok (s.entries globals), s) := by
  simp only [visibleVars, bind_apply, entriesAt_apply, localVars, moduleFrame]
  rfl

theorem lookupVar_enter {name : String} {v : Value}
    (h : lookupName (s.entries globals) name = some v) :
    lookupVar name (s.enter (moduleFrame globals)) = (.ok v, s.enter (moduleFrame globals)) := by
  have hmodule : (moduleFrame globals).kind = .module := rfl
  have hglobals : (moduleFrame globals).globals = globals := rfl
  simp only [lookupVar, bind_apply, currentFrame_enter, hmodule, if_pos, hglobals, lookupGlobal,
    getGlobal?_apply, entries_enter, h, pure_apply]

theorem shellFunction_text (m : Machine) (line : String) :
    Library.shellFunction m [.text line] [] = Library.runCommand m line .nothing := rfl

/-- The code of a command is one call, however the machine answers calls. -/
theorem eval_commandExpr {m inner core : Machine} {f : Value} (hm : m.eval = evalExpr inner)
    (hinner : inner.eval = evalExpr core) (line : String)
    (hshell : lookupName (s.entries globals) shellCall = some f) :
    m.eval (commandExpr line) (s.enter (moduleFrame globals)) =
      inner.call f [.text line] [] (s.enter (moduleFrame globals)) := by
  have hname : inner.eval (.name shellCall) (s.enter (moduleFrame globals)) =
      (.ok f, s.enter (moduleFrame globals)) := by
    rw [hinner]
    exact lookupVar_enter hshell
  have hconstant : inner.eval (.constant (.text line false)) = pure (.text line) := by
    rw [hinner]
    rfl
  have hargs : evalItems inner [.constant (.text line false)] = pure [.text line] := by
    simp only [evalItems, hconstant, pure_bind]
  simp only [hm, evalExpr, commandExpr, bind_apply, hname, hargs, pure_apply, evalKeywords]

/-- The session that the expansions of a command are performed in: a frame of its own for the code of
the command, and a copy of the variables. -/
def Session.scoped (s : Session) (globals : Addr) : Session :=
  (s.enter (moduleFrame globals)).push (.dict (s.entries globals))

/-- Performs the expansions of a line and runs what they give. -/
def plainReply (m : Machine) (scope : Addr) (line : String) : Run Shell.Reply := do
  act (Shell.invoke .nothing (← Library.expandText m scope line))

theorem runCommand_enter (m : Machine) (line : String) (s : Session) (globals : Addr) :
    Library.runCommand m line .nothing (s.enter (moduleFrame globals)) =
      (plainReply m (s.store.size + 1) line >>= Library.receive globals) (s.scoped globals) := by
  have halloc : alloc (.dict (s.entries globals)) (s.enter (moduleFrame globals)) =
      (.ok (s.store.size + 1), s.scoped globals) := by
    have hsize : (s.enter (moduleFrame globals)).store.size = s.store.size + 1 := by
      simp [Session.enter, Session.push]
    rw [← hsize]
    rfl
  simp only [Library.runCommand, plainReply, bind_apply, currentFrame_enter,
    visibleVars_moduleFrame, entries_enter, halloc]
  rcases Library.expandText m (s.store.size + 1) line (s.scoped globals) with ⟨_ | command, t⟩ <;>
    rfl

/-- A text that is read as an expression is evaluated in a frame of its own. -/
theorem evalSource_of_parse (m : Machine) {text : String} {e : Expr} (hdepth : s.depth < 1000)
    (hfirst : ∀ c ∈ text.toList.head?, c ≠ ' ' ∧ c ≠ '\t')
    (hparse : parse .expression text = .ok (.expression e))
    (hfault : (Program.expression e).fault? = none) :
    evalSource m (moduleFrame globals) text s =
      ((m.eval e (s.enter (moduleFrame globals))).1,
        (m.eval e (s.enter (moduleFrame globals))).2.back s) := by
  have hblank : unindented text = text := by
    rw [unindented, ← String.toList_inj, String.toList_ofList]
    cases htext : text.toList with
    | nil => rfl
    | cons c cs =>
      have hc := hfirst c (by simp [htext])
      exact List.dropWhile_cons_of_neg (by simp [hc])
  have hcompile : compileSource .expression text = pure (.expression e) := by
    simp only [compileSource, hparse, hfault]
  simp only [evalSource, hblank, hcompile, bind_apply]
  exact withFrame_push_apply hdepth _ _

theorem evalSource_commandCall {m inner core : Machine} {f : Value} (hm : m.eval = evalExpr inner)
    (hinner : inner.eval = evalExpr core) (line : String) (hdepth : s.depth < 1000)
    (hshell : lookupName (s.entries globals) shellCall = some f) :
    evalSource m (moduleFrame globals) (commandCall line) s =
      ((inner.call f [.text line] [] (s.enter (moduleFrame globals))).1,
        (inner.call f [.text line] [] (s.enter (moduleFrame globals))).2.back s) := by
  have hfirst : ∀ c ∈ (commandCall line).toList.head?, c ≠ ' ' ∧ c ≠ '\t' := by
    simp [commandCall, shellCall]
  rw [evalSource_of_parse m hdepth hfirst (parse_commandCall line) rfl,
    eval_commandExpr hm hinner line hshell]

/-- The status of a command is kept, whatever was kept before. -/
def Session.withStatus (s : Session) (globals : Addr) (code : Int) : Session :=
  s.put globals (.dict (setName Library.statusName (.int code) (s.entries globals)))

theorem interpret_commandCall {n : Nat} {line : String} {code : Int} (hdepth : s.depth < 1000)
    (hshell : lookupName (s.entries globals) shellCall = some (.builtin "shell"))
    (hreply : plainReply (machine (n + 1)) (s.store.size + 1) line (s.scoped globals) =
      (.ok (.status code), t)) :
    interpret (machine (n + 3)) globals (commandCall line) s =
      (.ok true, (t.withStatus globals code).back s) := by
  have hcall : (machine (n + 2)).call (.builtin "shell") [.text line] [] =
      Library.runCommand (machine (n + 1)) line .nothing := shellFunction_text _ line
  have heval : evalSource (machine (n + 3)) (moduleFrame globals) (commandCall line) s =
      (.ok .none, (t.withStatus globals code).back s) := by
    rw [evalSource_commandCall rfl rfl line hdepth hshell, hcall, runCommand_enter, bind_apply,
      hreply]
    simp only [Library.receive, bind_apply, setGlobal_apply, pure_apply]
    rfl
  simp only [interpret, reporting, runSource, catching, tryCatch_apply, bind_apply, heval, showResult,
    pure_apply]

end Conch.Eval
