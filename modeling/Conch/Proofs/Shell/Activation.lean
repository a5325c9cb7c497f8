import Mathlib
import Conch.Proofs.Shell.Capture

/-!
# Virtual environments and the search path

Activating a virtual environment puts its directory in front of the search path and keeps the path
from before; deactivating brings that one back. Whatever is called in whatever order, at most one
environment is in front of the path that the shell was started with, and a call that fails changes
nothing.
-/

namespace Conch.Shell

open World

/-- No virtual environment is active, and commands are searched for as in the beginning. -/
structure Inactive (path : String) (w : World) : Prop where
  unset : w.env["VIRTUAL_ENV"]? = none
  unsaved : w.savedPath = none
  search : w.env["PATH"]? = some path

/-- One virtual environment is active, in front of the path that is kept for later. -/
structure Active (path venv : String) (w : World) : Prop where
  isAbsolute : Path.isAbsolute venv = true
  isSet : w.env["VIRTUAL_ENV"]? = some venv
  saved : w.savedPath = some path
  search : w.env["PATH"]? = some (Path.join venv "bin" ++ ":" ++ path)

/-- The world after a virtual environment was left, if there was one. -/
def released (w : World) : World :=
  if w.env.contains "VIRTUAL_ENV" then
    { w with
      env := (match w.savedPath with
        | some p => w.env.insert "PATH" p
        | none => w.env).erase "VIRTUAL_ENV"
      savedPath := none }
  else w

/-- The world after a virtual environment was entered with none left active. -/
def entered (venv path : String) (w : World) : World :=
  { w with
    env := ((w.env.insert "PATH" (Path.join venv "bin" ++ ":" ++ path)).insert "VIRTUAL_ENV"
      venv).erase "PYTHONHOME"
    savedPath := some path }

theorem deactivate_bind_apply {α : Type} (f : Ran → Step α) (w : World) :
    (deactivate >>= f) w = f (deactivate w).1 (deactivate w).2 := rfl

theorem deactivate_apply (w : World) :
    (deactivate w).2 = released w ∧
      (deactivate w).1.status = if w.env.contains "VIRTUAL_ENV" then 0 else 1 := by
  cases hactive : w.env.contains "VIRTUAL_ENV" with
  | false =>
    rw [deactivate_of_not_contains hactive]
    simp [released, hactive, Ran.showing]
  | true =>
    rw [deactivate, get_bind_apply, if_pos hactive, released, if_pos hactive]
    exact ⟨rfl, rfl⟩

/-- With a directory for commands the environment is entered, after the one that was active is left,
unless there is no search path then. -/
theorem activate_of_isDirectory {args : List String} {w : World} {venv : String}
    (habs : absolute? w (environmentPath w args) = some venv)
    (hbin : w.files.isDirectoryAt w.cwd (Path.join venv "bin") = true) :
    activate args w = match (released w).env["PATH"]? with
      | none => (.broken (Text.quoted "PATH"), released w)
      | some path => (.quiet 0, entered venv path (released w)) := by
  have hreleased : (if w.env.contains "VIRTUAL_ENV" then (deactivate w).2 else w) =
      released w := by
    rw [(deactivate_apply w).1, released]
    split <;> rfl
  rw [← hreleased]
  unfold environmentPath at habs
  cases args <;> cases hactive : w.env.contains "VIRTUAL_ENV" <;>
  · simp only [activate, get_bind_apply, habs, hbin, hactive, Bool.not_true, Bool.false_eq_true,
      if_false, if_true, deactivate_bind_apply]
    split <;>
    · rename_i hpath
      simp only [hpath]
      rfl

/-- All that `activate` can do: fail and change nothing, fail for want of a search path, or leave
the environment that was active and enter the new one. -/
theorem activate_cases (args : List String) (w : World) :
    ((activate args w).1.status = 1 ∧ (activate args w).2 = w) ∨
    ((activate args w).1.status = 1 ∧ (activate args w).2 = released w ∧
      (released w).env["PATH"]? = none) ∨
    ∃ venv path, absolute? w (environmentPath w args) = some venv ∧
      (released w).env["PATH"]? = some path ∧ (activate args w).1.status = 0 ∧
      (activate args w).2 = entered venv path (released w) := by
  cases habs : absolute? w (environmentPath w args) with
  | none =>
    left
    unfold environmentPath at habs
    cases args <;>
    · simp only [activate, get_bind_apply, habs]
      exact ⟨rfl, rfl⟩
  | some venv =>
    cases hbin : w.files.isDirectoryAt w.cwd (Path.join venv "bin") with
    | false =>
      left
      rw [activate_of_not_isDirectory habs hbin]
      exact ⟨rfl, rfl⟩
    | true =>
      right
      rw [activate_of_isDirectory habs hbin]
      cases hpath : (released w).env["PATH"]? with
      | none => exact .inl ⟨rfl, rfl, rfl⟩
      | some path => exact .inr ⟨venv, path, rfl, rfl, rfl, rfl⟩

/-- The variables and the kept search path are the same. -/
def SameVariables (w w' : World) : Prop := w'.env = w.env ∧ w'.savedPath = w.savedPath

theorem sameVariables_changeDirectory (arg : String) (w : World) :
    SameVariables w (changeDirectory arg w).2 := by
  rw [changeDirectory, get_bind_apply]
  split
  · exact ⟨rfl, rfl⟩
  · rcases w.files.node w.cwd (w.expandHome arg) with e | ⟨p, _ | _ | _ | _⟩ <;> exact ⟨rfl, rfl⟩

theorem isAbsolute_of_absolute? {w : World} {s venv : String} (h : absolute? w s = some venv) :
    Path.isAbsolute venv = true := by
  have htext (p : Path) : p.text.toList.head? = some '/' := by
    simp [Path.text, String.toList_append]
  unfold absolute? at h
  split at h
  · cases h
    unfold Path.isAbsolute Path.absolute
    dsimp only
    split
    · simp [String.toList_append]
    · simp [htext]
  · cases h

theorem contains_eq_isSome (w : World) :
    w.env.contains "VIRTUAL_ENV" = (w.env["VIRTUAL_ENV"]?).isSome :=
  Std.ExtTreeMap.contains_eq_isSome_getElem?

theorem getElem?_released {name : String} (hpath : name ≠ "PATH") (hvenv : name ≠ "VIRTUAL_ENV")
    (w : World) : (released w).env[name]? = w.env[name]? := by
  unfold released
  split
  · cases w.savedPath <;>
      simp [Std.ExtTreeMap.getElem?_erase, Std.ExtTreeMap.getElem?_insert, hpath.symm, hvenv.symm]
  · rfl

theorem getElem?_entered {name : String} (hpath : name ≠ "PATH") (hvenv : name ≠ "VIRTUAL_ENV")
    (hhome : name ≠ "PYTHONHOME") (venv path : String) (w : World) :
    (entered venv path w).env[name]? = w.env[name]? := by
  simp [entered, Std.ExtTreeMap.getElem?_erase, Std.ExtTreeMap.getElem?_insert, hpath.symm,
    hvenv.symm, hhome.symm]

/-- The variables of the shell were `env` in the beginning, with `path` as its search path. Now at
most one virtual environment is in front of it, `PYTHONHOME` is gone if one was ever entered, and
all other variables are as they were. -/
structure Switched (env : Env) (path : String) (everEntered : Bool) (w : World) : Prop where
  switch : Inactive path w ∨ ∃ venv, Active path venv w
  cleared : w.env["PYTHONHOME"]? = if everEntered then none else env["PYTHONHOME"]?
  others : ∀ name ∉ ["PATH", "VIRTUAL_ENV", "PYTHONHOME"], w.env[name]? = env[name]?

section

variable {env : Env} {path : String} {before : Bool} {w : World}

theorem Switched.congr {w' : World} (h : Switched env path before w) (hsame : SameVariables w w') :
    Switched env path before w' := by
  obtain ⟨henv, hsaved⟩ := hsame
  constructor
  · rcases h.switch with hinactive | ⟨venv, hactive⟩
    · exact .inl ⟨henv ▸ hinactive.unset, hsaved ▸ hinactive.unsaved, henv ▸ hinactive.search⟩
    · exact .inr ⟨venv, hactive.isAbsolute, henv ▸ hactive.isSet, hsaved ▸ hactive.saved,
        henv ▸ hactive.search⟩
  · rw [henv, h.cleared]
  · rw [henv]
    exact h.others

theorem Inactive.released_eq (h : Inactive path w) : released w = w := by
  rw [released, contains_eq_isSome, h.unset]
  rfl

/-- Leaving brings the search path back. -/
theorem Switched.inactive_released (h : Switched env path before w) :
    Inactive path (released w) := by
  rcases h.switch with hinactive | ⟨venv, hactive⟩
  · rw [hinactive.released_eq]
    exact hinactive
  · rw [released, contains_eq_isSome, hactive.isSet, hactive.saved]
    constructor <;> simp

theorem Switched.of_released (h : Switched env path before w) :
    Switched env path before (released w) := by
  constructor
  · exact .inl h.inactive_released
  · rw [getElem?_released (by decide) (by decide), h.cleared]
  · intro name hname
    have hother := hname
    simp only [List.mem_cons, List.not_mem_nil, or_false, not_or] at hother
    rw [getElem?_released hother.1 hother.2.1, h.others name hname]

/-- Entering puts one directory in front of the search path. -/
theorem Switched.of_entered {venv : String} (h : Switched env path before w)
    (habsolute : Path.isAbsolute venv = true) :
    Switched env path true (entered venv path w) := by
  constructor
  · right
    refine ⟨venv, habsolute, ?_, rfl, ?_⟩ <;>
      simp only [entered, Std.ExtTreeMap.getElem?_erase, Std.ExtTreeMap.getElem?_insert,
        Std.LawfulEqCmp.compare_eq_iff_eq] <;> rfl
  · simp [entered]
  · intro name hname
    have hother := hname
    simp only [List.mem_cons, List.not_mem_nil, or_false, not_or] at hother
    rw [getElem?_entered hother.1 hother.2.1 hother.2.2, h.others name hname]

theorem Switched.of_deactivate (h : Switched env path before w) :
    Switched env path before (deactivate w).2 ∧
      ((deactivate w).1.status ≠ 0 → SameVariables w (deactivate w).2) := by
  obtain ⟨hnext, hstatus⟩ := deactivate_apply w
  rw [hnext, hstatus]
  refine ⟨h.of_released, ?_⟩
  intro hne
  have hactive : ¬ w.env.contains "VIRTUAL_ENV" = true := fun hactive => hne (if_pos hactive)
  rw [released, if_neg hactive]
  exact ⟨rfl, rfl⟩

theorem Switched.of_activate (h : Switched env path before w) (args : List String) :
    Switched env path (before || (activate args w).1.status == 0) (activate args w).2 ∧
      ((activate args w).1.status ≠ 0 → SameVariables w (activate args w).2) := by
  have hinactive := h.inactive_released
  rcases activate_cases args w with ⟨hstatus, hnext⟩ | ⟨-, -, hnone⟩ |
    ⟨venv, path', habs, hpath, hstatus, hnext⟩
  · rw [hstatus, hnext, show ((1 : Int) == 0) = false from rfl, Bool.or_false]
    exact ⟨h, fun _ => ⟨rfl, rfl⟩⟩
  · -- there is a search path after leaving, so the second way to fail is none here
    rw [hinactive.search] at hnone
    cases hnone
  · obtain rfl : path = path' := Option.some.inj (hinactive.search.symm.trans hpath)
    have habsolute := isAbsolute_of_absolute? habs
    rw [hstatus, hnext, show ((0 : Int) == 0) = true from rfl, Bool.or_true]
    exact ⟨h.of_released.of_entered habsolute, fun hne => absurd rfl hne⟩

end

/-- The builtins that switch environments, and the one that changes the directory. -/
inductive Switch where
  | activate
  | deactivate
  | cd
  deriving DecidableEq, Repr

def Switch.builtin : Switch → Builtin
  | activate => .activate
  | deactivate => .deactivate
  | cd => .cd

/-- A call with its words. -/
structure Call where
  switch : Switch
  args : List String

namespace Call

def status (c : Call) (w : World) : Int := (c.switch.builtin.run c.args w).1.status

def next (c : Call) (w : World) : World := (c.switch.builtin.run c.args w).2

/-- Whether a call with that status entered an environment. -/
def enters (c : Call) (status : Int) : Bool := c.switch == .activate && status == 0

end Call

/-- The worlds that calls lead to from a first one, and the calls with their statuses. Between two
calls anything may happen to the file tree and to all else but the variables. -/
inductive Reached (first : World) : List (Call × Int) → World → Prop where
  | start : Reached first [] first
  | call {calls : List (Call × Int)} {w : World} (c : Call) (rest : Reached first calls w) :
      Reached first (calls ++ [(c, c.status w)]) (c.next w)
  | elsewhere {calls : List (Call × Int)} {w w' : World} (rest : Reached first calls w)
      (same : SameVariables w w') : Reached first calls w'

section

variable {env : Env} {path : String} {before : Bool} {w : World}

/-- What one call keeps, and that it changes nothing when it fails. -/
theorem Switched.call (h : Switched env path before w) (c : Call) :
    Switched env path (before || c.enters (c.status w)) (c.next w) ∧
      (c.status w ≠ 0 → SameVariables w (c.next w)) := by
  obtain ⟨switch, args⟩ := c
  cases switch with
  | activate => exact h.of_activate args
  | deactivate =>
    rw [show Call.enters ⟨.deactivate, args⟩ _ = false from rfl, Bool.or_false]
    exact h.of_deactivate
  | cd =>
    have hsame : SameVariables w (Call.next ⟨.cd, args⟩ w) := by
      cases args with
      | nil => exact ⟨rfl, rfl⟩
      | cons arg rest => exact sameVariables_changeDirectory arg w
    rw [show Call.enters ⟨.cd, args⟩ _ = false from rfl, Bool.or_false]
    exact ⟨h.congr hsame, fun _ => hsame⟩

/-- What any calls in any order keep. -/
theorem Switched.of_reached {first : World} {calls : List (Call × Int)}
    (h : Switched env path false first) (hreached : Reached first calls w) :
    Switched env path (calls.any fun c => c.1.enters c.2) w := by
  induction hreached with
  | start => exact h
  | call c rest ih =>
    rw [List.any_append, List.any_cons, List.any_nil, Bool.or_false]
    exact (ih.call c).1
  | elsewhere rest same ih => exact ih.congr same

end

/-- Start a shell with a search path, no virtual environment and nothing kept. Wherever calls lead,
there is no environment and the search path is the first one, or one environment is in front of it;
no other variable differs, but that `PYTHONHOME` is gone once an environment was entered. From
there, a call that fails changes no variable, and after leaving the search path is the first one. -/
theorem search_path_of_reached {path : String} {first w : World} {calls : List (Call × Int)}
    (hpath : first.env["PATH"]? = some path) (hunset : first.env["VIRTUAL_ENV"]? = none)
    (hunsaved : first.savedPath = none) (hreached : Reached first calls w) :
    Switched first.env path (calls.any fun c => c.1.enters c.2) w ∧
      (∀ c : Call, c.status w ≠ 0 → SameVariables w (c.next w)) ∧
      ∀ args, Inactive path (Call.next ⟨.deactivate, args⟩ w) := by
  have hfirst : Switched first.env path false first :=
    ⟨.inl ⟨hunset, hunsaved, hpath⟩, rfl, fun _ _ => rfl⟩
  have hswitched := hfirst.of_reached hreached
  refine ⟨hswitched, fun c => (hswitched.call c).2, ?_⟩
  intro args
  change Inactive path (deactivate w).2
  rw [(deactivate_apply w).1]
  exact hswitched.inactive_released

/-- A world with two virtual environments. -/
def withEnvironments : World :=
  { Setup.plain ["ROOT"] with
    directories := ["v/bin", "u/bin"], env := [("PYTHONHOME", some "/x")] : Setup }.world

/-- One environment after the other, and a call that fails in between. -/
theorem search_path_of_three_calls :
    ∃ calls w, Reached withEnvironments calls w ∧ calls.map Prod.snd = [0, 1, 0] ∧
      w.env["PATH"]? = some "/ROOT/work/u/bin:/ROOT/bin" ∧
      Switched withEnvironments.env "/ROOT/bin" true w ∧
      (∀ c : Call, c.status w ≠ 0 → SameVariables w (c.next w)) ∧
      ∀ args, Inactive "/ROOT/bin" (Call.next ⟨.deactivate, args⟩ w) := by
  have hstart : Reached withEnvironments [] withEnvironments := .start
  have hreached := ((hstart.call ⟨.activate, ["v"]⟩).call ⟨.activate, ["nowhere"]⟩).call
    ⟨.activate, ["./u/"]⟩
  have hpath : withEnvironments.env["PATH"]? = some "/ROOT/bin" := by decide
  have hunset : withEnvironments.env["VIRTUAL_ENV"]? = none := by decide
  have hkept := search_path_of_reached hpath hunset rfl hreached
  refine ⟨_, _, hreached, by decide, by decide, ?_, hkept.2⟩
  convert hkept.1 using 1
  decide

end Conch.Shell
