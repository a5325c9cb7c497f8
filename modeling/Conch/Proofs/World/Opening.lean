import Mathlib
import Conch.World.Basic

/-!
# Opening files to write

Opening a file to write to makes it or empties it, and nothing else in the tree changes. No
directory comes or goes that way, so where a path leads to and whether it can be opened stays the
same however many files were opened before. Files can therefore be opened in any order, with paths
that lead to one file included.
-/

namespace Conch.World

/-- What stands at a path after it was opened to write. -/
def Node.opened (append : Bool) : Option Node → Node
  | none => .file [] false
  | some (.file data executable) => .file (if append then data else []) executable
  | some (.program name) => if append then .program name else .file [] true
  | some n => n

/-- A file that is opened twice is emptied unless it was opened at its end both times. -/
theorem Node.opened_opened (a b : Bool) (n : Option Node) :
    opened b (some (opened a n)) = opened (a && b) n := by
  rcases n with _ | (_ | _ | _ | _) <;> cases a <;> cases b <;> rfl

namespace Files

theorem get?_put {p : Path} (hp : p ≠ []) (fs : Files) (n : Node) (q : Path) :
    (fs.put p n).get? q = if p = q then some n else fs.get? q := by
  unfold get? put
  simp only [Std.ExtTreeMap.getElem?_insert, Std.LawfulEqCmp.compare_eq_iff_eq]
  by_cases hq : q = []
  · simp [hq, hp]
  · simp [hq]

theorem put_put (fs : Files) (p : Path) (n m : Node) : (fs.put p n).put p m = fs.put p m := by
  unfold put
  congr 1
  apply Std.ExtTreeMap.ext_getElem?
  intro q
  simp only [Std.ExtTreeMap.getElem?_insert]
  split <;> rfl

theorem put_comm {p q : Path} (h : p ≠ q) (fs : Files) (n m : Node) :
    (fs.put p n).put q m = (fs.put q m).put p n := by
  unfold put
  congr 1
  apply Std.ExtTreeMap.ext_getElem?
  intro k
  simp only [Std.ExtTreeMap.getElem?_insert, Std.LawfulEqCmp.compare_eq_iff_eq]
  by_cases hp : p = k
  · have hq : q ≠ k := fun hq => h (hp.trans hq.symm)
    simp [hp, hq]
  · simp [hp]

theorem put_self {fs : Files} {p : Path} {n : Node} (hp : p ≠ []) (h : fs.get? p = some n) :
    fs.put p n = fs := by
  unfold get? at h
  rw [if_neg (by simpa using hp)] at h
  unfold put
  congr 1
  apply Std.ExtTreeMap.ext_getElem?
  intro q
  simp only [Std.ExtTreeMap.getElem?_insert, Std.LawfulEqCmp.compare_eq_iff_eq]
  split
  next hq => rw [← hq, h]
  next => rfl

/-- Writing to a file changes no other path. -/
theorem get?_write {p q : Path} (h : p ≠ q) (fs : Files) (append : Bool) (offset : Nat)
    (new : Text.Bytes) : (fs.write p append offset new).get? q = fs.get? q := by
  unfold write
  split
  next data x hget =>
    have hp : p ≠ [] := by
      rintro rfl
      cases hget
    split <;> rw [get?_put hp, if_neg h]
  next => rfl

/-- The tree after what stands at a path was opened. -/
def openAt (fs : Files) (p : Path) (append : Bool) : Files :=
  fs.put p (Node.opened append (fs.get? p))

theorem get?_openAt {p : Path} (hp : p ≠ []) (fs : Files) (append : Bool) (q : Path) :
    (fs.openAt p append).get? q =
      if p = q then some (Node.opened append (fs.get? q)) else fs.get? q := by
  rw [openAt, get?_put hp]
  by_cases hq : p = q
  · rw [if_pos hq, if_pos hq, hq]
  · rw [if_neg hq, if_neg hq]

theorem openAt_comm {p q : Path} (hp : p ≠ []) (hq : q ≠ []) (fs : Files) (a b : Bool) :
    (fs.openAt p a).openAt q b = (fs.openAt q b).openAt p a := by
  by_cases h : p = q
  · subst h
    have htwice (a b : Bool) : (fs.openAt p a).openAt p b =
        fs.put p (Node.opened (a && b) (fs.get? p)) := by
      rw [openAt, get?_openAt hp, if_pos rfl, Node.opened_opened, openAt, put_put]
    rw [htwice, htwice, Bool.and_comm]
  · calc
      (fs.openAt p a).openAt q b =
          (fs.put p (Node.opened a (fs.get? p))).put q (Node.opened b (fs.get? q)) := by
        rw [openAt, get?_openAt hp, if_neg h, openAt]
      _ = (fs.put q (Node.opened b (fs.get? q))).put p (Node.opened a (fs.get? p)) :=
        put_comm h _ _ _
      _ = (fs.openAt q b).openAt p a := by
        rw [openAt, get?_openAt hq, if_neg (Ne.symm h), openAt]

theorem isDirectory_root (fs : Files) : fs.isDirectory [] = true := rfl

theorem barrier?_eq_none_iff {fs : Files} {atStart : Bool} {here : Path} {n : String} :
    fs.barrier? atStart here n = none ↔ n.utf8ByteSize ≤ maxName ∧
      (fs.isDirectory here = true ∨ atStart = true ∧ (n = "." ∨ n = "..")) := by
  unfold barrier?
  cases fs.isDirectory here <;> cases atStart <;> by_cases hdots : n = "." ∨ n = ".." <;>
    cases (fs.get? here).isSome <;> simp [hdots]

theorem walk_cons {fs : Files} {atStart : Bool} {here : Path} {n : String} {ns : List String}
    (h : fs.barrier? atStart here n = none) :
    fs.walk atStart here (n :: ns) = fs.walk false
      (if n = "." then here else if n = ".." then here.dropLast else here ++ [n]) ns := by
  rw [walk, h]

theorem walk_cons_error {fs : Files} {atStart : Bool} {here : Path} {n : String} {ns : List String}
    {e : Errno} (h : fs.barrier? atStart here n = some e) :
    fs.walk atStart here (n :: ns) = .error e := by
  rw [walk, h]

/-- The last step of a walk to a name is taken from a directory. -/
theorem isDirectory_dropLast_of_walk {fs : Files} {atStart : Bool} {here p : Path}
    {ns : List String} {n : String} (hwalk : fs.walk atStart here ns = .ok p)
    (hlast : ns.getLast? = some n) (hdot : n ≠ ".") (hdots : n ≠ "..") :
    fs.isDirectory p.dropLast = true := by
  induction ns generalizing atStart here with
  | nil => simp at hlast
  | cons m ns ih =>
    cases hbarrier : fs.barrier? atStart here m with
    | some e =>
      rw [walk_cons_error hbarrier] at hwalk
      cases hwalk
    | none =>
      rw [walk_cons hbarrier] at hwalk
      cases ns with
      | cons k ns => exact ih hwalk (by simpa [List.getLast?_cons_cons] using hlast)
      | nil =>
        obtain rfl : m = n := by simpa using hlast
        rw [if_neg hdot, if_neg hdots] at hwalk
        cases hwalk
        rw [List.dropLast_concat]
        rcases (barrier?_eq_none_iff.mp hbarrier).2 with hdir | ⟨-, hname⟩
        · exact hdir
        · exact absurd hname (by simp [hdot, hdots])

theorem exists_name_of_part (part cs : List Char) (hpart : part ≠ []) :
    ∃ n ∈ Path.cut '/' part cs, n ≠ "" := by
  induction cs generalizing part with
  | nil =>
    refine ⟨String.ofList part.reverse, List.mem_singleton_self _, ?_⟩
    simpa using hpart
  | cons c cs ih =>
    rw [Path.cut]
    split
    · refine ⟨String.ofList part.reverse, List.mem_cons_self, ?_⟩
      simpa using hpart
    · exact ih (c :: part) (by simp)

/-- A path without names is absolute. -/
theorem isAbsolute_of_names_eq_nil {s : String} (hs : s ≠ "") (h : Path.names s = []) :
    Path.isAbsolute s = true := by
  unfold Path.isAbsolute
  unfold Path.names at h
  cases hchars : s.toList with
  | nil => exact absurd (String.toList_eq_nil_iff.mp hchars) hs
  | cons c cs =>
    by_cases hc : c = '/'
    · rw [hc]
      rfl
    · rw [hchars, Path.cut, if_neg hc, List.filter_eq_nil_iff] at h
      obtain ⟨n, hn, hne⟩ := exists_name_of_part [c] cs (by simp)
      exact absurd hne (by simpa using h n hn)

/-- Where a path leads to, if what stands there can be opened to write or made. -/
def landing (fs : Files) (cwd : Path) (s : String) : Option Path :=
  (fs.find cwd s).toOption.bind fun place =>
    if place.asDirectory || fs.isDirectory place.path then none else some place.path

theorem find_of_landing {fs : Files} {cwd p : Path} {s : String} (h : fs.landing cwd s = some p) :
    fs.find cwd s = .ok ⟨p, false⟩ ∧ fs.isDirectory p = false := by
  unfold landing at h
  cases hfind : fs.find cwd s with
  | error e => simp [hfind, Except.toOption] at h
  | ok place =>
    obtain ⟨path, asDirectory⟩ := place
    cases asDirectory <;> cases hdir : fs.isDirectory path <;>
      simp [hfind, Except.toOption, hdir] at h
    subst h
    exact ⟨rfl, hdir⟩

theorem ne_nil_of_landing {fs : Files} {cwd p : Path} {s : String}
    (h : fs.landing cwd s = some p) : p ≠ [] := by
  rintro rfl
  have hdir := (find_of_landing h).2
  rw [isDirectory_root] at hdir
  cases hdir

/-- What can be opened stands in a directory. -/
theorem isDirectory_dropLast_of_landing {fs : Files} {cwd p : Path} {s : String}
    (h : fs.landing cwd s = some p) : fs.isDirectory p.dropLast = true := by
  obtain ⟨hfind, hdir⟩ := find_of_landing h
  unfold find at hfind
  split at hfind
  · cases hfind
  next hs =>
    dsimp only at hfind
    cases hwalk : fs.walk true (if Path.isAbsolute s then [] else cwd) (Path.names s) with
    | error e => simp [hwalk, Except.map] at hfind
    | ok q =>
      simp only [hwalk, Except.map, Except.ok.injEq, Place.mk.injEq, Bool.or_eq_false_iff] at hfind
      obtain ⟨rfl, -, hlast⟩ := hfind
      cases hnames : (Path.names s).getLast? with
      | none =>
        have hnil : Path.names s = [] := List.getLast?_eq_none_iff.mp hnames
        have habsolute := isAbsolute_of_names_eq_nil (by simpa using hs) hnil
        rw [hnil, if_pos habsolute] at hwalk
        cases hwalk
        rfl
      | some n =>
        rw [hnames] at hlast
        simp only [Option.any_some, Bool.or_eq_false_iff, beq_eq_false_iff_ne] at hlast
        exact isDirectory_dropLast_of_walk hwalk hnames hlast.1 hlast.2

/-- The device at a path: whether it is full. -/
def device? (fs : Files) (p : Path) : Option Bool :=
  match fs.get? p with
  | some (.device full) => some full
  | _ => none

/-- What is written to when a path was opened. -/
def targetAt (fs : Files) (p : Path) (append : Bool) : Target :=
  match fs.device? p with
  | some full => .device full
  | none => .file p append

theorem openWrite_of_landing {fs : Files} {cwd p : Path} {s : String}
    (h : fs.landing cwd s = some p) (append : Bool) :
    fs.openWrite cwd s append = .ok (fs.openAt p append, fs.targetAt p append) := by
  obtain ⟨hfind, hdir⟩ := find_of_landing h
  have hparent := isDirectory_dropLast_of_landing h
  have hself {n : Node} (hn : fs.get? p = some n) : fs.put p n = fs :=
    put_self (ne_nil_of_landing h) hn
  unfold openWrite
  simp only [hfind]
  cases hget : fs.get? p with
  | none => simp [openAt, targetAt, device?, hget, Node.opened, hparent]
  | some n =>
    cases n with
    | directory => simp [isDirectory, hget] at hdir
    | file data x => simp [openAt, targetAt, device?, hget, Node.opened]
    | program name => simp [openAt, targetAt, device?, hget, Node.opened]
    | device full => simp [openAt, targetAt, device?, hget, Node.opened, hself hget]

theorem openWrite_of_landing_eq_none {fs : Files} {cwd : Path} {s : String}
    (h : fs.landing cwd s = none) (append : Bool) :
    ∃ e, fs.openWrite cwd s append = .error e := by
  unfold landing at h
  unfold openWrite
  cases hfind : fs.find cwd s with
  | error e => exact ⟨e, rfl⟩
  | ok place =>
    simp only [hfind, Except.toOption, Option.bind_some] at h
    have hplace (hdir : fs.isDirectory place.path = false) : place.asDirectory = true := by
      simpa [hdir] using h
    cases hget : fs.get? place.path with
    | none => exact ⟨.isDirectory, by simp [hget, hplace (by simp [isDirectory, hget])]⟩
    | some n =>
      cases n with
      | directory => exact ⟨.isDirectory, by simp [hget]⟩
      | _ => exact ⟨.notDirectory, by simp [hget, hplace (by simp [isDirectory, hget])]⟩

/-- The same directories and the same devices. -/
def SameGround (fs fs' : Files) : Prop :=
  ∀ p, fs'.isDirectory p = fs.isDirectory p ∧ fs'.device? p = fs.device? p

theorem sameGround_refl (fs : Files) : SameGround fs fs := fun _ => ⟨rfl, rfl⟩

theorem SameGround.trans {fs fs' fs'' : Files} (h : SameGround fs fs') (h' : SameGround fs' fs'') :
    SameGround fs fs'' :=
  fun p => ⟨(h' p).1.trans (h p).1, (h' p).2.trans (h p).2⟩

theorem sameGround_openAt {fs : Files} {p : Path} (hp : fs.isDirectory p = false)
    (append : Bool) : SameGround fs (fs.openAt p append) := by
  have hne : p ≠ [] := by
    rintro rfl
    rw [isDirectory_root] at hp
    cases hp
  intro q
  unfold isDirectory device?
  rw [get?_openAt hne]
  by_cases hq : p = q
  · subst hq
    rw [if_pos rfl]
    unfold isDirectory at hp
    rcases hget : fs.get? p with _ | (_ | ⟨data, x⟩ | name | full) <;> cases append <;>
      simp [Node.opened, hget] at hp ⊢
  · rw [if_neg hq]
    exact ⟨rfl, rfl⟩

section

variable {fs fs' : Files} (h : SameGround fs fs')
include h

theorem SameGround.walk_toOption (atStart : Bool) (here : Path) (ns : List String) :
    (fs'.walk atStart here ns).toOption = (fs.walk atStart here ns).toOption := by
  induction ns generalizing atStart here with
  | nil => rfl
  | cons n ns ih =>
    have hiff : fs'.barrier? atStart here n = none ↔ fs.barrier? atStart here n = none := by
      rw [barrier?_eq_none_iff, barrier?_eq_none_iff, (h here).1]
    cases hbarrier : fs.barrier? atStart here n with
    | none => rw [walk_cons hbarrier, walk_cons (hiff.mpr hbarrier), ih]
    | some e =>
      obtain ⟨e', he'⟩ : ∃ e', fs'.barrier? atStart here n = some e' := by
        rw [← Option.ne_none_iff_exists', Ne, hiff, hbarrier]
        simp
      rw [walk_cons_error hbarrier, walk_cons_error he']
      rfl

theorem SameGround.find_toOption (cwd : Path) (s : String) :
    (fs'.find cwd s).toOption = (fs.find cwd s).toOption := by
  have hmap {α β : Type} (f : α → β) (x : Except Errno α) :
      (x.map f).toOption = x.toOption.map f := by
    cases x <;> rfl
  unfold find
  split
  · rfl
  · rw [hmap, hmap, h.walk_toOption]

theorem SameGround.landing_eq (cwd : Path) (s : String) :
    fs'.landing cwd s = fs.landing cwd s := by
  unfold landing
  rw [h.find_toOption]
  congr 1
  funext place
  rw [(h place.path).1]

theorem SameGround.targetAt_eq (p : Path) (append : Bool) :
    fs'.targetAt p append = fs.targetAt p append := by
  unfold targetAt
  rw [(h p).2]

end

end Files

end Conch.World
