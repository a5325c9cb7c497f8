import Mathlib.Data.List.Infix
import Mathlib.Data.List.TakeWhile
import Conch.Proofs.Text.Replace
import Conch.Screen.Prompt
import Conch.World.Setup

/-!
# The directory in the prompt

The prompt writes `~` for the user's own directory. Where that directory stands is decided on the
text of the working directory, and every occurrence of its text gives way. So what is shown stands
for the working directory only under a condition, which is found here: a directory whose name goes
on where the user's ends, and one in which the text occurs again, are shown as something else.
-/

namespace Conch.World.Path

/-- Names as they stand in a directory, and none that means the directory itself. -/
def Normal (p : Path) : Prop := ∀ n ∈ p, n ≠ "" ∧ n ≠ "." ∧ '/' ∉ n.toList

instance (p : Path) : Decidable (Normal p) :=
  inferInstanceAs (Decidable (∀ n ∈ p, n ≠ "" ∧ n ≠ "." ∧ '/' ∉ n.toList))

theorem toList_text (p : Path) :
    p.text.toList = '/' :: ['/'].intercalate (p.map String.toList) := by
  simp [text, String.toList_append, String.toList_intercalate]

theorem exists_toList_of_isAbsolute {s : String} (h : isAbsolute s = true) :
    ∃ body, s.toList = '/' :: body := by
  rw [isAbsolute, beq_iff_eq] at h
  exact List.head?_eq_some_iff.mp h

theorem cut_append (part s rest : List Char) :
    cut '/' part (s ++ '/' :: rest) = cut '/' part s ++ cut '/' [] rest := by
  induction s generalizing part with
  | nil => simp [cut]
  | cons c s ih =>
    rw [List.cons_append, cut, cut]
    split
    · rw [ih, List.cons_append]
    · exact ih _

theorem cut_of_not_mem {s : List Char} (h : '/' ∉ s) (part : List Char) :
    cut '/' part s = [String.ofList (part.reverse ++ s)] := by
  induction s generalizing part with
  | nil => simp [cut]
  | cons c s ih =>
    rw [List.mem_cons, not_or] at h
    rw [cut, if_neg (Ne.symm h.1), ih h.2]
    simp

theorem cut_ne_nil (separator : Char) (part s : List Char) : cut separator part s ≠ [] := by
  fun_induction cut separator part s <;> simp_all

theorem intercalate_cut (part s : List Char) :
    ['/'].intercalate ((cut '/' part s).map String.toList) = part.reverse ++ s := by
  induction s generalizing part with
  | nil => simp [cut]
  | cons c s ih =>
    rw [cut]
    split
    · next hc =>
      rw [List.map_cons, List.intercalate_cons_of_ne_nil (by simp [cut_ne_nil]), ih, hc]
      simp
    · rw [ih]
      simp

theorem cut_intercalate {p : Path} (hne : p ≠ []) (h : Normal p) :
    cut '/' [] (['/'].intercalate (p.map String.toList)) = p := by
  induction p with
  | nil => exact absurd rfl hne
  | cons n p ih =>
    have hn := cut_of_not_mem (h n List.mem_cons_self).2.2 []
    rw [List.reverse_nil, List.nil_append, String.ofList_toList] at hn
    cases p with
    | nil => simpa using hn
    | cons n' p =>
      have hrest := ih (List.cons_ne_nil _ _) fun m hm => h m (List.mem_cons_of_mem _ hm)
      rw [List.map_cons] at hrest
      rw [List.map_cons, List.map_cons, List.intercalate_cons_cons, List.append_assoc,
        List.singleton_append, cut_append, hn, hrest]
      rfl

theorem names_text {p : Path} (h : Normal p) : names p.text = p := by
  have hkept : p.filter (· ≠ "") = p := by
    rw [List.filter_eq_self]
    intro n hn
    simpa using (h n hn).1
  rw [names, toList_text, cut, if_pos rfl]
  rcases eq_or_ne p [] with rfl | hne
  · rfl
  · rw [cut_intercalate hne h]
    simpa using hkept

/-- The front of the text of a path, up to a slash, is the text of a path. -/
theorem exists_text_of_append {p : Path} (h : Normal p) {front : String} {rest : List Char}
    (habs : isAbsolute front = true) (htext : p.text.toList = front.toList ++ '/' :: rest) :
    ∃ q, Normal q ∧ front = q.text := by
  obtain ⟨body, hbody⟩ := exists_toList_of_isAbsolute habs
  rw [toList_text, hbody, List.cons_append, List.cons_inj_right] at htext
  have hne : p ≠ [] := by
    rintro rfl
    simp at htext
  -- The names of the front are the first of those of the whole.
  have hnames := cut_intercalate hne h
  rw [htext, cut_append] at hnames
  refine ⟨cut '/' [] body, fun n hn => h n ?_, ?_⟩
  · rw [← hnames]
    exact List.mem_append_left _ hn
  · rw [← String.toList_inj, toList_text, intercalate_cut, hbody]
    rfl

end Conch.World.Path

namespace Conch.World

variable {w : World} {home : String}

theorem reverse_dropWhile_slash {s : List Char} (h : s.getLast? ≠ some '/') :
    (s.reverse.dropWhile (· == '/')).reverse = s := by
  rw [← List.head?_reverse] at h
  have hkept : s.reverse.dropWhile (· == '/') = s.reverse := by
    generalize s.reverse = t at h
    cases t with
    | nil => rfl
    | cons c t => rw [List.dropWhile_cons_of_neg (by simpa using h)]
  rw [hkept, List.reverse_reverse]

/-- One's own directory, when its text ends in a name. -/
theorem expandHome_tilde (hhome : w.homeOf "" = some home) (habs : Path.isAbsolute home = true)
    (hend : home = "/" ∨ home.toList.getLast? ≠ some '/') : w.expandHome "~" = home := by
  have hne : home ≠ "" := by
    rintro rfl
    cases habs
  rw [expandHome, Path.expandHome]
  simp only [show "~".toList = ['~'] from rfl, List.takeWhile_nil, String.ofList_nil, hhome,
    Path.under]
  rcases hend with rfl | hend
  · rfl
  · simp [reverse_dropWhile_slash hend, hne]

/-- A place below one's own directory. -/
theorem expandHome_below (hhome : w.homeOf "" = some home)
    (hend : home.toList.getLast? ≠ some '/') (rest : List Char) :
    w.expandHome (String.ofList ('~' :: '/' :: rest)) = home ++ String.ofList ('/' :: rest) := by
  have huser : ('/' :: rest).takeWhile (· != '/') = [] := by simp
  rw [expandHome, Path.expandHome]
  simp only [String.toList_ofList, huser, String.ofList_nil, hhome, Path.under,
    reverse_dropWhile_slash hend]
  simp

/-- A text is `~`, the name of a user that the system knows and what follows it, and it stands for the
directory `cwd`. -/
def NamesUser (homes : String → Option String) (shown : List Char) (cwd : String) : Prop :=
  ∃ user tail directory, shown = '~' :: (user ++ tail) ∧ user ≠ [] ∧ '/' ∉ user ∧
    (tail = [] ∨ tail.head? = some '/') ∧ homes (String.ofList user) = some directory ∧
    Path.under directory tail = cwd

theorem takeWhile_user {user tail : List Char} (hname : '/' ∉ user)
    (htail : tail = [] ∨ tail.head? = some '/') : (user ++ tail).takeWhile (· != '/') = user := by
  rw [List.takeWhile_append_of_pos]
  · rcases htail with rfl | htail
    · simp
    · obtain ⟨rest, rfl⟩ := List.head?_eq_some_iff.mp htail
      simp
  · rintro c hc
    rw [bne_iff_ne]
    rintro rfl
    exact hname hc

theorem NamesUser.head_ne {homes : String → Option String} {shown : List Char} {cwd : String}
    (h : NamesUser homes shown cwd) : ∃ c rest, shown = '~' :: c :: rest ∧ c ≠ '/' := by
  obtain ⟨user, tail, -, rfl, hne, hname, -⟩ := h
  obtain ⟨c, user, rfl⟩ := List.exists_cons_of_ne_nil hne
  refine ⟨c, user ++ tail, rfl, ?_⟩
  rintro rfl
  exact hname List.mem_cons_self

theorem NamesUser.isSome {homes : String → Option String} {rest : List Char} {cwd : String}
    (h : NamesUser homes ('~' :: rest) cwd) :
    (homes (String.ofList (rest.takeWhile (· != '/')))).isSome = true := by
  obtain ⟨user, tail, directory, hshown, -, hname, htail, hhome, -⟩ := h
  rw [(List.cons.inj hshown).2, takeWhile_user hname htail, hhome]
  rfl

/-- Behind `~` stands the name of a user, up to the first slash. -/
theorem expandHome_eq_iff {c : Char} (hc : c ≠ '/') {rest : List Char} {cwd : String}
    (hcwd : cwd.toList.head? = some '/') :
    w.expandHome (String.ofList ('~' :: c :: rest)) = cwd ↔
      NamesUser w.homes ('~' :: c :: rest) cwd := by
  obtain ⟨user, tail, hsplit, hne, hname, htail⟩ : ∃ user tail, c :: rest = user ++ tail ∧
      user ≠ [] ∧ '/' ∉ user ∧ (tail = [] ∨ tail.head? = some '/') := by
    refine ⟨(c :: rest).takeWhile (· != '/'), (c :: rest).dropWhile (· != '/'),
      List.takeWhile_append_dropWhile.symm, by simp [hc], ?_, ?_⟩
    · intro hmem
      simpa using List.mem_takeWhile_imp hmem
    · have hhead := List.head?_dropWhile_not (· != '/') (c :: rest)
      cases htail : (c :: rest).dropWhile (· != '/') with
      | nil => exact .inl rfl
      | cons t tail =>
        rw [htail] at hhead
        exact .inr (by simpa using hhead)
  have huser : w.homeOf (String.ofList user) = w.homes (String.ofList user) := by
    simp [homeOf, hne]
  rw [hsplit, expandHome, Path.expandHome]
  simp only [String.toList_ofList, takeWhile_user hname htail, List.drop_left, huser]
  constructor
  · intro h
    split at h
    · rw [← h] at hcwd
      simp at hcwd
    · next directory hdirectory =>
      exact ⟨user, tail, directory, rfl, hne, hname, htail, hdirectory, h⟩
  · rintro ⟨user', tail', directory, hshown, -, hname', htail', hdirectory, hunder⟩
    have hsame := congrArg (List.takeWhile (· != '/')) (List.cons.inj hshown).2
    rw [takeWhile_user hname htail, takeWhile_user hname' htail'] at hsame
    subst hsame
    obtain rfl : tail = tail' := List.append_cancel_left (List.cons.inj hshown).2
    rw [hdirectory]
    exact hunder

end Conch.World

namespace Conch.Screen

open World

theorem tidy_text {p : Path} (h : p.Normal) : tidy p.text = p.text := by
  have hdots : p.filter (· ≠ ".") = p := by
    rw [List.filter_eq_self]
    intro n hn
    simpa using (h n hn).2.1
  -- Behind the first slash there is the first name, which starts with something else.
  have hslash : p.text.toList.takeWhile (· == '/') = ['/'] := by
    rw [Path.toList_text]
    cases p with
    | nil => rfl
    | cons n p =>
      obtain ⟨hne, -, hn⟩ := h n List.mem_cons_self
      obtain ⟨c, cs, hcs⟩ := List.exists_cons_of_ne_nil (mt String.toList_eq_nil_iff.mp hne)
      have hc : c ≠ '/' := by
        rintro rfl
        simp [hcs] at hn
      obtain ⟨rest, hrest⟩ : ∃ rest, ['/'].intercalate ((n :: p).map String.toList) = c :: rest := by
        cases p <;> simp [hcs, List.intercalate_cons_cons]
      rw [hrest]
      simp [hc]
  simp only [tidy, hslash, Path.names_text h, hdots]
  simp [Path.text]

theorem toList_tidy {home : String} (h : Path.isAbsolute home = true) :
    ∃ body, (tidy home).toList = '/' :: body := by
  obtain ⟨body, hbody⟩ := Path.exists_toList_of_isAbsolute h
  have hslashes : (home.toList.takeWhile (· == '/')).length ≠ 0 := by simp [hbody]
  simp only [tidy, if_neg hslashes]
  by_cases htwo : (home.toList.takeWhile (· == '/')).length = 2 <;> simp [htwo]

theorem toList_tidy_ne_nil {home : String} (h : Path.isAbsolute home = true) :
    (tidy home).toList ≠ [] := by
  obtain ⟨body, hbody⟩ := toList_tidy h
  simp [hbody]

theorem shownDirectory_append {home : List Char} (h : home ≠ []) (rest : List Char) :
    ∃ limit, rest.length ≤ limit ∧
      shownDirectory home (home ++ rest) = '~' :: Text.replace home ['~'] limit rest := by
  obtain ⟨limit, hlimit⟩ := Nat.exists_eq_add_one_of_ne_zero
    (show (home ++ rest).length ≠ 0 by simp [h])
  refine ⟨limit, ?_, ?_⟩
  · have := List.length_pos_iff.mpr h
    rw [List.length_append] at hlimit
    omega
  · have hstarts : home.isPrefixOf (home ++ rest) = true := by simp
    rw [shownDirectory, if_pos hstarts, hlimit]
    exact Text.replace_append h rest

theorem shownDirectory_self {home : List Char} (h : home ≠ []) :
    shownDirectory home home = ['~'] := by
  obtain ⟨limit, -, hshown⟩ := shownDirectory_append h []
  rwa [List.append_nil, Text.replace_nil h] at hshown

/-- Behind the text of the user's directory, a slash stays if that text does not follow at once. -/
theorem shownDirectory_below {home : List Char} (h : home ≠ []) {below : List Char}
    (hagain : ¬ home <+: '/' :: below) :
    ∃ rest, shownDirectory home (home ++ '/' :: below) = '~' :: '/' :: rest := by
  obtain ⟨limit, -, hshown⟩ := shownDirectory_append h ('/' :: below)
  exact ⟨_, by rw [hshown, Text.replace_cons hagain]⟩

/-- Where the name goes on, or where the text of the user's directory follows at once, a name seems to
stand behind `~`. -/
theorem shownDirectory_named {home : List Char} (h : home.head? = some '/') {c : Char}
    {rest : List Char} (hc : c ≠ '/' ∨ home <+: c :: rest) :
    ∃ d more, shownDirectory home (home ++ c :: rest) = '~' :: d :: more ∧ d ≠ '/' := by
  have hne : home ≠ [] := by
    rintro rfl
    cases h
  obtain ⟨limit, hlimit, hshown⟩ := shownDirectory_append hne (c :: rest)
  rw [hshown]
  by_cases hagain : home <+: c :: rest
  · obtain ⟨more, hmore⟩ := hagain
    obtain ⟨limit, rfl⟩ := Nat.exists_eq_add_one_of_ne_zero (Nat.ne_zero_of_lt hlimit)
    exact ⟨'~', _, by rw [← hmore, Text.replace_append hne]; rfl, by decide⟩
  · exact ⟨c, _, by rw [Text.replace_cons hagain], hc.resolve_right hagain⟩

theorem head?_shownDirectory {home cwd : List Char} (h : home ≠ []) (hcwd : cwd.head? = some '/') :
    (shownDirectory home cwd).head? = some '~' ↔ home <+: cwd := by
  by_cases hstarts : home <+: cwd
  · obtain ⟨rest, rfl⟩ := hstarts
    obtain ⟨limit, -, hshown⟩ := shownDirectory_append h rest
    simp [hshown]
  · simp [shownDirectory, hstarts, hcwd]

section

variable {w : World} {home : String} {p : Path}

theorem expandHome_shown_home (hhome : w.homeOf "" = some home) (habs : Path.isAbsolute home = true)
    (hend : home = "/" ∨ home.toList.getLast? ≠ some '/') (hcwd : p.text = tidy home) :
    w.expandHome (String.ofList (shownDirectory (tidy home).toList p.text.toList)) = p.text ↔
      tidy home = home := by
  rw [hcwd, shownDirectory_self (toList_tidy_ne_nil habs), show String.ofList ['~'] = "~" from rfl,
    World.expandHome_tilde hhome habs hend]
  exact eq_comm

/-- Below the directory of the user, where the text of that directory does not follow at once. Further
behind it may occur again. -/
theorem expandHome_shown_below (hhome : w.homeOf "" = some home) (habs : Path.isAbsolute home = true)
    (hend : home = "/" ∨ home.toList.getLast? ≠ some '/') (hp : p.Normal) {below : List Char}
    (hagain : ¬ (tidy home).toList <+: '/' :: below)
    (hcwd : p.text.toList = (tidy home).toList ++ '/' :: below) :
    w.expandHome (String.ofList (shownDirectory (tidy home).toList p.text.toList)) = p.text ↔
      tidy home = home ∧ ¬ (tidy home).toList <:+: '/' :: below := by
  obtain ⟨body, hbody⟩ := toList_tidy habs
  have hne := toList_tidy_ne_nil habs
  obtain ⟨limit, hlimit, hshown⟩ := shownDirectory_append hne ('/' :: below)
  have hlast : home.toList.getLast? ≠ some '/' := by
    refine hend.resolve_left ?_
    rintro rfl
    exact hagain ⟨below, rfl⟩
  rw [hcwd, hshown, Text.replace_cons hagain, World.expandHome_below hhome hlast,
    ← String.toList_inj, String.toList_append, String.toList_ofList]
  constructor
  · intro hback
    obtain ⟨q, hq, rfl⟩ := Path.exists_text_of_append hp habs hback.symm
    rw [tidy_text hq] at hagain hbody hback hcwd ⊢
    rw [hcwd, List.append_cancel_left_eq, List.cons_inj_right] at hback
    refine ⟨rfl, fun hoccurs => ?_⟩
    have hlong : ['~'].length < q.text.toList.length := by
      rw [hbody] at hagain ⊢
      cases body with
      | nil => exact absurd ⟨below, rfl⟩ hagain
      | cons c body => simp
    have hbelow := (List.infix_cons_iff.mp hoccurs).resolve_left hagain
    have hshort := Text.length_replace_lt hlong hbelow (Nat.le_of_succ_le hlimit)
    exact absurd (congrArg List.length hback) hshort.ne
  · rintro ⟨htidy, hno⟩
    rw [List.infix_cons_iff, not_or] at hno
    rw [Text.replace_eq_self hno.2, hcwd, htidy]

end

theorem filter_environmentParts (name : Option String) :
    (environmentParts name).filter (·.style == .string) = [] := by
  unfold environmentParts
  split
  · rfl
  · split <;> rfl

theorem prompt_eq {w : World} {home : String} (hhome : w.homeOf "" = some home)
    (habs : Path.isAbsolute home = true)
    (hend : home = "/" ∨ home.toList.getLast? ≠ some '/')
    (hwho : ∀ who ∈ w.identity, who.home = tidy home)
    (hdirectory : w.files.isDirectory w.cwd = true) :
    ∃ parts v, prompt w = (.ok parts, v) ∧ v.homes = w.homes ∧ v.homeOf "" = some home ∧
      parts.filter (·.style == .string) =
        [⟨.string, String.ofList (shownDirectory (tidy home).toList w.cwd.text.toList)⟩] := by
  obtain ⟨body, hbody⟩ := Path.exists_toList_of_isAbsolute habs
  obtain ⟨who, hidentity, hshown⟩ : ∃ who, w.identity.elim (identify w) .ok = .ok who ∧
      who.home = tidy home := by
    cases hid : w.identity with
    | none => simp [identify, World.expandHome_tilde hhome habs hend, hbody]
    | some who => exact ⟨who, rfl, hwho who hid⟩
  refine ⟨promptParts who { w with identity := some who }, { w with identity := some who }, ?_, rfl,
    hhome, ?_⟩
  · simp only [prompt, hidentity, hdirectory, if_true]
  · simp [promptParts, filter_environmentParts, hshown]

/-- The condition under which what the prompt shows stands for the directory `cwd`: the text of
`home` is not in front of it; `home` is written tidily, the directory is `home` or lies below it, and
the text of `home` does not occur again; or what is shown happens to name a user whose directory leads
there. -/
def Recoverable (homes : String → Option String) (home cwd : String) : Prop :=
  ¬ (tidy home).toList <+: cwd.toList ∨
  tidy home = home ∧ (cwd = home ∨ home.toList ++ ['/'] <+: cwd.toList) ∧
    ¬ home.toList <:+: cwd.toList.drop home.toList.length ∨
  NamesUser homes (shownDirectory (tidy home).toList cwd.toList) cwd

section

variable {homes : String → Option String} {home cwd : String} {rest : List Char}
  (habs : Path.isAbsolute home = true)
include habs

theorem recoverable_home_iff (hcwd : cwd = tidy home) :
    Recoverable homes home cwd ↔ tidy home = home := by
  constructor
  · rintro (hno | ⟨htidy, -⟩ | huser)
    · exact absurd (List.prefix_refl _) (hcwd ▸ hno)
    · exact htidy
    · rw [hcwd, shownDirectory_self (toList_tidy_ne_nil habs)] at huser
      obtain ⟨c, rest, hshown, -⟩ := huser.head_ne
      cases hshown
  · intro htidy
    refine .inr (.inl ⟨htidy, .inl (hcwd.trans htidy), ?_⟩)
    rw [hcwd, htidy, List.drop_length, List.infix_nil, ← htidy]
    exact toList_tidy_ne_nil habs

theorem recoverable_below_iff (hagain : ¬ (tidy home).toList <+: '/' :: rest)
    (hcwd : cwd.toList = (tidy home).toList ++ '/' :: rest) :
    Recoverable homes home cwd ↔ tidy home = home ∧ ¬ (tidy home).toList <:+: '/' :: rest := by
  constructor
  · rintro (hno | ⟨htidy, -, hno⟩ | huser)
    · exact absurd ⟨_, hcwd.symm⟩ hno
    · rw [hcwd, htidy, List.drop_left] at hno
      exact ⟨htidy, by rwa [htidy]⟩
    · obtain ⟨more, hmore⟩ := shownDirectory_below (toList_tidy_ne_nil habs) hagain
      obtain ⟨c, rest, hshown, hc⟩ := huser.head_ne
      rw [hcwd, hmore] at hshown
      exact absurd (List.cons.inj (List.cons.inj hshown).2).1.symm hc
  · rintro ⟨htidy, hno⟩
    rw [htidy] at hcwd hno
    refine .inr (.inl ⟨htidy, .inr ⟨rest, ?_⟩, ?_⟩)
    · rw [hcwd, List.append_assoc, List.singleton_append]
    · rwa [hcwd, List.drop_left]

omit habs in
theorem recoverable_named_iff {c : Char} (hc : c ≠ '/' ∨ (tidy home).toList <+: c :: rest)
    (hcwd : cwd.toList = (tidy home).toList ++ c :: rest) :
    Recoverable homes home cwd ↔
      NamesUser homes (shownDirectory (tidy home).toList cwd.toList) cwd := by
  refine ⟨?_, fun huser => .inr (.inr huser)⟩
  rintro (hno | ⟨htidy, hplace, hno⟩ | huser)
  · exact absurd ⟨_, hcwd.symm⟩ hno
  · rw [htidy] at hcwd hc
    rcases hplace with rfl | ⟨below, hbelow⟩
    · simp at hcwd
    · rw [hcwd, List.drop_left] at hno
      rw [hcwd, List.append_assoc, List.append_cancel_left_eq] at hbelow
      refine absurd (hc.resolve_left fun hc => hc ?_).isInfix hno
      exact (List.cons.inj hbelow).1.symm
  · exact huser

end

/-- What the prompt shows for the working directory stands for it exactly if it is `Recoverable`.
There is a `~` in front whenever the text of the working directory starts like that of the user's
directory, also where that is another directory. -/
theorem prompt_directory_iff (w : World) (home : String) (hhome : w.homeOf "" = some home)
    (habs : Path.isAbsolute home = true)
    (hend : home = "/" ∨ home.toList.getLast? ≠ some '/')
    (hwho : ∀ who ∈ w.identity, who.home = tidy home)
    (hdirectory : w.files.isDirectory w.cwd = true) (hcwd : w.cwd.Normal) :
    ∃ parts v shown, prompt w = (.ok parts, v) ∧
      parts.filter (·.style == .string) = [⟨.string, shown⟩] ∧
      (shown.toList.head? = some '~' ↔ (tidy home).toList <+: w.cwd.text.toList) ∧
      (v.expandHome shown = w.cwd.text ↔ Recoverable w.homes home w.cwd.text) := by
  obtain ⟨parts, v, hprompt, hhomes, hown, hparts⟩ := prompt_eq hhome habs hend hwho hdirectory
  have hslash : w.cwd.text.toList.head? = some '/' := by simp [Path.toList_text]
  refine ⟨parts, v, _, hprompt, hparts, ?_, ?_⟩
  · rw [String.toList_ofList]
    exact head?_shownDirectory (toList_tidy_ne_nil habs) hslash
  · by_cases hstarts : (tidy home).toList <+: w.cwd.text.toList
    · -- The text goes on behind that of the user's directory with nothing, a slash or a character.
      obtain ⟨_ | ⟨c, rest⟩, hrest⟩ := hstarts
      · have htext : w.cwd.text = tidy home := by rw [← String.toList_inj, ← hrest, List.append_nil]
        rw [expandHome_shown_home hown habs hend htext, recoverable_home_iff habs htext]
      · by_cases hc : c ≠ '/' ∨ (tidy home).toList <+: c :: rest
        · obtain ⟨body, hbody⟩ := toList_tidy habs
          obtain ⟨d, more, hshown, hd⟩ := shownDirectory_named (by rw [hbody]; rfl) hc
          rw [recoverable_named_iff hc hrest.symm, ← hrest, hshown,
            World.expandHome_eq_iff hd hslash, hhomes]
        · rw [not_or, not_ne_iff] at hc
          obtain ⟨rfl, hagain⟩ := hc
          rw [expandHome_shown_below hown habs hend hcwd hagain hrest.symm,
            recoverable_below_iff habs hagain hrest.symm]
    · have hself : v.expandHome w.cwd.text = w.cwd.text := by
        rw [World.expandHome, Path.expandHome, Path.toList_text]
        rfl
      simp [shownDirectory, hstarts, hself, Recoverable]

/-- The working directory has a name that starts like that of the user's directory. -/
def besideHome : World :=
  { Setup.plain ["ROOT"] with directories := ["/ROOT/home2/x"], cwd := some "/ROOT/home2/x" }.world

theorem prompt_directory_besideHome :
    besideHome.homeOf "" = some "/ROOT/home" ∧ besideHome.identity = none ∧
      besideHome.files.isDirectory besideHome.cwd = true ∧ besideHome.cwd.Normal ∧
      ∃ parts v shown, prompt besideHome = (.ok parts, v) ∧
        parts.filter (·.style == .string) = [⟨.string, shown⟩] ∧
        shown.toList.head? = some '~' ∧ v.expandHome shown ≠ "/ROOT/home2/x" := by
  have hhome : besideHome.homeOf "" = some "/ROOT/home" := by decide
  have hidentity : besideHome.identity = none := rfl
  have hdirectory : besideHome.files.isDirectory besideHome.cwd = true := by decide
  have hcwd : besideHome.cwd.Normal := by decide
  obtain ⟨parts, v, shown, hprompt, hparts, htilde, hback⟩ := prompt_directory_iff besideHome
    "/ROOT/home" hhome rfl (.inr (by decide)) (by simp [hidentity]) hdirectory hcwd
  refine ⟨hhome, hidentity, hdirectory, hcwd, parts, v, shown, hprompt, hparts, ?_, ?_⟩
  · exact htilde.mpr (by decide)
  · intro hshown
    rcases hback.mp hshown with hno | ⟨-, hplace, -⟩ | huser
    · exact hno (by decide)
    · exact absurd hplace (by decide)
    · -- There is no user with the name that is shown.
      have huser : NamesUser besideHome.homes "~2/x".toList "/ROOT/home2/x" := huser
      exact absurd huser.isSome (by decide)

end Conch.Screen
