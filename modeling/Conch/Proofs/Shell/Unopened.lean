import Mathlib
import Conch.Proofs.Shell.Turns

/-!
# Targets that cannot be opened

A command of one stage opens its targets one after the other, in the order of `regrouped`, and stops
at the first one that cannot be opened: its own work is not begun, and only the files of the targets
in front are made or emptied. How the failure is told depends on the command and on the place of the
target. A program reports it, with a status of its own, if the target is the last one of its stream
and it is the system that refuses it; in every other case the fault is raised.
-/

namespace Conch.Shell

open World Line Effect

def openAll (rs : List Redirect) : Act (List Files.Target) := rs.mapM openRedirect

theorem openAll_append (rs rs' : List Redirect) :
    openAll (rs ++ rs') = do
      let ts ← openAll rs
      let ts' ← openAll rs'
      return ts ++ ts' :=
  List.mapM_append

/-- Opening more targets fails among the first ones, or after them. -/
theorem of_openAll_append_error {rs rs' : List Redirect} {w v : World} {f : Fault}
    (h : openAll (rs ++ rs') w = (.error f, v)) :
    openAll rs w = (.error f, v) ∨
      ∃ ts u, openAll rs w = (.ok ts, u) ∧ openAll rs' u = (.error f, v) := by
  rw [openAll_append, bind_apply] at h
  rcases hrs : openAll rs w with ⟨e | ts, u⟩
  · rw [hrs] at h
    exact .inl h
  · rcases hrs' : openAll rs' u with ⟨e | ts', x⟩
    · simp only [hrs, bind_apply, hrs'] at h
      cases h
      exact .inr ⟨ts, u, rfl, hrs'⟩
    · simp only [hrs, bind_apply, hrs'] at h
      cases h

theorem openAll_of_canOpen {w : World} {rs : List Redirect} (h : ∀ r ∈ rs, CanOpen w r)
    (before : List Redirect) :
    openAll rs (afterOpening w before) =
      (.ok (rs.map (target w)), afterOpening w (before ++ rs)) := by
  unfold openAll
  induction rs generalizing before with
  | nil =>
    rw [List.append_nil]
    rfl
  | cons r rs ih =>
    obtain ⟨hr, hrs⟩ := List.forall_mem_cons.1 h
    simp only [List.mapM_cons, bind_apply, openRedirect_afterOpening hr, ih hrs, pure_apply,
      List.map_cons, List.append_assoc, List.singleton_append]

theorem of_openAll_ok {w v : World} {rs : List Redirect} {ts : List Files.Target}
    (before : List Redirect) (h : openAll rs (afterOpening w before) = (.ok ts, v)) :
    (∀ r ∈ rs, CanOpen w r) ∧ v = afterOpening w (before ++ rs) := by
  unfold openAll at h
  induction rs generalizing before ts with
  | nil =>
    cases h
    simp
  | cons r rs ih =>
    rw [List.mapM_cons] at h
    obtain ⟨t, u, hopen, h⟩ := exists_of_bind_ok h
    obtain ⟨hr, -, rfl⟩ := of_openRedirect_ok hopen
    obtain ⟨ts', u, hrest, h⟩ := exists_of_bind_ok h
    cases h
    obtain ⟨hrs, rfl⟩ := ih _ hrest
    rw [List.forall_mem_cons]
    exact ⟨⟨hr, hrs⟩, by rw [List.append_assoc, List.singleton_append]⟩

theorem primeEarlier_eq_openAll (rs : List Redirect) :
    primeEarlier rs = (fun _ => ()) <$> openAll rs.dropLast := by
  induction rs with
  | nil => rfl
  | cons r rs ih =>
    cases rs with
    | nil => rfl
    | cons r' rs =>
      rw [primeEarlier_cons_cons, ih]
      simp [openAll]

theorem primeStage_eq_openAll (s : Stage) :
    primeStage s = (fun _ => ()) <$> openAll (s.out.dropLast ++ s.err.dropLast) := by
  rw [primeStage, primeEarlier_eq_openAll, primeEarlier_eq_openAll, openAll_append]
  simp

/-- The place of a stream that has at most one target. -/
def sinkOf : List Files.Target → Sink
  | [] => .terminal
  | t :: _ => .target t

theorem activeSink_eq_openAll (rs : List Redirect) :
    activeSink rs = sinkOf <$> openAll rs.getLast?.toList := by
  unfold activeSink
  cases rs.getLast? with
  | none => rfl
  | some r => simp [openAll, sinkOf]

section

variable {s : Stage} {w u v : World} {f : Fault}

theorem primeStage_of_openAll_error
    (h : openAll (s.out.dropLast ++ s.err.dropLast) w = (.error f, v)) :
    primeStage s w = (.error f, v) := by
  rw [primeStage_eq_openAll, map_apply, h]

theorem primeStage_of_openAll_ok {ts : List Files.Target}
    (h : openAll (s.out.dropLast ++ s.err.dropLast) w = (.ok ts, v)) :
    primeStage s w = (.ok (), v) := by
  rw [primeStage_eq_openAll, map_apply, h]

theorem activeSink_of_openAll_error {rs : List Redirect}
    (h : openAll rs.getLast?.toList w = (.error f, v)) : activeSink rs w = (.error f, v) := by
  rw [activeSink_eq_openAll, map_apply, h]

theorem activeSink_of_openAll_ok {rs : List Redirect} {ts : List Files.Target}
    (h : openAll rs.getLast?.toList w = (.ok ts, v)) : activeSink rs w = (.ok (sinkOf ts), v) := by
  rw [activeSink_eq_openAll, map_apply, h]

theorem runBuiltinStage_of_openAll_error (h : openAll (regrouped s) w = (.error f, v))
    (b : Builtin) : runBuiltinStage b s w = (.error f, v) := by
  simp only [runBuiltinStage, bind_apply, expandArgs_apply]
  rcases of_openAll_append_error h with h | ⟨ts, x, hbefore, herr⟩
  · rcases of_openAll_append_error h with h | ⟨ts, u, hprime, hout⟩
    · simp only [primeStage_of_openAll_error h]
    · simp only [primeStage_of_openAll_ok hprime, activeSink_of_openAll_error hout]
  · rw [openAll_append] at hbefore
    obtain ⟨ts, u, hprime, hbefore⟩ := exists_of_bind_ok hbefore
    obtain ⟨ts', y, hout, hbefore⟩ := exists_of_bind_ok hbefore
    cases hbefore
    simp only [primeStage_of_openAll_ok hprime, activeSink_of_openAll_ok hout,
      activeSink_of_openAll_error herr]

theorem runProgramStage_of_openAll_error
    (h : openAll (s.out.dropLast ++ s.err.dropLast) w = (.error f, v)) :
    runProgramStage s w = (.error f, v) := by
  simp only [runProgramStage, bind_apply, expandArgs_apply, primeStage_of_openAll_error h]

/-- Of the last targets, a program reports what the system refuses. -/
theorem openBoth_of_openAll_error
    (h : openAll (s.out.getLast?.toList ++ s.err.getLast?.toList) w = (.error f, v)) :
    openBoth s w =
      match f with
      | .os e path => (.ok (.error (.os e path)), v)
      | f => (.error f, v) := by
  simp only [openBoth, tryCatch_apply, bind_apply]
  rcases of_openAll_append_error h with h | ⟨ts, u, hout, herr⟩
  · simp only [activeSink_of_openAll_error h]
    cases f <;> rfl
  · simp only [activeSink_of_openAll_ok hout, activeSink_of_openAll_error herr]
    cases f <;> rfl

end

/-- A command opens the targets in front, comes to one that cannot be opened, and has done nothing
else: in `w'` the targets in front are made or emptied, and all else is as it was in `w`. -/
structure StopsAt (s : Stage) (w : World) (earlier : List Redirect) (r : Redirect) (fault : Fault)
    (w' : World) : Prop where
  order : ∃ later, regrouped s = earlier ++ r :: later
  opens : openAll earlier w = (.ok (earlier.map (target w)), w')
  fails : openRedirect r w' = (.error fault, w')
  onlyFiles : w' = { w with files := w'.files }
  content : ∀ p, w'.files.get? p =
    if opensAt w earlier p = [] then w.files.get? p
    else some (Node.opened ((opensAt w earlier p).all appends) (w.files.get? p))

theorem eq_of_openRedirect_error {r : Redirect} {w v : World} {f : Fault}
    (h : openRedirect r w = (.error f, v)) : v = w := by
  cases hlanding : landing w r with
  | some p =>
    rw [openRedirect_of_landing hlanding] at h
    cases h
  | none =>
    obtain ⟨fault, hfault⟩ := openRedirect_of_landing_eq_none hlanding
    rw [hfault] at h
    cases h
    rfl

theorem exists_stopsAt {s : Stage} {w : World}
    (h : ∃ r ∈ s.out ++ s.err, ∃ fault, (openRedirect r w).1 = .error fault) :
    ∃ earlier r fault w', StopsAt s w earlier r fault w' ∧
      openAll (regrouped s) w = (.error fault, w') := by
  obtain ⟨r, hr, fault, hfault⟩ := h
  rcases hall : openAll (regrouped s) w with ⟨f | ts, v⟩
  · obtain ⟨earlier, r', later, ts, u, horder, hopens, hfails⟩ := exists_of_mapM_error hall
    obtain ⟨hcan, rfl⟩ : (∀ x ∈ earlier, CanOpen w x) ∧ u = afterOpening w earlier :=
      of_openAll_ok [] hopens
    obtain rfl : v = afterOpening w earlier := eq_of_openRedirect_error hfails
    refine ⟨earlier, r', f, afterOpening w earlier, ?_, rfl⟩
    exact
      { order := ⟨later, horder⟩
        opens := openAll_of_canOpen hcan []
        fails := hfails
        onlyFiles := rfl
        content := get?_afterOpening w earlier }
  · have hcan : ∀ x ∈ regrouped s, CanOpen w x := (of_openAll_ok [] hall).1
    obtain ⟨t, ht⟩ := canOpen_iff.1 (hcan r ((regrouped_perm s).mem_iff.2 hr))
    rw [ht] at hfault
    cases hfault

/-- The command is a program, every target but the last one of its stream can be opened, and the
fault is one that the system reports. -/
def Reports (s : Stage) (w : World) (fault : Fault) : Prop :=
  builtin? s = none ∧
    (∀ r ∈ s.out.dropLast ++ s.err.dropLast, ∃ t, (openRedirect r w).1 = .ok t) ∧
    ∃ e path, fault = .os e path

section

variable {s : Stage} {w w' : World} {fault : Fault}
  (h : openAll (regrouped s) w = (.error fault, w'))
include h

theorem runSingle_of_reports (hreports : Reports s w fault) :
    runSingle s w =
      (.ok ⟨false, 1⟩,
        w'.printErr (Text.encode ("Redirect error: " ++ fault.message ++ "\n"))) := by
  obtain ⟨hb, hcan, e, path, rfl⟩ := hreports
  unfold builtin? at hb
  rw [regrouped, List.append_assoc] at h
  have hprime := openAll_of_canOpen (fun r hr => canOpen_iff.2 (hcan r hr)) []
  rw [afterOpening_nil] at hprime
  rcases of_openAll_append_error h with h | ⟨ts, u, hfirst, hlast⟩
  · rw [hprime] at h
    cases h
  · simp only [runSingle, hb, bind_apply, runProgramStage, expandArgs_apply,
      primeStage_of_openAll_ok hfirst, openBoth_of_openAll_error hlast]
    rfl

theorem runSingle_of_not_reports (hreports : ¬ Reports s w fault) :
    runSingle s w = (.error fault, w') := by
  cases hb : builtin? s with
  | some b =>
    have hrun := runBuiltinStage_of_openAll_error h b
    unfold builtin? at hb
    rw [runSingle, hb]
    exact hrun
  | none =>
    rw [regrouped, List.append_assoc] at h
    have hhead := hb
    unfold builtin? at hb
    rcases of_openAll_append_error h with h | ⟨ts, u, hfirst, hlast⟩
    · simp only [runSingle, hb, bind_apply, runProgramStage_of_openAll_error h]
    · have hcan := (of_openAll_ok (w := w) [] hfirst).1
      have hopen := openBoth_of_openAll_error hlast
      cases fault with
      | os e path =>
        exact absurd ⟨hhead, fun r hr => canOpen_iff.1 (hcan r hr), e, path, rfl⟩ hreports
      | _ =>
        simp only [runSingle, hb, bind_apply, runProgramStage, expandArgs_apply,
          primeStage_of_openAll_ok hfirst, hopen]

end

/-- A command of one stage with a target that cannot be opened stops at the first such target and
does not begin its work. It fails in the ordinary way, with a status, just when it is a program and
the target is the last one of its stream and refused by the system; else the fault is raised. -/
theorem run_stops_at_unopened {command : String} {s : Stage} {w : World}
    (hs : pipeline command = [s])
    (h : ∃ r ∈ s.out ++ s.err, ∃ fault, (openRedirect r w).1 = .error fault) :
    ∃ earlier r fault w', StopsAt s w earlier r fault w' ∧
      (Reports s w fault → run command w =
        (.ok ⟨false, 1⟩,
          w'.printErr (Text.encode ("Redirect error: " ++ fault.message ++ "\n")))) ∧
      (¬ Reports s w fault → run command w = (.error fault, w')) ∧
      ((∃ code v, code ≠ 0 ∧ run command w = (.ok ⟨false, code⟩, v)) ↔ Reports s w fault) := by
  obtain ⟨earlier, r, fault, w', hstops, hall⟩ := exists_stopsAt h
  have hreports := runSingle_of_reports hall
  have hraises := runSingle_of_not_reports hall
  rw [← run_of_stage hs] at hreports hraises
  refine ⟨earlier, r, fault, w', hstops, hreports, hraises, ?_, ?_⟩
  · rintro ⟨code, v, -, hrun⟩
    by_contra hnot
    rw [hraises hnot] at hrun
    cases hrun
  · intro hyes
    exact ⟨1, _, by decide, hreports hyes⟩

/-- The output goes to a file, and the errors into a directory that is missing. -/
def misdirected : Stage := ⟨["echo", "a"], [⟨"f", .write⟩], [⟨"d/f", .append⟩]⟩

theorem run_stops_at_missing_directory :
    pipeline "echo a > f 2>> d/f" = [misdirected] ∧
    landing withFile ⟨"d/f", .append⟩ = none ∧
    ∃ earlier r fault w', StopsAt misdirected withFile earlier r fault w' ∧
      run "echo a > f 2>> d/f" withFile = (.error fault, w') := by
  have hs : pipeline "echo a > f 2>> d/f" = [misdirected] := by decide
  have hlanding : landing withFile ⟨"d/f", .append⟩ = none := by decide
  obtain ⟨fault, hfault⟩ := openRedirect_of_landing_eq_none hlanding
  have hr : ∃ r ∈ misdirected.out ++ misdirected.err,
      ∃ fault, (openRedirect r withFile).1 = .error fault :=
    ⟨⟨"d/f", .append⟩, by decide, fault, by rw [hfault]⟩
  obtain ⟨earlier, r, fault, w', hstops, -, hraises, -⟩ := run_stops_at_unopened hs hr
  refine ⟨hs, hlanding, earlier, r, fault, w', hstops, hraises ?_⟩
  rintro ⟨hb, -, -⟩
  cases hb

end Conch.Shell
