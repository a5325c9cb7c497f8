import Mathlib
import Conch.Proofs.Line.Tokens
import Conch.Proofs.Shell.Capture
import Conch.Proofs.World.Opening

/-!
# Redirections in the order they are written

A command opens the earlier targets of its output first, then those of its error stream, and the
last target of each at the end. Opening files in another order makes no difference, so the command
starts in the world that it would start in if its redirections were taken one after the other as
they are written, each giving its stream a new place to go.
-/

namespace Conch.Shell

open World Line Effect
open Text (Bytes)

def appends (r : Redirect) : Bool := r.mode == .append

/-- Where the target of a redirection is, if it can be opened. -/
def landing (w : World) (r : Redirect) : Option Path :=
  if (w.expandHome r.path).toList.contains '\x00' then none
  else w.files.landing w.cwd (w.expandHome r.path)

def CanOpen (w : World) (r : Redirect) : Prop := (landing w r).isSome = true

/-- What a redirection has its stream written to. -/
def target (w : World) (r : Redirect) : Files.Target :=
  w.files.targetAt ((landing w r).getD []) (appends r)

theorem landing_eq_some {w : World} {r : Redirect} {p : Path} (h : landing w r = some p) :
    (w.expandHome r.path).toList.contains '\x00' = false ∧
      w.files.landing w.cwd (w.expandHome r.path) = some p := by
  unfold landing at h
  split at h
  · cases h
  next hnul => exact ⟨by simpa using hnul, h⟩

theorem openRedirect_of_landing {w : World} {r : Redirect} {p : Path} (h : landing w r = some p) :
    openRedirect r w = (.ok (w.files.targetAt p (appends r)),
      { w with files := w.files.openAt p (appends r) }) := by
  obtain ⟨hnul, hlanding⟩ := landing_eq_some h
  have hopen := Files.openWrite_of_landing hlanding (appends r)
  unfold appends at hopen
  simp only [openRedirect, openTarget, bind_apply, get_apply, hnul, Bool.false_eq_true, if_false,
    pure_apply, hopen, set_apply]
  rfl

theorem openRedirect_of_landing_eq_none {w : World} {r : Redirect} (h : landing w r = none) :
    ∃ fault, openRedirect r w = (.error fault, w) := by
  unfold landing at h
  simp only [openRedirect, openTarget, bind_apply, get_apply]
  split at h
  next hnul =>
    simp only [hnul, if_true]
    exact ⟨_, rfl⟩
  next hnul =>
    obtain ⟨e, he⟩ := Files.openWrite_of_landing_eq_none h (r.mode == .append)
    simp only [hnul, he]
    exact ⟨_, rfl⟩

theorem canOpen_iff {w : World} {r : Redirect} :
    CanOpen w r ↔ ∃ t, (openRedirect r w).1 = .ok t := by
  unfold CanOpen
  cases h : landing w r with
  | some p => simp [openRedirect_of_landing h]
  | none =>
    obtain ⟨fault, hfault⟩ := openRedirect_of_landing_eq_none h
    simp [hfault]

/-- The tree after one more redirection, whose target is where it was to begin with. -/
def opening (w : World) (fs : Files) (r : Redirect) : Files :=
  match landing w r with
  | some p => fs.openAt p (appends r)
  | none => fs

/-- The world after some redirections. -/
def afterOpening (w : World) (rs : List Redirect) : World :=
  { w with files := rs.foldl (opening w) w.files }

theorem afterOpening_concat (w : World) (rs : List Redirect) (r : Redirect) :
    (afterOpening w (rs ++ [r])).files = opening w (afterOpening w rs).files r := by
  simp only [afterOpening, List.foldl_append, List.foldl_cons, List.foldl_nil]

theorem sameGround_opening {w : World} {fs : Files} (h : Files.SameGround w.files fs)
    (r : Redirect) : Files.SameGround w.files (opening w fs r) := by
  unfold opening
  split
  next p hlanding =>
    have hdir := (Files.find_of_landing (landing_eq_some hlanding).2).2
    apply h.trans
    apply Files.sameGround_openAt
    rw [(h p).1, hdir]
  next => exact h

theorem sameGround_afterOpening (w : World) (rs : List Redirect) :
    Files.SameGround w.files (afterOpening w rs).files := by
  induction rs using List.reverseRecOn with
  | nil => exact Files.sameGround_refl w.files
  | append_singleton rs r ih =>
    rw [afterOpening_concat]
    exact sameGround_opening ih r

/-- Redirections move no target of another one. -/
theorem landing_afterOpening (w : World) (rs : List Redirect) (r : Redirect) :
    landing (afterOpening w rs) r = landing w r := by
  have hexpand : (afterOpening w rs).expandHome r.path = w.expandHome r.path := rfl
  have hcwd : (afterOpening w rs).cwd = w.cwd := rfl
  unfold landing
  rw [hexpand, hcwd, (sameGround_afterOpening w rs).landing_eq]

theorem openRedirect_afterOpening {w : World} {r : Redirect} (h : CanOpen w r)
    (rs : List Redirect) :
    openRedirect r (afterOpening w rs) = (.ok (target w r), afterOpening w (rs ++ [r])) := by
  obtain ⟨p, hp⟩ := Option.isSome_iff_exists.mp h
  have hlanding : landing (afterOpening w rs) r = some p := by rw [landing_afterOpening, hp]
  have hfiles : (afterOpening w rs).files.openAt p (appends r) =
      (afterOpening w (rs ++ [r])).files := by
    rw [afterOpening_concat, opening, hp]
  rw [openRedirect_of_landing hlanding, (sameGround_afterOpening w rs).targetAt_eq, target, hp,
    hfiles]
  rfl

/-- Files can be opened in any order. -/
theorem afterOpening_perm (w : World) {rs rs' : List Redirect} (h : rs.Perm rs') :
    afterOpening w rs = afterOpening w rs' := by
  have : RightCommutative (opening w) := by
    constructor
    intro fs r r'
    unfold opening
    cases hr : landing w r with
    | none => rfl
    | some p =>
      cases hr' : landing w r' with
      | none => rfl
      | some q =>
        exact Files.openAt_comm (Files.ne_nil_of_landing (landing_eq_some hr).2)
          (Files.ne_nil_of_landing (landing_eq_some hr').2) fs _ _
  unfold afterOpening
  rw [h.foldl_eq]

/-- The redirections whose target is at a path. -/
def opensAt (w : World) (rs : List Redirect) (p : Path) : List Redirect :=
  rs.filter fun r => landing w r == some p

/-- What stands at a path after some redirections: nothing changed there unless it is a target, and
a target is kept as it was only if all redirections write to its end. -/
theorem get?_afterOpening (w : World) (rs : List Redirect) (p : Path) :
    (afterOpening w rs).files.get? p =
      if opensAt w rs p = [] then w.files.get? p
      else some (Node.opened ((opensAt w rs p).all appends) (w.files.get? p)) := by
  induction rs using List.reverseRecOn with
  | nil => rfl
  | append_singleton rs r ih =>
    have hopens : opensAt w (rs ++ [r]) p =
        opensAt w rs p ++ if landing w r = some p then [r] else [] := by
      by_cases h : landing w r = some p <;> simp [opensAt, List.filter_append, h]
    rw [afterOpening_concat, opening, hopens]
    cases hlanding : landing w r with
    | none => simpa using ih
    | some q =>
      have hq : q ≠ [] := Files.ne_nil_of_landing (landing_eq_some hlanding).2
      dsimp only
      rw [Files.get?_openAt hq, ih]
      by_cases h : q = p
      · by_cases hnil : opensAt w rs p = [] <;> simp [h, hnil, Node.opened_opened]
      · simp [h]

/-- Takes redirections as they are written, `true` for the error stream: each opens its target and
has its stream go there from then on. -/
def redirectInOrder : List (Bool × Redirect) → Sink × Sink → Act (Sink × Sink)
  | [], sinks => return sinks
  | (false, r) :: rest, (_, err) => do redirectInOrder rest (.target (← openRedirect r), err)
  | (true, r) :: rest, (out, _) => do redirectInOrder rest (out, .target (← openRedirect r))

/-- Where a stream ends up. -/
def sinkFrom (w : World) (start : Sink) (rs : List Redirect) : Sink :=
  (rs.getLast?.map fun r => .target (target w r)).getD start

theorem sinkFrom_cons (w : World) (start : Sink) (r : Redirect) (rs : List Redirect) :
    sinkFrom w start (r :: rs) = sinkFrom w (.target (target w r)) rs := by
  rw [sinkFrom, sinkFrom, List.getLast?_cons]
  cases rs.getLast? <;> rfl

theorem redirectInOrder_afterOpening {w : World} {xs : List (Bool × Redirect)}
    (h : ∀ x ∈ xs, CanOpen w x.2) (out err : Sink) (before : List Redirect) :
    redirectInOrder xs (out, err) (afterOpening w before) =
      (.ok (sinkFrom w out (streamOf xs false), sinkFrom w err (streamOf xs true)),
        afterOpening w (before ++ xs.map Prod.snd)) := by
  induction xs generalizing out err before with
  | nil =>
    rw [List.map_nil, List.append_nil]
    rfl
  | cons x xs ih =>
    obtain ⟨toErr, r⟩ := x
    have hopen := openRedirect_afterOpening (h _ List.mem_cons_self) before
    have hrest : ∀ x ∈ xs, CanOpen w x.2 := fun x hx => h x (List.mem_cons_of_mem _ hx)
    have hbefore : before ++ ((toErr, r) :: xs).map Prod.snd =
        before ++ [r] ++ xs.map Prod.snd := by
      rw [List.map_cons, List.append_assoc, List.singleton_append]
    cases toErr with
    | false =>
      rw [redirectInOrder, bind_apply, hopen, hbefore]
      dsimp only
      rw [ih hrest, ← sinkFrom_cons w out]
      rfl
    | true =>
      rw [redirectInOrder, bind_apply, hopen, hbefore]
      dsimp only
      rw [ih hrest, ← sinkFrom_cons w err]
      rfl

theorem primeEarlier_afterOpening {w : World} {rs : List Redirect}
    (h : ∀ r ∈ rs.dropLast, CanOpen w r) (before : List Redirect) :
    primeEarlier rs (afterOpening w before) = (.ok (), afterOpening w (before ++ rs.dropLast)) := by
  induction rs generalizing before with
  | nil =>
    rw [List.dropLast_nil, List.append_nil]
    rfl
  | cons r rs ih =>
    cases rs with
    | nil =>
      rw [List.dropLast_singleton, List.append_nil]
      rfl
    | cons r' rs =>
      rw [List.dropLast_cons_cons] at h ⊢
      have hopen := openRedirect_afterOpening (h r List.mem_cons_self) before
      rw [primeEarlier, bind_apply, hopen]
      · dsimp only
        rw [ih (fun x hx => h x (List.mem_cons_of_mem _ hx)), List.append_assoc,
          List.singleton_append]
      · simp

theorem activeSink_afterOpening {w : World} {rs : List Redirect} (h : ∀ r ∈ rs, CanOpen w r)
    (before : List Redirect) :
    activeSink rs (afterOpening w before) =
      (.ok (sinkFrom w .terminal rs), afterOpening w (before ++ rs.getLast?.toList)) := by
  unfold activeSink sinkFrom
  cases hlast : rs.getLast? with
  | none =>
    rw [Option.toList_none, List.append_nil]
    rfl
  | some r =>
    have hopen := openRedirect_afterOpening (h r (List.mem_of_getLast? hlast)) before
    simp only [bind_apply, hopen]
    rfl

/-- The order that a command opens its targets in. -/
def regrouped (s : Stage) : List Redirect :=
  s.out.dropLast ++ s.err.dropLast ++ s.out.getLast?.toList ++ s.err.getLast?.toList

theorem regrouped_perm (s : Stage) : (regrouped s).Perm (s.out ++ s.err) := by
  have hsplit (rs : List Redirect) : rs.dropLast ++ rs.getLast?.toList = rs := by
    cases hlast : rs.getLast? with
    | none => simp [List.getLast?_eq_none_iff.mp hlast]
    | some r => exact List.dropLast_append_getLast? r hlast
  calc
    regrouped s = s.out.dropLast ++ (s.err.dropLast ++ s.out.getLast?.toList) ++
        s.err.getLast?.toList := by rw [regrouped, List.append_assoc s.out.dropLast]
    List.Perm _ (s.out.dropLast ++ (s.out.getLast?.toList ++ s.err.dropLast) ++
        s.err.getLast?.toList) := (List.perm_append_comm.append_left _).append_right _
    _ = s.out.dropLast ++ s.out.getLast?.toList ++ (s.err.dropLast ++ s.err.getLast?.toList) := by
      simp only [List.append_assoc]
    _ = s.out ++ s.err := by rw [hsplit, hsplit]

/-! ## The command itself -/

/-- What a command does after its streams were given their places. -/
def body (s : Stage) (out err : Sink) : Act Status :=
  match builtin? s with
  | some b => do
    let ran ← b.perform (← expandArgs (s.words.drop 1)) out err
    checkClosed ran.out out
    checkClosed ran.err err
    return ⟨ran.leaves, ran.status⟩
  | none => fun w =>
    match start s w with
    | (.ok r, w') => (.ok ⟨false, r.ending.status⟩, (w'.emitOut r.out out).emitErr r.err err)
    | (.error f, w') =>
      match refusal? (s.words.headD "") f with
      | some (code, message) => (.ok ⟨false, code⟩, w'.printErr (Text.encode message))
      | none => (.error f, w')

theorem afterOpening_nil (w : World) : afterOpening w [] = w := rfl

theorem primeStage_of_canOpen {s : Stage} {w : World}
    (h : ∀ r ∈ s.out.dropLast ++ s.err.dropLast, CanOpen w r) :
    primeStage s w = (.ok (), afterOpening w (s.out.dropLast ++ s.err.dropLast)) := by
  obtain ⟨hout, herr⟩ := List.forall_mem_append.mp h
  have hprime := primeEarlier_afterOpening hout []
  rw [afterOpening_nil, List.nil_append] at hprime
  rw [primeStage, bind_apply, hprime]
  exact primeEarlier_afterOpening herr s.out.dropLast

section

variable {s : Stage} {w : World} (hout : ∀ r ∈ s.out, CanOpen w r)
  (herr : ∀ r ∈ s.err, CanOpen w r)
include hout herr

theorem primeStage_apply :
    primeStage s w = (.ok (), afterOpening w (s.out.dropLast ++ s.err.dropLast)) := by
  apply primeStage_of_canOpen
  exact List.forall_mem_append.mpr ⟨fun r hr => hout r (List.mem_of_mem_dropLast hr),
    fun r hr => herr r (List.mem_of_mem_dropLast hr)⟩

theorem runBuiltinStage_eq_body {b : Builtin} (hb : builtin? s = some b) :
    runBuiltinStage b s w = body s (sinkFrom w .terminal s.out) (sinkFrom w .terminal s.err)
      (afterOpening w (regrouped s)) := by
  simp only [runBuiltinStage, body, hb, bind_apply, expandArgs_apply, primeStage_apply hout herr,
    activeSink_afterOpening hout, activeSink_afterOpening herr]
  rfl

theorem runProgramStage_eq_body (hb : builtin? s = none) :
    (do return ⟨false, ← runProgramStage s⟩ : Act Status) w =
      body s (sinkFrom w .terminal s.out) (sinkFrom w .terminal s.err)
        (afterOpening w (regrouped s)) := by
  have hopen : openBoth s (afterOpening w (s.out.dropLast ++ s.err.dropLast)) =
      (.ok (.ok (sinkFrom w .terminal s.out, sinkFrom w .terminal s.err)),
        afterOpening w (regrouped s)) := by
    simp only [openBoth, tryCatch_apply, bind_apply, activeSink_afterOpening hout,
      activeSink_afterOpening herr, pure_apply, regrouped]
  have hhome : (afterOpening w (regrouped s)).expandHome = w.expandHome := rfl
  simp only [body, hb, bind_apply,
    runProgramStage_of_openBoth (primeStage_apply hout herr) hopen hhome]
  rcases start s (afterOpening w (regrouped s)) with ⟨f | r, v⟩
  · dsimp only
    cases refusal? (s.words.headD "") f <;> rfl
  · rfl

end

/-- The tree after a stream was written to its place. -/
def deliver (fs : Files) (bytes : Bytes) : Sink → Files
  | .target (.file p append) => fs.write p append 0 bytes
  | _ => fs

def fileOf : Sink → Option Path
  | .target (.file p _) => some p
  | _ => none

section

variable (w : World) (bytes : Bytes) (sink : Sink)

@[simp]
theorem files_emitOut : (w.emitOut bytes sink).files = deliver w.files bytes sink := by
  rcases sink with _ | (_ | _) <;> rfl

@[simp]
theorem files_emitErr : (w.emitErr bytes sink).files = deliver w.files bytes sink := by
  rcases sink with _ | (_ | _) <;> rfl

@[simp]
theorem out_emitOut :
    (w.emitOut bytes sink).out = if sink = .terminal then w.out ++ bytes else w.out := by
  rcases sink with _ | (_ | _) <;> rfl

@[simp]
theorem out_emitErr : (w.emitErr bytes sink).out = w.out := by
  rcases sink with _ | (_ | _) <;> rfl

@[simp]
theorem err_emitOut : (w.emitOut bytes sink).err = w.err := by
  rcases sink with _ | (_ | _) <;> rfl

@[simp]
theorem err_emitErr :
    (w.emitErr bytes sink).err = if sink = .terminal then w.err ++ bytes else w.err := by
  rcases sink with _ | (_ | _) <;> rfl

end

theorem get?_deliver {sink : Sink} {p : Path} (h : fileOf sink ≠ some p) (fs : Files)
    (bytes : Bytes) : (deliver fs bytes sink).get? p = fs.get? p := by
  rcases sink with _ | (⟨q, append⟩ | full)
  · rfl
  · exact Files.get?_write (fun hq => h (congrArg some hq)) fs append 0 bytes
  · rfl

theorem sinkFrom_eq_terminal_iff {w : World} {rs : List Redirect} :
    sinkFrom w .terminal rs = .terminal ↔ rs = [] := by
  rw [sinkFrom, ← List.getLast?_eq_none_iff]
  cases rs.getLast? <;> simp

/-- A stream goes to what its last redirection opens, or to the terminal if it has none. -/
def Leads (w : World) (rs : List Redirect) (sink : Sink) : Prop :=
  match rs.getLast? with
  | none => sink = .terminal
  | some r => ∃ t, (openRedirect r w).1 = .ok t ∧ sink = .target t

theorem leads_sinkFrom {w : World} {rs : List Redirect} (h : ∀ r ∈ rs, CanOpen w r) :
    Leads w rs (sinkFrom w .terminal rs) := by
  unfold Leads sinkFrom
  cases hlast : rs.getLast? with
  | none => rfl
  | some r =>
    have hopen := openRedirect_afterOpening (h r (List.mem_of_getLast? hlast)) []
    rw [afterOpening_nil] at hopen
    exact ⟨target w r, by rw [hopen], rfl⟩

/-- A command of one stage, as its tokens are read, that is run in `w`: what it does itself it does
in `w'`, with the places that its output and its error messages go to. -/
structure Starts (command : String) (r : RunReading) (w w' : World) (out err : Sink) : Prop where
  /-- It starts where the redirections lead, taken one after the other as they are written. -/
  inOrder : redirectInOrder r.redirects (.terminal, .terminal) w = (.ok (out, err), w')
  run_eq : run command w = body r.stage out err w'
  onlyFiles : w' = { w with files := w'.files }
  /-- A target is made if it is missing, and emptied if one redirection does not write to its end.
  All else in the tree is as it was. -/
  content : ∀ p, w'.files.get? p =
    if opensAt w (r.redirects.map Prod.snd) p = [] then w.files.get? p
    else some (Node.opened ((opensAt w (r.redirects.map Prod.snd) p).all appends) (w.files.get? p))
  out_last : Leads w (r.redirectsOf false) out
  err_last : Leads w (r.redirectsOf true) err
  /-- What a program writes goes to these two places and to no other. -/
  delivers : builtin? r.stage = none → ∀ done w'', start r.stage w' = (.ok done, w'') →
    ∃ v, run command w = (.ok ⟨false, done.ending.status⟩, v) ∧
      v.out = (if r.redirectsOf false = [] then w.out ++ done.out else w.out) ∧
      v.err = (if r.redirectsOf true = [] then w.err ++ done.err else w.err) ∧
      v.files = deliver (deliver w''.files done.out out) done.err err ∧
      ∀ p, fileOf out ≠ some p → fileOf err ≠ some p → v.files.get? p = w''.files.get? p

theorem pipeline_of_runs {command : String} {r : RunReading}
    (h : Runs ((commandWords command.toList).map String.ofList) [r.tokens]) :
    pipeline command = [r.stage] := by
  rw [pipeline, pipelineOfWords, h.splitStages_eq, List.map_singleton, RunReading.ofWords_eq_stage,
    RunReading.read_tokens]

theorem run_eq_body {command : String} {s : Stage} {w : World} (hs : pipeline command = [s])
    (hout : ∀ r ∈ s.out, CanOpen w r) (herr : ∀ r ∈ s.err, CanOpen w r) :
    run command w = body s (sinkFrom w .terminal s.out) (sinkFrom w .terminal s.err)
      (afterOpening w (s.out ++ s.err)) := by
  rw [← afterOpening_perm w (regrouped_perm s), run_of_stage hs]
  cases hb : builtin? s with
  | some b =>
    rw [← runBuiltinStage_eq_body hout herr hb]
    unfold builtin? at hb
    rw [runSingle, hb]
  | none =>
    rw [← runProgramStage_eq_body hout herr hb]
    unfold builtin? at hb
    rw [runSingle, hb]

theorem body_of_start {s : Stage} {out err : Sink} {w w' : World} {done : Finished}
    (hb : builtin? s = none) (h : start s w = (.ok done, w')) :
    body s out err w =
      (.ok ⟨false, done.ending.status⟩, (w'.emitOut done.out out).emitErr done.err err) := by
  simp only [body, hb, h]

/-- A command of one stage whose targets can all be opened starts in the world, and with the
streams, that its redirections give when they are taken from left to right. -/
theorem starts_redirected_in_order {command : String} {r : RunReading} {w : World}
    (hrun : Runs ((commandWords command.toList).map String.ofList) [r.tokens])
    (hopen : ∀ x ∈ r.redirects, ∃ t, (openRedirect x.2 w).1 = .ok t) :
    ∃ w' out err, Starts command r w w' out err := by
  have hcan : ∀ x ∈ r.redirects, CanOpen w x.2 := fun x hx => canOpen_iff.mpr (hopen x hx)
  have hstream (toErr : Bool) : ∀ x ∈ r.redirectsOf toErr, CanOpen w x := by
    intro x hx
    obtain ⟨y, hy, rfl⟩ := List.mem_map.mp hx
    exact hcan y (List.mem_filter.mp hy).1
  -- the redirections of both streams are all of them
  have hperm : (r.stage.out ++ r.stage.err).Perm (r.redirects.map Prod.snd) := by
    have hfilter := List.filter_append_perm (fun x : Bool × Redirect => x.1 == false) r.redirects
    have hnot : (fun x : Bool × Redirect => !(x.1 == false)) = fun x => x.1 == true := by
      funext x
      cases x.1 <;> rfl
    rw [hnot] at hfilter
    simpa [RunReading.stage, RunReading.redirectsOf, streamOf] using hfilter.map Prod.snd
  have hbody : run command w = body r.stage (sinkFrom w .terminal (r.redirectsOf false))
      (sinkFrom w .terminal (r.redirectsOf true)) (afterOpening w (r.redirects.map Prod.snd)) := by
    rw [run_eq_body (pipeline_of_runs hrun) (hstream false) (hstream true),
      afterOpening_perm w hperm]
    rfl
  refine ⟨afterOpening w (r.redirects.map Prod.snd), sinkFrom w .terminal (r.redirectsOf false),
    sinkFrom w .terminal (r.redirectsOf true), ?_⟩
  constructor
  case inOrder => exact redirectInOrder_afterOpening hcan .terminal .terminal []
  case run_eq => exact hbody
  case onlyFiles => rfl
  case content => exact get?_afterOpening w (r.redirects.map Prod.snd)
  case out_last => exact leads_sinkFrom (hstream false)
  case err_last => exact leads_sinkFrom (hstream true)
  case delivers =>
    intro hb done w'' hstart
    have hsame : SameTerminal (afterOpening w (r.redirects.map Prod.snd)) w'' :=
      sameTerminal_of_start hstart
    refine ⟨_, hbody.trans (body_of_start hb hstart), ?_⟩
    refine ⟨?_, ?_, ?_, ?_⟩
    · rw [out_emitErr, out_emitOut, hsame.1]
      exact if_congr sinkFrom_eq_terminal_iff rfl rfl
    · rw [err_emitErr, err_emitOut, hsame.2]
      exact if_congr sinkFrom_eq_terminal_iff rfl rfl
    · rw [files_emitErr, files_emitOut]
    · intro p hout herr
      rw [files_emitErr, files_emitOut, get?_deliver herr, get?_deliver hout]

/-- A world with a file `f` that holds some text. -/
def withFile : World := { Setup.plain ["ROOT"] with files := [("f", "old\n")] : Setup }.world

/-- Both streams go to `f` first, by two names, and to `g` in the end. -/
def shared : RunReading :=
  .read ["both", "a", "b", "3", "2>>", "./f", ">", "f", "2>", "g", ">>", "~/../work/g"]

theorem starts_redirected_shared :
    Runs ((commandWords "both a b 3 2>> ./f > f 2> g >> ~/../work/g".toList).map String.ofList)
      [shared.tokens] ∧
    shared.redirects.map (fun x => landing withFile x.2) =
      [some ["ROOT", "work", "f"], some ["ROOT", "work", "f"], some ["ROOT", "work", "g"],
        some ["ROOT", "work", "g"]] ∧
    ∃ w' out err,
      Starts "both a b 3 2>> ./f > f 2> g >> ~/../work/g" shared withFile w' out err := by
  have hrun : Runs ((commandWords "both a b 3 2>> ./f > f 2> g >> ~/../work/g".toList).map
      String.ofList) [shared.tokens] := by
    rw [runs_iff_splitStages]
    decide
  have hcan : ∀ x ∈ shared.redirects, (landing withFile x.2).isSome = true := by decide
  exact ⟨hrun, by decide,
    starts_redirected_in_order hrun fun x hx => canOpen_iff.mp (hcan x hx)⟩

end Conch.Shell
