import Mathlib
import Conch.Proofs.Effect
import Conch.Proofs.Line.Chain
import Conch.Session.Line

/-!
# The course of a chain

A chain of segments is run from left to right with one status that an executed segment replaces if it
has one. `course` says which segments are executed and what is left behind, for any body that segments may
have: any effects on any state, any integer statuses, any errors. The run of the text of a chain is
that course.
-/

namespace Conch.Session

open Line (Operator Piece Segment chain)

variable {ε σ τ : Type}

/-- What the run of a chain comes to. -/
structure Course (ε σ : Type) where
  /-- The segments that were executed, first one first. -/
  executed : List (List Char)
  /-- Whether the shell is to be left, or the error that ended the run. -/
  result : Except ε Bool
  state : σ

/-- A course with one more segment executed in front. -/
def Course.behind (segment : List Char) (c : Course ε σ) : Course ε σ :=
  { c with executed := segment :: c.executed }

/-- Executes a segment and goes on from the status and the state that it leaves; without a status of
its own, the one in front of it stays. An error ends the course, and so does leaving the shell. -/
def Course.through (body : List Char → ExceptT ε (StateM σ) (Ending Int)) (segment : List Char)
    (status : Int) (s : σ) (next : Int → σ → Course ε σ) : Course ε σ :=
  match body segment s with
  | (.ok (.status n), t) => (next n t).behind segment
  | (.ok .unchanged, t) => (next status t).behind segment
  | (.ok .leave, t) => ⟨[segment], .ok true, t⟩
  | (.error e, t) => ⟨[segment], .error e, t⟩

/-- The course of segments behind operators, from a status on. A segment is passed over behind `&&`
after a status other than zero, and behind `||` after zero. -/
def courseFrom (body : List Char → ExceptT ε (StateM σ) (Ending Int)) (status : Int) (s : σ) :
    List (Operator × List Char) → Course ε σ
  | [] => ⟨[], .ok false, s⟩
  | (o, segment) :: links =>
    if (o = .both ∧ status ≠ 0) ∨ (o = .either ∧ status = 0) then courseFrom body status s links
    else Course.through body segment status s fun n t => courseFrom body n t links

/-- The course of a chain; its first segment is always executed. -/
def course (body : List Char → ExceptT ε (StateM σ) (Ending Int)) (first : List Char)
    (links : List (Operator × List Char)) (s : σ) : Course ε σ :=
  Course.through body first 0 s fun n t => courseFrom body n t links

def Ending.map (f : σ → τ) : Ending σ → Ending τ
  | .leave => .leave
  | .status v => .status (f v)
  | .unchanged => .unchanged

/-- A body that also writes down which segments it executes. -/
def recording (body : List Char → ExceptT ε (StateM σ) (Ending Int)) (segment : List Char) :
    ExceptT ε (StateM (σ × List (List Char))) (Ending Int) :=
  ExceptT.mk fun (s, log) => ((body segment s).1, (body segment s).2, log ++ [segment])

section Pieces

variable (isZero : τ → ExceptT ε (StateM σ) Bool) (embed : Int → τ)
variable (body : List Char → ExceptT ε (StateM σ) (Ending Int))

/-- What comes behind an executed piece. -/
def resume (execute : List Char → ExceptT ε (StateM σ) (Ending τ)) (last : τ) (rest : List Piece) :
    Ending τ → ExceptT ε (StateM σ) Bool
  | .leave => pure true
  | .status v => runPieces isZero execute v rest
  | .unchanged => runPieces isZero execute last rest

/-- One executed piece: the run goes on where the course goes on. -/
theorem execute_eq_through (segment : List Char) (status : Int) (s : σ) (rest : List Piece)
    (next : Int → σ → Course ε σ)
    (hnext : ∀ n t, runPieces isZero (fun x => Ending.map embed <$> body x) (embed n) rest t =
      ((next n t).result, (next n t).state)) :
    (Ending.map embed <$> body segment >>=
        resume isZero (fun x => Ending.map embed <$> body x) (embed status) rest) s =
      ((Course.through body segment status s next).result,
        (Course.through body segment status s next).state) := by
  rw [Effect.bind_apply, Effect.map_apply, Course.through]
  rcases body segment s with ⟨e | (_ | n | _), t⟩
  · rfl
  · rfl
  · exact hnext n t
  · exact hnext status t

/-- A piece behind an operator is passed over, or executed, by the status in front of it. -/
theorem runPieces_link (hzero : ∀ n, isZero (embed n) = pure (n == 0))
    (execute : List Char → ExceptT ε (StateM σ) (Ending τ)) (o : Operator) (segment : List Char)
    (rest : List Piece) (n : Int) :
    runPieces isZero execute (embed n) (⟨some o, segment⟩ :: rest) =
      if (o = .both ∧ n ≠ 0) ∨ (o = .either ∧ n = 0) then runPieces isZero execute (embed n) rest
      else execute segment >>= resume isZero execute (embed n) rest := by
  by_cases hn : n = 0 <;> cases o <;> simp [runPieces, passesOver, hzero, hn] <;> rfl

theorem runPieces_eq_courseFrom (hzero : ∀ n, isZero (embed n) = pure (n == 0))
    (links : List (Operator × List Char)) (n : Int) (s : σ) :
    runPieces isZero (fun x => Ending.map embed <$> body x) (embed n)
        (links.map fun l => ⟨some l.1, l.2⟩) s =
      ((courseFrom body n s links).result, (courseFrom body n s links).state) := by
  induction links generalizing n s with
  | nil => rfl
  | cons l links ih =>
    obtain ⟨o, segment⟩ := l
    rw [List.map_cons, runPieces_link isZero embed hzero, courseFrom]
    split
    · exact ih n s
    · exact execute_eq_through isZero embed body segment n s _ _ fun n t => ih n t

/-- The text of a chain is run as its course says. -/
theorem runText_eq_course (hzero : ∀ n, isZero (embed n) = pure (n == 0)) (first : Segment)
    (links : List (Operator × Segment)) (s : σ) :
    runText isZero (fun x => Ending.map embed <$> body x) (embed 0)
        (chain first.1 (links.map fun l => (l.1, l.2.1))) s =
      ((course body first.1 (links.map fun l => (l.1, l.2.1)) s).result,
        (course body first.1 (links.map fun l => (l.1, l.2.1)) s).state) := by
  have hlinks : ∀ l ∈ links.map (fun l => (l.1, l.2.1)), Line.IsSegment l.2 := by
    intro l hl
    obtain ⟨k, -, rfl⟩ := List.mem_map.mp hl
    exact k.2.2
  rw [runText, Line.segments_chain first.2 hlinks, runPieces]
  exact execute_eq_through isZero embed body first.1 0 s _ _ fun n t =>
    runPieces_eq_courseFrom isZero embed body hzero _ n t

end Pieces

/-- A course with the segments it executes written behind a log. -/
def Course.record (c : Course ε σ) (log : List (List Char)) : Course ε (σ × List (List Char)) :=
  ⟨c.executed, c.result, (c.state, log ++ c.executed)⟩

theorem through_recording (body : List Char → ExceptT ε (StateM σ) (Ending Int))
    (segment : List Char) (status : Int) (s : σ) (log : List (List Char))
    (next : Int → σ → Course ε σ)
    (next' : Int → σ × List (List Char) → Course ε (σ × List (List Char)))
    (hnext : ∀ n t log, next' n (t, log) = (next n t).record log) :
    Course.through (recording body) segment status (s, log) next' =
      (Course.through body segment status s next).record log := by
  have hbody : recording body segment (s, log) =
      ((body segment s).1, (body segment s).2, log ++ [segment]) := rfl
  rw [Course.through, Course.through, hbody]
  rcases body segment s with ⟨e | (_ | n | _), t⟩
  · rfl
  · rfl
  · simp [hnext, Course.record, Course.behind]
  · simp [hnext, Course.record, Course.behind]

theorem courseFrom_recording (body : List Char → ExceptT ε (StateM σ) (Ending Int))
    (links : List (Operator × List Char)) (n : Int) (s : σ) (log : List (List Char)) :
    courseFrom (recording body) n (s, log) links = (courseFrom body n s links).record log := by
  induction links generalizing n s log with
  | nil => simp [courseFrom, Course.record]
  | cons l links ih =>
    rw [courseFrom, courseFrom]
    split
    · exact ih n s log
    · exact through_recording body _ n s log _ _ fun n t log => ih n t log

theorem course_recording (body : List Char → ExceptT ε (StateM σ) (Ending Int)) (first : List Char)
    (links : List (Operator × List Char)) (s : σ) (log : List (List Char)) :
    course (recording body) first links (s, log) = (course body first links s).record log :=
  through_recording body first 0 s log _ _ fun n t log => courseFrom_recording body links n t log

theorem through_executed_sublist (body : List Char → ExceptT ε (StateM σ) (Ending Int))
    (segment : List Char) (status : Int) (s : σ) (next : Int → σ → Course ε σ)
    (rest : List (List Char)) (hnext : ∀ n t, (next n t).executed.Sublist rest) :
    (Course.through body segment status s next).executed.Sublist (segment :: rest) := by
  rw [Course.through]
  rcases body segment s with ⟨e | (_ | n | _), t⟩
  · simp
  · simp
  · exact (hnext n t).cons_cons segment
  · exact (hnext status t).cons_cons segment

theorem courseFrom_executed_sublist (body : List Char → ExceptT ε (StateM σ) (Ending Int))
    (links : List (Operator × List Char)) (n : Int) (s : σ) :
    (courseFrom body n s links).executed.Sublist (links.map (·.2)) := by
  induction links generalizing n s with
  | nil => simp [courseFrom]
  | cons l links ih =>
    rw [courseFrom]
    split
    · exact (ih n s).cons _
    · exact through_executed_sublist body _ n s _ _ fun n t => ih n t

theorem standardMachine_eq :
    Eval.standardMachine = .over fun _ => Eval.machine (Eval.manyLevels - 1) := rfl

/-- An integer status is zero as a number is. -/
theorem isZero_int (n : Int) : isZero (.int n) = pure (n == 0) := by
  rw [isZero, standardMachine_eq]
  change (pure (some (compare n 0) == some .eq) : Eval.Run Bool) = pure (n == 0)
  congr 1
  by_cases hn : n = 0
  · subst hn
    rfl
  · have hne : compare n 0 ≠ .eq := fun h => hn (compare_eq_iff_eq.mp h)
    simp [hn, hne]

/-- The text of a chain runs its segments as `&&`, `||` and `;` ask for, from left to right, whatever
the body of a segment does to the state, whichever statuses it gives and however it fails. What is
executed is written down by the body itself, and is the course's, in order and each segment at most
once. The second part says the same of the statuses and the state of a session. -/
theorem runText_chain (first : Segment) (links : List (Operator × Segment)) :
    (∀ {ε σ : Type} (body : List Char → ExceptT ε (StateM σ) (Ending Int)) (s : σ),
      let text := chain first.1 (links.map fun l => (l.1, l.2.1))
      let c := course body first.1 (links.map fun l => (l.1, l.2.1)) s
      runText (fun n : Int => pure (n == 0)) (recording body) 0 text (s, []) =
          (c.result, c.state, c.executed) ∧
        c.executed.Sublist (first.1 :: links.map (·.2.1))) ∧
    ∀ (body : List Char → Eval.Run (Ending Int)) (s : Eval.Session),
      let text := chain first.1 (links.map fun l => (l.1, l.2.1))
      let c := course body first.1 (links.map fun l => (l.1, l.2.1)) s
      runText isZero (fun x => Ending.map Eval.Value.int <$> body x) (.int 0) text s =
        (c.result, c.state) := by
  constructor
  · intro ε σ body s
    constructor
    · have hrun := runText_eq_course (fun n : Int => pure (n == 0)) id (recording body)
        (fun n => rfl) first links (s, [])
      have hid : (fun x => Ending.map id <$> recording body x) = recording body := by
        funext x
        have hmap : (Ending.map id : Ending Int → Ending Int) = id := by
          funext e
          cases e <;> rfl
        rw [hmap, id_map]
      rw [hid, course_recording] at hrun
      simpa [Course.record] using hrun
    · have hsub := through_executed_sublist body first.1 0 s _ _ fun n t =>
        courseFrom_executed_sublist body (links.map fun l => (l.1, l.2.1)) n t
      simpa [course, Function.comp_def] using hsub
  · intro body s
    exact runText_eq_course isZero .int body isZero_int first links s

end Conch.Session
