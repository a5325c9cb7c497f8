import Mathlib
import Conch.Proofs.Eval.CapturedLines
import Conch.Proofs.Line.Noticed

/-!
# Capturing and the redirections that are noticed

Code that captures a command first asks whether its text shows a redirection. One that does is run,
and nothing is captured. Of any other command the redirections are passed over, unless it is a
builtin by itself, which is run with them. So a redirection that the text does not show, such as
`1> f` or one in quotes, is lost, and what looks like one, such as an operator within quotes, loses
the output that was wanted.
-/

namespace Conch.Shell

open World Line Effect

/-- A builtin by itself that has a redirection. -/
def RedirectedBuiltin (command : String) : Prop :=
  ∃ s b, pipeline command = [s] ∧ builtin? s = some b ∧ (s.out ≠ [] ∨ s.err ≠ [])

variable {command : String} {wanted : Capture}

theorem invokeLine_of_redirectedBuiltin (hwanted : wanted.IsCapturing)
    (h : RedirectedBuiltin command) :
    invokeLine wanted command =
      (fun s => answer wanted ⟨s.code, "", ""⟩) <$> run command := by
  obtain ⟨s, b, hstage, hb, hredirected⟩ := h
  have hsome : (s.out.isEmpty && s.err.isEmpty) = false := by
    rwa [Bool.and_eq_false_iff, List.isEmpty_eq_false_iff, List.isEmpty_eq_false_iff]
  rw [CapturedAlike.invokeLine_eq hwanted (.builtin hstage hb hsome),
    capture_of_redirected_builtin hstage hb hsome, Functor.map_map]

theorem invokeLine_of_not_redirectedBuiltin (hwanted : wanted.IsCapturing)
    (hshows : ¬ ShowsRedirect command.toList) (h : ¬ RedirectedBuiltin command) :
    invokeLine wanted command = answer wanted <$> captureBare command := by
  have hno : hasRedirect command.toList = false := by
    rwa [← hasRedirect_iff_showsRedirect, Bool.not_eq_true] at hshows
  rw [invokeLine_of_not_hasRedirect hwanted hno, capture_eq_captureBare]
  intro s b hstage hb
  by_contra hnot
  exact h ⟨s, b, hstage, hb, by rwa [not_and_or] at hnot⟩

/-- What a command shows and what its pipeline takes, for every command: the test sees an operator
between blanks, wherever it stands, and the pipeline a redirecting word with a target behind it,
however they are spelt. The two agree on commands that are written plainly. When a command is
captured the test decides: one that shows a redirection is run, like a builtin by itself that has
one, and of every other command the redirections are passed over. -/
theorem noticed_redirects_decide_capture (command : String) :
    (hasRedirect command.toList = true ↔ ShowsRedirect command.toList) ∧
      (Redirects command ↔
        ∃ ws, HasWords command.toList ws ∧ TakesTarget (ws.map String.ofList)) ∧
      (∀ xs tail, Plainly xs tail → command.toList = layout xs tail →
        (hasRedirect command.toList = true ↔ Redirects command)) ∧
      ∀ wanted : Capture, wanted.IsCapturing →
        (ShowsRedirect command.toList ∨ RedirectedBuiltin command →
          invokeLine wanted command =
            (fun s => answer wanted ⟨s.code, "", ""⟩) <$> run command) ∧
        (¬ ShowsRedirect command.toList → ¬ RedirectedBuiltin command →
          invokeLine wanted command = answer wanted <$> captureBare command) := by
  refine ⟨hasRedirect_iff_showsRedirect, redirects_iff_hasWords command, ?_, ?_⟩
  · intro xs tail hplain htext
    have hagree := hplain.hasRedirect_iff
    rwa [← htext, String.ofList_toList] at hagree
  · intro wanted hwanted
    refine ⟨?_, fun hshows => invokeLine_of_not_redirectedBuiltin hwanted hshows⟩
    rintro (hshows | hbuiltin)
    · exact invokeLine_of_hasRedirect hwanted (hasRedirect_iff_showsRedirect.2 hshows)
    · exact invokeLine_of_redirectedBuiltin hwanted hbuiltin

/-- `echo 'a b' > f` as it is written. -/
def quotedEcho : List Spelt :=
  [⟨[], ['e', 'c', 'h', 'o'], ['e', 'c', 'h', 'o'], by simp, by simp,
      spells_self (by simp [isGap])⟩,
    ⟨[' '], ['\'', 'a', ' ', 'b', '\''], ['a', ' ', 'b'], by simp [isGap], by simp,
      .single (s := ['a', ' ', 'b']) (by simp) .nil⟩,
    ⟨[' '], ['>'], ['>'], by simp [isGap], by simp, spells_self (by simp [isGap])⟩,
    ⟨[' '], ['f'], ['f'], by simp [isGap], by simp, spells_self (by simp [isGap])⟩]

theorem plainly_quotedEcho : Plainly quotedEcho [] where
  apart := by simp [quotedEcho]
  tailGaps := by simp
  verbatim := by simp [Verbatim, quotedEcho, Text.isBlank]
  usual := by simp [quotedEcho]
  complete before x after h hx := by
    unfold quotedEcho at h
    rcases before with _ | ⟨_, _ | ⟨_, _ | ⟨_, _ | ⟨_, before⟩⟩⟩⟩
    case cons.cons.nil =>
      cases h
      exact ⟨by simp, _, [], rfl, by simp⟩
    case cons.cons.cons.cons => simp at h
    all_goals
      cases h
      simp [redirectWords] at hx

/-- Of `args a 1> f` the pipeline takes `f`, the text does not show it, and the capture has nothing
of it; on a command that is written plainly, with quotes in it, both sides agree. -/
theorem unnoticed_redirect_is_passed_over :
    Redirects "args a 1> f" ∧ ¬ ShowsRedirect "args a 1> f".toList ∧
    invokeLine .output "args a 1> f" = answer .output <$> captureBare "args a 1> f" ∧
    Plainly quotedEcho [] ∧ "echo 'a b' > f".toList = layout quotedEcho [] ∧
    (hasRedirect "echo 'a b' > f".toList = true ↔ Redirects "echo 'a b' > f") := by
  obtain ⟨hshows, -, -, hcapture⟩ := noticed_redirects_decide_capture "args a 1> f"
  have hstage : pipeline "args a 1> f" = [⟨["args", "a"], [⟨"f", .write⟩], []⟩] := by
    decide
  have hno : ¬ ShowsRedirect "args a 1> f".toList := by
    rw [← hshows]
    decide
  have hlayout : "echo 'a b' > f".toList = layout quotedEcho [] := by decide
  refine ⟨⟨_, by rw [hstage]; exact List.mem_singleton_self _, .inl (by decide)⟩, hno, ?_,
    plainly_quotedEcho, hlayout, ?_⟩
  · apply (hcapture .output (.inl rfl)).2 hno
    rintro ⟨s, b, hs, hb, -⟩
    rw [hstage] at hs
    cases hs
    cases hb
  · exact (noticed_redirects_decide_capture "echo 'a b' > f").2.2.1 quotedEcho []
      plainly_quotedEcho hlayout

end Conch.Shell
