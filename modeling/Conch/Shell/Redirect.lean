import Conch.Line.Stage
import Conch.World.Basic

/-!
# Redirections

The last redirection of a stream is where it goes; the ones before it are opened and closed again,
so that their files are made or emptied all the same.
-/

namespace Conch.Shell

open World Line

/-- Opens the target of a redirection. -/
def openRedirect (r : Redirect) : Act Files.Target := do
  openTarget ((← get).expandHome r.path) (r.mode == .append)

/-- Opens all but the last one, one after the other. -/
def primeEarlier : List Redirect → Act Unit
  | [] => return ()
  | [_] => return ()
  | r :: rest => do
    let _ ← openRedirect r
    primeEarlier rest

/-- Where a stream goes: what its last redirection opens, or the terminal. -/
def activeSink (rs : List Redirect) : Act Sink := do
  match rs.getLast? with
  | none => return .terminal
  | some r => return .target (← openRedirect r)

/-- Opens the earlier redirections of both streams. -/
def primeStage (s : Stage) : Act Unit := do
  primeEarlier s.out
  primeEarlier s.err

end Conch.Shell
