import Conch.Screen.Prompt
import Conch.Session.Line
import Conch.Text.Blank

/-!
# The loop of the shell

The shell shows a prompt, reads an input and runs it, until a line leaves the shell or the input
ends. An interrupted input is dropped.
-/

namespace Conch.Session

open Eval

/-- What comes of asking for an input. -/
inductive Input where
  | line (text : String)
  | interrupted
  | ended
  deriving DecidableEq, Repr

/-- The parts of the prompt. -/
def showPrompt : Run (List Screen.Part) := do
  let s ← get
  let (parts, w) := Screen.prompt s.world
  set { s with world := w }
  match parts with
  | .ok parts => return parts
  | .error .noDirectory => raise (← faultError (.os .noEntry none))
  | .error .noHome => raise (← makeError "RuntimeError"
      [.text "Could not determine home directory."])

/-- Runs inputs and counts the prompts that are shown, from `prompts` on; the count is right also
when an input ends the loop with an error. -/
def loop (prompts : Nat) : List Input → Run (Nat × Option Raised)
  | [] => do
    let _ ← showPrompt
    return (prompts + 1, none)
  | input :: rest => do
    let _ ← showPrompt
    match input with
    | .ended => return (prompts + 1, none)
    | .interrupted => loop (prompts + 1) rest
    | .line text =>
      let command := Text.strip text
      if command.isEmpty then loop (prompts + 1) rest
      else
        match ← tryCatch (Except.ok <$> runLine command) fun e => return .error e with
        | .ok true => return (prompts + 1, none)
        | .ok false => loop (prompts + 1) rest
        | .error e => return (prompts + 1, some e)

end Conch.Session
