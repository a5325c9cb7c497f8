import Conch.Screen.Keys
import Conch.Session.Step

/-!
# The shell as a program

Reads inputs line by line, runs them in a fresh world and shows what reaches the terminal. An input
ends with a line that completes it, or with a blank one.
-/

namespace Conch.Main

open Session

/-- Runs a line and shows what it wrote; gives the code to leave with, if it leaves the shell. -/
def runAndShow (line : String) (s : Eval.Session) : IO (Option UInt32 × Eval.Session) := do
  let (r, s) := report (.run line) s
  IO.print r.out
  IO.eprint r.err
  match r.result with
  | .reply (.datum (.bool true)) => return (some 0, s)
  | .left (.int code) => return (some (Int.emod code 256).toNat.toUInt32, s)
  | .left .null => return (some 0, s)
  | .left (.text message) =>
    IO.eprintln message
    return (some 1, s)
  | .left _ => return (some 1, s)
  | .failed kind message =>
    IO.eprintln (kind ++ ": " ++ message.getD "")
    return (none, s)
  | _ => return (none, s)

/-- Shows the prompt. -/
def showPrompt (s : Eval.Session) : IO Eval.Session := do
  let (r, s) := report .prompt s
  match r.result with
  | .reply (.parts parts) =>
    IO.print (String.join (parts.map (·.text)))
    return s
  | _ => return s

/-- Reads and runs inputs; `lines` are those of the input that is being read, last one first. -/
partial def loop (lines : List String) (s : Eval.Session) : IO UInt32 := do
  let s ← if lines.isEmpty then showPrompt s else pure s
  (← IO.getStdout).flush
  let line ← (← IO.getStdin).getLine
  if line.isEmpty then return 0
  let lines := String.ofList (line.toList.filter (· != '\n')) :: lines
  let input := "\n".intercalate lines.reverse
  let isBlank := (Text.strip (lines.headD "")).isEmpty
  if isBlank || Screen.isCompleteText input.toList then
    let command := Text.strip input
    if command.isEmpty then loop [] s
    else
      match ← runAndShow command s with
      | (some code, _) => return code
      | (none, s) => loop [] s
  else loop lines s

end Conch.Main

def main : IO UInt32 :=
  Conch.Main.loop [] (Conch.Session.start (Conch.World.Setup.plain []).world [])
