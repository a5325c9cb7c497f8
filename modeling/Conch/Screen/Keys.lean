import Conch.Screen.Enter

/-!
# Typing

Keys are pressed one after the other, and inputs come of them. Ctrl-D on an empty line ends the
typing; elsewhere it does nothing at the end of a text.
-/

namespace Conch.Screen

inductive Key where
  | enter
  | backspace
  | interrupt
  | endOfInput
  | char (c : Char)
  deriving DecidableEq, Repr

def Key.ofChar (c : Char) : Key :=
  match c.toNat with
  | 3 => .interrupt
  | 4 => .endOfInput
  | 10 | 13 => .enter
  | 8 | 127 => .backspace
  | _ => .char c

/-- What came of typing. -/
inductive Typed where
  | accepted (text : List Char)
  | interrupted
  deriving DecidableEq, Repr

/-- Removes the character in front of the cursor. -/
def Buffer.backspace (b : Buffer) : Buffer :=
  if b.cursor = 0 then b else ⟨b.text.take (b.cursor - 1) ++ b.after, b.cursor - 1⟩

/-- An empty line. -/
def Buffer.blank : Buffer := ⟨[], 0⟩

/-- Presses keys until the typing ends or no key is left. -/
def typeKeys (isComplete : List Char → Bool) (b : Buffer) : List Key → List Typed
  | [] => []
  | key :: rest =>
    match key with
    | .interrupt => .interrupted :: typeKeys isComplete .blank rest
    | .endOfInput => if b.text.isEmpty then [] else typeKeys isComplete b rest
    | .backspace => typeKeys isComplete b.backspace rest
    | .char c => typeKeys isComplete (b.insert [c]) rest
    | .enter => match enter isComplete b with
      | .accepted text => .accepted text :: typeKeys isComplete .blank rest
      | .editing b => typeKeys isComplete b rest

/-- Types a text, and then Ctrl-C and Ctrl-D. -/
def typeText (isComplete : List Char → Bool) (text : List Char) : List Typed :=
  typeKeys isComplete .blank (text.map Key.ofChar ++ [.interrupt, .endOfInput])

/-- Whether a text is complete code. -/
def isCompleteText (text : List Char) : Bool := Code.isComplete (String.ofList text)

end Conch.Screen
