import Conch.Line.Expansion
import Conch.Text.Blank

/-!
# Expanding a text

The expansions of a text are performed from left to right, each after those inside it, and what they
give takes their place. What an expansion gives is not looked at again.
-/

namespace Conch.Shell

open Line

/-- How expansions are performed, with errors `ε` and a state `σ`. -/
structure Performer (ε σ : Type) where
  /-- The text of the value of some code. -/
  value : List Char → ExceptT ε (StateM σ) (List Char)
  /-- What a command prints. -/
  output : List Char → ExceptT ε (StateM σ) (List Char)
  /-- The error that stands for one met in an expansion. -/
  report : Sigil → List Char → ε → ExceptT ε (StateM σ) ε

namespace Performer

variable {ε σ : Type}

/-- Performs an expansion whose content is expanded already. -/
def perform (p : Performer ε σ) (sigil : Sigil) (content : List Char) :
    ExceptT ε (StateM σ) (List Char) :=
  match sigil with
  | .value => p.value content
  | .output | .outcome => p.output content

/-- Expands a text, passing over the next `skip` characters; contents are expanded by `inner`. -/
def expandWith (p : Performer ε σ) (inner : List Char → ExceptT ε (StateM σ) (List Char))
    (skip : Nat) : List Char → ExceptT ε (StateM σ) (List Char)
  | [] => return []
  | c :: rest =>
    match skip with
    | k + 1 => expandWith p inner k rest
    | 0 =>
      match opening? (c :: rest), closing 0 (rest.drop 1) with
      | some sigil, some k => do
        let content := (rest.drop 1).take k
        let given ← tryCatch (do p.perform sigil (← inner content))
          fun e => do throw (← p.report sigil content e)
        return given ++ (← expandWith p inner (k + 2) rest)
      | _, _ => do return c :: (← expandWith p inner 0 rest)

/-- Expands a text in which expansions are nested no deeper than `depth`. -/
def expandTo (p : Performer ε σ) : Nat → List Char → ExceptT ε (StateM σ) (List Char)
  | 0, text => return text
  | depth + 1, text => expandWith p (expandTo p depth) 0 text

/-- Expands a text; expansions in it are nested less deep than it is long. -/
def expand (p : Performer ε σ) (text : List Char) : ExceptT ε (StateM σ) (List Char) :=
  expandTo p (text.length + 1) text

end Performer

end Conch.Shell
