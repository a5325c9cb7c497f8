/-!
# Quotes

Single and double quotes toggle, each outside the other.
-/

namespace Conch.Line

inductive Quote where
  | none
  | single
  | double
  deriving DecidableEq, Repr

/-- The state behind a character. -/
def Quote.next (q : Quote) (c : Char) : Quote :=
  match q with
  | .none => if c = '\'' then .single else if c = '"' then .double else .none
  | .single => if c = '\'' then .none else .single
  | .double => if c = '"' then .none else .double

/-- The states behind each character of a text. -/
def Quote.trace (q : Quote) : List Char → List Quote
  | [] => []
  | c :: rest => q.next c :: (q.next c).trace rest

/-- Splits a text at the line feeds that stand outside quotes; `line` holds the current line, last
character first. A line feed at the very end closes the last line. -/
def splitLinesFrom (q : Quote) (line : List Char) : List Char → List (List Char)
  | [] => if line.isEmpty then [] else [line.reverse]
  | c :: rest =>
    let q' := q.next c
    if c = '\n' ∧ q' = .none then line.reverse :: splitLinesFrom q' [] rest
    else splitLinesFrom q' (c :: line) rest

def splitLines (text : List Char) : List (List Char) := splitLinesFrom .none [] text

end Conch.Line
