import Conch.Line.Quote
import Conch.Text.Blank

/-!
# Segments of a line

A line is cut at the operators `&&`, `||` and `;` that stand outside quotes. Inside double quotes a
backslash hides the character behind it.
-/

namespace Conch.Line

inductive Operator where
  | both
  | either
  | always
  deriving DecidableEq, Repr

def Operator.text : Operator → List Char
  | .both => ['&', '&']
  | .either => ['|', '|']
  | .always => [';']

def Operator.ofText? (s : String) : Option Operator :=
  if s = "&&" then some .both
  else if s = "||" then some .either
  else if s = ";" then some .always
  else none

/-- The operator at the front of a text. -/
def operator? : List Char → Option Operator
  | '&' :: '&' :: _ => some .both
  | '|' :: '|' :: _ => some .either
  | ';' :: _ => some .always
  | _ => none

/-- A piece of a line and the operator in front of it. -/
structure Piece where
  operator : Option Operator
  text : List Char
  deriving DecidableEq, Repr

/-- Cuts a text at its operators. `piece` is what has been read of the current piece, last character
first; `skip` characters are passed over: the second one of an operator, or (kept) one behind a
backslash. -/
def piecesFrom (q : Quote) (op : Option Operator) (piece : List Char) (hidden : Bool)
    (skip : Bool) : List Char → List Piece
  | [] => [⟨op, piece.reverse⟩]
  | c :: rest =>
    if skip then piecesFrom q op piece false false rest
    else if hidden then piecesFrom q op (c :: piece) false false rest
    else if c = '\\' ∧ q = .double ∧ rest ≠ [] then piecesFrom q op (c :: piece) true false rest
    else
      let q' := q.next c
      match if q' = .none then operator? (c :: rest) else none with
      | none => piecesFrom q' op (c :: piece) false false rest
      | some o => ⟨op, piece.reverse⟩ :: piecesFrom q' (some o) [] false (o ≠ .always) rest

def pieces (text : List Char) : List Piece := piecesFrom .none none [] false false text

/-- The pieces that are not blank, trimmed; the whole text when all are blank. -/
def segments (text : List Char) : List Piece :=
  let kept := (pieces text).filterMap fun p =>
    let t := Text.trim p.text
    if t.isEmpty then none else some ⟨p.operator, t⟩
  if kept.isEmpty then [⟨none, text⟩] else kept

end Conch.Line
