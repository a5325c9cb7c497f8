import Conch.Screen.Highlight.Rule

/-!
# States of colouring

Where in an input one is: in code, in brackets, in a command, in a string or behind one of the words
that announce a name.
-/

namespace Conch.Screen

inductive Quotation where
  | single
  | double
  deriving DecidableEq, Repr

/-- The escapes that a string knows. -/
inductive Escapes where
  | none
  | bytes
  | text
  /-- Doubled braces only. -/
  | braces
  | bracesAndText
  deriving DecidableEq, Repr

structure StringState where
  quotation : Quotation
  triple : Bool
  /-- Whether expressions stand in braces. -/
  template : Bool
  escapes : Escapes
  deriving DecidableEq, Repr

inductive State where
  | code
  | bracket
  | brace
  | command
  | commandStart
  | field
  | fieldBracket
  | matchWord
  | functionName
  | className
  | importing
  | importingFrom
  | string (s : StringState)
  deriving DecidableEq, Repr

end Conch.Screen
