import Conch.Text.Quoted

/-!
# Faults of a program text

Why a text is not a program, and where. A `Cause` is what went wrong; its wording is
`Cause.message`.
-/

namespace Conch.Code

/-- The class that a fault is reported under. -/
inductive Cause.Family where
  | general
  | indentation
  | tabs
  deriving DecidableEq, Repr

inductive Cause where
  | unexpected
  | unexpectedIndent
  | unexpectedDedent
  | dedentMismatch
  | tabMismatch
  | tooManyIndents
  | tooManyBrackets
  | unterminated (line : Nat)
  | unterminatedLong (line : Nat)
  | neverClosed (bracket : Char)
  | unmatched (bracket : Char)
  | closedBy (closing opening : Char) (openedOn : Option Nat)
  | endOfInput
  | strayContinuation
  | badCharacter (c : Char)
  | hiddenCharacter (c : Char)
  | badNumber (what : String)
  | badLiteral (what : String)
  | badTemplate (what : String)
  | cannotAssign (what : String)
  | cannotAssignHere (what : String)
  | cannotDelete (what : String)
  | severalStatements
  /-- A rule of the language broken by a text that has the right form. -/
  | misplaced (what : String)
  deriving DecidableEq, Repr

namespace Cause

/-- The code point in at least four hexadecimal digits. -/
def codePoint (c : Char) : String :=
  let digits := Nat.toDigits 16 c.toNat
  String.ofList ((List.replicate (4 - digits.length) '0' ++ digits).map Char.toUpper)

def message : Cause → String
  | unexpected => "invalid syntax"
  | unexpectedIndent => "unexpected indent"
  | unexpectedDedent => "unexpected unindent"
  | dedentMismatch => "unindent does not match any outer indentation level"
  | tabMismatch => "inconsistent use of tabs and spaces in indentation"
  | tooManyIndents => "too many levels of indentation"
  | tooManyBrackets => "too many nested parentheses"
  | unterminated line => "unterminated string literal (detected at line " ++ toString line ++ ")"
  | unterminatedLong line =>
    "unterminated triple-quoted string literal (detected at line " ++ toString line ++ ")"
  | neverClosed b => "'" ++ b.toString ++ "' was never closed"
  | unmatched b => "unmatched '" ++ b.toString ++ "'"
  | closedBy closing opening line =>
    "closing parenthesis '" ++ closing.toString ++ "' does not match opening parenthesis '" ++
      opening.toString ++ "'" ++ match line with
        | none => ""
        | some n => " on line " ++ toString n
  | endOfInput => "unexpected EOF while parsing"
  | strayContinuation => "unexpected character after line continuation character"
  | badCharacter c => "invalid character '" ++ c.toString ++ "' (U+" ++ codePoint c ++ ")"
  | hiddenCharacter c => "invalid non-printable character U+" ++ codePoint c
  | badNumber what => what
  | badLiteral what => what
  | badTemplate what => "f-string: " ++ what
  | cannotAssign what => "cannot assign to " ++ what
  | cannotAssignHere what =>
    "cannot assign to " ++ what ++ " here. Maybe you meant '==' instead of '='?"
  | cannotDelete what => "cannot delete " ++ what
  | severalStatements => "multiple statements found while compiling a single statement"
  | misplaced what => what

def family : Cause → Family
  | unexpectedIndent | unexpectedDedent | dedentMismatch | tooManyIndents => .indentation
  | tabMismatch => .tabs
  | _ => .general

/-- Whether the report of a fault shows the offending line: only faults of form do. -/
def showsLine : Cause → Bool
  | unexpected | unexpectedIndent | unexpectedDedent | cannotAssign _ | cannotAssignHere _
  | cannotDelete _ => true
  | _ => false

end Cause

/-- A cause with its line and its column, both counted from one. -/
structure Fault where
  cause : Cause
  line : Nat
  column : Nat
  deriving DecidableEq, Repr

end Conch.Code
