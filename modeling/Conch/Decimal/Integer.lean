import Conch.Text.Blank
import Conch.Text.Digit

/-!
# Integers as text

Reading a decimal integer: blanks around it, a sign, and digits of any script with single
underscores between them.
-/

namespace Conch.Decimal

/-- The value of digits with single underscores between them; `closed` behind a digit, where the
text may end. -/
def readDigits (value : Nat) (closed : Bool) : List Char → Option Nat
  | [] => if closed then some value else none
  | c :: rest =>
    match Text.digitValue? c with
    | some d => readDigits (value * 10 + d) true rest
    | none => if c = '_' && closed then readDigits value false rest else none

/-- The greatest number of digits that is read. -/
def maxDigits : Nat := 4300

def readInteger? (s : String) : Option Int :=
  let t := Text.trim s.toList
  let (negative, digits) : Bool × List Char := match t with
    | '-' :: ds => (true, ds)
    | '+' :: ds => (false, ds)
    | ds => (false, ds)
  if digits.length > maxDigits then none
  else (readDigits 0 false digits).map fun n => if negative then -(n : Int) else n

end Conch.Decimal
