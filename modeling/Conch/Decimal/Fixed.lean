import Conch.Decimal.Shortest

/-!
# Decimals of a fixed number of digits

A binary floating point number rounded to a number of places, or to a number of significant digits.
The value is rounded exactly, and a half goes to the even neighbour.
-/

namespace Conch.Decimal

/-- The quotient rounded to the nearest integer, a half to the even one. -/
def roundDiv (num den : Nat) : Nat :=
  let q := num / den
  let twice := 2 * (num % den)
  if twice > den || (twice == den && q % 2 == 1) then q + 1 else q

/-- The value times `10 ^ places`, rounded. -/
def scaledBy (b : Binary) (places : Int) : Nat :=
  let r := Ratio.ofScaled b.mantissa 2 b.exponent
  if places ≥ 0 then roundDiv (r.num * Nat.pow 10 places.toNat) r.den
  else roundDiv r.num (r.den * Nat.pow 10 (-places).toNat)

/-- A number as text with a point in front of its last `places` digits. -/
def withPoint (n places : Nat) : String :=
  if places == 0 then toString n
  else
    let digits := (toString n).toList
    let padded := List.replicate (places + 1 - digits.length) '0' ++ digits
    String.ofList (padded.take (padded.length - places)) ++ "." ++
      String.ofList (padded.drop (padded.length - places))

/-- The absolute value with a fixed number of places. -/
def fixedText (b : Binary) (places : Nat) : String := withPoint (scaledBy b places) places

/-- The first `count` significant digits, rounded, and the exponent of the first. -/
def significant (b : Binary) (count : Nat) : Nat × Int :=
  if b.mantissa == 0 then (0, 0)
  else
    let value := Ratio.ofScaled b.mantissa 2 b.exponent
    let guess : Int := ((Nat.log2 b.mantissa : Int) + b.exponent) * 30103 / 100000
    let lead := leadingExponent value 8 guess
    let n := scaledBy b ((count : Int) - 1 - lead)
    -- rounding up may give one digit more
    if n ≥ Nat.pow 10 count then (n / 10, lead + 1) else (n, lead)

/-- Scientific notation with `places` digits behind the point. -/
def scientificText (b : Binary) (places : Nat) : String :=
  let (n, e) := significant b (places + 1)
  withPoint n places ++ exponentText e

/-- Takes away zeros at the end of a fraction, and the point if nothing is left behind it. -/
def dropFraction (s : String) : String :=
  if s.toList.contains '.' then
    let kept := s.toList.reverse.dropWhile (· == '0')
    String.ofList ((match kept with
      | '.' :: rest => rest
      | rest => rest).reverse)
  else s

/-- At most `count` significant digits: positional for exponents from `-4` up to `count`, scientific
otherwise. `keepZeros` keeps zeros at the end. -/
def generalText (b : Binary) (count : Nat) (keepZeros : Bool) : String :=
  let count := if count == 0 then 1 else count
  let (n, e) := significant b count
  if e < -4 || e ≥ count then
    let mantissa := withPoint n (count - 1)
    (if keepZeros then mantissa else dropFraction mantissa) ++ exponentText e
  else
    let places := ((count : Int) - 1 - e).toNat
    let text := fixedText b places
    if keepZeros then text else dropFraction text

end Conch.Decimal
