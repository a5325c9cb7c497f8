/-!
# Shortest decimals

The decimal with the fewest digits that reads back as a given binary floating point number, and of
those the nearest one. All arithmetic is exact, on natural numbers.
-/

namespace Conch.Decimal

/-- A finite number as `mantissa * 2 ^ exponent`, with the sign apart. -/
structure Binary where
  negative : Bool
  mantissa : Nat
  exponent : Int

inductive Shape where
  | finite (value : Binary)
  | infinite (negative : Bool)
  | undefined

def shape (x : Float) : Shape :=
  let bits := x.toBits.toNat
  let negative := bits / Nat.pow 2 63 == 1
  let biased : Nat := bits / Nat.pow 2 52 % Nat.pow 2 11
  let fraction : Nat := bits % Nat.pow 2 52
  if biased == 2047 then
    if fraction == 0 then .infinite negative else .undefined
  else if biased == 0 then .finite ⟨negative, fraction, -1074⟩
  else .finite ⟨negative, fraction + Nat.pow 2 52, (biased : Int) - 1075⟩

/-- A positive rational number. -/
structure Ratio where
  num : Nat
  den : Nat

def Ratio.ofScaled (m : Nat) (base : Nat) (e : Int) : Ratio :=
  if e ≥ 0 then ⟨m * Nat.pow base e.toNat, 1⟩ else ⟨m, Nat.pow base (-e).toNat⟩

def Ratio.le (a b : Ratio) : Bool := a.num * b.den ≤ b.num * a.den

def Ratio.lt (a b : Ratio) : Bool := a.num * b.den < b.num * a.den

/-- The exponent of the leading decimal digit, starting the search at a guess that is at most a few
steps away. -/
def leadingExponent (r : Ratio) : Nat → Int → Int
  | 0, guess => guess
  | steps + 1, guess =>
    if Ratio.lt r (.ofScaled 1 10 guess) then leadingExponent r steps (guess - 1)
    else if Ratio.le (.ofScaled 1 10 (guess + 1)) r then leadingExponent r steps (guess + 1)
    else guess

/-- The decimal digits of a number, most significant first. -/
def digitsOf (n : Nat) : List Nat := (Nat.toDigits 10 n).map fun c => c.toNat - 48

def dropTrailingZeros (ds : List Nat) : List Nat := (ds.reverse.dropWhile (· == 0)).reverse

/-- Digits `d₀ d₁ …` and an exponent `e`, standing for `d₀.d₁… * 10 ^ e`. -/
structure Digits where
  digits : List Nat
  exponent : Int

/-- The decimal of `count` digits inside the rounding interval that is nearest to the value, if
there is one. -/
def ofLength? (value low high : Ratio) (closed : Bool) (lead : Int) (count : Nat) :
    Option Digits :=
  let unit : Int := lead - (count : Int) + 1
  let scaled : Nat :=
    if unit ≥ 0 then value.num / (value.den * Nat.pow 10 unit.toNat)
    else value.num * Nat.pow 10 (-unit).toNat / value.den
  let inside (c : Nat) : Bool :=
    let r := Ratio.ofScaled c 10 unit
    if closed then Ratio.le low r && Ratio.le r high else Ratio.lt low r && Ratio.lt r high
  let done (c : Nat) : Option Digits :=
    let ds := digitsOf c
    some ⟨dropTrailingZeros ds, unit + (ds.length : Int) - 1⟩
  match inside scaled && scaled != 0, inside (scaled + 1) with
  | true, true =>
    let down := Ratio.ofScaled scaled 10 unit
    let up := Ratio.ofScaled (scaled + 1) 10 unit
    -- value - down against up - value, over the common denominator
    let below := (value.num * down.den - down.num * value.den) * up.den
    let above := (up.num * value.den - value.num * up.den) * down.den
    if below < above || (below == above && scaled % 2 == 0) then done scaled
    else done (scaled + 1)
  | true, false => done scaled
  | false, true => done (scaled + 1)
  | false, false => none

def shortest (b : Binary) : Digits :=
  if b.mantissa == 0 then ⟨[0], 0⟩
  else
    let value := Ratio.ofScaled b.mantissa 2 b.exponent
    let narrow := b.mantissa == Nat.pow 2 52 && b.exponent > -1074
    let low :=
      if narrow then Ratio.ofScaled (4 * b.mantissa - 1) 2 (b.exponent - 2)
      else Ratio.ofScaled (2 * b.mantissa - 1) 2 (b.exponent - 1)
    let high := Ratio.ofScaled (2 * b.mantissa + 1) 2 (b.exponent - 1)
    let closed := b.mantissa % 2 == 0
    let guess : Int := ((Nat.log2 b.mantissa : Int) + b.exponent) * 30103 / 100000
    let lead := leadingExponent value 8 guess
    ((List.range 17).findSome? fun k => ofLength? value low high closed lead (k + 1)).getD
      ⟨[0], 0⟩

def digitsText (ds : List Nat) : String := String.ofList (ds.map fun d => Char.ofNat (48 + d))

/-- An exponent with its sign and at least two digits. -/
def exponentText (e : Int) : String :=
  let digits := toString e.natAbs
  (if e < 0 then "e-" else "e+") ++ (if digits.length < 2 then "0" ++ digits else digits)

/-- Scientific notation outside `10⁻⁴ … 10¹⁶`, positional inside; `point` says whether an integral
value keeps a final `.0`. -/
def text (point : Bool) (d : Digits) : String :=
  let e := d.exponent
  if e < -4 || e ≥ 16 then
    match d.digits with
    | [] => "0"
    | [a] => digitsText [a] ++ exponentText e
    | a :: rest => digitsText [a] ++ "." ++ digitsText rest ++ exponentText e
  else if e < 0 then
    "0." ++ digitsText (List.replicate ((-e).toNat - 1) 0 ++ d.digits)
  else
    let whole := e.toNat + 1
    let front := d.digits.take whole ++ List.replicate (whole - d.digits.length) 0
    match d.digits.drop whole with
    | [] => digitsText front ++ (if point then ".0" else "")
    | rest => digitsText front ++ "." ++ digitsText rest

/-- The text of a number: fewest digits that read back, `inf` and `nan` by name. -/
def render (point : Bool) (x : Float) : String :=
  match shape x with
  | .undefined => "nan"
  | .infinite negative => if negative then "-inf" else "inf"
  | .finite b => (if b.negative then "-" else "") ++ text point (shortest b)

end Conch.Decimal
