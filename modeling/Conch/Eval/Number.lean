import Conch.Decimal.Fixed
import Conch.Decimal.Integer
import Conch.Eval.Store

/-!
# Arithmetic

Integers are unbounded, and division rounds down. An integer that meets a float becomes one.
-/

namespace Conch.Eval.Number

open Decimal

/-- The nearest float to an integer, if there is one. -/
def ofInt? (n : Int) : Option Float :=
  let x := Float.ofScientific n.natAbs false 0
  if x.isInf then none else some (if n < 0 then -x else x)

def ofInt (n : Int) : Run Float :=
  match ofInt? n with
  | some x => return x
  | none => fail (.overflow "int too large to convert to float")

def negative (b : Binary) (n : Nat) : Int := if b.negative then -(n : Int) else n

/-- A finite number without its fraction. -/
def truncate (b : Binary) : Int :=
  negative b (if b.exponent ≥ 0 then b.mantissa * Nat.pow 2 b.exponent.toNat
    else b.mantissa / Nat.pow 2 (-b.exponent).toNat)

/-- Whether a finite number is an integer. -/
def isIntegral (b : Binary) : Bool :=
  b.exponent ≥ 0 || b.mantissa % Nat.pow 2 (-b.exponent).toNat == 0

/-- A float as an integer, rounded by the given rule. -/
def toInt (round : Binary → Int) (x : Float) : Run Int :=
  match shape x with
  | .finite b => return round b
  | .infinite _ => fail (.overflow "cannot convert float infinity to integer")
  | .undefined => failValue "cannot convert float NaN to integer"

def floor (b : Binary) : Int :=
  if isIntegral b || !b.negative then truncate b else truncate b - 1

def ceiling (b : Binary) : Int :=
  if isIntegral b || b.negative then truncate b else truncate b + 1

/-- The nearest integer, a half to the even one. -/
def nearest (b : Binary) : Int := negative b (scaledBy b 0)

def signed (b : Binary) (x : Float) : Float := if b.negative then -x else x

/-- `n * 2 ^ e`, for an `n` of at most 53 bits. -/
def scale (n : Nat) (e : Int) : Float := (Float.ofNat n).scaleB e

/-- The remainder of a division that rounds toward zero. -/
def remainder (x y : Float) : Float :=
  match shape x, shape y with
  | .finite a, .finite b =>
    let e := min a.exponent b.exponent
    let p := a.mantissa * Nat.pow 2 (a.exponent - e).toNat
    let q := b.mantissa * Nat.pow 2 (b.exponent - e).toNat
    signed a (scale (p % q) e)
  | .finite _, .infinite _ => x
  | _, _ => 0.0 / 0.0

/-- The remainder with the sign of the divisor. -/
def modulo (x y : Float) : Float :=
  let r := remainder x y
  if r == 0.0 then (if y < 0.0 then -0.0 else 0.0)
  else if (y < 0.0) != (r < 0.0) then r + y else r

/-- The quotient rounded down. -/
def floorQuotient (x y : Float) : Float :=
  let r := remainder x y
  let q := (x - r) / y
  let q := if r != 0.0 && ((y < 0.0) != (r < 0.0)) then q - 1.0 else q
  if q == 0.0 then (if (x < 0.0) != (y < 0.0) then -0.0 else 0.0)
  else
    let f := q.floor
    if q - f > 0.5 then f + 1.0 else f

/-- A float rounded to some decimal places, a half to the even neighbour. -/
def roundPlaces (x : Float) (places : Int) : Float :=
  match shape x with
  | .finite b =>
    if places > 330 then x
    else if places < -330 then signed b 0.0
    else
      let n := scaledBy b places
      signed b (if places ≥ 0 then Float.ofScientific n true places.toNat
        else Float.ofScientific n false (-places).toNat)
  | _ => x

/-- An integer rounded to a multiple of a power of ten, a half to the even neighbour. -/
def roundTens (n : Int) (zeros : Nat) : Int :=
  let unit := Nat.pow 10 zeros
  let rounded : Int := (roundDiv n.natAbs unit * unit : Nat)
  if n < 0 then -rounded else rounded

/-- Division of integers with a float as result. -/
def quotient (a b : Int) : Run Float :=
  if b = 0 then fail (.divisionByZero "division by zero")
  else
    let negative := (a < 0) != (b < 0)
    let x := ratio a.natAbs b.natAbs
    if x.isInf then fail (.overflow "integer division result too large for a float")
    else return if negative && a != 0 then -x else x
where
  /-- The nearest float to a quotient: 55 bits of it and whether there are more decide. -/
  ratio (p q : Nat) : Float :=
    if p == 0 then 0.0
    else
      let shift : Int := (Nat.log2 q : Int) - (Nat.log2 p : Int) + 66
      let num := if shift ≥ 0 then p * Nat.pow 2 shift.toNat else p
      let den := if shift ≥ 0 then q else q * Nat.pow 2 (-shift).toNat
      let digits := num / den * 2 + (if num % den == 0 then 0 else 1)
      ofBits digits (-shift - 1)
  /-- `n * 2 ^ e` rounded once. -/
  ofBits (n : Nat) (e : Int) : Float :=
    let width : Int := (Nat.log2 n : Int) + 1
    -- numbers near zero have fewer bits
    let drop : Int := max (width - 53) (-1074 - e)
    if drop ≤ 0 then scale n e
    else if drop > width + 1 then 0.0
    else scale (roundDiv n (Nat.pow 2 drop.toNat)) (e + drop)

def powerInts (base : Int) (exponent : Nat) : Int := Int.pow base exponent

/-- The integer square root. -/
def squareRoot (n : Nat) : Nat :=
  if n ≤ 1 then n else go (Nat.log2 n + 2) n
where
  /-- Newton's iteration, which halves the error at least. -/
  go : Nat → Nat → Nat
    | 0, guess => guess
    | fuel + 1, guess =>
      let next := (guess + n / guess) / 2
      if next < guess then go fuel next else guess

/-- The digits of a number in a base up to 36. -/
def inBase (base n : Nat) : String :=
  String.ofList ((digits (Nat.log2 n + 1) n []))
where
  digits : Nat → Nat → List Char → List Char
    | 0, _, ds => ds
    | fuel + 1, n, ds =>
      let d := n % base
      let c := Char.ofNat (if d < 10 then 48 + d else 87 + d)
      if n < base then c :: ds else digits fuel (n / base) (c :: ds)

/-- The greatest number of decimal digits of an integer that is turned into text. -/
def maxDigits : Nat := 4300

def intText (n : Int) : Run String :=
  let s := toString n
  if s.length > maxDigits + 1 || (s.length > maxDigits && n ≥ 0) then fail .tooManyDigits
  else return s

/-- A number that stands for an integer. -/
def asInt? : Value → Option Int
  | .int n => some n
  | .bool b => some (if b then 1 else 0)
  | _ => none

/-- A number that can be computed with as a float. -/
def asFloat? : Value → Option (Run Float)
  | .float x => some (pure x)
  | .int n => some (ofInt n)
  | .bool b => some (pure (if b then 1.0 else 0.0))
  | _ => none

/-- Reads a float as text: blanks around it, a sign, and a decimal, `inf` or `nan`. -/
def readFloat? (s : String) : Option Float :=
  let t := (Text.trim s.toList).map Char.toLower
  let (sign, body) : Bool × List Char := match t with
    | '-' :: rest => (true, rest)
    | '+' :: rest => (false, rest)
    | rest => (false, rest)
  let named := if body == "inf".toList || body == "infinity".toList then some (1.0 / 0.0 : Float)
    else if body == "nan".toList then some (0.0 / 0.0)
    else decimal body
  named.map fun x => if sign then -x else x
where
  /-- Digits with single underscores between them; gives the digits and what follows them. -/
  run (ds : List Char) (closed : Bool) : List Char → Option (List Char × List Char)
    | [] => if closed || ds.isEmpty then some (ds.reverse, []) else none
    | c :: rest =>
      match Text.digitValue? c with
      | some d => run (Char.ofNat (48 + d) :: ds) true rest
      | none =>
        if c == '_' && closed && (rest.head?.bind Text.digitValue?).isSome then run ds false rest
        else some (ds.reverse, c :: rest)
  decimal (body : List Char) : Option Float := do
    let (whole, rest) ← run [] false body
    let (fraction, rest) ← match rest with
      | '.' :: tail => run [] false tail
      | _ => some ([], rest)
    if whole.isEmpty && fraction.isEmpty then none
    else
      let exponent ← match rest with
        | [] => some 0
        | 'e' :: '-' :: tail => (exponentOf tail).map fun n => -(n : Int)
        | 'e' :: '+' :: tail => (exponentOf tail).map fun n => (n : Int)
        | 'e' :: tail => (exponentOf tail).map fun n => (n : Int)
        | _ => none
      some (ofDigits (whole ++ fraction) fraction.length exponent)
  exponentOf (tail : List Char) : Option Nat := do
    let (ds, rest) ← run [] false tail
    if ds.isEmpty || !rest.isEmpty then none
    else some (ds.foldl (fun (n : Nat) (d : Char) => n * 10 + (d.toNat - 48)) 0)
  ofDigits (ds : List Char) (fraction : Nat) (exponent : Int) : Float :=
    let mantissa := ds.foldl (fun (n : Nat) (d : Char) => n * 10 + (d.toNat - 48)) 0
    let e := exponent - (fraction : Int)
    let size := e + (ds.dropWhile (· == '0')).length
    if mantissa == 0 then 0.0
    else if size > 400 then 1.0 / 0.0
    else if size < -400 then 0.0
    else if e ≥ 0 then Float.ofScientific mantissa false e.toNat
    else Float.ofScientific mantissa true (-e).toNat

/-- Reads an integer in a base; base zero takes it from the text. -/
def readBase? (base : Nat) (s : String) : Option Int :=
  let t := (Text.trim s.toList).map Char.toLower
  let (sign, body) : Bool × List Char := match t with
    | '-' :: rest => (true, rest)
    | '+' :: rest => (false, rest)
    | rest => (false, rest)
  let marked : Option (Nat × List Char) := match body with
    | '0' :: 'x' :: rest => some (16, rest)
    | '0' :: 'o' :: rest => some (8, rest)
    | '0' :: 'b' :: rest => some (2, rest)
    | _ => none
  let (radix, ds) : Nat × List Char := match marked with
    | some (b, rest) =>
      if base == 0 || base == b then (b, match rest with
        | '_' :: more => more
        | more => more)
      else (base, body)
    | none => (if base == 0 then 10 else base, body)
  let leading := base == 0 && marked.isNone && ds.head? == some '0' &&
    ds.any fun c => c != '0' && c != '_'
  if leading then none
  else (go radix 0 false ds).map fun n => if sign then -(n : Int) else n
where
  digit? (c : Char) : Option Nat :=
    match Text.digitValue? c with
    | some d => some d
    | none => if 'a' ≤ c && c ≤ 'z' then some (c.toNat - 87) else none
  go (radix value : Nat) (closed : Bool) : List Char → Option Nat
    | [] => if closed then some value else none
    | c :: rest =>
      match digit? c with
      | some d => if d < radix then go radix (value * radix + d) true rest else none
      | none => if c == '_' && closed then go radix value false rest else none

end Conch.Eval.Number
