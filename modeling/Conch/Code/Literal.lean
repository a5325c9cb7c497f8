import Conch.Code.Token
import Conch.Code.Tree
import Conch.Text.Named

/-!
# Values of literals

What a number or a string literal stands for. Escapes of texts name characters by one letter, by
octal or hexadecimal digits or by name; an unknown escape stands for itself, backslash and all.
-/

namespace Conch.Code.Literal

def hexValue? (c : Char) : Option Nat :=
  if c.isDigit then some (c.toNat - 48)
  else if 'a' ≤ c && c ≤ 'f' then some (c.toNat - 87)
  else if 'A' ≤ c && c ≤ 'F' then some (c.toNat - 55)
  else none

def hexNumber? : Nat → List Char → Option Nat
  | acc, [] => some acc
  | acc, c :: rest => match hexValue? c with
    | some d => hexNumber? (acc * 16 + d) rest
    | none => none

/-- The character of a code point; a lone surrogate has none and gives the replacement character. -/
def charOf? (n : Nat) : Option Char :=
  if n > 0x10FFFF then none
  else if 0xD800 ≤ n && n ≤ 0xDFFF then some '�'
  else some (Char.ofNat n)

def octalValue (ds : List Char) : Nat := ds.foldl (fun n d => n * 8 + (d.toNat - 48)) 0

/-- The character of an escape of one letter. -/
def shortEscape? (c : Char) : Option Char :=
  if c == '\\' || c == '\'' || c == '"' then some c
  else if c == 'n' then some '\n'
  else if c == 't' then some '\t'
  else if c == 'r' then some '\r'
  else if c == 'a' then some '\x07'
  else if c == 'b' then some '\x08'
  else if c == 'f' then some '\x0c'
  else if c == 'v' then some '\x0b'
  else none

def unicodeFault (what : String) : Cause :=
  .badLiteral ("(unicode error) 'unicodeescape' codec can't decode bytes: " ++ what)

/-- An escape of a text: its characters and what follows it. `none` when the backslash stands for
itself. The argument starts behind the backslash. -/
def textEscape (rest : List Char) : Except Cause (Option (List Char × List Char)) :=
  match rest with
  | [] => .error (unicodeFault "\\ at end of string")
  | '\n' :: tail => .ok (some ([], tail))
  | c :: tail =>
    match shortEscape? c with
    | some d => .ok (some ([d], tail))
    | none =>
      if Scan.isOctalDigit c then
        let ds := (rest.take 3).takeWhile Scan.isOctalDigit
        .ok (some ([Char.ofNat (octalValue ds)], rest.drop ds.length))
      else if c == 'x' || c == 'u' || c == 'U' then
        let width := if c == 'x' then 2 else if c == 'u' then 4 else 8
        let ds := tail.take width
        if ds.length < width then .error (unicodeFault "truncated escape")
        else match hexNumber? 0 ds with
          | none => .error (unicodeFault "truncated escape")
          | some n => match charOf? n with
            | some d => .ok (some ([d], tail.drop width))
            | none => .error (unicodeFault "illegal Unicode character")
      else if c == 'N' then
        match tail with
        | '\x7b' :: body =>
          let name := body.takeWhile (· != '\x7d')
          if name.length == body.length || name.isEmpty then
            .error (unicodeFault "malformed \\N character escape")
          else match Text.named? (String.ofList name) with
            | some d => .ok (some ([d], body.drop (name.length + 1)))
            | none => .error (unicodeFault "unknown Unicode character name")
        | _ => .error (unicodeFault "malformed \\N character escape")
      else .ok none

/-- Reads the escapes of a text; every step drops at least one character, so the length of the text
is enough fuel. -/
def unescapeFrom : Nat → List Char → Except Cause (List Char)
  | 0, _ => .ok []
  | _ + 1, [] => .ok []
  | fuel + 1, c :: rest =>
    if c == '\\' then do
      match ← textEscape rest with
      | some (cs, tail) => return cs ++ (← unescapeFrom fuel tail)
      | none => return c :: (← unescapeFrom fuel rest)
    else do return c :: (← unescapeFrom fuel rest)

def unescape (body : List Char) : Except Cause (List Char) := unescapeFrom (body.length + 1) body

def bytesFault (what : String) : Cause := .badLiteral ("(value error) " ++ what)

def unescapeBytesFrom : Nat → List Char → Except Cause (List UInt8)
  | 0, _ => .ok []
  | _ + 1, [] => .ok []
  | fuel + 1, c :: rest =>
    if c == '\\' then do
      match rest with
      | [] => .error (bytesFault "Trailing \\ in string")
      | '\n' :: tail => unescapeBytesFrom fuel tail
      | d :: tail =>
        match shortEscape? d with
        | some e => return e.toNat.toUInt8 :: (← unescapeBytesFrom fuel tail)
        | none =>
          if Scan.isOctalDigit d then
            let ds := (rest.take 3).takeWhile Scan.isOctalDigit
            return (octalValue ds).toUInt8 :: (← unescapeBytesFrom fuel (rest.drop ds.length))
          else if d == 'x' then
            let ds := tail.take 2
            match if ds.length == 2 then hexNumber? 0 ds else none with
            | some n => return n.toUInt8 :: (← unescapeBytesFrom fuel (tail.drop 2))
            | none => .error (bytesFault "invalid \\x escape")
          else return c.toNat.toUInt8 :: (← unescapeBytesFrom fuel rest)
    else do return c.toNat.toUInt8 :: (← unescapeBytesFrom fuel rest)

/-- The parts of a string literal: its marks and what stands between its quotes. -/
structure Parts where
  raw : Bool
  bytes : Bool
  template : Bool
  marked : Bool
  body : List Char

def split (text : List Char) : Parts :=
  let marks := text.takeWhile fun c => c != '\'' && c != '"'
  let quoted := text.drop marks.length
  let width := match quoted with
    | a :: b :: c :: _ :: _ :: _ => if a == b && b == c then 3 else 1
    | _ => 1
  let body := (quoted.drop width).take (quoted.length - 2 * width)
  let has (c : Char) : Bool := marks.any fun m => m.toLower == c
  ⟨has 'r', has 'b', has 'f', marks.head? == some 'u', body⟩

def textValue (p : Parts) : Except Cause (List Char) :=
  if p.raw then .ok p.body else unescape p.body

def bytesValue (p : Parts) : Except Cause (List UInt8) :=
  if p.body.any fun c => c.toNat ≥ 0x80 then
    .error (.badLiteral "bytes can only contain ASCII literal characters")
  else if p.raw then .ok (p.body.map fun c => c.toNat.toUInt8)
  else unescapeBytesFrom (p.body.length + 1) p.body

def decimalValue (ds : List Char) : Nat := ds.foldl (fun n d => n * 10 + (d.toNat - 48)) 0

def radixValue (base : Nat) (ds : List Char) : Nat :=
  ds.foldl (fun n d => n * base + (hexValue? d).getD 0) 0

/-- The floating point number nearest to a decimal. Beyond the range of exponents the result is
infinite or zero whatever the digits are. -/
def floatOf (digits : List Char) (fraction : Nat) (exponent : Int) : Float :=
  let mantissa := decimalValue digits
  let e := exponent - (fraction : Int)
  let size := e + (digits.dropWhile (· == '0')).length
  if mantissa == 0 then 0.0
  else if size > 400 then 1.0 / 0.0
  else if size < -400 then 0.0
  else if e ≥ 0 then Float.ofScientific mantissa false e.toNat
  else Float.ofScientific mantissa true (-e).toNat

/-- Reads digits with an optional point and exponent. -/
def floatValue (text : List Char) : Float :=
  let whole := text.takeWhile Char.isDigit
  let rest := text.drop whole.length
  let (fraction, rest) : List Char × List Char := match rest with
    | '.' :: tail => (tail.takeWhile Char.isDigit, tail.dropWhile Char.isDigit)
    | _ => ([], rest)
  let exponent : Int := match rest with
    | _ :: '-' :: ds => -(decimalValue ds : Int)
    | _ :: '+' :: ds => decimalValue ds
    | _ :: ds => decimalValue ds
    | [] => 0
  floatOf (whole ++ fraction) fraction.length exponent

/-- The greatest number of decimal digits of an integer literal. -/
def maxDigits : Nat := 4300

def numberValue (text : String) : Except Cause Constant :=
  let cs := text.toList.filter (· != '_')
  match cs with
  | '0' :: c :: ds =>
    if c == 'x' || c == 'X' then .ok (.int (radixValue 16 ds))
    else if c == 'o' || c == 'O' then .ok (.int (radixValue 8 ds))
    else if c == 'b' || c == 'B' then .ok (.int (radixValue 2 ds))
    else decimal cs
  | _ => decimal cs
where
  decimal (cs : List Char) : Except Cause Constant :=
    if cs.getLast?.any fun c => c == 'j' || c == 'J' then .ok (.imaginary (floatValue cs.dropLast))
    else if cs.all Char.isDigit then
      if cs.length > maxDigits then
        .error (.badNumber "Exceeds the limit (4300 digits) for integer string conversion")
      else .ok (.int (decimalValue cs))
    else .ok (.float (floatValue cs))

end Conch.Code.Literal
