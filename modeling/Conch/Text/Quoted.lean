import Conch.Text.Printable

/-!
# Quoted text

How a text is written as a literal: in single quotes, or in double quotes when it holds a single
quote and no double one. The quote and the backslash are escaped, line feed, carriage return and tab
have short escapes, and every other character that is not printable is written by its code point
with two, four or eight hexadecimal digits.
-/

namespace Conch.Text

def hexDigit (n : Nat) : Char :=
  if n < 10 then Char.ofNat (48 + n) else Char.ofNat (87 + n)

/-- The last `width` hexadecimal digits of a number. -/
def hexDigits : Nat → Nat → List Char
  | 0, _ => []
  | width + 1, n => hexDigits width (n / 16) ++ [hexDigit (n % 16)]

/-- The escape that names a code point. -/
def codeEscape (n : Nat) : List Char :=
  if n < 0x100 then '\\' :: 'x' :: hexDigits 2 n
  else if n < 0x10000 then '\\' :: 'u' :: hexDigits 4 n
  else '\\' :: 'U' :: hexDigits 8 n

def quoteChar (quote c : Char) : List Char :=
  if c == quote || c == '\\' then ['\\', c]
  else if c == '\n' then ['\\', 'n']
  else if c == '\r' then ['\\', 'r']
  else if c == '\t' then ['\\', 't']
  else if isPrintable c then [c]
  else codeEscape c.toNat

def chooseQuote (s : List Char) : Char :=
  if s.contains '\'' && !s.contains '"' then '"' else '\''

def quotedWith (quote : Char) (s : List Char) : List Char :=
  quote :: (s.flatMap (quoteChar quote) ++ [quote])

def quotedChars (s : List Char) : List Char := quotedWith (chooseQuote s) s

def quoted (s : String) : String := String.ofList (quotedChars s.toList)

/-- `quoted` with every character above ASCII written by its code point. -/
def quotedAscii (s : String) : String :=
  String.ofList <| (quotedChars s.toList).flatMap fun c =>
    if c.toNat < 0x80 then [c] else codeEscape c.toNat

end Conch.Text
