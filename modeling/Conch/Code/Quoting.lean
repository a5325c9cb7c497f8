import Conch.Code.Tree
import Conch.Decimal.Shortest
import Conch.Text.Quoted

/-!
# Writing literals

How constants are written in a program text. Texts inside replacement fields must do without
backslashes, so there the quotes are chosen to fit the text; elsewhere a text is quoted plainly.
-/

namespace Conch.Code.Quoting

open Text

def singleQuotes : List (List Char) := [['\''], ['"']]

def longQuotes : List (List Char) := [['"', '"', '"'], ['\'', '\'', '\'']]

def allQuotes : List (List Char) := singleQuotes ++ longQuotes

/-- Whether one text occurs in another. -/
def occurs (part : List Char) : List Char → Bool
  | [] => part.isEmpty
  | c :: rest => part.isPrefixOf (c :: rest) || occurs part rest

/-- Escapes what has to be escaped whatever the quotes are. -/
def escapeChar (escapeLines : Bool) (c : Char) : List Char :=
  if !escapeLines && (c == '\n' || c == '\t') then [c]
  else if c == '\\' then ['\\', '\\']
  else if isPrintable c then [c]
  else if c == '\n' then ['\\', 'n']
  else if c == '\t' then ['\\', 't']
  else if c == '\r' then ['\\', 'r']
  else codeEscape c.toNat

/-- A text with as few escapes as possible, and the quotes that fit it, best first. -/
def fit (quotes : List (List Char)) (escapeLines : Bool) (s : List Char) :
    List Char × List (List Char) :=
  let escaped := s.flatMap (escapeChar escapeLines)
  let possible := if escaped.contains '\n' then quotes.filter longQuotes.contains else quotes
  let possible := possible.filter fun q => !occurs q escaped
  if possible.isEmpty then
    let plain := quotedChars s
    let quote := plain.headD '\''
    let chosen := (quotes.find? fun q => q.contains quote).getD [quote]
    ((plain.drop 1).dropLast, [chosen])
  else match escaped.getLast? with
    | none => (escaped, possible)
    | some last =>
      let sorted := (possible.filter fun q => q.head? != some last) ++
        (possible.filter fun q => q.head? == some last)
      if (sorted.headD []).head? == some last then
        (escaped.dropLast ++ ['\\', last], sorted)
      else (escaped, sorted)

/-- A text in the first quotes that fit it. -/
def fitted (quotes : List (List Char)) (s : List Char) : List Char :=
  let (body, fitting) := fit quotes false s
  let quote := fitting.headD ['\'']
  quote ++ body ++ quote

/-- Fits the parts of a template into common quotes: the written parts and the quotes that are left,
or nothing when no quotes fit all parts. A part comes with a mark that says whether it is plain
text. -/
def fitParts : List (List Char) → List (List Char × Bool) →
    Option (List (List Char) × List (List Char))
  | quotes, [] => some ([], quotes)
  | quotes, (part, isText) :: rest =>
    let (body, left) := fit quotes isText part
    if left.any quotes.contains then
      (fitParts left rest).map fun (bodies, last) => (body :: bodies, last)
    else none

/-- A part written for long single quotes. -/
def plainPart (part : List Char) : List Char :=
  ((quotedChars ('"' :: part)).drop 2).dropLast

/-- The body of a template in quotes, from its parts. -/
def template (parts : List (List Char × Bool)) : List Char :=
  match fitParts allQuotes parts with
  | some (bodies, quotes) =>
    let quote := quotes.headD ['\'']
    quote ++ bodies.flatten ++ quote
  | none =>
    let quote := ['\'', '\'', '\'']
    quote ++ (parts.map fun p => plainPart p.1).flatten ++ quote

def bytesText (value : List UInt8) : List Char :=
  let cs := value.map fun b => Char.ofNat b.toNat
  let quote := chooseQuote cs
  let one (c : Char) : List Char := if c.toNat < 0x80 then quoteChar quote c else codeEscape c.toNat
  'b' :: quote :: (cs.flatMap one ++ [quote])

/-- An infinite literal is written as one that is too large. -/
def floatText (point : Bool) (x : Float) : String :=
  match Decimal.shape x with
  | .infinite _ => "1e309"
  | .undefined => "(1e309-1e309)"
  | .finite _ => Decimal.render point x

/-- A constant; `avoid` when it must do without backslashes. -/
def constant (avoid : Bool) : Constant → String
  | .none => "None"
  | .bool true => "True"
  | .bool false => "False"
  | .ellipsis => "..."
  | .int n => toString n
  | .float x => floatText true x
  | .imaginary x => floatText false x ++ "j"
  | .text s marked =>
    (if marked then "u" else "") ++
      if avoid then String.ofList (fitted allQuotes s.toList) else quoted s
  | .bytes b => String.ofList (bytesText b)

end Conch.Code.Quoting
