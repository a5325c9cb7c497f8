import Conch.Screen.Highlight.State

/-!
# Colouring strings

The inside of a string: its escapes, the places where values are put in, and its end.
-/

namespace Conch.Screen

open Text Text.Pattern

namespace Quotation

def char : Quotation → Char
  | single => '\''
  | double => '"'

def kind : Quotation → Kind
  | single => .single
  | double => .double

/-- The quotation marks that open and close a string. -/
def mark (q : Quotation) (triple : Bool) : Pattern :=
  times (Pattern.char q.char) (if triple then 3 else 1)

end Quotation

/-- A place for a value behind a percent sign. -/
def percentField : Pattern :=
  all [char '%', maybe (all [char '(', oneOrMore wordChar, char ')']), many (oneOf "-#0 +"),
    maybe (choice (oneOrMore asciiDigit) (char '*')),
    maybe (sequence (char '.') (choice (oneOrMore asciiDigit) (char '*'))), maybe (oneOf "hlL"),
    oneOf "EFGXcdefgiorsaux%"]
where
  asciiDigit : Pattern := one Char.isDigit

/-- A place for a value in braces. -/
def braceField : Pattern :=
  all [char '{',
    maybe (sequence (oneOrMore wordChar) (many (choice
      (sequence (char '.') (oneOrMore wordChar))
      (all [char '[', oneOrMore (one (· != ']')), char ']'])))),
    maybe (sequence (char '!') (oneOf "sra")),
    maybe (all [char ':', maybe (sequence (maybe notNewline) (oneOf "<>=^")), maybe (oneOf "-+ "),
      maybe (char '#'), maybe (char '0'), maybe (oneOrMore digit), maybe (char ','),
      maybe (sequence (char '.') (oneOrMore digit)), maybe (oneOf "EFGXbcdefgnosx%")]),
    char '}']

/-- What a plain string is made of. -/
def plainInside (kind : Kind) : List (Rule State) :=
  [.plain percentField .interpolation, .plain braceField .interpolation,
    .plain (oneOrMore (one fun c => !(['\\', '\'', '"', '%', '{', '\n'].contains c))) kind,
    .plain (oneOf "'\"\\") kind,
    .plain (choice (char '%') (sequence (char '{') (maybe (char '{')))) kind]

/-- What a string with expressions in braces is made of. -/
def templateInside (kind : Kind) : List (Rule State) :=
  [.plain (char '}') .interpolation, .whole (char '{') .interpolation (.push .field),
    .plain (oneOrMore (one fun c => !(['\\', '\'', '"', '{', '}', '\n'].contains c))) kind,
    .plain (oneOf "'\"\\") kind]

def hexDigit : Pattern :=
  one fun c => c.isDigit || ('a' ≤ c && c ≤ 'f') || ('A' ≤ c && c ≤ 'F')

def octalDigit : Pattern := oneOf "01234567"

def bytesEscape : Rule State :=
  .plain (sequence (char '\\') (first [oneOf "\\abfnrtv\"'", char '\n',
    sequence (char 'x') (times hexDigit 2),
    sequence octalDigit (upTo octalDigit 2)])) .escape

def textEscape : Rule State :=
  .plain (sequence (char '\\') (first
    [all [char 'N', char '{', few notNewline, char '}'],
      sequence (char 'u') (times hexDigit 4), sequence (char 'U') (times hexDigit 8)])) .escape

def braceEscapes : List (Rule State) :=
  [.plain (times (char '{') 2) .escape, .plain (times (char '}') 2) .escape]

def Escapes.rules : Escapes → List (Rule State)
  | none => []
  | bytes => [bytesEscape]
  | text => [textEscape, bytesEscape]
  | braces => braceEscapes
  | bracesAndText => braceEscapes ++ [textEscape, bytesEscape]

/-- A backslash with what it protects in a string of one line. -/
def lineEscape (q : Quotation) : Rule State :=
  .plain (sequence (char '\\') (first [char '\\', char q.char, char '\n'])) .escape

def StringState.rules (s : StringState) : List (Rule State) :=
  let kind := s.quotation.kind
  let inside := if s.template then templateInside kind else plainInside kind
  s.escapes.rules ++ [.whole (s.quotation.mark s.triple) kind .pop] ++
    (if s.triple then inside ++ [.plain (char '\n') kind] else lineEscape s.quotation :: inside)

/-- The four ways to quote a string, those with three marks first. -/
def quotations : List (Quotation × Bool) :=
  [(.double, true), (.single, true), (.double, false), (.single, false)]

/-- Rules for strings that start with one of some letters. -/
def stringStarts (letters : Pattern) (template : Bool) (escapes : Escapes) : List (Rule State) :=
  quotations.map fun (q, triple) =>
    .groups [(letters, .affix), (q.mark triple, q.kind)]
      (.push (.string ⟨q, triple, template, escapes⟩))

/-- Rules for the starts of all strings. -/
def allStringStarts : List (Rule State) :=
  stringStarts (choice (either "rf") (either "fr")) true .braces ++
    stringStarts (either "f") true .bracesAndText ++
    stringStarts (first [either "rb", either "br", either "r"]) false .none ++
    stringStarts (maybe (either "u")) false .text ++
    stringStarts (either "b") false .bytes

end Conch.Screen
