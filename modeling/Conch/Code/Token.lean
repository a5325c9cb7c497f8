import Conch.Code.Fault
import Conch.Text.Letter

/-!
# Tokens of a program text

A text is read as words, numbers, string literals and marks, with line ends and changes of
indentation as tokens of their own. Reading goes on to the first fault, which is the last token
then. Every token says whether reading it met the end of the text: a text that fails only there may
still be continued.
-/

namespace Conch.Code

inductive Token.Kind where
  | word
  | number
  | literal
  | mark
  | newline
  | indent
  | dedent
  /-- The end of the text, inside so many open blocks. -/
  | finish (openBlocks : Nat)
  | fault (cause : Cause)
  deriving DecidableEq, Repr

structure Token where
  kind : Token.Kind
  text : String
  line : Nat
  /-- Characters before the token on its line. -/
  col : Nat
  /-- Characters of the text up to the end of the token. -/
  stop : Nat
  /-- Reading this token met the end of the text. -/
  atEnd : Bool
  deriving Repr

namespace Scan

/-- Line ends become line feeds. -/
def unifyLines : List Char → List Char
  | '\r' :: '\n' :: rest => '\n' :: unifyLines rest
  | '\r' :: rest => '\n' :: unifyLines rest
  | c :: rest => c :: unifyLines rest
  | [] => []

/-- Where one is after reading a text: a line and the characters before it on that line. -/
def advance (line col : Nat) : List Char → Nat × Nat
  | [] => (line, col)
  | '\n' :: rest => advance (line + 1) 0 rest
  | _ :: rest => advance line (col + 1) rest

def startsWord (c : Char) : Bool := c.isAlpha || c == '_' || c.toNat ≥ 0x80

def continuesWord (c : Char) : Bool := c.isAlphanum || c == '_' || c.toNat ≥ 0x80

/-- The letters that may stand in front of a quote. -/
def literalMarks : List (List Char) :=
  [[], ['b'], ['u'], ['r'], ['f'], ['b', 'r'], ['r', 'b'], ['f', 'r'], ['r', 'f']]

/-- The first character that keeps a word from being an identifier. -/
def badLetter? : List Char → Option Char
  | [] => none
  | c :: rest =>
    if Text.isIdentStart c then rest.find? fun d => !Text.isIdentRest d else some c

/-- Reads the rest of a string literal, up to and with its closing quote. -/
def literalBody (quote : Char) (long : Bool) : List Char → Option (List Char × List Char)
  | [] => none
  | '\\' :: c :: rest =>
    (literalBody quote long rest).map fun (body, tail) => ('\\' :: c :: body, tail)
  | ['\\'] => none
  | c :: rest =>
    if c == '\n' && !long then none
    else if c == quote then
      if !long then some ([c], rest)
      else match rest with
        | a :: b :: tail =>
          if a == quote && b == quote then some ([c, a, b], tail)
          else (literalBody quote long rest).map fun (body, tail) => (c :: body, tail)
        | _ => (literalBody quote long rest).map fun (body, tail) => (c :: body, tail)
    else (literalBody quote long rest).map fun (body, tail) => (c :: body, tail)

/-- How far an unclosed literal goes: the text up to the line feed that ends a short one. -/
def unclosedBody (long : Bool) : List Char → List Char
  | [] => []
  | '\\' :: c :: rest => '\\' :: c :: unclosedBody long rest
  | c :: rest => if c == '\n' && !long then [] else c :: unclosedBody long rest

/-- Decimal digits with single underscores between them, after a first digit; `none` when an
underscore has no digit behind it. -/
def decimalTail : List Char → Option (List Char × List Char)
  | [] => some ([], [])
  | c :: rest =>
    if c.isDigit then (decimalTail rest).map fun (ds, tail) => (c :: ds, tail)
    else if c == '_' then
      match rest with
      | d :: _ =>
        if d.isDigit then (decimalTail rest).map fun (ds, tail) => (c :: ds, tail) else none
      | [] => none
    else some ([], c :: rest)

/-- Digits of another base with underscores in front of digits. -/
def radixTail (digit : Char → Bool) (mayBreak mayEnd : Bool) :
    List Char → Option (List Char × List Char)
  | [] => if mayEnd then some ([], []) else none
  | c :: rest =>
    if digit c then (radixTail digit true true rest).map fun (ds, tail) => (c :: ds, tail)
    else if c == '_' && mayBreak then
      (radixTail digit false false rest).map fun (ds, tail) => (c :: ds, tail)
    else if mayEnd then some ([], c :: rest) else none

/-- Words that may follow a number with no blank between. -/
def followers : List (List Char) :=
  ["and", "else", "for", "if", "in", "is", "or", "not"].map String.toList

/-- A number must not run into a word, except for the operators that may follow one. -/
def endsNumber (rest : List Char) : Bool :=
  match rest with
  | c :: _ => !continuesWord c || followers.any fun w => w.isPrefixOf rest
  | [] => true

abbrev NumberResult := Except Cause (List Char × List Char)

def badDecimal : Cause := .badNumber "invalid decimal literal"

def closeNumber (what : String) (read rest : List Char) : NumberResult :=
  if endsNumber rest then .ok (read, rest)
  else .error (.badNumber ("invalid " ++ what ++ " literal"))

def imaginaryPart (read rest : List Char) : NumberResult :=
  match rest with
  | c :: tail =>
    if c == 'j' || c == 'J' then closeNumber "imaginary" (read ++ [c]) tail
    else closeNumber "decimal" read rest
  | [] => closeNumber "decimal" read rest

def exponentPart (read rest : List Char) : NumberResult :=
  match rest with
  | e :: tail =>
    if e == 'e' || e == 'E' then
      let (sign, digits) : List Char × List Char := match tail with
        | '+' :: t => (['+'], t)
        | '-' :: t => (['-'], t)
        | t => ([], t)
      match digits with
      | d :: more =>
        if d.isDigit then
          match decimalTail more with
          | some (ds, after) => imaginaryPart (read ++ e :: sign ++ d :: ds) after
          | none => .error badDecimal
        else if sign.isEmpty then closeNumber "decimal" read rest
        else .error badDecimal
      | [] => if sign.isEmpty then closeNumber "decimal" read rest else .error badDecimal
    else imaginaryPart read rest
  | [] => imaginaryPart read rest

/-- What follows the point of a number. -/
def fractionPart (read rest : List Char) : NumberResult :=
  match rest with
  | d :: tail =>
    if d.isDigit then
      match decimalTail tail with
      | some (ds, after) => exponentPart (read ++ d :: ds) after
      | none => .error badDecimal
    else exponentPart read rest
  | [] => exponentPart read rest

def pointPart (read rest : List Char) : NumberResult :=
  match rest with
  | '.' :: tail => fractionPart (read ++ ['.']) tail
  | _ => exponentPart read rest

def isHexDigit (c : Char) : Bool :=
  c.isDigit || ('a' ≤ c && c ≤ 'f') || ('A' ≤ c && c ≤ 'F')

def isOctalDigit (c : Char) : Bool := '0' ≤ c && c ≤ '7'

def isBinaryDigit (c : Char) : Bool := c == '0' || c == '1'

def radixNumber (what : String) (digit : Char → Bool) (mark : Char) (rest : List Char) :
    NumberResult :=
  match radixTail digit true false rest with
  | none => .error (.badNumber ("invalid " ++ what ++ " literal"))
  | some (ds, after) =>
    match after with
    | c :: _ =>
      if c.isDigit then
        .error (.badNumber ("invalid digit '" ++ c.toString ++ "' in " ++ what ++ " literal"))
      else closeNumber what ('0' :: mark :: ds) after
    | [] => closeNumber what ('0' :: mark :: ds) after

/-- A plain integer may start with zeros only when it is zero. -/
def hasLeadingZeros (digits : List Char) : Bool :=
  digits.head? == some '0' && digits.any fun c => c.isDigit && c != '0'

def number : List Char → NumberResult
  | '.' :: rest => fractionPart ['.'] rest
  | '0' :: c :: rest =>
    if c == 'x' || c == 'X' then radixNumber "hexadecimal" isHexDigit c rest
    else if c == 'o' || c == 'O' then radixNumber "octal" isOctalDigit c rest
    else if c == 'b' || c == 'B' then radixNumber "binary" isBinaryDigit c rest
    else match decimalTail (c :: rest) with
      | none => .error badDecimal
      | some (ds, after) =>
        let floating := match after with
          | d :: _ => d == '.' || d == 'e' || d == 'E' || d == 'j' || d == 'J'
          | [] => false
        if floating then pointPart ('0' :: ds) after
        else if hasLeadingZeros ('0' :: ds) then
          .error (.badNumber ("leading zeros in decimal integer literals are not permitted; " ++
            "use an 0o prefix for octal integers"))
        else closeNumber "decimal" ('0' :: ds) after
  | d :: rest =>
    match decimalTail rest with
    | none => .error badDecimal
    | some (ds, after) => pointPart (d :: ds) after
  | [] => .error badDecimal

/-- Marks of three and two characters, longest first. -/
def longMarks : List (List Char) :=
  ["**=", "//=", "<<=", ">>=", "...", "!=", "%=", "&=", "**", "*=", "+=", "-=", "->", "//", "/=",
    ":=", "<<", "<=", "<>", "==", ">=", ">>", "@=", "^=", "|="].map String.toList

def markText (rest : List Char) : List Char :=
  (longMarks.find? fun m => m.isPrefixOf rest).getD (rest.take 1)

/-- What stands at the front of a text that starts with no blank: its kind and its characters. -/
def lexeme (line : Nat) (rest : List Char) : Token.Kind × List Char :=
  match rest with
  | [] => (.finish 0, [])
  | c :: tail =>
    let word := rest.takeWhile continuesWord
    let after := rest.dropWhile continuesWord
    let opensLiteral := match after with
      | q :: _ => (q == '\'' || q == '"') && literalMarks.contains (word.map Char.toLower)
      | [] => false
    if opensLiteral then
      match after with
      | q :: q₂ :: q₃ :: body =>
        if q₂ == q && q₃ == q then
          match literalBody q true body with
          | some (text, _) => (.literal, word ++ q :: q₂ :: q₃ :: text)
          | none =>
            let all := word ++ q :: q₂ :: q₃ :: body
            (.fault (.unterminatedLong (advance line 0 all.dropLast).1), all)
        else
          match literalBody q false (q₂ :: q₃ :: body) with
          | some (text, _) => (.literal, word ++ q :: text)
          | none =>
            let text := unclosedBody false (q₂ :: q₃ :: body)
            (.fault (.unterminated (advance line 0 text).1), word ++ q :: text)
      | q :: body =>
        match literalBody q false body with
        | some (text, _) => (.literal, word ++ q :: text)
        | none =>
          let text := unclosedBody false body
          (.fault (.unterminated (advance line 0 text).1), word ++ q :: text)
      | [] => (.mark, word)
    else if startsWord c then
      match badLetter? word with
      | none => (.word, word)
      | some bad =>
        let upTo := word.takeWhile (· != bad) ++ [bad]
        if Text.isPrintable bad then (.fault (.badCharacter bad), upTo)
        else (.fault (.hiddenCharacter bad), upTo)
    else if c.isDigit || (c == '.' && tail.head?.any Char.isDigit) then
      match number rest with
      | .ok (text, _) => (.number, text)
      | .error cause => (.fault cause, [c])
    else
      let text := markText rest
      if text.length == 1 && !Text.isPrintable c then (.fault (.hiddenCharacter c), [c])
      else (.mark, text)

structure State where
  rest : List Char
  line : Nat
  col : Nat
  offset : Nat
  /-- At the start of a line, whose indentation counts. -/
  fresh : Bool
  /-- Widths of the open blocks, innermost first: with tabs to eight columns and to one. -/
  indents : List (Nat × Nat)
  /-- Open brackets with their places, innermost first. -/
  brackets : List (Char × Nat × Nat)

def State.skip (s : State) (text : List Char) : State :=
  let (line, col) := advance s.line s.col text
  { s with
    rest := s.rest.drop text.length, line := line, col := col, offset := s.offset + text.length }

def State.token (s : State) (kind : Token.Kind) (text : List Char) (atEnd : Bool) : Token :=
  ⟨kind, String.ofList text, s.line, s.col, s.offset + text.length, atEnd⟩

/-- The indentation at the front of a line. -/
structure Margin where
  width : Nat
  altWidth : Nat
  /-- The width at the first line continuation, which then counts. -/
  fixed : Nat
  text : List Char

def Margin.push (c : Char) (m : Margin) : Margin := { m with text := c :: m.text }

inductive MarginResult where
  | ok (m : Margin)
  | fault (cause : Cause) (atEnd : Bool)

def margin (width alt fixed : Nat) (read : List Char) : List Char → MarginResult
  | ' ' :: rest => margin (width + 1) (alt + 1) fixed (' ' :: read) rest
  | '\t' :: rest => margin ((width / 8 + 1) * 8) (alt + 1) fixed ('\t' :: read) rest
  | '\x0c' :: rest => margin 0 0 fixed ('\x0c' :: read) rest
  | '\\' :: '\n' :: rest =>
    if rest.isEmpty then .fault .endOfInput true
    else margin width alt (if fixed == 0 then width else fixed) ('\n' :: '\\' :: read) rest
  | '\\' :: _ => .fault .strayContinuation false
  | _ => .ok ⟨width, alt, fixed, read.reverse⟩

inductive Step where
  | go (tokens : List Token) (next : State)
  | halt (tokens : List Token)

def maxIndents : Nat := 100

def maxBrackets : Nat := 200

def isInnerBlank (c : Char) : Bool := c == ' ' || c == '\t' || c == '\x0c'

/-- The end of the text: a fault inside brackets. -/
def State.finish (s : State) : Step :=
  match s.brackets with
  | (b, line, col) :: _ => .halt [⟨.fault (.neverClosed b), "", line, col, s.offset, true⟩]
  | [] => .halt [s.token (.finish s.indents.length) [] true]

/-- Takes the open blocks that are wider than a line's indentation off the stack. -/
def closeBlocks (width : Nat) : List (Nat × Nat) → Nat × List (Nat × Nat)
  | [] => (0, [])
  | (w, a) :: outer =>
    if width < w then
      let (n, left) := closeBlocks width outer
      (n + 1, left)
    else (0, (w, a) :: outer)

def State.indent (s : State) (width alt : Nat) : Step :=
  let atEnd := s.rest.isEmpty
  let fail (cause : Cause) : Step := .halt [s.token (.fault cause) [] atEnd]
  let (top, topAlt) := s.indents.headD (0, 0)
  let inside := { s with fresh := false }
  if width == top then
    if alt == topAlt then .go [] inside else fail .tabMismatch
  else if width > top then
    if s.indents.length + 1 ≥ maxIndents then fail .tooManyIndents
    else if alt ≤ topAlt then fail .tabMismatch
    else .go [s.token .indent [] atEnd] { inside with indents := (width, alt) :: s.indents }
  else
    let (closed, left) := closeBlocks width s.indents
    let (newTop, newAlt) := left.headD (0, 0)
    if width != newTop then fail .dedentMismatch
    else if alt != newAlt then fail .tabMismatch
    else
      .go (List.replicate closed (s.token .dedent [] atEnd)) { inside with indents := left }

/-- Reads the indentation of a line; a line of blanks or a comment alone has none. -/
def State.startLine (s : State) : Step :=
  match margin 0 0 0 [] s.rest with
  | .fault cause atEnd => .halt [s.token (.fault cause) [] atEnd]
  | .ok m =>
    let s' := s.skip m.text
    match s'.rest with
    | '\n' :: _ => .go [] { s'.skip ['\n'] with fresh := true }
    | '#' :: _ =>
      let comment := s'.rest.takeWhile (· != '\n')
      let after := s'.skip comment
      match after.rest with
      | [] => after.finish
      | _ => .go [] { after.skip ['\n'] with fresh := true }
    | _ =>
      if m.fixed == 0 then s'.indent m.width m.altWidth else s'.indent m.fixed m.fixed

def closes (opening closing : Char) : Bool :=
  (opening == '(' && closing == ')') || (opening == '[' && closing == ']') ||
    (opening == '{' && closing == '}')

/-- Keeps account of the open brackets. -/
def State.bracket (s : State) (c : Char) : Except Cause (List (Char × Nat × Nat)) :=
  if c == '(' || c == '[' || c == '{' then
    if s.brackets.length ≥ maxBrackets then .error .tooManyBrackets
    else .ok ((c, s.line, s.col) :: s.brackets)
  else if c == ')' || c == ']' || c == '}' then
    match s.brackets with
    | [] => .error (.unmatched c)
    | (o, line, _) :: outer =>
      if closes o c then .ok outer
      else .error (.closedBy c o (if line == s.line then none else some line))
  else .ok s.brackets

def State.readToken (s : State) : Step :=
  let (kind, text) := lexeme s.line s.rest
  let after := s.rest.drop text.length
  match kind with
  | .mark =>
    match text with
    | [c] =>
      match s.bracket c with
      | .ok open' => .go [s.token .mark text after.isEmpty] { s.skip text with brackets := open' }
      | .error cause => .halt [s.token (.fault cause) text after.isEmpty]
    | _ => .go [s.token .mark text (text.length < 3 && after.isEmpty)] (s.skip text)
  | .fault cause =>
    let atEnd := match cause with
      | .unterminated _ | .unterminatedLong _ => after.isEmpty
      | _ => false
    .halt [s.token (.fault cause) text atEnd]
  | .literal => .go [s.token .literal text false] (s.skip text)
  | kind => .go [s.token kind text after.isEmpty] (s.skip text)

/-- Reads on inside a line: blanks and comments go, a line end inside brackets too. -/
def State.insideLine (s : State) : Step :=
  let s := s.skip (s.rest.takeWhile isInnerBlank)
  let s := match s.rest with
    | '#' :: _ => s.skip (s.rest.takeWhile (· != '\n'))
    | _ => s
  match s.rest with
  | [] => s.finish
  | '\n' :: _ =>
    if s.brackets.isEmpty then
      .go [{ s.token .newline [] false with stop := s.offset + 1 }]
        { s.skip ['\n'] with fresh := true }
    else .go [] (s.skip ['\n'])
  | '\\' :: '\n' :: more =>
    if more.isEmpty then .halt [s.token (.fault .endOfInput) [] true]
    else .go [] (s.skip ['\\', '\n'])
  | '\\' :: _ => .halt [s.token (.fault .strayContinuation) ['\\'] false]
  | _ => s.readToken

def State.step (s : State) : Step := if s.fresh then s.startLine else s.insideLine

def run : Nat → State → List Token
  | 0, _ => []
  | fuel + 1, s =>
    match s.step with
    | .halt tokens => tokens
    | .go tokens next => tokens ++ run fuel next

/-- A token is read for each one or two steps, and each step but a change of indentation reads at
least one character. -/
def tokens (text : List Char) : List Token :=
  run (2 * text.length + 4) ⟨text, 1, 0, 0, true, [], []⟩

/-- At a prompt the end of the text ends its last line, and then, if `implied`, the blocks that are
still open. -/
def endPrompt (implied : Bool) (ts : List Token) : List Token :=
  match ts.reverse with
  | last :: before =>
    match last.kind with
    | .finish n =>
      if before.isEmpty then ts
      else
        let newline := { last with kind := .newline }
        let closing := if implied && n > 0 then
          List.replicate n { last with kind := .dedent } ++ [newline] else []
        before.reverse ++ newline :: closing ++ [last]
    | _ => ts
  | [] => ts

end Scan

end Conch.Code
