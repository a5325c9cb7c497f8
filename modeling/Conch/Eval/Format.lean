import Conch.Eval.Number
import Conch.Text.Search

/-!
# Formats

A format says how a text or a number is laid out: alignment, sign, width, grouping, precision and
the kind of digits.
-/

namespace Conch.Eval.Format

open Decimal

structure Spec where
  fill : Char
  align : Option Char
  sign : Char
  alternate : Bool
  width : Nat
  grouping : Option Char
  precision : Option Nat
  kind : Option Char

def isAlign (c : Char) : Bool := c == '<' || c == '>' || c == '=' || c == '^'

def readNumber (cs : List Char) : Option Nat × List Char :=
  match cs.takeWhile Char.isDigit with
  | [] => (none, cs)
  | ds =>
    (some (ds.foldl (fun (n : Nat) (d : Char) => n * 10 + (d.toNat - 48)) 0), cs.drop ds.length)

/-- Reads `[[fill]align][sign][#][0][width][grouping][.precision][kind]`. -/
def Spec.read? (cs : List Char) : Option Spec :=
  let (fill, align, cs) : Option Char × Option Char × List Char := match cs with
    | f :: a :: rest =>
      if isAlign a then (some f, some a, rest)
      else if isAlign f then (none, some f, a :: rest)
      else (none, none, cs)
    | [a] => if isAlign a then (none, some a, []) else (none, none, cs)
    | [] => (none, none, [])
  let (sign, cs) : Char × List Char := match cs with
    | c :: rest => if c == '+' || c == '-' || c == ' ' then (c, rest) else ('-', cs)
    | [] => ('-', cs)
  let cs := match cs with
    | 'z' :: rest => rest
    | _ => cs
  let (alternate, cs) : Bool × List Char := match cs with
    | '#' :: rest => (true, rest)
    | _ => (false, cs)
  let (zero, cs) : Bool × List Char := match cs with
    | '0' :: rest => (fill.isNone, rest)
    | _ => (false, cs)
  let (width, cs) := readNumber cs
  let (grouping, cs) : Option Char × List Char := match cs with
    | c :: rest => if c == ',' || c == '_' then (some c, rest) else (none, cs)
    | [] => (none, cs)
  let (precision, cs, fine) : Option Nat × List Char × Bool := match cs with
    | '.' :: rest => match readNumber rest with
      | (some n, rest) => (some n, rest, true)
      | (none, rest) => (none, rest, false)
    | _ => (none, cs, true)
  let spec (kind : Option Char) : Option Spec :=
    if fine then
      some ⟨fill.getD (if zero then '0' else ' '),
        if zero then align.or (some '=') else align, sign,
        alternate, width.getD 0, grouping, precision, kind⟩
    else none
  match cs with
  | [] => spec none
  | [c] => spec (some c)
  | _ => none

/-- Lays out a text of a given sign part and body. -/
def Spec.layOut (s : Spec) (default : Char) (front body : List Char) : String :=
  let gap := s.width - (front.length + body.length)
  let pad (n : Nat) : List Char := List.replicate n s.fill
  let align := s.align.getD default
  String.ofList <|
    if align == '<' then front ++ body ++ pad gap
    else if align == '=' then front ++ pad gap ++ body
    else if align == '^' then pad (gap / 2) ++ front ++ body ++ pad (gap - gap / 2)
    else pad gap ++ front ++ body

/-- Puts a mark between groups of digits, counted from the right. -/
def group (size : Nat) (mark : Char) (ds : List Char) : List Char := (go 0 ds.reverse).reverse
where
  go (k : Nat) : List Char → List Char
    | [] => []
    | d :: rest => if k == size then mark :: d :: go 1 rest else d :: go (k + 1) rest

def signPart (s : Spec) (negative : Bool) : List Char :=
  if negative then ['-'] else if s.sign == '-' then [] else [s.sign]

inductive Misfit where
  | unknownCode (code : Char)
  | noPrecision
  | noSign
  | noAlign
  | noAlternate
  | groupingWith (mark code : Char)
  | notChar
  deriving DecidableEq, Repr

def Misfit.message (type : String) : Misfit → String
  | unknownCode code =>
    "Unknown format code '" ++ code.toString ++ "' for object of type '" ++ type ++ "'"
  | noPrecision => "Precision not allowed in integer format specifier"
  | noSign => "Sign not allowed in string format specifier"
  | noAlign => "'=' alignment not allowed in string format specifier"
  | noAlternate => "Alternate form (#) not allowed in string format specifier"
  | groupingWith mark code =>
    "Cannot specify '" ++ mark.toString ++ "' with '" ++ code.toString ++ "'."
  | notChar => "%c arg not in range(0x110000)"

def text (s : Spec) (value : List Char) : Except Misfit String :=
  match s.kind with
  | none | some 's' =>
    if s.sign != '-' then .error .noSign
    else if s.alternate then .error .noAlternate
    else match s.grouping with
      | some mark => .error (.groupingWith mark 's')
      | none =>
        if s.align == some '=' && s.fill != '0' then .error .noAlign
        else
          let spec := if s.align == some '=' then { s with align := some '<' } else s
          .ok (spec.layOut '<' [] (match s.precision with
            | some p => value.take p
            | none => value))
  | some code => .error (.unknownCode code)

/-- A float in one of its kinds, without its sign. -/
def floatBody (s : Spec) (x : Float) : Option (List Char) :=
  let kind := s.kind.getD 'r'
  let upper := kind == 'E' || kind == 'F' || kind == 'G'
  let raise (t : String) : List Char := if upper then t.toList.map Char.toUpper else t.toList
  match shape x with
  | .undefined => some (raise "nan" ++ (if kind == '%' then ['%'] else []))
  | .infinite _ => some (raise "inf" ++ (if kind == '%' then ['%'] else []))
  | .finite b =>
    if kind == 'e' || kind == 'E' then some (raise (scientificText b (s.precision.getD 6)))
    else if kind == 'f' || kind == 'F' then some (raise (fixedText b (s.precision.getD 6)))
    else if kind == 'g' || kind == 'G' || kind == 'n' then
      some (raise (generalText b (s.precision.getD 6) s.alternate))
    else if kind == '%' then
      match shape (x * 100.0) with
      | .finite c => some ((fixedText c (s.precision.getD 6)).toList ++ ['%'])
      | _ => some "inf%".toList
    else if kind == 'r' then
      match s.precision with
      | none => some (Decimal.text true (shortest b)).toList
      | some p =>
        let t := generalText b p false
        some (if t.toList.any fun c => c == '.' || c == 'e' then t.toList
          else t.toList ++ ".0".toList)
    else none

/-- Groups the digits in front of a fraction or exponent. -/
def groupWhole (s : Spec) (body : List Char) : List Char :=
  match s.grouping with
  | none => body
  | some mark =>
    let whole := body.takeWhile Char.isDigit
    group 3 mark whole ++ body.drop whole.length

def isNegative (x : Float) : Bool :=
  match shape x with
  | .finite b => b.negative
  | .infinite negative => negative
  | .undefined => false

def float (s : Spec) (x : Float) : Except Misfit String :=
  match floatBody s x with
  | some body => .ok (s.layOut '>' (signPart s (isNegative x)) (groupWhole s body))
  | none => .error (.unknownCode (s.kind.getD 'r'))

def int (s : Spec) (n : Int) : Except Misfit String :=
  let kind := s.kind.getD 'd'
  let digits (base : Nat) (mark : List Char) (raise : Bool) : Except Misfit String :=
    if s.precision.isSome then .error .noPrecision
    else
      let ds := (Number.inBase base n.natAbs).toList
      let ds := if raise then ds.map Char.toUpper else ds
      let ds := match s.grouping with
        | some mark => group (if base == 10 then 3 else 4) mark ds
        | none => ds
      .ok (s.layOut '>' (signPart s (n < 0) ++ if s.alternate then mark else []) ds)
  if kind == 'd' || kind == 'n' then digits 10 [] false
  else if kind == 'b' then digits 2 ['0', 'b'] false
  else if kind == 'o' then digits 8 ['0', 'o'] false
  else if kind == 'x' then digits 16 ['0', 'x'] false
  else if kind == 'X' then digits 16 ['0', 'X'] true
  else if kind == 'c' then
    if n < 0 || n > 0x10FFFF then .error .notChar
    else .ok (s.layOut '<' [] [Char.ofNat n.toNat])
  else
    let x := (Number.ofInt? n).getD (1.0 / 0.0)
    match floatBody { s with kind := some kind } x with
    | some body =>
      if kind == 'r' then .error (.unknownCode kind)
      else .ok (s.layOut '>' (signPart s (n < 0)) (groupWhole s body))
    | none => .error (.unknownCode kind)

/-- A directive of a text with `%` directives in it. -/
structure Directive where
  key : Option String
  flags : List Char
  /-- `none` takes the width from the arguments. -/
  width : Option Nat
  precision : Option (Option Nat)
  code : Char
  /-- Where the code stands. -/
  index : Nat

inductive Piece where
  | literal (text : List Char)
  | directive (d : Directive)

inductive BadTemplate where
  | incomplete
  | incompleteKey
  deriving DecidableEq, Repr

def isFlag (c : Char) : Bool := c == '-' || c == '+' || c == ' ' || c == '#' || c == '0'

/-- The characters of a key up to its closing parenthesis, with how many were read. -/
def readKey (depth read : Nat) (key : List Char) : List Char → Option (List Char × Nat)
  | [] => none
  | c :: rest =>
    if c == ')' then
      match depth with
      | 0 => some (key.reverse, read + 1)
      | d + 1 => readKey d (read + 1) (c :: key) rest
    else readKey (if c == '(' then depth + 1 else depth) (read + 1) (c :: key) rest

/-- A directive behind its `%`, and how many characters it takes. -/
def readDirective (position : Nat) (cs : List Char) : Except BadTemplate (Directive × Nat) := do
  let (key, used) ← match cs with
    | '(' :: rest => match readKey 0 0 [] rest with
      | some (k, n) => .ok (some (String.ofList k), n + 1)
      | none => .error .incompleteKey
    | _ => .ok ((none : Option String), 0)
  let cs := cs.drop used
  let flags := cs.takeWhile isFlag
  let cs := cs.drop flags.length
  let used := used + flags.length
  let (width, taken) : Option Nat × Nat := match cs with
    | '*' :: _ => (none, 1)
    | _ => (some ((readNumber cs).1.getD 0), (cs.takeWhile Char.isDigit).length)
  let cs := cs.drop taken
  let used := used + taken
  let (precision, taken) : Option (Option Nat) × Nat := match cs with
    | '.' :: '*' :: _ => (some none, 2)
    | '.' :: rest =>
      (some (some ((readNumber rest).1.getD 0)), 1 + (rest.takeWhile Char.isDigit).length)
    | _ => (none, 0)
  let cs := cs.drop taken
  let used := used + taken
  let taken := match cs with
    | c :: _ => if c == 'l' || c == 'h' || c == 'L' then 1 else 0
    | [] => 0
  match cs.drop taken with
  | [] => .error .incomplete
  | code :: _ =>
    .ok (⟨key, flags, width, precision, code, position + used + taken⟩, used + taken + 1)

/-- Cuts a text into literal parts and directives. -/
def pieces (position skip : Nat) (literal : List Char) : List Char → List (Except BadTemplate Piece)
  | [] => [.ok (.literal literal.reverse)]
  | c :: rest =>
    match skip with
    | k + 1 => pieces (position + 1) k literal rest
    | 0 =>
      if c == '%' then
        match readDirective (position + 1) rest with
        | .ok (d, used) =>
          .ok (.literal literal.reverse) :: .ok (.directive d) ::
            pieces (position + 1) used [] rest
        | .error e => [.ok (.literal literal.reverse), .error e]
      else pieces (position + 1) 0 (c :: literal) rest

/-- A replacement field of a text with fields in braces. -/
structure Field where
  name : List Char
  conversion : Option Char
  format : List Char

inductive FieldPiece where
  | literal (text : List Char)
  | field (f : Field)

inductive BadField where
  | single (brace : Char)
  | unclosed
  | badConversion
  deriving DecidableEq, Repr

def BadField.message : BadField → String
  | single brace => "Single '" ++ brace.toString ++ "' encountered in format string"
  | unclosed => "expected '\x7d' before end of string"
  | badConversion => "expected ':' after conversion specifier"

def openBrace : Char := '\x7b'

def closeBrace : Char := '\x7d'

/-- What stands in front of the brace that closes a field. -/
def readField (depth : Nat) (inside : List Char) : List Char → Option (List Char)
  | [] => none
  | c :: rest =>
    if c == closeBrace then
      match depth with
      | 0 => some inside.reverse
      | d + 1 => readField d (c :: inside) rest
    else readField (if c == openBrace then depth + 1 else depth) (c :: inside) rest

def splitField (inside : List Char) : Except BadField Field :=
  let name := inside.takeWhile fun c => c != ':' && c != '!'
  match inside.drop name.length with
  | '!' :: c :: [] => .ok ⟨name, some c, []⟩
  | '!' :: c :: ':' :: format => .ok ⟨name, some c, format⟩
  | '!' :: _ => .error .badConversion
  | ':' :: format => .ok ⟨name, none, format⟩
  | _ => .ok ⟨name, none, []⟩

def fieldPieces (skip : Nat) (literal : List Char) : List Char → List (Except BadField FieldPiece)
  | [] => [.ok (.literal literal.reverse)]
  | c :: rest =>
    match skip with
    | k + 1 => fieldPieces k literal rest
    | 0 =>
      if c == openBrace then
        if rest.head? == some openBrace then fieldPieces 1 (c :: literal) rest
        else if rest.isEmpty then [.error (.single openBrace)]
        else match readField 0 [] rest with
          | none => [.ok (.literal literal.reverse), .error .unclosed]
          | some inside =>
            .ok (.literal literal.reverse) :: ((splitField inside).map FieldPiece.field) ::
              fieldPieces (inside.length + 1) [] rest
      else if c == closeBrace then
        if rest.head? == some closeBrace then fieldPieces 1 (c :: literal) rest
        else [.error (.single closeBrace)]
      else fieldPieces 0 (c :: literal) rest

end Conch.Eval.Format
