/-!
# Expansions

An expansion is a sigil with a parenthesised content: `$(…)` stands for what a command prints,
`!(…)` for the whole outcome of a command and `@(…)` for the value of an expression. Parentheses are
matched by counting, whatever stands between them. Expansions can be cut out of a text and a
placeholder put in the place of each.
-/

namespace Conch.Line

inductive Sigil where
  | output
  | outcome
  | value
  deriving DecidableEq, Repr

def Sigil.char : Sigil → Char
  | .output => '$'
  | .outcome => '!'
  | .value => '@'

def Sigil.ofChar? (c : Char) : Option Sigil :=
  if c = '$' then some .output
  else if c = '!' then some .outcome
  else if c = '@' then some .value
  else none

/-- An expansion and the half-open span of positions that it takes in its text. -/
structure Expansion where
  sigil : Sigil
  content : List Char
  start : Nat
  stop : Nat
  deriving DecidableEq, Repr

/-- How many characters stand in front of the parenthesis that closes one opened before the text,
when `depth` more are open. -/
def closing (depth : Nat) : List Char → Option Nat
  | [] => none
  | c :: rest =>
    if c = '(' then (closing (depth + 1) rest).map (· + 1)
    else if c = ')' then
      match depth with
      | 0 => some 0
      | d + 1 => (closing d rest).map (· + 1)
    else (closing depth rest).map (· + 1)

/-- The position of a character outside a text. -/
inductive OutOfRange where
  | position
  deriving DecidableEq, Repr

/-- The position of the parenthesis that closes the one at `start`, or `-1`. A negative position
counts from the end, and the search then runs on from the end into the start of the text. -/
def matchParen (text : List Char) (start : Int) : Except OutOfRange Int :=
  let size : Int := text.length
  if start ≥ size then .ok (-1)
  else
    let from_ := if start < 0 then size + start else start
    if from_ < 0 then .error .position
    else
      let behind := text.drop from_.toNat
      let searched := if start < 0 then behind.drop 1 ++ text else behind.drop 1
      if behind.head? = some '(' then
        match closing 0 searched with
        | some k => .ok (start + 1 + k)
        | none => .ok (-1)
      else .ok (-1)

/-- The sigil at the front of a text if a parenthesis follows it. -/
def opening? : List Char → Option Sigil
  | c :: '(' :: _ => Sigil.ofChar? c
  | _ => none

/-- Finds expansions from position `i` on, passing over the next `skip` characters. -/
def expansionsFrom (i skip : Nat) : List Char → List Expansion
  | [] => []
  | c :: rest =>
    match skip with
    | s + 1 => expansionsFrom (i + 1) s rest
    | 0 =>
      match opening? (c :: rest) with
      | none => expansionsFrom (i + 1) 0 rest
      | some sigil =>
        match closing 0 (rest.drop 1) with
        | none => expansionsFrom (i + 1) 0 rest
        | some k =>
          ⟨sigil, (rest.drop 1).take k, i, i + k + 3⟩ :: expansionsFrom (i + 1) (k + 2) rest

/-- The outermost expansions of a text, left to right. -/
def expansions (text : List Char) : List Expansion := expansionsFrom 0 0 text

/-- The name that takes the place of the `k`-th expansion. -/
def placeholder (k : Nat) : String := "__PH_" ++ toString k ++ "__"

/-- Puts placeholders, numbered from `k`, in the place of expansions. The text starts at position
`offset`. -/
def spliceFrom (k offset : Nat) (text : List Char) : List Expansion → List Char
  | [] => text
  | e :: es =>
    text.take (e.start - offset) ++ (placeholder k).toList ++
      spliceFrom (k + 1) e.stop (text.drop (e.stop - offset)) es

def splice (text : List Char) (es : List Expansion) : List Char := spliceFrom 0 0 text es

/-- A text with placeholders, and what each of them stands for. -/
structure Spliced where
  text : String
  mapping : List (String × Expansion)

def spliced (text : String) : Spliced :=
  let es := expansions text.toList
  ⟨String.ofList (splice text.toList es), es.zipIdx.map fun (e, k) => (placeholder k, e)⟩

end Conch.Line
