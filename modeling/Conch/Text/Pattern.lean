import Conch.Text.Alphabet
import Conch.Text.Blank

/-!
# Patterns

Patterns describe pieces of texts, and what may stand around them. A pattern is tried from a place
on; choices are tried in order, and repetitions take as much, or as little, as what follows them
allows.
-/

namespace Conch.Text

/-- A place in a text: what is in front of it, nearest first, and what is behind it. -/
structure Place where
  before : List Char
  after : List Char
  offset : Nat

namespace Place

def start (text : List Char) : Place := ⟨[], text, 0⟩

/-- The place some characters further on. -/
def advance (n : Nat) (p : Place) : Place :=
  ⟨(p.after.take n).reverse ++ p.before, p.after.drop n, p.offset + n⟩

end Place

inductive Pattern where
  | nothing
  | one (test : Char → Bool)
  | sequence (first second : Pattern)
  | choice (first second : Pattern)
  /-- As often as possible. -/
  | many (part : Pattern)
  /-- As seldom as possible. -/
  | few (part : Pattern)
  /-- Something must follow, but does not belong to the piece. -/
  | ahead (part : Pattern)
  | notAhead (part : Pattern)
  /-- The characters on both sides of a place pass a test. -/
  | edge (test : Option Char → Option Char → Bool)

namespace Pattern

/-- What goes on behind a piece: it fails, or tells the lengths of the pieces that follow. -/
abbrev Next := Place → Option (List Nat)

/-- Takes steps, as many as possible, and goes on; a step that leads nowhere is none. -/
def most (step : Place → Next → Option (List Nat)) : Nat → Place → Next → Option (List Nat)
  | 0, here, next => next here
  | n + 1, here, next =>
    match step here fun there =>
      if there.offset > here.offset then most step n there next else none with
    | some lengths => some lengths
    | none => next here

/-- Takes steps, as few as possible, and goes on. -/
def least (step : Place → Next → Option (List Nat)) : Nat → Place → Next → Option (List Nat)
  | 0, here, next => next here
  | n + 1, here, next =>
    match next here with
    | some lengths => some lengths
    | none => step here fun there =>
      if there.offset > here.offset then least step n there next else none

/-- Finds a piece from a place on such that one can go on behind it. -/
def walk : Pattern → Place → Next → Option (List Nat)
  | nothing, here, next => next here
  | one test, here, next =>
    match here.after with
    | [] => none
    | c :: rest => if test c then next ⟨c :: here.before, rest, here.offset + 1⟩ else none
  | sequence first second, here, next => walk first here fun there => walk second there next
  | choice first second, here, next =>
    match walk first here next with
    | some lengths => some lengths
    | none => walk second here next
  | many part, here, next => most (walk part) here.after.length here next
  | few part, here, next => least (walk part) here.after.length here next
  | ahead part, here, next => if (walk part here fun _ => some []).isSome then next here else none
  | notAhead part, here, next =>
    if (walk part here fun _ => some []).isSome then none else next here
  | edge test, here, next => if test here.before.head? here.after.head? then next here else none

/-- The lengths of adjacent pieces from a place on, one for each pattern. -/
def lengths : List Pattern → Next
  | [], _ => some []
  | p :: rest, here => p.walk here fun there =>
    (lengths rest there).map ((there.offset - here.offset) :: ·)

/-- The length of the piece at a place. -/
def length? (p : Pattern) (here : Place) : Option Nat := (lengths [p] here).bind (·.head?)

/-! ## Common patterns -/

def char (c : Char) : Pattern := one (· == c)

def oneOf (s : String) : Pattern := one fun c => s.toList.contains c

def noneOf (s : String) : Pattern := one fun c => !s.toList.contains c

def all : List Pattern → Pattern
  | [] => nothing
  | [p] => p
  | p :: rest => sequence p (all rest)

/-- The first of some patterns that fits. -/
def first : List Pattern → Pattern
  | [] => one fun _ => false
  | [p] => p
  | p :: rest => choice p (first rest)

def literal (s : String) : Pattern := all (s.toList.map char)

/-- Letters of either case. -/
def either (s : String) : Pattern := all (s.toList.map fun c => one fun d => d.toLower == c)

def maybe (p : Pattern) : Pattern := choice p nothing

def oneOrMore (p : Pattern) : Pattern := sequence p (many p)

/-- At most `n` times. -/
def upTo (p : Pattern) : Nat → Pattern
  | 0 => nothing
  | n + 1 => maybe (sequence p (upTo p n))

/-- Exactly `n` times. -/
def times (p : Pattern) (n : Nat) : Pattern := all (List.replicate n p)

def blank : Pattern := one isBlank

def digit : Pattern := one isDecimal

def wordChar : Pattern := one isWordChar

def anything : Pattern := one fun _ => true

def notNewline : Pattern := one (· != '\n')

/-- The start of a line. -/
def lineStart : Pattern := edge fun before _ => before.all (· == '\n')

/-- The end of a line. -/
def lineEnd : Pattern := edge fun _ after => after.all (· == '\n')

def textStart : Pattern := edge fun before _ => before.isNone

/-- Where a word starts or ends. -/
def wordEdge : Pattern := edge fun before after => before.any isWordChar != after.any isWordChar

/-- Not behind a character. -/
def notBehind (c : Char) : Pattern := edge fun before _ => before != some c

/-- One of some words, the longest that ends where a word ends. -/
def word (words : List String) : Pattern :=
  sequence (first ((words.mergeSort fun a b => b.length ≤ a.length).map literal)) wordEdge

/-- A name. -/
def name : Pattern := sequence (one isIdentStart) (many (one isIdentRest))

end Pattern

end Conch.Text
