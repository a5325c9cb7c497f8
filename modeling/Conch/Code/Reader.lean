import Conch.Code.Token

/-!
# Reading tokens

A reader takes tokens off the front of a list. A reader that does not fit can be replaced by another
one from the same place; a fault ends all reading. The cursor remembers the furthest token that any
reader has looked at, which is where a text is reported to go wrong.
-/

namespace Conch.Code

structure Cursor where
  rest : List Token
  /-- Tokens taken so far. -/
  taken : Nat
  /-- Tokens looked at so far. -/
  seen : Nat

inductive Failure where
  | mismatch
  | fault (fault : Fault)

abbrev Reader := ExceptT Failure (StateM Cursor)

/-- Words that cannot be names. -/
def keywords : List String :=
  ["False", "None", "True", "and", "as", "assert", "async", "await", "break", "class", "continue",
    "def", "del", "elif", "else", "except", "finally", "for", "from", "global", "if", "import",
    "in", "is", "lambda", "nonlocal", "not", "or", "pass", "raise", "return", "try", "while",
    "with", "yield"]

def isKeyword (s : String) : Bool := keywords.contains s

namespace Reader

variable {α β : Type}

def mismatch : Reader α := throw .mismatch

def fault (cause : Cause) (at_ : Token) : Reader α :=
  throw (.fault ⟨cause, at_.line, at_.col + 1⟩)

/-- The next token, which stays in place. -/
def peek : Reader Token := do
  let c ← get
  match c.rest with
  | [] => mismatch
  | t :: _ =>
    set { c with seen := max c.seen (c.taken + 1) }
    match t.kind with
    | .fault cause => fault cause t
    | _ => return t

/-- The token behind the next one. -/
def peekSecond : Reader Token := do
  let c ← get
  match c.rest with
  | _ :: t :: _ =>
    set { c with seen := max c.seen (c.taken + 2) }
    match t.kind with
    | .fault cause => fault cause t
    | _ => return t
  | _ => mismatch

def drop : Reader Unit := modify fun c => { c with rest := c.rest.drop 1, taken := c.taken + 1 }

/-- Tries one reader and, where it does not fit, another one from the same place. -/
def orElse (first : Reader α) (second : Reader α) : Reader α := fun c =>
  match first c with
  | (.error .mismatch, c') => second { c with seen := c'.seen }
  | result => result

/-- What a reader gives, or nothing and no token taken where it does not fit. -/
def attempt (p : Reader α) : Reader (Option α) :=
  orElse (some <$> p) (pure none)

def repeatFrom (p : Reader (Option α)) : Nat → Reader (List α)
  | 0 => return []
  | n + 1 => do
    match ← p with
    | none => return []
    | some a => return a :: (← repeatFrom p n)

/-- Repeats a reader until it gives nothing; each round takes a token. -/
def many (p : Reader (Option α)) : Reader (List α) := do
  repeatFrom p (← get).rest.length

def extendFrom (p : α → Reader (Option α)) : Nat → α → Reader α
  | 0, a => return a
  | n + 1, a => do
    match ← p a with
    | none => return a
    | some b => extendFrom p n b

/-- Builds on a value as long as a reader goes on with it; each round takes a token. -/
def extend (first : α) (p : α → Reader (Option α)) : Reader α := do
  extendFrom p (← get).rest.length first

def isMark (t : Token) (m : String) : Bool := t.kind == .mark && t.text == m

def isWord (t : Token) (w : String) : Bool := t.kind == .word && t.text == w

def isName (t : Token) : Bool := t.kind == .word && !isKeyword t.text

def nextMark (m : String) : Reader Bool := return isMark (← peek) m

def nextWord (w : String) : Reader Bool := return isWord (← peek) w

/-- Takes a mark if it is next. -/
def mark? (m : String) : Reader Bool := do
  if ← nextMark m then drop; return true
  else return false

/-- Takes a word if it is next. -/
def word? (w : String) : Reader Bool := do
  if ← nextWord w then drop; return true
  else return false

def mark (m : String) : Reader Unit := do
  unless ← mark? m do mismatch

def word (w : String) : Reader Unit := do
  unless ← word? w do mismatch

def name : Reader String := do
  let t ← peek
  if isName t then drop; return t.text
  else mismatch

def kind (k : Token.Kind) : Reader Unit := do
  if (← peek).kind == k then drop
  else mismatch

/-- The value that belongs to the next mark, which is taken, if it is in a table. -/
def markIn? (table : List (String × β)) : Reader (Option β) := do
  let t ← peek
  if t.kind == .mark then
    match table.lookup t.text with
    | some b => drop; return some b
    | none => return none
  else return none

/-- One or more items between commas; a comma at the end is taken and reported. -/
def commaSeparated (item : Reader α) : Reader (List α × Bool) := do
  let first ← item
  let rest ← many do
    if ← nextMark "," then
      attempt do drop; item
    else return none
  return (first :: rest, ← mark? ",")

end Reader

end Conch.Code
