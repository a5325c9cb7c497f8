import Conch.Text.Blank

/-!
# Words of a command

A command is read as words between blanks. Single quotes keep everything, double quotes keep all but
a backslash in front of a double quote or a backslash, and outside quotes a backslash keeps the
character behind it. `quote` writes a word so that it is read back.
-/

namespace Conch.Line

inductive WordFault where
  | openQuote
  | openEscape
  deriving DecidableEq, Repr

/-- Between words only the plain blanks count. -/
def isGap (c : Char) : Bool := c == ' ' || c == '\t' || c == '\r' || c == '\n'

inductive WordState where
  | gap
  | word
  /-- Inside single or double quotes. -/
  | quoted (double : Bool)
  /-- Behind a backslash, inside double quotes or outside any. -/
  | escaped (double : Bool)
  deriving DecidableEq, Repr

/-- Reads words; `word` holds the letters of the current one, last first. -/
def readWords : WordState → List Char → List Char → Except WordFault (List (List Char))
  | .gap, _, [] => .ok []
  | .word, word, [] => .ok [word.reverse]
  | .quoted _, _, [] => .error .openQuote
  | .escaped _, _, [] => .error .openEscape
  | .gap, word, c :: rest =>
    if isGap c then readWords .gap word rest
    else if c = '\\' then readWords (.escaped false) [] rest
    else if c = '\'' then readWords (.quoted false) [] rest
    else if c = '"' then readWords (.quoted true) [] rest
    else readWords .word [c] rest
  | .word, word, c :: rest =>
    if isGap c then (readWords .gap [] rest).map (word.reverse :: ·)
    else if c = '\\' then readWords (.escaped false) word rest
    else if c = '\'' then readWords (.quoted false) word rest
    else if c = '"' then readWords (.quoted true) word rest
    else readWords .word (c :: word) rest
  | .quoted double, word, c :: rest =>
    if c = (if double then '"' else '\'') then readWords .word word rest
    else if double ∧ c = '\\' then readWords (.escaped true) word rest
    else readWords (.quoted double) (c :: word) rest
  | .escaped double, word, c :: rest =>
    if double then
      if c = '\\' ∨ c = '"' then readWords (.quoted true) (c :: word) rest
      else readWords (.quoted true) (c :: '\\' :: word) rest
    else readWords .word (c :: word) rest

/-- A blank ends a word. -/
theorem readWords_word_blank (word rest : List Char) :
    readWords .word word (' ' :: rest) = (readWords .gap [] rest).map (word.reverse :: ·) := by
  simp [readWords, isGap]

/-- The words of a command by the rules of quoting. -/
def quotedWords (command : List Char) : Except WordFault (List (List Char)) :=
  readWords .gap [] command

/-- The words of a command; one whose quotes do not close is cut at its blanks. -/
def commandWords (command : List Char) : List (List Char) :=
  match quotedWords command with
  | .ok ws => ws
  | .error _ => Text.words command

/-- Characters that a word may show without quotes. -/
def isSafe (c : Char) : Bool :=
  c.isAlphanum || c == '_' || c == '@' || c == '%' || c == '+' || c == '=' || c == ':' ||
    c == ',' ||
    c == '.' || c == '/' || c == '-'

/-- A word in single quotes; a single quote in it goes into double ones. -/
def quoteWord (word : List Char) : List Char :=
  if word.isEmpty then ['\'', '\'']
  else if word.all isSafe then word
  else
    '\'' :: (word.flatMap fun c => if c = '\'' then ['\'', '"', '\'', '"', '\''] else [c]) ++ ['\'']

end Conch.Line
