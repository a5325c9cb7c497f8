import Conch.Text.Blank

/-!
# Searching and cutting texts

Occurrences of a part in a text are found from the left and do not overlap.
-/

namespace Conch.Text

/-- The position of the first occurrence of a part. -/
def find? (part : List Char) : List Char → Option Nat
  | [] => if part.isEmpty then some 0 else none
  | c :: rest => if part.isPrefixOf (c :: rest) then some 0 else (find? part rest).map (· + 1)

/-- The position of the last occurrence of a part. -/
def findLast? (part s : List Char) : Option Nat :=
  (find? part.reverse s.reverse).map fun k => s.length - k - part.length

def occursIn (part s : List Char) : Bool := (find? part s).isSome

/-- Cuts a text at occurrences of a separator, at most `limit` times. `skip` characters of a
separator are still to be passed over. -/
def cutFrom (sep : List Char) (limit skip : Nat) (piece : List Char) : List Char → List (List Char)
  | [] => [piece.reverse]
  | c :: rest =>
    match skip with
    | k + 1 => cutFrom sep limit k piece rest
    | 0 =>
      match limit with
      | 0 => cutFrom sep 0 0 (c :: piece) rest
      | l + 1 =>
        if sep.isPrefixOf (c :: rest) then
          piece.reverse :: cutFrom sep l (sep.length - 1) [] rest
        else cutFrom sep (l + 1) 0 (c :: piece) rest

/-- Cuts a text at every occurrence of a separator, from the left, at most `limit` times. -/
def cut (sep s : List Char) (limit : Nat) : List (List Char) := cutFrom sep limit 0 [] s

/-- Cuts from the right. -/
def cutLast (sep s : List Char) (limit : Nat) : List (List Char) :=
  ((cut sep.reverse s.reverse limit).map List.reverse).reverse

/-- Cuts a text at runs of blanks, at most `limit` times; what is left keeps its inner blanks. -/
def cutBlank (limit : Nat) (s : List Char) : List (List Char) :=
  go limit (s.length + 1) (trimLeft s)
where
  go (limit fuel : Nat) (s : List Char) : List (List Char) :=
    match fuel, s with
    | 0, _ | _, [] => []
    | fuel + 1, s =>
      match limit with
      | 0 => [s]
      | l + 1 =>
        s.takeWhile (!isBlank ·) :: go l fuel (trimLeft (s.dropWhile (!isBlank ·)))

def cutBlankLast (limit : Nat) (s : List Char) : List (List Char) :=
  ((cutBlank limit s.reverse).map List.reverse).reverse

/-- Puts a text in the place of each occurrence of a part, at most `limit` times. -/
def replace (old new : List Char) (limit : Nat) (s : List Char) : List Char :=
  if old.isEmpty then spread limit s
  else new.intercalate (cut old s limit)
where
  /-- An empty part occurs in front of every character and at the end. -/
  spread (limit : Nat) (s : List Char) : List Char :=
    match limit, s with
    | 0, s => s
    | _ + 1, [] => new
    | l + 1, c :: rest => new ++ c :: spread l rest

/-- How often a part occurs. -/
def countOf (part s : List Char) : Nat :=
  if part.isEmpty then s.length + 1 else (cut part s s.length).length - 1

/-- Whether a character ends a line; a carriage return and a line feed end one line together. -/
def isLineEnd (c : Char) : Bool :=
  c == '\n' || c == '\r' || c == '\x0b' || c == '\x0c' || c == '\x1c' || c == '\x1d' ||
    c == '\x1e' || c == '\u0085' || c == '\u2028' || c == '\u2029'

/-- The lines of a text, with their ends if `keep`. -/
def linesFrom (keep : Bool) (line : List Char) : List Char → List (List Char)
  | [] => if line.isEmpty then [] else [line.reverse]
  | '\r' :: '\n' :: rest =>
    (if keep then ('\n' :: '\r' :: line).reverse else line.reverse) :: linesFrom keep [] rest
  | c :: rest =>
    if isLineEnd c then
      (if keep then (c :: line).reverse else line.reverse) :: linesFrom keep [] rest
    else linesFrom keep (c :: line) rest

def lines (keep : Bool) (s : List Char) : List (List Char) := linesFrom keep [] s

/-- Takes characters of a set from the left end. -/
def trimLeftOf (set s : List Char) : List Char := s.dropWhile set.contains

def trimRightOf (set s : List Char) : List Char := (s.reverse.dropWhile set.contains).reverse

def padStart (width : Nat) (fill : Char) (s : List Char) : List Char :=
  List.replicate (width - s.length) fill ++ s

def padEnd (width : Nat) (fill : Char) (s : List Char) : List Char :=
  s ++ List.replicate (width - s.length) fill

/-- Puts a text in the middle; of an odd margin, the longer part stands left when the width is odd.
-/
def centre (width : Nat) (fill : Char) (s : List Char) : List Char :=
  let margin := width - s.length
  let left := margin / 2 + (if margin % 2 == 1 && width % 2 == 1 then 1 else 0)
  List.replicate left fill ++ s ++ List.replicate (margin - left) fill

/-- Fills up with zeros behind the sign. -/
def zeroFill (width : Nat) (s : List Char) : List Char :=
  match s with
  | '-' :: rest => '-' :: padStart (width - 1) '0' rest
  | '+' :: rest => '+' :: padStart (width - 1) '0' rest
  | _ => padStart width '0' s

/-- Replaces tabs by blanks up to the next multiple of the tab width. -/
def expandTabs (size column : Nat) : List Char → List Char
  | [] => []
  | c :: rest =>
    if c == '\t' then
      let gap := if size == 0 then 0 else size - column % size
      List.replicate gap ' ' ++ expandTabs size (column + gap) rest
    else if c == '\n' || c == '\r' then c :: expandTabs size 0 rest
    else c :: expandTabs size (column + 1) rest

end Conch.Text
