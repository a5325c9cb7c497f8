/-!
# UTF-8

Bytes of a text and text of bytes. Reading is strict, with the first fault and its place, or
lenient, with one replacement character for each longest sequence that starts a character and does
not end one.
-/

namespace Conch.Text

abbrev Bytes := List UInt8

def encode (s : String) : Bytes := s.toUTF8.data.toList

/-- Why bytes are no text. -/
inductive Utf8Fault.Reason where
  | badStart
  | badContinuation
  | cutShort
  deriving DecidableEq, Repr

def Utf8Fault.Reason.text : Utf8Fault.Reason → String
  | .badStart => "invalid start byte"
  | .badContinuation => "invalid continuation byte"
  | .cutShort => "unexpected end of data"

/-- The first bytes that are no text, by their positions, and the first of them. -/
structure Utf8Fault where
  reason : Utf8Fault.Reason
  byte : UInt8
  start : Nat
  stop : Nat
  deriving DecidableEq, Repr

/-- How many bytes a character has by its first byte, and the range of its second byte. -/
def leadWidth (b : Nat) : Option (Nat × Nat × Nat) :=
  if 0xC2 ≤ b && b ≤ 0xDF then some (2, 0x80, 0xBF)
  else if b == 0xE0 then some (3, 0xA0, 0xBF)
  else if b == 0xED then some (3, 0x80, 0x9F)
  else if 0xE1 ≤ b && b ≤ 0xEF then some (3, 0x80, 0xBF)
  else if b == 0xF0 then some (4, 0x90, 0xBF)
  else if 0xF1 ≤ b && b ≤ 0xF3 then some (4, 0x80, 0xBF)
  else if b == 0xF4 then some (4, 0x80, 0x8F)
  else none

/-- What stands at the front of some bytes: a character and its width, or a fault and how many bytes
it takes. -/
inductive Lead where
  | char (c : Char) (width : Nat)
  | fault (reason : Utf8Fault.Reason) (width : Nat)

/-- Reads `need` more bytes of a character; `got` have been read. -/
def continuation (low high : Nat) (value got need : Nat) : Bytes → Lead
  | rest =>
    match need with
    | 0 => .char (Char.ofNat value) got
    | n + 1 =>
      match rest with
      | [] => .fault .cutShort got
      | b :: tail =>
        let k := b.toNat
        if low ≤ k && k ≤ high then
          continuation 0x80 0xBF (value * 64 + (k - 0x80)) (got + 1) n tail
        else .fault .badContinuation got

def lead : Bytes → Lead
  | [] => .fault .cutShort 0
  | b :: rest =>
    let n := b.toNat
    if n < 0x80 then .char (Char.ofNat n) 1
    else match leadWidth n with
      | none => .fault .badStart 1
      | some (width, low, high) =>
        let bits := if width == 2 then n - 0xC0 else if width == 3 then n - 0xE0 else n - 0xF0
        continuation low high bits 1 (width - 1) rest

/-- Strict reading, passing over the next `skip` bytes. -/
def decodeFrom (position skip : Nat) : Bytes → Except Utf8Fault (List Char)
  | [] => .ok []
  | b :: rest =>
    match skip with
    | s + 1 => decodeFrom (position + 1) s rest
    | 0 =>
      match lead (b :: rest) with
      | .char c width => (decodeFrom (position + 1) (width - 1) rest).map (c :: ·)
      | .fault reason width => .error ⟨reason, b, position, position + width⟩

def decode (bytes : Bytes) : Except Utf8Fault String :=
  (decodeFrom 0 0 bytes).map String.ofList

/-- Lenient reading, passing over the next `skip` bytes. -/
def decodeLossyFrom (skip : Nat) : Bytes → List Char
  | [] => []
  | b :: rest =>
    match skip with
    | s + 1 => decodeLossyFrom s rest
    | 0 =>
      match lead (b :: rest) with
      | .char c width => c :: decodeLossyFrom (width - 1) rest
      | .fault _ width => '�' :: decodeLossyFrom (width - 1) rest

def decodeLossy (bytes : Bytes) : String := String.ofList (decodeLossyFrom 0 bytes)

/-- Line ends of captured text become line feeds. -/
def unifyNewlines : List Char → List Char
  | '\r' :: '\n' :: rest => '\n' :: unifyNewlines rest
  | '\r' :: rest => '\n' :: unifyNewlines rest
  | c :: rest => c :: unifyNewlines rest
  | [] => []

def hexByte (b : UInt8) : String :=
  let digit (n : Nat) : Char := if n < 10 then Char.ofNat (48 + n) else Char.ofNat (87 + n)
  String.ofList ['0', 'x', digit (b.toNat / 16), digit (b.toNat % 16)]

def Utf8Fault.message (f : Utf8Fault) : String :=
  if f.stop == f.start + 1 then
    "'utf-8' codec can't decode byte " ++ hexByte f.byte ++ " in position " ++ toString f.start ++
      ": " ++ f.reason.text
  else
    "'utf-8' codec can't decode bytes in position " ++ toString f.start ++ "-" ++
      toString (f.stop - 1) ++ ": " ++ f.reason.text

end Conch.Text
