import Conch.Eval.Call

/-!
# Documents

Reading and writing the common text format for nested lists and records.
-/

namespace Conch.Eval.Json

open Eval

inductive Document where
  | null
  | bool (value : Bool)
  | int (value : Int)
  | float (value : Float)
  | text (value : String)
  | list (items : List Document)
  | record (entries : List (String × Document))

/-- Why a text is no document, and how many characters stand behind that place. -/
structure Flaw where
  what : String
  left : Nat

abbrev Read (α : Type) := Except Flaw (α × List Char)

def flaw {α : Type} (what : String) (rest : List Char) : Except Flaw α := .error ⟨what, rest.length⟩

def isGap (c : Char) : Bool := c == ' ' || c == '\t' || c == '\n' || c == '\r'

def skipGaps (cs : List Char) : List Char := cs.dropWhile isGap

def hexValue (cs : List Char) : Option Nat :=
  cs.foldl (fun (acc : Option Nat) (c : Char) =>
    acc.bind fun n =>
      if c.isDigit then some (n * 16 + (c.toNat - 48))
      else if 'a' ≤ c && c ≤ 'f' then some (n * 16 + (c.toNat - 87))
      else if 'A' ≤ c && c ≤ 'F' then some (n * 16 + (c.toNat - 55))
      else none) (some 0)

def escapes : List (Char × Char) :=
  [('"', '"'), ('\\', '\\'), ('/', '/'), ('b', '\x08'), ('f', '\x0c'), ('n', '\n'), ('r', '\r'),
    ('t', '\t')]

/-- The rest of a text behind its opening quote, which is `start`. -/
def readText (start : List Char) (done : List Char) : Nat → List Char → Read String
  | 0, _ | _, [] => flaw "Unterminated string starting at" start
  | fuel + 1, c :: rest =>
    if c == '"' then .ok (String.ofList done.reverse, rest)
    else if c == '\\' then
      match rest with
      | [] => flaw "Unterminated string starting at" start
      | 'u' :: more =>
        match if more.length < 4 then none else hexValue (more.take 4) with
        | none => flaw "Invalid \\uXXXX escape" more
        | some high =>
          let low : Option Nat :=
            if 0xD800 ≤ high && high ≤ 0xDBFF then
              match more.drop 4 with
              | '\\' :: 'u' :: tail =>
                (hexValue (tail.take 4)).filter fun n => 0xDC00 ≤ n && n ≤ 0xDFFF
              | _ => none
            else none
          match low with
          | some l =>
            let c := Char.ofNat (0x10000 + (high - 0xD800) * 0x400 + (l - 0xDC00))
            readText start (c :: done) fuel (more.drop 10)
          | none => readText start (Char.ofNat high :: done) fuel (more.drop 4)
      | e :: more => match escapes.lookup e with
        | some d => readText start (d :: done) fuel more
        | none => flaw "Invalid \\escape" (c :: rest)
    else if c.toNat < 32 then flaw "Invalid control character at" (c :: rest)
    else readText start (c :: done) fuel rest

def numberOf (ds : List Char) : Int :=
  ds.foldl (fun (n : Int) (d : Char) => n * 10 + ((d.toNat : Int) - 48)) 0

/-- A number at the front of a text. -/
def readNumber? (cs : List Char) : Option (Document × List Char) :=
  let (minus, body) : Bool × List Char := match cs with
    | '-' :: rest => (true, rest)
    | rest => (false, rest)
  let whole := match body with
    | '0' :: _ => ['0']
    | _ => body.takeWhile Char.isDigit
  if whole.isEmpty then none
  else
    let rest := body.drop whole.length
    let fraction := match rest with
      | '.' :: tail => let ds := tail.takeWhile Char.isDigit; if ds.isEmpty then [] else '.' :: ds
      | _ => []
    let rest := rest.drop fraction.length
    let exponent := match rest with
      | e :: tail =>
        if e == 'e' || e == 'E' then
          let sign := (tail.take 1).filter fun c => c == '+' || c == '-'
          let ds := (tail.drop sign.length).takeWhile Char.isDigit
          if ds.isEmpty then [] else 'e' :: sign ++ ds
        else []
      | [] => []
    let rest := rest.drop exponent.length
    let sign : List Char := if minus then ['-'] else []
    if fraction.isEmpty && exponent.isEmpty then
      some (.int (if minus then -(numberOf whole) else numberOf whole), rest)
    else (Number.readFloat? (String.ofList (sign ++ whole ++ fraction ++ exponent))).map fun x =>
      (.float x, rest)

def named : List (List Char × Document) :=
  [("null".toList, .null), ("true".toList, .bool true), ("false".toList, .bool false),
    ("NaN".toList, .float (0.0 / 0.0)), ("Infinity".toList, .float (1.0 / 0.0)),
    ("-Infinity".toList, .float (-1.0 / 0.0))]

/-- A later entry of the same name takes the place of an earlier one. -/
def putField (name : String) (d : Document) : List (String × Document) → List (String × Document)
  | [] => [(name, d)]
  | (n, old) :: rest => if n = name then (n, d) :: rest else (n, old) :: putField name d rest

mutual

def readValue : Nat → List Char → Read Document
  | 0, cs => flaw "Expecting value" cs
  | fuel + 1, cs =>
    match cs with
    | '"' :: rest => (readText cs [] (rest.length + 1) rest).map fun (s, rest) => (.text s, rest)
    | '[' :: rest => match skipGaps rest with
      | ']' :: tail => .ok (.list [], tail)
      | tail => readItems fuel [] tail
    | '\x7b' :: rest => match skipGaps rest with
      | '\x7d' :: tail => .ok (.record [], tail)
      | tail => readFields fuel [] tail
    | _ => match named.find? fun (word, _) => word.isPrefixOf cs with
      | some (word, d) => .ok (d, cs.drop word.length)
      | none => match readNumber? cs with
        | some r => .ok r
        | none => flaw "Expecting value" cs

def readItems : Nat → List Document → List Char → Read Document
  | 0, _, cs => flaw "Expecting value" cs
  | fuel + 1, done, cs =>
    match readValue fuel cs with
    | .error e => .error e
    | .ok (d, rest) => match skipGaps rest with
      | ',' :: tail => readItems fuel (d :: done) (skipGaps tail)
      | ']' :: tail => .ok (.list (d :: done).reverse, tail)
      | tail => flaw "Expecting ',' delimiter" tail

def readFields : Nat → List (String × Document) → List Char → Read Document
  | 0, _, cs => flaw "Expecting value" cs
  | fuel + 1, done, cs =>
    match cs with
    | '"' :: inside =>
      match readText cs [] (inside.length + 1) inside with
      | .error e => .error e
      | .ok (name, rest) => match skipGaps rest with
        | ':' :: tail => match readValue fuel (skipGaps tail) with
          | .error e => .error e
          | .ok (d, rest) => match skipGaps rest with
            | ',' :: tail => readFields fuel (putField name d done) (skipGaps tail)
            | '\x7d' :: tail => .ok (.record (putField name d done), tail)
            | tail => flaw "Expecting ',' delimiter" tail
        | tail => flaw "Expecting ':' delimiter" tail
    | _ => flaw "Expecting property name enclosed in double quotes" cs

end

/-- Reads a whole text as one document. -/
def read (s : String) : Except Flaw Document :=
  match readValue (2 * s.length + 4) (skipGaps s.toList) with
  | .error e => .error e
  | .ok (d, rest) => match skipGaps rest with
    | [] => .ok d
    | rest => .error ⟨"Extra data", rest.length⟩

/-- Where a flaw is: line, column and position. -/
def describe (s : String) (f : Flaw) : String :=
  let position := s.length - f.left
  let front := s.toList.take position
  let line := front.countP (· == '\n') + 1
  let column := (front.reverse.takeWhile (· != '\n')).length + 1
  f.what ++ ": line " ++ toString line ++ " column " ++ toString column ++ " (char " ++
    toString position ++ ")"

mutual

def Document.toValue : Document → Run Value
  | .null => return .none
  | .bool b => return .bool b
  | .int n => return .int n
  | .float x => return .float x
  | .text s => return .text s
  | .list ds => do make (.list (← toValues ds))
  | .record fs => do make (.dict (← toEntries fs))

def toValues : List Document → Run (List Value)
  | [] => return []
  | d :: ds => do return (← d.toValue) :: (← toValues ds)

def toEntries : List (String × Document) → Run (List (Value × Value))
  | [] => return []
  | (n, d) :: fs => do return (.text n, ← d.toValue) :: (← toEntries fs)

end

/-- Reads the text of a document. -/
def load (v : Value) : Run Value := do
  match v with
  | .text s => match read s with
    | .ok d => d.toValue
    | .error f => do raise (← makeError "JSONDecodeError" [.text (describe s f)])
  | .bytes b => match Text.decode b with
    | .ok s => match read s with
      | .ok d => d.toValue
      | .error f => do raise (← makeError "JSONDecodeError" [.text (describe s f)])
    | .error e => do raise (← faultError (.undecodable e))
  | v => failType ("the JSON object must be str, bytes or bytearray, not " ++ (← typeName v))

def unicodeEscape (n : Nat) : List Char := '\\' :: 'u' :: Text.hexDigits 4 n

def quoteChar (ascii : Bool) (c : Char) : List Char :=
  if c == '"' then ['\\', '"']
  else if c == '\\' then ['\\', '\\']
  else if c == '\n' then ['\\', 'n']
  else if c == '\r' then ['\\', 'r']
  else if c == '\t' then ['\\', 't']
  else if c == '\x08' then ['\\', 'b']
  else if c == '\x0c' then ['\\', 'f']
  else if c.toNat < 32 then unicodeEscape c.toNat
  else if ascii && c.toNat > 126 then
    if c.toNat < 0x10000 then unicodeEscape c.toNat
    else
      let n := c.toNat - 0x10000
      unicodeEscape (0xD800 + n / 0x400) ++ unicodeEscape (0xDC00 + n % 0x400)
  else [c]

def quoteText (ascii : Bool) (s : String) : String :=
  "\"" ++ String.ofList (s.toList.flatMap (quoteChar ascii)) ++ "\""

/-- How documents are written. -/
structure Style where
  ascii : Bool
  indent : Option String
  sorted : Bool
  comma : String
  colon : String

def floatText (x : Float) : String :=
  match Decimal.shape x with
  | .undefined => "NaN"
  | .infinite negative => if negative then "-Infinity" else "Infinity"
  | _ => Decimal.render true x

/-- A name of an entry as text. -/
def keyText (m : Machine) (k : Value) : Run String := do
  match k with
  | .text s => return s
  | .bool b => return if b then "true" else "false"
  | .none => return "null"
  | .int _ => m.shown k
  | .float x => return floatText x
  | k => failType ("keys must be str, int, float, bool or None, not " ++ (← typeName k))

def enclose (s : Style) (level : Nat) (opening closing : String) (parts : List String) : String :=
  if parts.isEmpty then opening ++ closing
  else match s.indent with
    | none => opening ++ s.comma.intercalate parts ++ closing
    | some step =>
      let margin (n : Nat) : String := "\n" ++ String.join (List.replicate n step)
      opening ++ margin (level + 1) ++ (s.comma ++ margin (level + 1)).intercalate parts ++
        margin level ++ closing

/-- Writes a value; `fuel` bounds how deep it may be nested. -/
def write (m : Machine) (s : Style) (level : Nat) (fuel : Nat) (v : Value) : Run String :=
  match fuel with
  | 0 => failValue "Circular reference detected"
  | n + 1 => do
    match v with
    | .none => return "null"
    | .bool b => return if b then "true" else "false"
    | .int _ => m.shown v
    | .float x => return floatText x
    | .text t => return quoteText s.ascii t
    | .tuple vs => do return enclose s level "[" "]" (← vs.mapM (write m s (level + 1) n))
    | v => match ← object? v with
      | some (.list vs) => do return enclose s level "[" "]" (← vs.mapM (write m s (level + 1) n))
      | some (.dict es) =>
        let keyed ← es.mapM fun (k, v) => do return (← keyText m k, v)
        let keyed := if s.sorted then keyed.mergeSort (fun a b => a.1 ≤ b.1) else keyed
        let parts ← keyed.mapM fun (k, v) => do
          return quoteText s.ascii k ++ s.colon ++ (← write m s (level + 1) n v)
        return enclose s level "\x7b" "\x7d" parts
      | _ => failType ("Object of type " ++ (← typeName v) ++ " is not JSON serializable")

/-- Writes the text of a document. -/
def dump (m : Machine) (args : List Value) (keywords : Vars) : Run Value := do
  match args with
  | [v] =>
    let flag (name : String) (default : Bool) : Run Bool := match keywords.get? name with
      | some x => truth m x
      | none => return default
    let indent : Option String := match keywords.get? "indent" with
      | some (.int n) => some (String.ofList (List.replicate n.toNat ' '))
      | some (.text t) => some t
      | _ => none
    let (comma, colon) : String × String := match keywords.get? "separators" with
      | some (.tuple [.text a, .text b]) => (a, b)
      | _ => (if indent.isSome then "," else ", ", ": ")
    let style : Style :=
      ⟨← flag "ensure_ascii" true, indent, ← flag "sort_keys" false, comma, colon⟩
    .text <$> write m style 0 990 v
  | vs =>
    failType ("dumps() takes 1 positional argument but " ++ toString vs.length ++ " were given")

end Conch.Eval.Json
