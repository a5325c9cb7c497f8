import Conch.Eval.Attribute
import Conch.Eval.Format
import Conch.Eval.Item

/-!
# Laying out values

Values put into texts by formats: single values, texts with `%` directives, and texts with fields in
braces.
-/

namespace Conch.Eval

open Format

def fits (type : String) (r : Except Misfit String) : Run String :=
  match r with
  | .ok s => return s
  | .error e => match e with
    | .notChar => fail (.overflow (e.message type))
    | e => failValue (e.message type)

/-- A value laid out by a format. -/
def formatted (m : Machine) (v : Value) (format : String) : Run String := do
  let type ← typeName v
  let special ← callSpecial m v "__format__" [.text format]
  match special with
  | some r => expectText "__format__" r
  | none =>
    if format.isEmpty then display m v
    else
      let spec : Run Spec := match Spec.read? format.toList with
        | some s => return s
        | none => failValue
            ("Invalid format specifier '" ++ format ++ "' for object of type '" ++ type ++ "'")
      match v with
      | .text s => do fits type (Format.text (← spec) s.toList)
      | .int n => do fits type (Format.int (← spec) n)
      | .bool b => do fits type (Format.int (← spec) (if b then 1 else 0))
      | .float x => do fits type (Format.float (← spec) x)
      | _ => failType ("unsupported format string passed to " ++ type ++ ".__format__")

/-- The text of a value under a conversion. -/
def converted (m : Machine) (conversion : Option Char) (v : Value) : Run Value := do
  match conversion with
  | some 's' => .text <$> display m v
  | some 'r' => .text <$> m.shown v
  | some 'a' => do return .text (Text.quotedAscii (← m.shown v))
  | _ => return v

/-- The arguments that `%` directives have not used yet. -/
structure Supply where
  rest : List Value
  /-- What keys are looked up in. -/
  mapping : Option Value
  /-- Whether anything was used. -/
  touched : Bool

def Supply.take (s : Supply) : Run (Value × Supply) :=
  match s.rest with
  | v :: vs => return (v, { s with rest := vs, touched := true })
  | [] => failType "not enough arguments for format string"

def layOutNumber (d : Directive) (width : Nat) (sign : List Char) (mark digits : List Char) :
    String :=
  let left := d.flags.contains '-'
  let zero := d.flags.contains '0' && !left
  let front := sign ++ mark
  let gap := width - (front.length + digits.length)
  String.ofList <|
    if left then front ++ digits ++ List.replicate gap ' '
    else if zero then front ++ List.replicate gap '0' ++ digits
    else List.replicate gap ' ' ++ front ++ digits

def directiveSign (d : Directive) (negative : Bool) : List Char :=
  if negative then ['-']
  else if d.flags.contains '+' then ['+']
  else if d.flags.contains ' ' then [' ']
  else []

def layOutText (d : Directive) (width : Nat) (precision : Option Nat) (s : String) : String :=
  let cs := match precision with
    | some p => s.toList.take p
    | none => s.toList
  let gap := List.replicate (width - cs.length) ' '
  String.ofList (if d.flags.contains '-' then cs ++ gap else gap ++ cs)

/-- An integer for a directive. -/
def directiveInt (m : Machine) (d : Directive) (v : Value) : Run Int := do
  let code := d.code.toString
  let decimal := d.code == 'd' || d.code == 'i' || d.code == 'u'
  match v with
  | .float x => if decimal then Number.toInt Number.truncate x else bad code decimal
  | v => match ← index? m v with
    | some n => return n
    | none => bad code decimal
where
  bad (code : String) (decimal : Bool) : Run Int := do
    failType ("%" ++ code ++ " format: " ++
      (if decimal then "a real number" else "an integer") ++ " is required, not " ++ (← typeName v))

def layOutInt (d : Directive) (width : Nat) (precision : Option Nat) (n : Int) : String :=
  let base := if d.code == 'o' then 8 else if d.code == 'x' || d.code == 'X' then 16 else 10
  let digits := (Number.inBase base n.natAbs).toList
  let digits := if d.code == 'X' then digits.map Char.toUpper else digits
  let digits := List.replicate (precision.getD 0 - digits.length) '0' ++ digits
  let mark : List Char :=
    if !d.flags.contains '#' || base == 10 then []
    else if d.code == 'o' then ['0', 'o'] else ['0', d.code]
  layOutNumber d width (directiveSign d (n < 0)) mark digits

def layOutFloat (d : Directive) (width : Nat) (precision : Option Nat) (x : Float) : String :=
  let spec : Spec :=
    ⟨' ', none, '-', d.flags.contains '#', 0, none, some (precision.getD 6), some d.code⟩
  layOutNumber d width (directiveSign d (Format.isNegative x)) [] ((floatBody spec x).getD [])

def layOutDirective (m : Machine) (d : Directive) (width : Nat) (precision : Option Nat)
    (v : Value) :
    Run String := do
  match d.code with
  | 's' => return layOutText d width precision (← display m v)
  | 'r' => return layOutText d width precision (← m.shown v)
  | 'a' => return layOutText d width precision (← m.shown v)
  | 'c' => match v with
    | .text s =>
      if s.length = 1 then return layOutText d width none s
      else failType "%c requires int or char"
    | v => match ← index? m v with
      | some n =>
        if n < 0 || n > 0x10FFFF then fail (.overflow "%c arg not in range(0x110000)")
        else return layOutText d width none (Char.ofNat n.toNat).toString
      | none => failType "%c requires int or char"
  | 'd' | 'i' | 'u' | 'o' | 'x' | 'X' => return layOutInt d width precision (← directiveInt m d v)
  | 'e' | 'E' | 'f' | 'F' | 'g' | 'G' => match Number.asFloat? v with
    | some x => return layOutFloat d width precision (← x)
    | none => failType ("must be real number, not " ++ (← typeName v))
  | code =>
    failValue ("unsupported format character '" ++ code.toString ++ "' (0x" ++
      Number.inBase 16 code.toNat ++ ") at index " ++ toString d.index)

def expectWidth (v : Value) : Run Int :=
  match Number.asInt? v with
  | some n => return n
  | none => failType "* wants int"

/-- Fills one directive. -/
def fillDirective (m : Machine) (s : Supply) (d : Directive) : Run (String × Supply) := do
  if d.code == '%' then return ("%", s)
  let (width, d, s) ← match d.width with
    | some w => pure (w, d, s)
    | none => do
      let (v, s) ← s.take
      let n ← expectWidth v
      pure (n.natAbs, if n < 0 then { d with flags := '-' :: d.flags } else d, s)
  let (precision, s) ← match d.precision with
    | none => pure (none, s)
    | some (some p) => pure (some p, s)
    | some none => do
      let (v, s) ← s.take
      pure (some (← expectWidth v).toNat, s)
  match d.key with
  | some key => match s.mapping with
    | some mapping =>
      let v ← getItem m mapping (.text key)
      return (← layOutDirective m d width precision v, { s with rest := [], touched := true })
    | none => failType "format requires a mapping"
  | none =>
    let known := "srcadiuoxXeEfFgG".toList.contains d.code
    let (v, s) ← if known || !s.rest.isEmpty then s.take else pure (.none, s)
    return (← layOutDirective m d width precision v, s)

def fillPieces (m : Machine) (s : Supply) (done : String) :
    List (Except BadTemplate Piece) → Run (String × Supply)
  | [] => return (done, s)
  | .ok (.literal cs) :: rest => fillPieces m s (done ++ String.ofList cs) rest
  | .ok (.directive d) :: rest => do
    let (text, s) ← fillDirective m s d
    fillPieces m s (done ++ text) rest
  | .error .incomplete :: _ => failValue "incomplete format"
  | .error .incompleteKey :: _ => failValue "incomplete format key"

/-- A text with its `%` directives filled. -/
def percentFormat (m : Machine) (template : String) (arg : Value) : Run String := do
  let mapping : Option Value ← match arg with
    | .tuple _ | .text _ => pure none
    | arg => match ← object? arg with
      | some (.dict _) | some (.list _) => pure (some arg)
      | _ => pure none
  let supply : Supply := ⟨match arg with
    | .tuple vs => vs
    | v => [v], mapping, false⟩
  let (text, left) ← fillPieces m supply "" (pieces 0 0 [] template.toList)
  if !left.rest.isEmpty && mapping.isNone then
    failType "not all arguments converted during string formatting"
  return text

/-- The part of a field's name that says where its value is, and the accesses behind it. -/
def fieldAccesses (name : List Char) : List Char × List Char :=
  let first := name.takeWhile fun c => c != '.' && c != '['
  (first, name.drop first.length)

/-- Follows attributes and items from a value; the length of the text is enough fuel. -/
def followAccesses (m : Machine) (v : Value) : Nat → List Char → Run Value
  | 0, _ | _, [] => return v
  | fuel + 1, '.' :: rest => do
    let name := rest.takeWhile fun c => c != '.' && c != '['
    if name.isEmpty then failValue "Empty attribute in format string"
    let next ← getAttr m v (String.ofList name)
    followAccesses m next fuel (rest.drop name.length)
  | fuel + 1, _ :: rest => do
    let key := rest.takeWhile (· != ']')
    if key.isEmpty then failValue "Empty attribute in format string"
    if key.length == rest.length then failValue "Missing ']' in format string"
    let index : Value := if key.all Char.isDigit then .int (digitsValue key)
      else .text (String.ofList key)
    let next ← getItem m v index
    followAccesses m next fuel (rest.drop (key.length + 1))
where
  digitsValue (ds : List Char) : Int :=
    ds.foldl (fun (n : Int) (d : Char) => n * 10 + ((d.toNat : Int) - 48)) 0

/-- Whether fields are numbered by themselves or by their names. -/
inductive Numbering where
  | unknown
  | automatic (next : Nat)
  | manual

def switchText (manual : Bool) : String :=
  let named (b : Bool) : String :=
    if b then "manual field specification" else "automatic field numbering"
  "cannot switch from " ++ named manual ++ " to " ++ named (!manual)

/-- The value of a field. -/
def fieldValue (m : Machine) (args : List Value) (named : Vars) (numbering : Numbering)
    (name : List Char) : Run (Value × Numbering) := do
  let (first, accesses) := fieldAccesses name
  let (v, numbering) ← start first
  return (← followAccesses m v (accesses.length + 1) accesses, numbering)
where
  positional (k : Nat) : Run Value :=
    match args[k]? with
    | some v => return v
    | none => fail (.badLookup
        ("Replacement index " ++ toString k ++ " out of range for positional args tuple"))
  start (first : List Char) : Run (Value × Numbering) :=
    if first.isEmpty then
      match numbering with
      | .manual => failValue (switchText true)
      | .unknown => do return (← positional 0, .automatic 1)
      | .automatic k => do return (← positional k, .automatic (k + 1))
    else if first.all Char.isDigit then
      match numbering with
      | .automatic _ => failValue (switchText false)
      | _ => do
        let k := first.foldl (fun (n : Nat) (d : Char) => n * 10 + (d.toNat - 48)) 0
        return (← positional k, .manual)
    else match named.get? (String.ofList first) with
      | some v => return (v, numbering)
      | none => failKey (.text (String.ofList first))

/-- Fills fields in braces; `depth` bounds fields inside the formats of fields. -/
def fillFields (m : Machine) (args : List Value) (named : Vars) (depth : Nat)
    (numbering : Numbering) (done : String) (ps : List (Except BadField FieldPiece)) :
    Run (String × Numbering) :=
  match depth with
  | 0 => failValue "Max string recursion exceeded"
  | d + 1 => go d numbering done ps
where
  go (d : Nat) (numbering : Numbering) (done : String) :
      List (Except BadField FieldPiece) → Run (String × Numbering)
    | [] => return (done, numbering)
    | .error e :: _ => failValue e.message
    | .ok (.literal cs) :: rest => go d numbering (done ++ String.ofList cs) rest
    | .ok (.field f) :: rest => do
      let (v, numbering) ← fieldValue m args named numbering f.name
      let v ← converted m f.conversion v
      let (format, numbering) ←
        if f.format.isEmpty then pure ("", numbering)
        else fillFields m args named d numbering "" (fieldPieces 0 [] f.format)
      go d numbering (done ++ (← formatted m v format)) rest

/-- A text with its fields filled. -/
def braceFormat (m : Machine) (template : String) (args : List Value) (named : Vars) :
    Run String := do
  return (← fillFields m args named 2 .unknown "" (fieldPieces 0 [] template.toList)).1

end Conch.Eval
