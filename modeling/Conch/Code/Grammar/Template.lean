import Conch.Code.Literal

/-!
# Templates

The body of a template literal: pieces of text and replacement fields in braces. A doubled brace
stands for itself. A field holds an expression, an optional `=` that also shows its text, an
optional conversion and an optional format, which is again a template. The expression is cut out by
its brackets and quotes and read by the function that is passed in.
-/

namespace Conch.Code.Template

/-- How a piece of text ends: at a doubled brace, or at a single brace or the end. -/
inductive Piece where
  | doubled (text rest : List Char)
  | stop (text rest : List Char)
  | fault (cause : Cause)

def isBrace (c : Char) : Bool := c == '\x7b' || c == '\x7d'

/-- Reads text up to a brace; `read` is what has been read, last character first. Inside a format a
brace always ends the text. -/
def piece (raw nested : Bool) : Nat → List Char → List Char → Piece
  | 0, read, rest => .stop read.reverse rest
  | _ + 1, read, [] => .stop read.reverse []
  | fuel + 1, read, c :: rest =>
    if c == '\\' && !raw then
      match rest with
      | [] => piece raw nested fuel (c :: read) rest
      | 'N' :: tail =>
        match tail with
        | [] => piece raw nested fuel ('N' :: c :: read) tail
        | d :: more =>
          if d == '\x7b' then
            let name := more.takeWhile (· != '\x7d')
            let closing := (more.drop name.length).take 1
            piece raw nested fuel (closing ++ name.reverse ++ d :: 'N' :: c :: read)
              (more.drop (name.length + 1))
          else piece raw nested fuel (d :: 'N' :: c :: read) more
      | d :: tail =>
        if isBrace d then brace fuel (c :: read) d tail
        else piece raw nested fuel (d :: c :: read) tail
    else if isBrace c then brace fuel read c rest
    else piece raw nested fuel (c :: read) rest
where
  brace (_ : Nat) (read : List Char) (c : Char) (rest : List Char) : Piece :=
    if nested then .stop read.reverse (c :: rest)
    else match rest with
      | d :: more =>
        if d == c then .doubled ((c :: read).reverse) more
        else if c == '\x7d' then .fault (.badTemplate "single '\x7d' is not allowed")
        else .stop read.reverse (c :: rest)
      | [] =>
        if c == '\x7d' then .fault (.badTemplate "single '\x7d' is not allowed")
        else .stop read.reverse (c :: rest)

/-- Inside which string an expression is being read. -/
structure Quote where
  mark : Char
  long : Bool

def twoCharacter (c next : Char) : Bool :=
  next == '=' && (c == '!' || c == '=' || c == '<' || c == '>')

def startsWithTwice (q : Char) : List Char → Bool
  | a :: b :: _ => a == q && b == q
  | _ => false

/-- Cuts the expression off a field: its text and the rest from the character that ends it. -/
def expressionText (quote : Option Quote) (brackets read : List Char) :
    Nat → List Char → Except Cause (List Char × List Char)
  | 0, _ => .error (.badTemplate "expecting '\x7d'")
  | _ + 1, [] =>
    if quote.isSome then .error (.badTemplate "unterminated string")
    else match brackets with
      | b :: _ => .error (.badTemplate ("unmatched '" ++ b.toString ++ "'"))
      | [] => .error (.badTemplate "expecting '\x7d'")
  | fuel + 1, c :: rest =>
    if c == '\\' then .error (.badTemplate "expression part cannot include a backslash")
    else match quote with
      | some q =>
        if c == q.mark then
          if !q.long then expressionText none brackets (c :: read) fuel rest
          else if startsWithTwice c rest then
            expressionText none brackets (c :: c :: c :: read) fuel (rest.drop 2)
          else expressionText quote brackets (c :: read) fuel rest
        else expressionText quote brackets (c :: read) fuel rest
      | none =>
        if c == '\'' || c == '"' then
          if startsWithTwice c rest then
            expressionText (some ⟨c, true⟩) brackets (c :: c :: c :: read) fuel (rest.drop 2)
          else expressionText (some ⟨c, false⟩) brackets (c :: read) fuel rest
        else if c == '(' || c == '[' || c == '\x7b' then
          expressionText none (c :: brackets) (c :: read) fuel rest
        else if c == '#' then .error (.badTemplate "expression part cannot include '#'")
        else if brackets.isEmpty &&
            (c == '!' || c == ':' || c == '\x7d' || c == '=' || c == '<' || c == '>') then
          match rest with
          | d :: more =>
            if twoCharacter c d then expressionText none brackets (d :: c :: read) fuel more
            else if c == '<' || c == '>' then expressionText none brackets (c :: read) fuel rest
            else .ok (read.reverse, c :: rest)
          | [] =>
            if c == '<' || c == '>' then expressionText none brackets (c :: read) fuel rest
            else .ok (read.reverse, c :: rest)
        else if c == ')' || c == ']' || c == '\x7d' then
          match brackets with
          | [] => .error (.badTemplate ("unmatched '" ++ c.toString ++ "'"))
          | b :: outer =>
            if Scan.closes b c then expressionText none outer (c :: read) fuel rest
            else .error (.badTemplate ("closing parenthesis '" ++ c.toString ++
              "' does not match opening parenthesis '" ++ b.toString ++ "'"))
        else expressionText none brackets (c :: read) fuel rest

/-- Puts a piece of text behind the parts read so far; neighbouring pieces become one. -/
def pushText (parts : List Expr) (text : List Char) : List Expr :=
  if text.isEmpty then parts
  else match parts with
    | .constant (.text s m) :: before =>
      .constant (.text (s ++ String.ofList text) m) :: before
    | _ => .constant (.text (String.ofList text) false) :: parts

def isSpace (c : Char) : Bool :=
  c == ' ' || c == '\t' || c == '\n' || c == '\x0b' || c == '\x0c' || c == '\r'

def isEmptyExpression (text : List Char) : Bool :=
  text.all fun c => c == ' ' || c == '\t' || c == '\n' || c == '\x0c'

/-- What follows the expression of a field: the text that `=` shows, and the conversion. -/
def afterExpression (text rest : List Char) :
    Except Cause (List Char × Option Char × List Char) := do
  let (shown, rest) : List Char × List Char := match rest with
    | '=' :: tail =>
      let blanks := tail.takeWhile isSpace
      (text ++ '=' :: blanks, tail.drop blanks.length)
    | _ => ([], rest)
  match rest with
  | [] => .error (.badTemplate "expecting '\x7d'")
  | '!' :: tail =>
    match tail with
    | [] => .error (.badTemplate "expecting '\x7d'")
    | c :: more =>
      if c == 's' || c == 'r' || c == 'a' then
        if more.isEmpty then .error (.badTemplate "expecting '\x7d'")
        else return (shown, some c, more)
      else .error (.badTemplate "invalid conversion character: expected 's', 'r', or 'a'")
  | _ => return (shown, none, rest)

/-- Reads the parts of a template, last one first, put in front of `parts`. `depth` is how many
fields one is inside of. The rest is empty at the outer level and starts with a closing brace inside
a field. -/
def partsFrom (parse : List Char → Except Cause Expr) (raw : Bool) :
    Nat → Nat → List Expr → List Char → Except Cause (List Expr × List Char)
  | 0, _, parts, rest => .ok (parts, rest)
  | fuel + 1, depth, parts, rest => do
    match piece raw (depth != 0) (rest.length + 1) [] rest with
    | .fault cause => .error cause
    | .doubled text after =>
      partsFrom parse raw fuel depth (pushText parts (← decode text)) after
    | .stop text after =>
      let parts := pushText parts (← decode text)
      match after with
      | [] => .ok (parts, [])
      | c :: inner =>
        if c == '\x7d' then .ok (parts, after)
        else do
          if depth ≥ 2 then .error (.badTemplate "expressions nested too deeply")
          let (text, tail) ← expressionText none [] [] (inner.length + 1) inner
          if isEmptyExpression text then .error (.badTemplate "empty expression not allowed")
          let value ← parse text
          let (shown, conversion, tail) ← afterExpression text tail
          let parts := pushText parts shown
          let (format, tail) : Option Expr × List Char ← match tail with
            | ':' :: spec => do
              if spec.isEmpty then .error (.badTemplate "expecting '\x7d'")
              let (inside, left) ← partsFrom parse raw fuel (depth + 1) [] spec
              pure (some (.template inside.reverse), left)
            | _ => pure (none, tail)
          match tail with
          | '\x7d' :: left =>
            let conversion :=
              if !shown.isEmpty && format.isNone && conversion.isNone then some 'r' else conversion
            partsFrom parse raw fuel depth (.field value conversion format :: parts) left
          | _ => .error (.badTemplate "expecting '\x7d'")
where
  decode (text : List Char) : Except Cause (List Char) :=
    if raw then .ok text else Literal.unescape text

def parts (parse : List Char → Except Cause Expr) (raw : Bool) (before : List Expr)
    (body : List Char) : Except Cause (List Expr) := do
  let (ps, rest) ← partsFrom parse raw (2 * body.length + 2) 0 before body
  if rest.isEmpty then return ps else .error (.badTemplate "unexpected end of string")

/-- The value of adjoining string literals: bytes, a text, or a template as soon as one of them is a
template. -/
def join (parse : List Char → Except Cause Expr) (literals : List (List Char)) :
    Except Cause Expr := do
  let all := literals.map Literal.split
  if all.any (·.bytes) then
    if all.all (·.bytes) then
      return .constant (.bytes (← all.mapM Literal.bytesValue).flatten)
    else .error (.badLiteral "cannot mix bytes and nonbytes literals")
  else
    let marked := (all.head?.map (·.marked)).getD false
    let ps ← all.foldlM (fun ps l => do
      if l.template then parts parse l.raw ps l.body
      else return pushText ps (← Literal.textValue l)) []
    if all.any (·.template) then return .template ps.reverse
    else match ps with
      | [.constant (.text s _)] => return .constant (.text s marked)
      | _ => return .constant (.text "" marked)

end Conch.Code.Template
