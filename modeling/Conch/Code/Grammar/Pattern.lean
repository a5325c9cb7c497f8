import Conch.Code.Grammar.Expr

/-!
# The grammar of patterns

What may follow `case`: literals, captures, sequences, mappings, objects and alternatives of them.
-/

namespace Conch.Code.Grammar

open Reader

variable (g : Grammar)

/-- Marks that show that a name is not a capture. -/
def continuesName : Reader Bool := do
  return (← nextMark ".") || (← nextMark "(") || (← nextMark "=")

def captureTarget : Reader String := do
  let n ← name
  if n == "_" then mismatch
  if ← continuesName then mismatch
  return n

def signedNumber : Reader Expr := do
  let negative ← mark? "-"
  unless (← peek).kind == .number do mismatch
  let e ← number
  return if negative then .unary .minus e else e

/-- A number, or a real part and an imaginary one. -/
def numberPattern : Reader Expr := do
  let left ← signedNumber
  match ← markIn? [("+", BinaryOp.add), ("-", .sub)] with
  | none => return left
  | some op =>
    unless (← peek).kind == .number do mismatch
    let right ← number
    match right with
    | .constant (.imaginary _) => return .binary op left right
    | _ => mismatch

def dottedName (first : String) : Reader Expr :=
  extend (.name first) fun e => do
    if ← mark? "." then return some (.attribute e (← name)) else return none

def starPattern : Reader Pattern := do
  mark "*"
  let n ← name
  if n == "_" then return .star none
  if ← continuesName then mismatch
  return .star (some n)

def maybeStarPattern : Reader Pattern := do
  if ← nextMark "*" then starPattern else g.pattern

def patternItems (closing : String) : Reader (List Pattern × Bool) := do
  if ← nextMark closing then return ([], false)
  commaSeparated g.maybeStarPattern

def objectItem (r : List Pattern × List NamedPattern) :
    Reader (List Pattern × List NamedPattern) := do
  match ← keywordName? with
  | some n => return (r.1, r.2 ++ [.mk n (← g.pattern)])
  | none =>
    if !r.2.isEmpty then mismatch
    return (r.1 ++ [← g.pattern], r.2)

def objectItems : Reader (List Pattern × List NamedPattern) := do
  if ← mark? ")" then return ([], [])
  let first ← g.objectItem ([], [])
  let all ← extend first fun r => do
    if ← mark? "," then
      if ← nextMark ")" then return none
      return some (← g.objectItem r)
    else return none
  mark ")"
  return all

def namePattern : Reader Pattern := do
  let n ← name
  let e ← dottedName n
  if ← mark? "(" then
    let (items, attributes) ← g.objectItems
    return .object e items attributes
  match e with
  | .name _ =>
    if ← nextMark "=" then mismatch
    if n == "_" then return .capture none none
    return .capture none (some n)
  | _ =>
    if ← nextMark "=" then mismatch
    return .value e

def mappingKey : Reader Expr := do
  let t ← peek
  match t.kind with
  | .literal => g.strings
  | .word =>
    if t.text == "None" then drop; return .constant .none
    else if t.text == "True" then drop; return .constant (.bool true)
    else if t.text == "False" then drop; return .constant (.bool false)
    else
      let e ← dottedName (← name)
      match e with
      | .name _ => mismatch
      | _ => return e
  | _ => numberPattern

structure MappingRead where
  items : List KeyPattern
  rest : Option String

def mappingItem (r : MappingRead) : Reader MappingRead := do
  if r.rest.isSome then mismatch
  if ← mark? "**" then return { r with rest := some (← captureTarget) }
  let key ← g.mappingKey
  mark ":"
  return { r with items := r.items ++ [.mk key (← g.pattern)] }

def mappingPattern : Reader Pattern := do
  if ← mark? "\x7d" then return .mapping [] none
  let first ← g.mappingItem ⟨[], none⟩
  let all ← extend first fun r => do
    if ← mark? "," then
      if ← nextMark "\x7d" then return none
      return some (← g.mappingItem r)
    else return none
  mark "\x7d"
  return .mapping all.items all.rest

def closedPattern : Reader Pattern := do
  let t ← peek
  match t.kind with
  | .literal => return .value (← g.strings)
  | .number => return .value (← numberPattern)
  | .word =>
    if t.text == "None" then drop; return .singleton .none
    else if t.text == "True" then drop; return .singleton (.bool true)
    else if t.text == "False" then drop; return .singleton (.bool false)
    else g.namePattern
  | .mark =>
    if t.text == "-" then return .value (← numberPattern)
    else if t.text == "(" then
      drop
      let (items, comma) ← g.patternItems ")"
      mark ")"
      match items, comma with
      | [.star n], false => let _ := n; mismatch
      | [p], false => return p
      | ps, _ => return .sequence ps
    else if t.text == "[" then
      drop
      let (items, _) ← g.patternItems "]"
      mark "]"
      return .sequence items
    else if t.text == "\x7b" then
      drop
      g.mappingPattern
    else mismatch
  | _ => mismatch

def patternStep : Reader Pattern := do
  let first ← g.closedPattern
  let rest ← many do
    if ← mark? "|" then return some (← g.closedPattern) else return none
  let p := if rest.isEmpty then first else .either (first :: rest)
  if ← word? "as" then return .capture (some p) (some (← captureTarget))
  return p

/-- The pattern of a case: a comma makes a sequence. -/
def openPattern : Reader Pattern := do
  let item : Reader Pattern := do
    if ← nextMark "*" then starPattern else g.patternStep
  let (items, comma) ← commaSeparated item
  match items, comma with
  | [.star _], false => mismatch
  | [p], false => return p
  | ps, _ => return .sequence ps

end Conch.Code.Grammar
