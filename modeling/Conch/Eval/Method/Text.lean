import Conch.Eval.Call
import Conch.Text.Alphabet
import Conch.Text.Case
import Conch.Text.Letter

/-!
# Methods of texts
-/

namespace Conch.Eval.Method

open Eval

/-- A text argument of a method. -/
def expectTextArg (method : String) (v : Value) : Run (List Char) := do
  match v with
  | .text s => return s.toList
  | v => failType (method ++ "() argument must be str, not " ++ (← typeName v))

def argumentNumber (method : String) (k : Nat) (v : Value) : Run (List Char) := do
  match v with
  | .text s => return s.toList
  | v => failType (method ++ "() argument " ++ toString k ++ " must be str, not " ++ (← typeName v))

def toText (cs : List Char) : Value := .text (String.ofList cs)

def textList (parts : List (List Char)) : Run Value := make (.list (parts.map toText))

/-- The limit on the number of cuts; a negative one means none. -/
def cutLimit (m : Machine) (v : Option Value) (size : Nat) : Run Nat := do
  match v with
  | none => return size + 1
  | some v =>
    let n ← expectIndex m v
    return if n < 0 then size + 1 else n.toNat

def stripWith (name : String) (left right : Bool) (s : List Char) (args : List Value) :
    Run Value := do
  let set : Option (List Char) ← match args with
    | [] | [.none] => pure none
    | [.text t] => pure (some t.toList)
    | _ => failType (name ++ " arg must be None or str")
  let s := if left then match set with
    | none => Text.trimLeft s
    | some t => Text.trimLeftOf t s
    else s
  let s := if right then match set with
    | none => Text.trimRight s
    | some t => Text.trimRightOf t s
    else s
  return toText s

/-- A part of a text between two optional positions, and where it starts. -/
def window (m : Machine) (s : List Char) (bounds : List Value) :
    Run (Option (List Char × Nat)) := do
  let start ← match bounds[0]? with
    | some v => sliceBound m v
    | none => pure none
  let stop ← match bounds[1]? with
    | some v => sliceBound m v
    | none => pure none
  let size : Int := s.length
  let low := start.getD 0
  let low := if low < 0 then max 0 (low + size) else low
  let high := stop.getD size
  let high := if high < 0 then max 0 (high + size) else min high size
  if low > size || low > high then return none
  else return some ((s.drop low.toNat).take (high - low).toNat, low.toNat)

/-- The position of a part of a text, from the left or from the right. -/
def positionIn (m : Machine) (name : String) (last : Bool) (s : List Char) (args : List Value) :
    Run (Option Nat) := do
  match args with
  | [] => failType (name ++ " expected at least 1 argument, got 0")
  | part :: bounds =>
    let part ← match part with
      | .text t => pure t.toList
      | v => failType ("must be str, not " ++ (← typeName v))
    match ← window m s bounds with
    | none => return none
    | some (inside, offset) =>
      let found := if last then Text.findLast? part inside else Text.find? part inside
      return found.map (· + offset)

/-- Whether a text starts or ends with one of some parts. -/
def matchesEnd (m : Machine) (name : String) (atStart : Bool) (s : List Char) (args : List Value) :
    Run Value := do
  match args with
  | [] => failType (name ++ " expected at least 1 argument, got 0")
  | part :: bounds =>
    let parts ← match part with
      | .text t => pure [t.toList]
      | .tuple vs => vs.mapM fun v => do
        match v with
        | .text t => return t.toList
        | v => failType ("tuple for " ++ name ++ " must only contain str, not " ++ (← typeName v))
      | v => failType (name ++ " first arg must be str or a tuple of str, not " ++ (← typeName v))
    match ← window m s bounds with
    | none => return .bool false
    | some (inside, _) =>
      return .bool (parts.any fun p => if atStart then p.isPrefixOf inside else p.isSuffixOf inside)

def joinTexts (m : Machine) (sep : List Char) (v : Value) : Run Value := do
  let vs ← match v with
    | .none | .bool _ | .int _ | .float _ | .ellipsis | .type _ | .builtin _ =>
      failType "can only join an iterable"
    | v => collect m v
  let parts ← vs.zipIdx.mapM fun (v, k) => do
    match v with
    | .text s => return s.toList
    | v => failType ("sequence item " ++ toString k ++ ": expected str instance, " ++
        (← typeName v) ++ " found")
  return toText (sep.intercalate parts)

def fillChar (args : List Value) : Run Char := do
  match args with
  | [] => return ' '
  | .text s :: _ => match s.toList with
    | [c] => return c
    | _ => failType "The fill character must be exactly one character long"
  | v :: _ => failType ("The fill character must be a unicode character, not " ++ (← typeName v))

def padded (m : Machine) (name : String) (lay : Nat → Char → List Char → List Char) (s : List Char)
    (args : List Value) : Run Value := do
  match args with
  | [] => failType (name ++ " expected at least 1 argument, got 0")
  | width :: rest => return toText (lay (← expectIndex m width).toNat (← fillChar rest) s)

def splitText (m : Machine) (name : String) (fromRight : Bool) (s : List Char) (args : List Value)
    (keywords : Vars) : Run Value := do
  let given ← namedArguments name ["sep", "maxsplit"] args keywords
  let limit ← cutLimit m (given.get? "maxsplit") s.length
  match given.get? "sep" with
  | none | some .none =>
    textList (if fromRight then Text.cutBlankLast limit s else Text.cutBlank limit s)
  | some (.text sep) =>
    if sep.isEmpty then failValue "empty separator"
    else
      textList (if fromRight then Text.cutLast sep.toList s limit else Text.cut sep.toList s limit)
  | some v => failType ("must be str or None, not " ++ (← typeName v))

def partitionText (fromRight : Bool) (s sep : List Char) : Run Value := do
  if sep.isEmpty then failValue "empty separator"
  match if fromRight then Text.findLast? sep s else Text.find? sep s with
  | some k => return .tuple [toText (s.take k), toText sep, toText (s.drop (k + sep.length))]
  | none =>
    return .tuple
      (if fromRight then [.text "", .text "", toText s] else [toText s, .text "", .text ""])

def isCased (c : Char) : Bool := Text.isUpperCase c || Text.isLowerCase c

/-- Whether capitals follow small things only, and small letters letters only. -/
def isTitled (inside seen : Bool) : List Char → Bool
  | [] => seen
  | c :: rest =>
    if Text.isUpperCase c then !inside && isTitled true true rest
    else if Text.isLowerCase c then inside && isTitled true true rest
    else isTitled false seen rest

def everyChar (s : List Char) (test : Char → Bool) : Value := .bool (!s.isEmpty && s.all test)

/-- A table from characters to what takes their place. -/
def mapChars (m : Machine) (table : Value) (s : List Char) : Run Value := do
  let parts ← s.mapM fun c => do
    let found ← tryCatch (some <$> getItem m table (.int c.toNat)) fun _ => return none
    match found with
    | none => return [c]
    | some .none => return []
    | some (.text t) => return t.toList
    | some v => match Number.asInt? v with
      | some n => return [Char.ofNat n.toNat]
      | none => failType "character mapping must return integer, None or str"
  return toText parts.flatten

def characterTable (args : List Value) : Run Value := do
  match args with
  | [.text source, .text target] =>
    if source.length ≠ target.length then
      failValue "the first two maketrans arguments must have equal length"
    make (.dict ((source.toList.zip target.toList).map fun (a, b) => (.int a.toNat, .int b.toNat)))
  | [.text source, .text target, .text gone] =>
    if source.length ≠ target.length then
      failValue "the first two maketrans arguments must have equal length"
    let kept := (source.toList.zip target.toList).map fun (a, b) =>
      (Value.int a.toNat, Value.int b.toNat)
    make (.dict (kept ++ gone.toList.map fun c => (Value.int c.toNat, Value.none)))
  | [v] => match ← object? v with
    | some (.dict es) =>
      make (.dict (es.map fun (k, v) => match k with
        | .text t => (.int ((t.toList.head?.map Char.toNat).getD 0), v)
        | k => (k, v)))
    | _ => failType "if you give only one argument to maketrans it must be a dict"
  | _ => failType "maketrans expected at least 1 argument, got 0"

def noArguments (name : String) (args : List Value) (keywords : Vars) : Run Unit := do
  if !keywords.isEmpty then failType ("str." ++ name ++ "() takes no keyword arguments")
  if !args.isEmpty then
    failType ("str." ++ name ++ "() takes no arguments (" ++ toString args.length ++ " given)")

/-- Methods of texts that take no arguments. -/
def plainText? (name : String) (s : List Char) : Option Value :=
  match name with
  | "upper" => some (toText (Text.upper s))
  | "lower" | "casefold" => some (toText (Text.lower s))
  | "title" => some (toText (Text.title s))
  | "capitalize" => some (toText (Text.capitalize s))
  | "swapcase" => some (toText (Text.swapCase s))
  | "isalpha" => some (everyChar s Text.isLetter)
  | "isdecimal" => some (everyChar s Text.isDecimal)
  | "isdigit" => some (everyChar s Text.isDigit)
  | "isnumeric" => some (everyChar s Text.isNumeral)
  | "isalnum" => some (everyChar s Text.isLetterOrNumeral)
  | "isspace" => some (everyChar s Text.isBlank)
  | "isupper" => some (.bool (s.any isCased && s.all fun c => !Text.isLowerCase c))
  | "islower" => some (.bool (s.any isCased && s.all fun c => !Text.isUpperCase c))
  | "istitle" => some (.bool (isTitled false false s))
  | "isascii" => some (.bool (s.all fun c => c.toNat < 128))
  | "isidentifier" => some (.bool (Text.isIdentifier s))
  | "isprintable" => some (.bool (s.all Text.isPrintable))
  | _ => none

/-- Calls a method of a text. -/
def ofText (m : Machine) (name : String) (text : String) (args : List Value) (keywords : Vars) :
    Run Value := do
  let s := text.toList
  match plainText? name s with
  | some v =>
    noArguments name args keywords
    return v
  | none => match name with
    | "strip" => stripWith name true true s args
    | "lstrip" => stripWith name true false s args
    | "rstrip" => stripWith name false true s args
    | "split" => splitText m name false s args keywords
    | "rsplit" => splitText m name true s args keywords
    | "splitlines" =>
      let given ← namedArguments name ["keepends"] args keywords
      let keep ← match given.get? "keepends" with
        | some v => truth m v
        | none => pure false
      textList (Text.lines keep s)
    | "join" => joinTexts m s (← oneArgument "str.join" args keywords)
    | "replace" => match args with
      | old :: new :: rest =>
        let old ← argumentNumber name 1 old
        let new ← argumentNumber name 2 new
        return toText (Text.replace old new (← cutLimit m rest.head? s.length) s)
      | _ => failType ("replace expected at least 2 arguments, got " ++ toString args.length)
    | "find" | "rfind" =>
      return .int (match ← positionIn m name (name = "rfind") s args with
        | some k => k
        | none => -1)
    | "index" | "rindex" => match ← positionIn m name (name = "rindex") s args with
      | some k => return .int k
      | none => failValue "substring not found"
    | "count" => match args with
      | .text part :: bounds => match ← window m s bounds with
        | some (inside, _) => return .int (Text.countOf part.toList inside)
        | none => return .int 0
      | v :: _ => failType ("must be str, not " ++ (← typeName v))
      | [] => failType "count expected at least 1 argument, got 0"
    | "startswith" => matchesEnd m name true s args
    | "endswith" => matchesEnd m name false s args
    | "removeprefix" =>
      let part ← expectTextArg name (← oneArgument ("str." ++ name) args keywords)
      return toText (if part.isPrefixOf s then s.drop part.length else s)
    | "removesuffix" =>
      let part ← expectTextArg name (← oneArgument ("str." ++ name) args keywords)
      return toText (if part.isSuffixOf s then s.take (s.length - part.length) else s)
    | "partition" | "rpartition" => match ← oneArgument ("str." ++ name) args keywords with
      | .text sep => partitionText (name = "rpartition") s sep.toList
      | v => failType ("must be str, not " ++ (← typeName v))
    | "center" => padded m name Text.centre s args
    | "ljust" => padded m name Text.padEnd s args
    | "rjust" => padded m name Text.padStart s args
    | "zfill" =>
      let width ← expectIndex m (← oneArgument ("str." ++ name) args keywords)
      return toText (Text.zeroFill width.toNat s)
    | "expandtabs" =>
      let given ← namedArguments name ["tabsize"] args keywords
      let size ← match given.get? "tabsize" with
        | some v => expectIndex m v
        | none => pure 8
      return toText (Text.expandTabs size.toNat 0 s)
    | "format" => .text <$> braceFormat m text args keywords
    | "format_map" =>
      let v ← oneArgument ("str." ++ name) args keywords
      let entries ← match ← object? v with
        | some (.dict es) => pure es
        | _ => pure []
      .text <$> braceFormat m text [] (entries.filterMap fun (k, v) => match k with
        | .text t => some (t, v)
        | _ => none)
    | "encode" => return .bytes (Text.encode text)
    | "translate" => mapChars m (← oneArgument ("str." ++ name) args keywords) s
    | "maketrans" => characterTable args
    | _ => fail (.noAttribute "str" name)

end Conch.Eval.Method
