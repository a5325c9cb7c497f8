import Conch.Code.Scope
import Conch.Eval.Name
import Conch.Eval.Operator

/-!
# Calls

The arguments of a call are bound to the parameters of a function, and its body is run in a frame of
its own. Calling a class makes an object of it.
-/

namespace Conch.Eval

open Code

def paramName : Param → String
  | .mk name _ _ => name

/-- Names in quotes, the last one joined by a word. -/
def enumerateNames (names : List String) : String :=
  let quoted := names.map fun n => "'" ++ n ++ "'"
  match quoted.reverse with
  | [] => ""
  | [a] => a
  | [b, a] => a ++ " and " ++ b
  | last :: front => ", ".intercalate front.reverse ++ ", and " ++ last

def pluralWord (n : Nat) (word : String) : String := if n = 1 then word else word ++ "s"

/-- The report on too many positional arguments. -/
def tooManyText (name : String) (least most given keywordOnly : Nat) : String :=
  let takes := if least < most then "from " ++ toString least ++ " to " ++ toString most
    else toString most
  let plural := if least < most then true else most ≠ 1
  let got :=
    if keywordOnly > 0 then
      toString given ++ " positional " ++ pluralWord given "argument" ++ " (and " ++
        toString keywordOnly ++ " keyword-only " ++ pluralWord keywordOnly "argument" ++
        ") were given"
    else toString given ++ (if given = 1 then " was given" else " were given")
  name ++ "() takes " ++ takes ++ " positional argument" ++ (if plural then "s" else "") ++
    " but " ++ got

def missingText (name kind : String) (names : List String) : String :=
  name ++ "() missing " ++ toString names.length ++ " required " ++ kind ++ " " ++
    pluralWord names.length "argument" ++ ": " ++ enumerateNames names

/-- Keyword arguments, sorted into those of parameters and others. -/
def bindKeywords (name : String) (onlyPositional open_ : List String) (keepsOthers : Bool)
    (bound others : Vars) : Vars → Run (Vars × Vars)
  | [] => return (bound, others)
  | (k, v) :: rest =>
    if open_.contains k then
      if bound.contains k then
        failType (name ++ "() got multiple values for argument '" ++ k ++ "'")
      else bindKeywords name onlyPositional open_ keepsOthers (bound ++ [(k, v)]) others rest
    else if keepsOthers then
      bindKeywords name onlyPositional open_ keepsOthers bound (others ++ [(k, v)]) rest
    else if onlyPositional.contains k then
      failType (name ++
        "() got some positional-only arguments passed as keyword arguments: '" ++ k ++
        "'")
    else failType (name ++ "() got an unexpected keyword argument '" ++ k ++ "'")

/-- The variables that a call of a function starts with. -/
def bindArguments (name : String) (params : Params) (defaults : Vars) (args : List Value)
    (keywords : Vars) : Run Vars := do
  let .mk positional plain rest keywordOnly keywordRest := params
  let front := positional.map paramName
  let ordered := front ++ plain.map paramName
  let only := keywordOnly.map paramName
  let given := ordered.zip args
  let (bound, others) ← bindKeywords name front (plain.map paramName ++ only) keywordRest.isSome
    given [] keywords
  let extra := args.drop ordered.length
  if !extra.isEmpty && rest.isNone then
    let least := (ordered.filter fun n => !defaults.contains n).length
    let onlyGiven := (only.filter bound.contains).length
    failType (tooManyText name least ordered.length args.length onlyGiven)
  let missing (names : List String) : List String :=
    names.filter fun n => !bound.contains n && !defaults.contains n
  match missing ordered, missing only with
  | n :: ns, _ => failType (missingText name "positional" (n :: ns))
  | [], n :: ns => failType (missingText name "keyword-only" (n :: ns))
  | [], [] =>
    let filled := (ordered ++ only).filterMap fun n =>
      ((bound.get? n).or (defaults.get? n)).map fun v => (n, v)
    let restVars : Vars := match rest with
      | some p => [(paramName p, .tuple extra)]
      | none => []
    let otherVars : Vars ← match keywordRest with
      | some p => do
        pure [(paramName p, ← make (.dict (others.map fun (k, v) => (.text k, v))))]
      | none => pure []
    return filled ++ restVars ++ otherVars

/-- Calls a function of the program. -/
def callFunction (m : Machine) (f : Function) (args : List Value) (keywords : Vars) :
    Run Value := do
  let vars ← bindArguments f.fullName f.params f.defaults args keywords
  let frame ← alloc (.frame
    ⟨.function, f.globals, f.parent, vars, f.scope, [], f.owner, f.fullName ++ ".<locals>."⟩)
  match f.body with
  | .result e => withFrame frame (m.eval e)
  | .block statements =>
    if f.yields then make (.iterator "generator" (.suspended frame statements))
    else
      match ← withFrame frame (m.exec statements) with
      | .ret v => return v
      | _ => return .none

/-- Where a syntax error is, by the items of its second argument. -/
def syntaxPlaces : List String :=
  ["filename", "lineno", "offset", "text", "end_lineno", "end_offset"]

/-- What a syntax error keeps of its arguments. -/
def syntaxAttrs (m : Machine) (args : List Value) : Run Vars := do
  let msg : Vars := [("msg", args.headD .none)]
  match args with
  | [_, info] =>
    let items ← collect m info
    if items.length < 4 then
      failType ("function takes at least 4 arguments (" ++ toString items.length ++ " given)")
    else if items.length > 6 then
      failType ("function takes at most 6 arguments (" ++ toString items.length ++ " given)")
    else if items.length = 5 then
      failType "end_offset must be provided when end_lineno is provided"
    else return msg ++ syntaxPlaces.zip items
  | _ => return msg

/-- Gives an error its arguments. -/
def initError (m : Machine) (self : Value) (args : List Value) : Run Unit := do
  match self, ← object? self with
  | .ref a, some (.instance cls attrs _) =>
    let known ← if ← isSubclass cls (.type "SyntaxError") then syntaxAttrs m args else pure []
    update a (.instance cls (known.foldl (fun vs (n, v) => vs.set n v) attrs) args)
  | _, _ => return

/-- Makes an object of a class of the program. -/
def instantiate (m : Machine) (cls : Value) (args : List Value) (keywords : Vars) : Run Value := do
  let name ← className cls
  let isErr ← isErrorType cls
  let self ← make (.instance cls [] (if isErr then args else []))
  match ← findInClass cls "__init__" with
  | some f =>
    match ← m.call f (self :: args) keywords with
    | .none => return self
    | other => failType ("__init__() should return None, not '" ++ (← typeName other) ++ "'")
  | none =>
    if isErr then
      if !keywords.isEmpty then failType (name ++ "() takes no keyword arguments")
      initError m self args
      return self
    else if args.isEmpty && keywords.isEmpty then return self
    else failType (name ++ "() takes no arguments")

/-- Parameters that can be given by position or by name. -/
def plainParams (names : List String) : Params :=
  .mk [] (names.map fun n => .mk n none none) none [] none

/-- Arguments by the names of parameters; the defaults are for the last ones. -/
def bindPlain (name : String) (names : List String) (defaults : Vars) (args : List Value)
    (keywords : Vars) : Run Vars :=
  bindArguments name (plainParams names) defaults args keywords

/-- An object that holds the outcome of a command. -/
def makeResult (code out err : Value) : Run Value :=
  make (.instance commandResult [("returncode", code), ("stdout", out), ("stderr", err)] [])

/-- Exactly one argument, for a function that takes none by name. -/
def oneArgument (name : String) (args : List Value) (keywords : Vars) : Run Value := do
  if !keywords.isEmpty then failType (name ++ "() takes no keyword arguments")
  match args with
  | [v] => return v
  | vs => failType (name ++ "() takes exactly one argument (" ++ toString vs.length ++ " given)")

def noKeywords (name : String) (keywords : Vars) : Run Unit := do
  if !keywords.isEmpty then failType (name ++ "() takes no keyword arguments")

/-- A number of arguments between two bounds, for a function that takes none by name. -/
def someArguments (name : String) (least most : Nat) (args : List Value) (keywords : Vars) :
    Run (List Value) := do
  noKeywords name keywords
  let n := args.length
  if least = most then
    if n = least then return args
    else failType (name ++ " expected " ++ toString least ++ " " ++ pluralWord least "argument" ++
      ", got " ++ toString n)
  else if n < least then
    failType (name ++ " expected at least " ++ toString least ++ " " ++
      pluralWord least "argument" ++
      ", got " ++ toString n)
  else if n > most then
    failType (name ++ " expected at most " ++ toString most ++ " " ++ pluralWord most "argument" ++
      ", got " ++ toString n)
  else return args

/-- Arguments of a library function: those given by position, then those given by name. -/
def namedArguments (name : String) (names : List String) (args : List Value) (keywords : Vars) :
    Run Vars := do
  if args.length > names.length then
    failType (name ++ "() takes at most " ++ toString names.length ++ " " ++
      pluralWord names.length "argument" ++ " (" ++
      toString (args.length + keywords.length) ++ " given)")
  let given := names.zip args
  keywords.foldlM (fun bound (k, v) => do
    if !names.contains k then
      failType ("'" ++ k ++ "' is an invalid keyword argument for " ++ name ++ "()")
    else if bound.contains k then
      failType ("argument for " ++ name ++ "() given by name ('" ++ k ++ "') and position (" ++
        toString ((names.idxOf k) + 1) ++ ")")
    else return bound ++ [(k, v)]) given

end Conch.Eval
