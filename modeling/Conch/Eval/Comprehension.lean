import Conch.Code.Scope
import Conch.Eval.Assign

/-!
# Comprehensions and generators

A comprehension goes through its sources and gives a value for every round that passes its
conditions. It runs in a frame of its own, except that its first source is evaluated outside. A
generator expression with one source gives its values on demand; generators of other forms compute
all their values when the first is asked for.
-/

namespace Conch.Eval

open Code

/-- Whether all conditions hold. -/
def allHold (m : Machine) : List Expr → Run Bool
  | [] => return true
  | e :: es => do
    if ← truth m (← m.eval e) then allHold m es else return false

/-- Runs `emit` for every round of some clauses. The first source may be given as an iterator. -/
def overClauses {β : Type} (m : Machine) (emit : β → Run β) :
    List Clause → Option Value → β → Run β
  | [], _, acc => emit acc
  | .mk _ target source conditions :: rest, first, acc => do
    let it ← match first with
      | some it => pure it
      | none => do iterator m (← m.eval source)
    foldIterator m it (fun v acc => do
      assignTo m target v
      if ← allHold m conditions then overClauses m emit rest none acc else return acc)
      manyRounds acc

/-- The names of a comprehension: its targets are its own. -/
def comprehensionScope (parts : Usage) (clauses : List Clause) : Scope :=
  let targets := clauseTargets clauses
  ⟨targets, (parts.used.filter (!targets.contains ·)), [], []⟩

/-- The first source of some clauses as an iterator, and a frame for the rest. -/
def enterComprehension (m : Machine) (parts : Usage) (clauses : List Clause) :
    Run (Value × Addr) := do
  let source ← match clauses with
    | .mk _ _ source _ :: _ => m.eval source
    | [] => pure (.tuple [])
  let it ← iterator m source
  let around ← currentFrame
  let frame ← alloc (.frame
    { around with
      kind := .comprehension, parent := some (← get).frame, vars := [], yielded := [],
      scope := comprehensionScope (parts ++ usageInClauses true clauses) clauses })
  return (it, frame)

/-- All values of a comprehension. -/
def comprehend (m : Machine) (parts : Usage) (clauses : List Clause) (emit : Run Value) :
    Run (List Value) := do
  let (it, frame) ← enterComprehension m parts clauses
  let reversed ← withFrame frame
    (overClauses m (fun acc => do return (← emit) :: acc) clauses (some it) [])
  return reversed.reverse

/-- Adds to what a generator has given. -/
def giveValue (v : Value) : Run Unit := do
  let a := (← get).frame
  let f ← currentFrame
  update a (.frame { f with yielded := v :: f.yielded })

/-- Runs a generator to its end; what it gave is kept even if it fails. -/
def exhaust (frame : Addr) (x : Run Unit) : Run Iterator := do
  let failure : Option Value ← tryCatch (withFrame frame (do x; return none)) fun e => match e with
    | .exception v => return some v
    | .exhausted => throw e
  return .items (← frameAt frame).yielded.reverse failure

/-- The next value that a generator expression of one clause gives. -/
def nextOfClause (m : Machine) (frame : Addr) (element target : Expr) (conditions : List Expr)
    (source : Value) : Nat → Run (Option Value)
  | 0 => throw .exhausted
  | n + 1 => do
    match ← m.advance source with
    | none => return none
    | some v =>
      let given ← withFrame frame (do
        assignTo m target v
        if ← allHold m conditions then some <$> m.eval element else return none)
      match given with
      | some r => return some r
      | none => nextOfClause m frame element target conditions source n

/-- The next values of several iterators, if all have one. -/
def advanceAll (m : Machine) : List Value → Run (Option (List Value))
  | [] => return some []
  | it :: its => do
    match ← m.advance it with
    | none => return none
    | some v => return (← advanceAll m its).map (v :: ·)

/-- The next value that passes a test. -/
def nextPassing (m : Machine) (test source : Value) : Nat → Run (Option Value)
  | 0 => throw .exhausted
  | n + 1 => do
    match ← m.advance source with
    | none => return none
    | some v =>
      let passes ← match test with
        | .none => truth m v
        | test => do truth m (← m.call test [v] [])
      if passes then return some v else nextPassing m test source n

def nextItem (a : Addr) (kind : String) (rest : List Value) (failure : Option Value) :
    Run (Option Value) := do
  match rest with
  | v :: vs =>
    update a (.iterator kind (.items vs failure))
    return some v
  | [] => match failure with
    | some e =>
      update a (.iterator kind (.items [] none))
      raise e
    | none => return none

def advanceIterator (m : Machine) (a : Addr) (kind : String) (state : Iterator) :
    Run (Option Value) := do
  match state with
  | .items rest failure => nextItem a kind rest failure
  | .cursor list index => match ← object list with
    | .list vs => match vs[index]? with
      | some v =>
        update a (.iterator kind (.cursor list (index + 1)))
        return some v
      | none =>
        update a (.iterator kind (.items [] none))
        return none
    | _ => return none
  | .count next stop step =>
    if (step > 0 && next < stop) || (step < 0 && next > stop) then
      update a (.iterator kind (.count (next + step) stop step))
      return some (.int next)
    else return none
  | .mapped f sources => match ← advanceAll m sources with
    | some vs => some <$> m.call f vs []
    | none => return none
  | .filtered test source => nextPassing m test source manyRounds
  | .zipped sources =>
    if sources.isEmpty then return none
    else return (← advanceAll m sources).map .tuple
  | .enumerated source index => match ← m.advance source with
    | some v =>
      update a (.iterator kind (.enumerated source (index + 1)))
      return some (.tuple [.int index, v])
    | none => return none
  | .comprehension frame element [.mk _ target _ conditions] source =>
    nextOfClause m frame element target conditions source manyRounds
  | .comprehension frame element clauses source =>
    match ← exhaust frame (overClauses m (fun _ => do giveValue (← m.eval element)) clauses
        (some source) ()) with
    | .items rest failure => nextItem a kind rest failure
    | _ => return none
  | .suspended frame statements =>
    let run : Run Unit := do
      let _ ← m.exec statements
    match ← exhaust frame run with
    | .items rest failure => nextItem a kind rest failure
    | _ => return none

def isKind (cls : Value) (above : String) : Run Bool := isSubclass cls (.type above)

/-- The next value that an iterator gives. -/
def advanceValue (m : Machine) (v : Value) : Run (Option Value) := do
  match v with
  | .ref a => match ← object a with
    | .iterator kind state => advanceIterator m a kind state
    | .file f =>
      if f.closed then failValue "I/O operation on closed file."
      let (line, rest) := firstLine (← unreadText f)
      update a (.file { f with unread := encodeChars rest })
      return if line.isEmpty then none else some (.text (String.ofList line))
    | .instance cls _ _ =>
      match ← findInClass cls "__next__" with
      | some f =>
        tryCatch (some <$> m.call f [v] []) fun e => do
          match e with
          | .exception x => match ← object? x with
            | some (.instance c _ _) =>
              if ← isKind c "StopIteration" then return none else throw e
            | _ => throw e
          | .exhausted => throw e
      | none => fail (.notIterator (← className cls))
    | _ => fail (.notIterator (← typeName v))
  | v => fail (.notIterator (← typeName v))

end Conch.Eval
