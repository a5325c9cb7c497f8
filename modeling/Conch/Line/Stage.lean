import Conch.Line.Word

/-!
# Stages of a pipeline

The words of a command are cut at `|` into stages, and each stage into its command and its
redirections. A redirection takes the word behind its operator, whatever that is; an operator at the
end of a stage is dropped.
-/

namespace Conch.Line

/-- How a target is opened: emptied first, or written to at its end. -/
inductive OpenMode where
  | write
  | append
  deriving DecidableEq, Repr

def OpenMode.text : OpenMode → String
  | .write => "w"
  | .append => "a"

structure Redirect where
  path : String
  mode : OpenMode
  deriving DecidableEq, Repr

structure Stage where
  words : List String
  out : List Redirect
  err : List Redirect
  deriving DecidableEq, Repr

/-- Cuts words at `|`; `stage` holds the words of the current stage, last first. Empty stages are
left out. -/
def splitStagesFrom (stage : List String) : List String → List (List String)
  | [] => if stage.isEmpty then [] else [stage.reverse]
  | w :: ws =>
    if w = "|" then
      if stage.isEmpty then splitStagesFrom [] ws else stage.reverse :: splitStagesFrom [] ws
    else splitStagesFrom (w :: stage) ws

def splitStages (words : List String) : List (List String) := splitStagesFrom [] words

/-- What a redirection operator does: the error stream or the output, and how the target is
opened. -/
structure RedirectOperator where
  toErr : Bool
  mode : OpenMode
  deriving DecidableEq, Repr

def RedirectOperator.ofWord? (w : String) : Option RedirectOperator :=
  if w = ">" ∨ w = "1>" then some ⟨false, .write⟩
  else if w = ">>" ∨ w = "1>>" then some ⟨false, .append⟩
  else if w = "2>" then some ⟨true, .write⟩
  else if w = "2>>" then some ⟨true, .append⟩
  else none

def Stage.ofWords : List String → Stage
  | [] => ⟨[], [], []⟩
  | [w] => if (RedirectOperator.ofWord? w).isSome then ⟨[], [], []⟩ else ⟨[w], [], []⟩
  | w :: path :: rest =>
    match RedirectOperator.ofWord? w with
    | some op =>
      let s := Stage.ofWords rest
      if op.toErr then { s with err := ⟨path, op.mode⟩ :: s.err }
      else { s with out := ⟨path, op.mode⟩ :: s.out }
    | none =>
      let s := Stage.ofWords (path :: rest)
      { s with words := w :: s.words }

def pipelineOfWords (words : List String) : List Stage := (splitStages words).map Stage.ofWords

/-- The pipeline that a command denotes. -/
def pipeline (command : String) : List Stage :=
  pipelineOfWords ((commandWords command.toList).map String.ofList)

/-- A command that denotes the given words, stage by stage; empty stages are left out. -/
def render (stages : List (List String)) : String :=
  let stage (ws : List String) : String :=
    " ".intercalate (ws.map fun w => String.ofList (quoteWord w.toList))
  " | ".intercalate ((stages.map stage).filter fun s => !s.isEmpty)

/-- Whether a text starts with a redirection operator between blanks, the first of which has been
read. -/
def startsRedirect (rest : List Char) : Bool :=
  let behind := match rest with
    | '2' :: tail => tail
    | '&' :: tail => tail
    | tail => tail
  match behind with
  | '>' :: '>' :: c :: _ => Text.isBlank c
  | '>' :: c :: _ => Text.isBlank c
  | _ => false

/-- Whether a command looks as if it had a redirection: an operator between blanks, even inside
quotes. -/
def hasRedirect : List Char → Bool
  | [] => false
  | c :: rest => (Text.isBlank c && startsRedirect rest) || hasRedirect rest

end Conch.Line
