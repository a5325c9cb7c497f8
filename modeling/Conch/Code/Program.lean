import Conch.Code.Grammar.Stmt

/-!
# Reading a program

From a text to a tree, or to the fault that keeps it from being one. A text that does not fit the
grammar is reported at the furthest token that was looked at; a bad literal or bracket further on is
reported in its place.
-/

namespace Conch.Code

inductive Rejection where
  | fault (fault : Fault)
  /-- The text holds the NUL character. -/
  | nul

/-- How a text is read: as what, and whether the end of the text closes open blocks. -/
structure Reading where
  mode : Mode
  impliedDedent : Bool

def Reading.tokens (r : Reading) (text : List Char) : List Token :=
  let text := Scan.unifyLines text
  match r.mode with
  | .module => Scan.tokens (if text.getLast? == some '\n' then text else text ++ ['\n'])
  | .expression => Scan.tokens text
  | .interactive => Scan.endPrompt r.impliedDedent (Scan.tokens text)

/-- Faults of single tokens, which are reported even behind the place where the grammar fails. -/
def Cause.isLexical : Cause → Bool
  | .unterminated _ | .unterminatedLong _ | .unmatched _ | .closedBy .. | .badCharacter _
  | .hiddenCharacter _ | .badNumber _ | .tooManyBrackets => true
  | _ => false

def lexicalFault? (tokens : List Token) : Option Fault :=
  tokens.findSome? fun t => match t.kind with
    | .fault cause => if cause.isLexical then some ⟨cause, t.line, t.col + 1⟩ else none
    | _ => none

/-- The report on a text that does not fit the grammar: at its furthest token. -/
def mismatchFault (tokens : List Token) (seen : Nat) : Fault :=
  match tokens[seen - 1]? with
  | none => ⟨.unexpected, 1, 1⟩
  | some t =>
    match t.kind with
    | .indent => ⟨.unexpectedIndent, t.line, t.col⟩
    | .dedent => ⟨.unexpectedDedent, t.line, t.col⟩
    | _ => (lexicalFault? tokens).getD ⟨.unexpected, t.line, t.col + 1⟩

inductive Outcome where
  | ok (program : Program)
  /-- `exhausted` when the fault was met at the end of the text. -/
  | rejected (why : Rejection) (exhausted : Bool)

/-- Whether anything but blanks and comments is left. -/
def hasMore : Bool → List Char → Bool
  | _, [] => false
  | inComment, c :: rest =>
    if inComment then hasMore (c != '\n') rest
    else if c == ' ' || c == '\t' || c == '\n' || c == '\x0c' then hasMore false rest
    else if c == '#' then hasMore true rest
    else true

def Grammar.program (g : Grammar) : Mode → Reader Program
  | .module => .module <$> g.moduleBody
  | .expression => .expression <$> g.wholeExpression
  | .interactive => .interactive <$> g.promptBody

def read (r : Reading) (text : String) : Outcome :=
  let cs := text.toList
  if cs.contains '\x00' then .rejected .nul false
  else
    let tokens := r.tokens cs
    let (result, cursor) := ((grammar (cs.length + 8)).program r.mode).run ⟨tokens, 0, 0⟩
    let exhausted := (tokens[cursor.seen - 1]?.map (·.atEnd)).getD true
    match result with
    | .error .mismatch => .rejected (.fault (mismatchFault tokens cursor.seen)) exhausted
    | .error (.fault f) => .rejected (.fault f) exhausted
    | .ok program =>
      let stop := (tokens[cursor.seen - 1]?.map (·.stop)).getD 0
      if r.mode == .interactive && hasMore false ((Scan.unifyLines cs).drop stop) then
        .rejected (.fault ⟨.severalStatements, 1, 1⟩) exhausted
      else .ok program

def parse (mode : Mode) (text : String) : Except Rejection Program :=
  match read ⟨mode, true⟩ text with
  | .ok program => .ok program
  | .rejected why _ => .error why

end Conch.Code
