import Conch.Screen.Highlight.Code
import Conch.Screen.Known

/-!
# Colouring an input

An input that starts with a command is coloured as commands, and any other as code in which the
operators of commands are known too.
-/

namespace Conch.Screen

open Text Text.Pattern

/-- What is known about words while one colours. -/
structure Knowledge where
  isCommand : List Char → Bool
  isPath : List Char → Bool

/-- Characters that end the name of a command. -/
def endsCommand (c : Char) : Bool :=
  isBlank c || "=[]\x7b\x7d()$\"'`<&|;!".toList.contains c

/-- The name of a command: it must be followed by a blank, a closing bracket, `!` or nothing. -/
def commandName : Pattern :=
  sequence (oneOrMore (one fun c => !endsCommand c))
    (edge fun _ after => match after with
      | none => true
      | some c => isBlank c || [')', ']', '}', '!'].contains c)

def variableRule : Rule State := .plain (sequence (char '$') (oneOrMore wordChar)) .variableName

/-- The rules for code in an input. -/
def inputRules : List (Rule State) :=
  [.plain (literal ">>") .operator, .plain (oneOf "|<>&;") .operator, variableRule,
    .whole (char '(') .punctuation (.push .bracket),
    .whole (char '{') .punctuation (.push .brace)] ++
    codeRules

/-- The rules for what follows the name of a command. -/
def commandRules (known : Knowledge) : List (Rule State) :=
  [.whole (choice (literal "&&") (literal "||")) .operator (.push .commandStart),
    .plain (quotedWith '"') .double, .plain (quotedWith '\'') .single,
    .whole (char ';') .punctuation (.push .commandStart), .plain (oneOf "&=") .punctuation,
    .whole (char '|') .punctuation (.push .commandStart), .plain (oneOrMore blank) .text,
    ⟨[(oneOrMore (one fun c => c == '!' || !endsCommand c),
      .chosen fun s => if known.isPath s then .string else .text)], true, .stay⟩,
    .plain (oneOf "<>") .text, variableRule]
where
  /-- A string in quotation marks, in which a backslash protects what follows it. -/
  quotedWith (q : Char) : Pattern :=
    all [char q, many (first [literal "\\\\", sequence (char '\\') (oneOrMore octalDigit),
      sequence (char '\\') notNewline, one fun c => c != q && c != '\\']), char q]

/-- The rules for the name of a further command. -/
def commandStartRules (known : Knowledge) : List (Rule State) :=
  [.plain (oneOrMore blank) .whitespace,
    ⟨[(commandName, .chosen fun s => if known.isCommand s then .builtin else .text)], true, .pop⟩,
    .whole nothing .whitespace .pop]

def State.rules (known : Knowledge) : State → List (Rule State)
  | code => inputRules
  | bracket => .whole (char ')') .punctuation .pop :: inputRules
  | brace => .whole (char '}') .punctuation .pop :: inputRules
  | command => commandRules known
  | commandStart => commandStartRules known
  | field => fieldRules
  | fieldBracket => fieldBracketRules
  | matchWord => matchWordRules
  | functionName => functionNameRules
  | className => classNameRules
  | importing => importingRules
  | importingFrom => importingFromRules
  | string s => s.rules

/-- Colours an input in which inputs are nested no deeper than `depth`. -/
def highlightTo (known : Knowledge) : Nat → List Char → List Token
  | 0, _ => []
  | depth + 1, text =>
    let paint (state : State) (start : Nat) : List Token :=
      (paintText (State.rules known) .code (highlightTo known depth) state (text.drop start)).map
        fun t => { t with position := start + t.position }
    match lengths [many blank, commandName] (.start text) with
    | some [blanks, length] =>
      let name := (text.drop blanks).take length
      ⟨0, .whitespace, text.take blanks⟩ ::
        if known.isCommand name then
          ⟨blanks, .builtin, name⟩ :: paint .command (blanks + length)
        else paint .code blanks
    | _ => paint .code 0

/-- Colours an input. -/
def highlight (known : Knowledge) (text : List Char) : List Token :=
  highlightTo known (text.length + 1) text

/-- What the world tells about words. -/
def knowledgeOf (w : World) : Knowledge :=
  ⟨fun s => isCommand w (String.ofList s), fun s => isPath w (String.ofList s)⟩

end Conch.Screen
