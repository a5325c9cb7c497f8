import Conch.Screen.Highlight.Strings
import Conch.Screen.Highlight.Words

/-!
# Colouring code

The rules for code outside of strings: words, numbers, operators and brackets, and the states behind
words that announce a name.
-/

namespace Conch.Screen

open Text Text.Pattern

/-- Words that are not reached through a dot. -/
def freeWord (words : List String) : Pattern := sequence (notBehind '.') (word words)

def magicFunctionRule : Rule State :=
  .plain (word (magicFunctionStems.map magicName)) .magicFunction

def magicVariableRule : Rule State :=
  .plain (word (magicVariableStems.map magicName)) .magicVariable

/-- Digits with single underscores between them. -/
def digits : Pattern := sequence digit (many (sequence (maybe (char '_')) digit))

def exponent : Pattern := all [oneOf "eE", maybe (oneOf "+-"), digits]

/-- Digits of a base behind a zero and a letter. -/
def based (letter : String) (digit : Pattern) : Pattern :=
  all [char '0', oneOf letter, oneOrMore (sequence (maybe (char '_')) digit)]

def numberRules : List (Rule State) :=
  [.plain (sequence (choice (all [digits, char '.', maybe digits])
      (all [maybe digits, char '.', digits])) (maybe exponent)) .float,
    .plain (all [digits, exponent, maybe (char 'j')]) .float,
    .plain (based "oO" octalDigit) .octal, .plain (based "bB" (oneOf "01")) .binary,
    .plain (based "xX" hexDigit) .hexadecimal, .plain digits .integer]

def nameRules : List (Rule State) :=
  [.plain (sequence (char '@') name) .decorator, .plain (char '@') .operator, .plain name .name]

def operatorPattern : Pattern :=
  first [literal "!=", literal "==", literal "<<", literal ">>", literal ":=",
    oneOf "-~+/*%=<>&^|."]

def expressionRules : List (Rule State) :=
  allStringStarts ++ [.plain (oneOrMore (one fun c => isBlank c && c != '\n')) .text] ++
    numberRules ++
    [.plain operatorPattern .operator,
      .plain (one fun c => [']', '{', '}', ':', '(', ')', ',', ';', '['].contains c) .punctuation,
      .plain (word operatorWords) .operatorWord, .plain (word expressionWords) .keyword,
      .plain (word constantWords) .constant, .plain (freeWord builtinWords) .builtin,
      .plain (freeWord pseudoWords) .pseudo, .plain (freeWord exceptionWords) .exception,
      magicFunctionRule, magicVariableRule] ++ nameRules

/-- A string that stands at the start of a line documents what it stands in. -/
def docRule (q : Quotation) : Rule State :=
  .groups [(sequence lineStart (many blank), .whitespace), (upTo (oneOf "rRuUbB") 2, .affix),
    (all [q.mark true, few anything, q.mark true], .doc)] .stay

/-- A word and the blanks behind it, which announce a name. -/
def announcing (s : String) (kind : Kind) (state : State) : Rule State :=
  .groups [(literal s, kind),
    (oneOrMore (choice blank (sequence (char '\\') blank)), .text)] (.push state)

/-- `match` and `case` at the start of a line, unless something follows that makes them names. -/
def matchRule : Rule State :=
  .groups [(sequence lineStart (many (oneOf " \t")), .text),
    (all [choice (literal "match") (literal "case"), wordEdge,
      notAhead (sequence (many (oneOf " \t")) (choice
        (one fun c => [':', ',', ';', '=', '^', '&', '|', '@', '~', ')', ']', '}'].contains c)
        (word statementWords)))], .keyword)] (.push .matchWord)

def codeRules : List (Rule State) :=
  [.plain (char '\n') .whitespace, docRule .double, docRule .single,
    .plain (all [textStart, literal "#!", oneOrMore notNewline, lineEnd]) .hashbang,
    .plain (all [char '#', many notNewline, lineEnd]) .comment,
    .plain (literal "\\\n") .text, .plain (char '\\') .text, .plain (word keywordWords) .keyword,
    .plain (word constantWords) .constant, matchRule, announcing "def" .keyword .functionName,
    announcing "class" .keyword .className, announcing "from" .importWord .importingFrom,
    announcing "import" .importWord .importing] ++ expressionRules

/-- How an expression in a string ends: perhaps with a conversion, at a brace or a colon. -/
def fieldEnd (c : Char) : Rule State :=
  .whole (all [maybe (sequence (char '=') (many blank)),
    maybe (sequence (char '!') (oneOf "sraf")), char c]) .interpolation .pop

def openingBracket : Rule State :=
  .whole (one fun c => ['{', '(', '['].contains c) .punctuation (.push .fieldBracket)

def fieldRules : List (Rule State) :=
  [openingBracket, fieldEnd '}', fieldEnd ':', .plain (oneOrMore blank) .whitespace] ++
    expressionRules

def fieldBracketRules : List (Rule State) :=
  [openingBracket, .whole (one fun c => [']', ')', '}'].contains c) .punctuation .pop,
    .plain (oneOrMore blank) .whitespace] ++ expressionRules

/-- An underscore behind `match` or `case` is a keyword; what stands before it is an input. -/
def matchWordRules : List (Rule State) :=
  [⟨[(oneOrMore blank, .plain .whitespace), (many (noneOf "\n_"), .nested),
      (sequence (char '_') wordEdge, .plain .keyword)], false, .stay⟩, .otherwise .pop]

def functionNameRules : List (Rule State) :=
  [magicFunctionRule, .whole name .function .pop, .otherwise .pop]

def classNameRules : List (Rule State) := [.whole name .cls .pop]

def importingRules : List (Rule State) :=
  [.groups [(oneOrMore blank, .text), (literal "as", .keyword), (oneOrMore blank, .text)] .stay,
    .plain (char '.') .namespacePart, .plain name .namespacePart,
    .groups [(many blank, .text), (char ',', .operator), (many blank, .text)] .stay,
    .otherwise .pop]

def importingFromRules : List (Rule State) :=
  [.groups [(oneOrMore blank, .text), (sequence (literal "import") wordEdge, .importWord)] .pop,
    .plain (char '.') .namespacePart, .whole (word ["None"]) .constant .pop,
    .plain name .namespacePart, .otherwise .pop]

end Conch.Screen
