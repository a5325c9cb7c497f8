/-!
# Kinds of tokens

What a piece of input is coloured as. Kinds are named by paths that lead from general to special.
-/

namespace Conch.Screen

inductive Kind where
  | text
  | whitespace
  | error
  | hashbang
  | comment
  | keyword
  | constant
  | importWord
  | name
  | builtin
  | pseudo
  | exception
  | function
  | magicFunction
  | variableName
  | magicVariable
  | cls
  | decorator
  | namespacePart
  | string
  | affix
  | doc
  | double
  | single
  | escape
  | interpolation
  | float
  | octal
  | binary
  | hexadecimal
  | integer
  | operator
  | operatorWord
  | punctuation
  deriving DecidableEq, Repr

def Kind.path : Kind → String
  | text => "Token.Text"
  | whitespace => "Token.Text.Whitespace"
  | error => "Token.Error"
  | hashbang => "Token.Comment.Hashbang"
  | comment => "Token.Comment.Single"
  | keyword => "Token.Keyword"
  | constant => "Token.Keyword.Constant"
  | importWord => "Token.Keyword.Namespace"
  | name => "Token.Name"
  | builtin => "Token.Name.Builtin"
  | pseudo => "Token.Name.Builtin.Pseudo"
  | exception => "Token.Name.Exception"
  | function => "Token.Name.Function"
  | magicFunction => "Token.Name.Function.Magic"
  | variableName => "Token.Name.Variable"
  | magicVariable => "Token.Name.Variable.Magic"
  | cls => "Token.Name.Class"
  | decorator => "Token.Name.Decorator"
  | namespacePart => "Token.Name.Namespace"
  | string => "Token.Literal.String"
  | affix => "Token.Literal.String.Affix"
  | doc => "Token.Literal.String.Doc"
  | double => "Token.Literal.String.Double"
  | single => "Token.Literal.String.Single"
  | escape => "Token.Literal.String.Escape"
  | interpolation => "Token.Literal.String.Interpol"
  | float => "Token.Literal.Number.Float"
  | octal => "Token.Literal.Number.Oct"
  | binary => "Token.Literal.Number.Bin"
  | hexadecimal => "Token.Literal.Number.Hex"
  | integer => "Token.Literal.Number.Integer"
  | operator => "Token.Operator"
  | operatorWord => "Token.Operator.Word"
  | punctuation => "Token.Punctuation"

end Conch.Screen
