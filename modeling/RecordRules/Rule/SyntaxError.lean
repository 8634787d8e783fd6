import RecordRules.Token.Lexer
import RecordRules.Text.Quoted

/-!
# Syntax errors

Why a text or a list of tokens is no rule, and the wording of it.
-/

namespace RecordRules

def maxComparisons : Nat := 4096

inductive Expected where
  | operand
  | comparator
  | literal
  | closing
  deriving DecidableEq

inductive SyntaxError where
  | unexpected (expected : Expected) (got : Token)
  | ended (expected : Expected)
  | strayCharacter (c : Char)
  | unclosedText (content : String)
  | malformedNumber (digits : String)
  | trailing (next : Token)
  | tooDeep (limit : Nat)
  | tooLong
  deriving DecidableEq

def Expected.description : Expected → String
  | operand => "field name or '('"
  | comparator => "comparison operator"
  | literal => "literal value"
  | closing => "closing parenthesis"

namespace SyntaxError

def ofLexical : LexicalError → SyntaxError
  | .stray c => strayCharacter c
  | .unclosed content => unclosedText content

def message : SyntaxError → String
  | unexpected expected got =>
    "Unexpected token: expected " ++ expected.description ++ ", got " ++ got.shown
  | ended expected => "Unexpected end of expression: expected " ++ expected.description
  | strayCharacter c => "Unexpected character: " ++ Text.quoted '\x27' c.toString
  | unclosedText content => "Unterminated string literal: '" ++ content
  | malformedNumber digits => "Invalid numeric literal: " ++ digits
  | trailing next => "Unexpected trailing input starting at " ++ next.shown
  | tooDeep limit => "Expression nested deeper than " ++ limit.repr ++ " levels"
  | tooLong => "Rule has more than " ++ maxComparisons.repr ++ " comparisons"

end SyntaxError

end RecordRules
