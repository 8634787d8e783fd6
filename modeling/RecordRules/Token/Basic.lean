import RecordRules.Rule.Canonical

/-!
# Tokens of the rule language

A token carries its text where it is a quoted text, a number or a word; whether a
number is well written is not settled before the parser reads it.
-/

namespace RecordRules

inductive Token where
  | connective (connective : Connective)
  | comparator (comparator : Comparator)
  /-- Text between single quotes, without them. -/
  | text (content : String)
  /-- A run that starts with a digit. -/
  | number (digits : String)
  | word (name : String)
  | opening
  | closing
  deriving DecidableEq

namespace Token

def shown : Token → String
  | connective c => c.text
  | comparator c => c.text
  | text content => quotedText content
  | number digits => digits
  | word name => name
  | opening => "("
  | closing => ")"

def isKeyword : Token → Bool
  | connective _ => true
  | _ => false

def isOperator : Token → Bool
  | comparator _ => true
  | _ => false

def isLiteral : Token → Bool
  | text _ | number _ | word _ => true
  | _ => false

end Token

end RecordRules
