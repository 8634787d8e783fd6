import RecordRules.Rule.Basic
import RecordRules.Number.Layout

/-!
# Canonical text

The text a rule is shown as. Every operator stands in parentheses, so that the text
needs no precedence. Floats are written positionally and always hold a point, texts
stand between single quotes as they are.
-/

namespace RecordRules

open Number

def Connective.text : Connective → String
  | .and => "AND"
  | .or => "OR"

def Comparator.text : Comparator → String
  | .gt => ">"
  | .lt => "<"
  | .ge => ">="
  | .le => "<="
  | .eq => "="
  | .ne => "!="

def intText (value : Int64) : String :=
  let value := value.toInt
  if value < 0 then "-" ++ value.natAbs.repr else value.natAbs.repr

/-- The text of a double in a rule: a point shows that it is no integer. -/
def floatText (value : Double) : String :=
  let text := Layout.plain.format value
  if text.toList.contains '.' then text else text ++ ".0"

def quotedText (text : String) : String :=
  "'" ++ text ++ "'"

def Literal.canonical : Literal → String
  | .int value => intText value
  | .float value => floatText value
  | .text value => quotedText value

def Literal.typeName : Literal → String
  | .int _ => "Int"
  | .float _ => "Float"
  | .text _ => "String"

def Condition.canonical (condition : Condition) : String :=
  condition.field ++ " " ++ condition.comparator.text ++ " " ++ condition.literal.canonical

def Rule.canonical : Rule → String
  | .operator connective left right =>
    "(" ++ left.canonical ++ " " ++ connective.text ++ " " ++ right.canonical ++ ")"
  | .comparison field comparator literal => Condition.canonical ⟨field, comparator, literal⟩

end RecordRules
