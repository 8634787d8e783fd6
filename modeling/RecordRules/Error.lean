import RecordRules.Evaluation
import RecordRules.Rule.SyntaxError

/-!
# Errors

Why an operation on rules fails. What a failed operation reports is the cause; its
wording is `RuleError.message`.
-/

namespace RecordRules

abbrev RuleId := UInt64

inductive RuleError where
  | invalidSyntax (error : SyntaxError)
  | unknownAttribute (field : String)
  | evaluation (error : EvaluationError)
  | nothingToCombine
  | unknownRule (id : RuleId)
  deriving DecidableEq

def RuleError.message : RuleError → String
  | invalidSyntax error => "Syntax error: " ++ error.message
  | unknownAttribute field => "Invalid attribute: " ++ field
  | evaluation error => error.message
  | nothingToCombine => "No rules provided to combine"
  | unknownRule id => "Rule not found: " ++ id.toNat.repr

end RecordRules
