import RecordRules.Record
import RecordRules.Rule.Canonical

/-!
# Evaluation

A rule is evaluated against anything that looks fields up. `Rule.answer` is the meaning
of a rule, by recursion on the tree: a connective looks at its right operand only if
the left one leaves the outcome open, so that a field named there may be missing.
`Rule.evaluate` finds the same by walking down the left spine of the tree and back up,
recursing into right operands alone.
-/

namespace RecordRules

open Number (Double)

inductive EvaluationError where
  | missingField (field : String)
  | typeMismatch (field : String) (comparator : Comparator) (value literal : String)
  deriving DecidableEq

def EvaluationError.message : EvaluationError → String
  | missingField field => "Field " ++ field ++ " not found in data"
  | typeMismatch field comparator value literal =>
    "Cannot compare " ++ value ++ " value of field " ++ field ++ " with " ++ literal
      ++ " literal using " ++ comparator.text

/-- How a value stands to a literal; `none` if their types do not compare. Integers
compare with floats after rounding to the nearest double, and text by code points. -/
def Value.order? : Value → Literal → Option (Option Ordering)
  | .int a, .int b => some (some (compare a.toInt b.toInt))
  | .int a, .float b => some ((Double.ofInt a.toInt).compare? b)
  | .float a, .int b => some (a.compare? (Double.ofInt b.toInt))
  | .float a, .float b => some (a.compare? b)
  | .text a, .text b => some (some (compare a b))
  | _, _ => none

def Condition.compare (condition : Condition) (value : Value) : Except EvaluationError Bool :=
  match value.order? condition.literal with
  | some order => .ok (condition.comparator.accepts order)
  | none => .error (.typeMismatch condition.field condition.comparator value.typeName
      condition.literal.typeName)

abbrev Lookup := String → Option Value

def Condition.evaluate (condition : Condition) (lookup : Lookup) : Except EvaluationError Bool :=
  match lookup condition.field with
  | some value => condition.compare value
  | none => .error (.missingField condition.field)

/-- Whether the left operand settles the outcome, which then is its own. -/
def Connective.settled : Connective → Bool → Bool
  | .and, left => !left
  | .or, left => left

namespace Rule

def answer (lookup : Lookup) : Rule → Except EvaluationError Bool
  | comparison field comparator literal => Condition.evaluate ⟨field, comparator, literal⟩ lookup
  | operator connective left right =>
    match left.answer lookup with
    | .error error => .error error
    | .ok outcome => if connective.settled outcome then .ok outcome else right.answer lookup

/-- The leaf at the end of the left spine, and the right operands along it with their
connectives, lowest first. -/
def spine : Rule → List (Connective × Rule) → Condition × List (Connective × Rule)
  | comparison field comparator literal, pending => (⟨field, comparator, literal⟩, pending)
  | operator connective left right, pending => left.spine ((connective, right) :: pending)

private theorem sizeOf_lt_of_mem_spine {rule right : Rule} {connective : Connective}
    {pending : List (Connective × Rule)} (h : (connective, right) ∈ (rule.spine pending).2) :
    sizeOf right < sizeOf rule ∨ (connective, right) ∈ pending := by
  induction rule generalizing pending with
  | comparison => exact .inr h
  | operator c left other ih _ =>
    rcases ih h with hlt | hmem
    · left
      simp only [operator.sizeOf_spec]
      omega
    · rcases List.mem_cons.1 hmem with heq | hmem
      · left
        cases heq
        simp only [operator.sizeOf_spec]
        omega
      · exact .inr hmem

def evaluate (lookup : Lookup) (rule : Rule) : Except EvaluationError Bool :=
  let spine := rule.spine []
  spine.2.attach.foldlM (fun outcome operand =>
    if operand.1.1.settled outcome then .ok outcome
    else
      have : sizeOf operand.1.2 < sizeOf rule :=
        (sizeOf_lt_of_mem_spine operand.2).resolve_right List.not_mem_nil
      operand.1.2.evaluate lookup) =<< spine.1.evaluate lookup
termination_by sizeOf rule

end Rule

end RecordRules
