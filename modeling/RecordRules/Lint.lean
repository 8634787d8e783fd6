import RecordRules.Creation

/-!
# Linting

A lint report collects what is wrong or doubtful about a rule instead of failing: an
error for every unknown field, and warnings about its cost, about conditions that are
written twice and about deep nesting.
-/

namespace RecordRules

/-- How expensive a rule is to evaluate; `unknown` if it does not parse. -/
inductive Impact where
  | low
  | medium
  | high
  | unknown
  deriving DecidableEq

namespace Impact

def name : Impact → String
  | low => "low"
  | medium => "medium"
  | high => "high"
  | unknown => "unknown"

def classify (comparisons operators : Nat) : Impact :=
  if comparisons > 5 ∨ operators > 4 then high
  else if comparisons > 3 ∨ operators > 2 then medium
  else low

end Impact

/-- What a walk over a rule has met so far, from left to right. -/
structure RuleShape where
  operators : Nat := 0
  comparisons : Nat := 0
  fields : Array String := #[]
  /-- The canonical texts of the comparisons. -/
  conditions : Array String := #[]

namespace RuleShape

def visit (shape : RuleShape) : Rule → RuleShape
  | .operator _ left right =>
    ({ shape with operators := shape.operators + 1 }.visit left).visit right
  | .comparison field comparator literal =>
    { shape with
      comparisons := shape.comparisons + 1
      fields := shape.fields.push field
      conditions := shape.conditions.push (Condition.canonical ⟨field, comparator, literal⟩) }

def ofRule (rule : Rule) : RuleShape := ({} : RuleShape).visit rule

def impact (shape : RuleShape) : Impact := .classify shape.comparisons shape.operators

end RuleShape

inductive LintWarning where
  | expensive
  /-- Conditions that repeat an earlier one. -/
  | redundant (conditions : List String)
  | deep (levels : Nat)
  deriving DecidableEq

def LintWarning.message : LintWarning → String
  | expensive => "Rule may have performance implications"
  | redundant conditions =>
    "Rule contains potentially redundant conditions: " ++ ", ".intercalate conditions
  | deep levels => "Rule is nested " ++ levels.repr ++ " levels deep"

/-- The entries of a list that occur earlier in it. -/
def repeated [DecidableEq α] (entries : List α) : List α :=
  go [] entries
where
  go (seen : List α) : List α → List α
    | [] => []
    | entry :: rest =>
      if entry ∈ seen then entry :: go seen rest else go (entry :: seen) rest

def distinct [DecidableEq α] (entries : List α) : List α :=
  go [] entries
where
  go (seen : List α) : List α → List α
    | [] => []
    | entry :: rest =>
      if entry ∈ seen then go seen rest else entry :: go (entry :: seen) rest

structure LintReport where
  isValid : Bool
  errors : List RuleError
  warnings : List LintWarning
  impact : Impact

namespace LintReport

def maxPlainDepth : Nat := 8

def warningsFor (shape : RuleShape) (depth : Nat) : List LintWarning :=
  let redundant := repeated shape.conditions.toList
  (if shape.impact = .high then [.expensive] else [])
    ++ (if redundant.isEmpty then [] else [.redundant redundant])
    ++ (if depth > maxPlainDepth then [.deep depth] else [])

def ofText (whitelist : Whitelist) (options : Rule.ParseOptions) (text : String) : LintReport :=
  match Rule.parse options text with
  | .error error => ⟨false, [.invalidSyntax error], [], .unknown⟩
  | .ok rule =>
    let shape := RuleShape.ofRule rule
    let unknown := distinct (shape.fields.toList.filter (!whitelist.contains ·))
    let errors := unknown.map .unknownAttribute
    ⟨errors.isEmpty, errors, warningsFor shape rule.depth, shape.impact⟩

def toJson (report : LintReport) : Json :=
  .object [
    ("is_valid", .bool report.isValid),
    ("errors", .array (report.errors.map fun error => .string error.message)),
    ("warnings", .array (report.warnings.map fun warning => .string warning.message)),
    ("performance_impact", .string report.impact.name)]

end LintReport

end RecordRules
