import RecordRules.Number.Double

/-!
# Rules

A rule is a binary tree. Its leaves compare a field of a record with a literal, its
inner nodes connect two rules by `AND` or `OR`. Every measure of a rule used elsewhere
is defined here by recursion on the tree.
-/

namespace RecordRules

open Number (Double)

inductive Connective where
  | and
  | or
  deriving DecidableEq

inductive Comparator where
  | gt
  | lt
  | ge
  | le
  | eq
  | ne
  deriving DecidableEq

inductive Literal where
  | int (value : Int64)
  | float (value : Double)
  | text (value : String)
  deriving DecidableEq

inductive Rule where
  | operator (connective : Connective) (left right : Rule)
  | comparison (field : String) (comparator : Comparator) (literal : Literal)
  deriving DecidableEq

structure Condition where
  field : String
  comparator : Comparator
  literal : Literal
  deriving DecidableEq

/-- Whether the comparator accepts two values in this order; values that have none
differ and are otherwise unrelated. -/
def Comparator.accepts : Comparator → Option Ordering → Bool
  | .gt, order => order = some .gt
  | .lt, order => order = some .lt
  | .ge, order => order = some .gt || order = some .eq
  | .le, order => order = some .lt || order = some .eq
  | .eq, order => order = some .eq
  | .ne, order => order ≠ some .eq

/-- Equal by type and by value: zeros of both signs are equal and NaN equals nothing. -/
def Literal.same : Literal → Literal → Bool
  | .int a, .int b => a = b
  | .float a, .float b => a.compare? b = some .eq
  | .text a, .text b => a = b
  | _, _ => false

namespace Rule

/-- Equal in shape, fields and comparators, and in literals by value. -/
def same : Rule → Rule → Bool
  | operator c l r, operator c' l' r' => c = c' && l.same l' && r.same r'
  | comparison f c v, comparison f' c' v' => f = f' && c = c' && v.same v'
  | _, _ => false

def depth : Rule → Nat
  | operator _ left right => 1 + max left.depth right.depth
  | comparison _ _ _ => 1

def conditions : Rule → List Condition
  | operator _ left right => left.conditions ++ right.conditions
  | comparison field comparator literal => [⟨field, comparator, literal⟩]

def comparisonCount : Rule → Nat
  | operator _ left right => left.comparisonCount + right.comparisonCount
  | comparison _ _ _ => 1

def operatorCount : Rule → Nat
  | operator _ left right => left.operatorCount + right.operatorCount + 1
  | comparison _ _ _ => 0

def fields (rule : Rule) : List String :=
  rule.conditions.map Condition.field

theorem fields_operator (connective : Connective) (left right : Rule) :
    (operator connective left right).fields = left.fields ++ right.fields :=
  List.map_append

theorem operatorCount_add_one (rule : Rule) : rule.operatorCount + 1 = rule.comparisonCount := by
  induction rule with
  | operator _ left right ihl ihr =>
    simp only [operatorCount, comparisonCount]
    omega
  | comparison => rfl

end Rule

end RecordRules
