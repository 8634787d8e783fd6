import RecordRules.Proofs.Json.RoundTrip
import RecordRules.Rule.Json

/-!
# Rules read back from JSON

A rule whose floats are finite is told by its JSON text: reading the text gives the rule again,
up to the nesting that the reader accepts, and nothing beyond it.
-/

namespace RecordRules

open Number

/-! ## Literals and names -/

namespace Literal

def IsFinite : Literal → Prop
  | .float value => value.isFinite
  | _ => True

theorem ofJson?_toJson (literal : Literal) : ofJson? literal.toJson = some literal := by
  cases literal with
  | int value => rw [toJson, ofJson?, int64?_eq_some_iff.2 rfl]
  | float value => rfl
  | text content => rfl

theorem exact_toJson {literal : Literal} (h : literal.IsFinite) : literal.toJson.Exact := by
  cases literal with
  | int value => exact Json.exact_int64 value
  | float value =>
    rw [toJson, Json.Exact]
    exact h
  | text content => simp [toJson, Json.Exact]

@[simp] theorem depth_toJson (literal : Literal) : literal.toJson.depth = 0 := by
  cases literal <;> rfl

@[simp] theorem readable_toJson (literal : Literal) : literal.toJson.readable = true := by
  cases literal <;> rfl

end Literal

theorem Connective.ofText?_text (connective : Connective) :
    ofText? connective.text = some connective := by
  cases connective <;> decide

theorem Comparator.ofText?_text (comparator : Comparator) :
    ofText? comparator.text = some comparator := by
  cases comparator <;> decide

/-! ## Rules -/

namespace Rule

theorem exact_toJson {rule : Rule}
    (h : ∀ condition ∈ rule.conditions, condition.literal.IsFinite) : rule.toJson.Exact := by
  induction rule with
  | operator connective left right ihl ihr =>
    obtain ⟨hl, hr⟩ := List.forall_mem_append.1 h
    simp [toJson, Json.Exact, Json.MembersExact, ihl hl, ihr hr]
  | comparison field comparator literal =>
    have hliteral := Literal.exact_toJson (h _ List.mem_cons_self)
    simp [toJson, Json.Exact, Json.MembersExact, hliteral]

theorem depth_toJson (rule : Rule) : rule.toJson.depth = rule.depth := by
  induction rule with
  | operator connective left right ihl ihr =>
    simp [toJson, Json.depth, Json.membersDepth, ihl, ihr, depth]
    omega
  | comparison field comparator literal =>
    simp [toJson, Json.depth, Json.membersDepth, depth]

theorem readable_toJson (rule : Rule) : rule.toJson.readable = true := by
  induction rule with
  | operator connective left right ihl ihr =>
    simp [toJson, Json.readable, Json.membersReadable, ihl, ihr]
  | comparison field comparator literal =>
    simp [toJson, Json.readable, Json.membersReadable]

theorem parts?_operator (inner : Bool) (connective : Connective) (left right : Rule) :
    parts? inner (operator connective left right).toJson =
      some (.operator, [.string connective.text, left.toJson, right.toJson]) := by
  simp [parts?, toJson, Kind.ofJson?, Kind.fieldNames, Json.Fields.read, List.lookup_cons,
    List.count]

theorem parts?_comparison (inner : Bool) (field : String) (comparator : Comparator)
    (literal : Literal) : parts? inner (comparison field comparator literal).toJson =
      some (.comparison, [.string field, .string comparator.text, literal.toJson]) := by
  simp [parts?, toJson, Kind.ofJson?, Kind.fieldNames, Json.Fields.read, List.lookup_cons,
    List.count]

/-- A rule is read from its JSON value if its nesting is within the fuel. -/
theorem ofNested?_toJson (rule : Rule) (inner : Bool) (fuel : Nat) :
    ofNested? inner fuel rule.toJson = if rule.depth ≤ fuel then some rule else none := by
  induction rule generalizing inner fuel with
  | operator connective left right ihl ihr =>
    cases fuel with
    | zero =>
      rw [ofNested?, depth, if_neg (by omega)]
    | succ fuel =>
      have hdepth : (operator connective left right).depth ≤ fuel + 1 ↔
          left.depth ≤ fuel ∧ right.depth ≤ fuel := by
        rw [depth]
        omega
      rw [ofNested?, parts?_operator]
      by_cases hl : left.depth ≤ fuel <;> by_cases hr : right.depth ≤ fuel <;>
        simp [name?, Connective.ofText?_text, ihl, ihr, hdepth, hl, hr]
  | comparison field comparator literal =>
    cases fuel with
    | zero => rfl
    | succ fuel =>
      rw [ofNested?, parts?_comparison]
      simp [name?, Comparator.ofText?_text, Literal.ofJson?_toJson, Json.string?, depth]

theorem ofJson?_toJson (rule : Rule) :
    ofJson? rule.toJson = if rule.depth ≤ Json.maxNesting then some rule else none := by
  rw [ofJson?, readable_toJson, depth_toJson, ofNested?_toJson]
  by_cases h : rule.depth ≤ Json.maxNesting <;> simp [h]

/-- The JSON text of a rule with finite floats tells the rule, on one line or on many, if it is
nested at most 127 deep, and is refused if it is nested deeper. -/
theorem json_tells_rule (rule : Rule)
    (h : ∀ condition ∈ rule.conditions, condition.literal.IsFinite) (level : Nat) :
    let told := if rule.depth ≤ 127 then some rule else none
    read? rule.toJson.compact = told ∧ read? (rule.toJson.pretty level) = told := by
  have hexact := exact_toJson h
  constructor
  · rw [read?, Json.read?_compact hexact]
    exact ofJson?_toJson rule
  · rw [read?, Json.read?_pretty hexact level]
    exact ofJson?_toJson rule

theorem json_tells_rule_escaped :
    let rule := operator .or (comparison "age" .ge (.int (-3)))
      (operator .and (comparison "the \"rate\"" .lt (.float (.finite true .zero)))
        (comparison "path" .ne (.text "C:\\\t")))
    (∀ condition ∈ rule.conditions, condition.literal.IsFinite) ∧ rule.depth = 3 ∧
      read? rule.toJson.compact = some rule ∧ read? (rule.toJson.pretty 0) = some rule := by
  intro rule
  have hfinite : ∀ condition ∈ rule.conditions, condition.literal.IsFinite := by
    simp [rule, conditions, Literal.IsFinite, Double.isFinite]
  exact ⟨hfinite, rfl, json_tells_rule rule hfinite 0⟩

end Rule

end RecordRules
