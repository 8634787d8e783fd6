import RecordRules.Proofs.Distinct
import RecordRules.Proofs.Evaluation.Fields

/-!
# Linting agrees with creation

Two walks over a rule look for fields outside of a whitelist: the one that creates the rule
stops at the first, the one that lints it meets them all.  Both find what the fields of the
rule, from left to right, say (`firstUnknown?_eq_find?`, `visit_eq`), so that a text is valid
exactly if it can be created, and what is reported begins with what creation fails with.
-/

namespace RecordRules

/-! ## The walk of the linter -/

theorem RuleShape.visit_eq (shape : RuleShape) (rule : Rule) :
    shape.visit rule =
      { operators := shape.operators + rule.operatorCount
        comparisons := shape.comparisons + rule.comparisonCount
        fields := shape.fields ++ rule.fields.toArray
        conditions := shape.conditions ++ (rule.conditions.map Condition.canonical).toArray } := by
  induction rule generalizing shape with
  | comparison field comparator literal => rfl
  | operator connective left right ihl ihr =>
    rw [visit, ihl, ihr]
    simp [Rule.operatorCount, Rule.comparisonCount, Rule.fields_operator, Rule.conditions]
    omega

theorem RuleShape.fields_ofRule (rule : Rule) : (ofRule rule).fields.toList = rule.fields := by
  simp [ofRule, visit_eq]

/-! ## Fields outside of the whitelist -/

namespace Whitelist

/-- The fields of a rule that are not in the whitelist, each where it comes first. -/
def unknownFields (whitelist : Whitelist) (rule : Rule) : List String :=
  distinct (rule.fields.filter (!whitelist.contains ·))

section

variable {whitelist : Whitelist} {rule : Rule} {field : String}

theorem mem_unknownFields_iff :
    field ∈ whitelist.unknownFields rule ↔ field ∈ rule.fields ∧ field ∉ whitelist := by
  rw [unknownFields, mem_distinct, List.mem_filter, Bool.not_eq_true', ← Bool.not_eq_true,
    Std.ExtTreeSet.contains_iff_mem]

theorem nodup_unknownFields (whitelist : Whitelist) (rule : Rule) :
    (whitelist.unknownFields rule).Nodup :=
  nodup_distinct _

theorem pairwise_unknownFields (whitelist : Whitelist) (rule : Rule) :
    (whitelist.unknownFields rule).Pairwise
      fun a b => rule.fields.idxOf a < rule.fields.idxOf b := by
  rw [unknownFields, distinct_filter]
  exact (pairwise_idxOf_distinct rule.fields).filter _

theorem head?_unknownFields (whitelist : Whitelist) (rule : Rule) :
    (whitelist.unknownFields rule).head? = whitelist.firstUnknown? rule := by
  rw [unknownFields, head?_distinct, List.head?_filter, firstUnknown?_eq_find?]

theorem unknownFields_eq_nil_iff :
    whitelist.unknownFields rule = [] ↔ whitelist.firstUnknown? rule = none := by
  rw [← head?_unknownFields, List.head?_eq_none_iff]

end

end Whitelist

/-! ## Reports -/

namespace LintReport

section

variable {whitelist : Whitelist} {options : Rule.ParseOptions} {text : String} {rule : Rule}

theorem ofText_of_error {cause : SyntaxError} (h : Rule.parse options text = .error cause) :
    ofText whitelist options text = ⟨false, [.invalidSyntax cause], [], .unknown⟩ := by
  rw [ofText, h]

theorem errors_of_parse (h : Rule.parse options text = .ok rule) :
    (ofText whitelist options text).errors =
      (whitelist.unknownFields rule).map .unknownAttribute := by
  rw [ofText, h, Whitelist.unknownFields, ← RuleShape.fields_ofRule]

theorem isValid_eq (whitelist : Whitelist) (options : Rule.ParseOptions) (text : String) :
    (ofText whitelist options text).isValid = (ofText whitelist options text).errors.isEmpty := by
  unfold ofText
  split <;> rfl

theorem head?_errors_of_create {error : RuleError}
    (h : Rule.create whitelist options text = .error error) :
    (ofText whitelist options text).errors.head? = some error := by
  rcases Rule.create_eq_error_iff.1 h with
    ⟨cause, hparse, rfl⟩ | ⟨rule, field, hparse, hfield, rfl⟩
  · rw [ofText_of_error hparse, List.head?_cons]
  · rw [errors_of_parse hparse, List.head?_map, Whitelist.head?_unknownFields, hfield,
      Option.map_some]

theorem errors_eq_nil_iff : (ofText whitelist options text).errors = [] ↔
    ∃ rule, Rule.create whitelist options text = .ok rule := by
  cases hcreate : Rule.create whitelist options text with
  | ok rule =>
    obtain ⟨hparse, hknown⟩ := Rule.create_eq_ok_iff.1 hcreate
    rw [errors_of_parse hparse, List.map_eq_nil_iff, Whitelist.unknownFields_eq_nil_iff]
    exact iff_of_true hknown ⟨rule, rfl⟩
  | error error =>
    rw [← List.head?_eq_none_iff, head?_errors_of_create hcreate]
    exact iff_of_false nofun nofun

/-- A text is valid to the linter exactly if its rule can be created.  What creation fails
with comes first in the report: it is the only error if the text cannot be parsed, and
otherwise there is one for every field that is not in the whitelist, in the order in which
these come first. -/
theorem ofText_agrees_create (whitelist : Whitelist) (options : Rule.ParseOptions)
    (text : String) :
    let report := ofText whitelist options text
    let messages := report.errors.map RuleError.message
    let result := Rule.create whitelist options text
    (report.isValid = true ↔ ∃ rule, result = .ok rule) ∧
      (messages = [] ↔ ∃ rule, result = .ok rule) ∧
      (∀ error, result = .error error → messages.head? = some error.message ∧
        ((∃ cause, error = .invalidSyntax cause) ∨ ∃ field, error = .unknownAttribute field)) ∧
      (∀ cause, result = .error (.invalidSyntax cause) →
        messages = [(RuleError.invalidSyntax cause).message] ∧ report.impact = .unknown) ∧
      ∀ field, result = .error (.unknownAttribute field) →
        ∃ (rule : Rule) (unknown : List String), Rule.parse options text = .ok rule ∧
          rule.fields.find? (!whitelist.contains ·) = some field ∧
          messages = unknown.map (fun other => (RuleError.unknownAttribute other).message) ∧
          unknown.Nodup ∧
          (∀ other, other ∈ unknown ↔ other ∈ rule.fields ∧ other ∉ whitelist) ∧
          unknown.Pairwise fun a b => rule.fields.idxOf a < rule.fields.idxOf b := by
  intro report messages result
  refine ⟨?_, ?_, fun error herror => ⟨?_, ?_⟩, fun cause herror => ?_, fun field herror => ?_⟩
  · rw [isValid_eq, List.isEmpty_iff, errors_eq_nil_iff]
  · rw [List.map_eq_nil_iff, errors_eq_nil_iff]
  · rw [List.head?_map, head?_errors_of_create herror, Option.map_some]
  · rcases Rule.create_eq_error_iff.1 herror with ⟨cause, -, heq⟩ | ⟨-, field, -, -, heq⟩
    · exact .inl ⟨cause, heq⟩
    · exact .inr ⟨field, heq⟩
  · have hparse : Rule.parse options text = .error cause := by
      simpa [result, Rule.create_eq_error_iff] using herror
    have hreport : report = ⟨false, [.invalidSyntax cause], [], .unknown⟩ :=
      ofText_of_error hparse
    exact ⟨congrArg (·.errors.map RuleError.message) hreport, congrArg impact hreport⟩
  · obtain ⟨rule, hparse, hfield⟩ : ∃ rule, Rule.parse options text = .ok rule ∧
        whitelist.firstUnknown? rule = some field := by
      simpa [result, Rule.create_eq_error_iff] using herror
    rw [Whitelist.firstUnknown?_eq_find?] at hfield
    have herrors : report.errors = (whitelist.unknownFields rule).map .unknownAttribute :=
      errors_of_parse hparse
    have hmessages : messages =
        (whitelist.unknownFields rule).map fun other =>
          (RuleError.unknownAttribute other).message := by
      rw [show messages = report.errors.map RuleError.message from rfl, herrors, List.map_map]
      rfl
    exact ⟨rule, whitelist.unknownFields rule, hparse, hfield, hmessages,
      Whitelist.nodup_unknownFields whitelist rule, fun _ => Whitelist.mem_unknownFields_iff,
      Whitelist.pairwise_unknownFields whitelist rule⟩

example :
    (ofText (.ofNames defaultAttributes) {} "bonus > 1 AND (rank = 2 OR age < 3) OR bonus = 4").errors =
      [.unknownAttribute "bonus", .unknownAttribute "rank"] := by
  decide +kernel

end

end LintReport

end RecordRules
