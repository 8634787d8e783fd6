import RecordRules.Creation
import RecordRules.Proofs.Evaluation.ShortCircuit

/-!
# Fields that matter

The outcome of a rule depends on the fields that it names and on no others
(`evaluate_congr`).  A whitelist `Covers` a rule that names only its fields, which holds
of every rule created or combined under it.
-/

namespace RecordRules

namespace Rule

section

variable {rule : Rule} {lookup lookup' : Lookup}

theorem answer_congr (h : ∀ field ∈ rule.fields, lookup field = lookup' field) :
    rule.answer lookup = rule.answer lookup' := by
  induction rule with
  | comparison field comparator literal =>
    have hfield : lookup field = lookup' field := h field List.mem_cons_self
    rw [answer, answer, Condition.evaluate, Condition.evaluate, hfield]
  | operator connective left right ihl ihr =>
    rw [fields_operator, List.forall_mem_append] at h
    rw [answer, answer, ihl h.1, ihr h.2]

theorem evaluate_congr (h : ∀ field ∈ rule.fields, lookup field = lookup' field) :
    rule.evaluate lookup = rule.evaluate lookup' := by
  rw [evaluate_eq_answer, evaluate_eq_answer, answer_congr h]

end

end Rule

namespace Whitelist

def Covers (whitelist : Whitelist) (rule : Rule) : Prop :=
  ∀ field ∈ rule.fields, field ∈ whitelist

/-- Walking over the tree finds what searching through the fields does. -/
theorem firstUnknown?_eq_find? (whitelist : Whitelist) (rule : Rule) :
    whitelist.firstUnknown? rule = rule.fields.find? (!whitelist.contains ·) := by
  induction rule with
  | comparison field comparator literal =>
    rw [firstUnknown?, Rule.fields, Rule.conditions, List.map_singleton, List.find?_singleton]
    cases whitelist.contains field <;> rfl
  | operator connective left right ihl ihr =>
    rw [firstUnknown?, ihl, ihr, Rule.fields_operator, List.find?_append]
    cases left.fields.find? (!whitelist.contains ·) <;> rfl

theorem firstUnknown?_eq_none_iff {whitelist : Whitelist} {rule : Rule} :
    whitelist.firstUnknown? rule = none ↔ whitelist.Covers rule := by
  simp [firstUnknown?_eq_find?, Covers]

theorem Covers.evaluate_eq {whitelist : Whitelist} {rule : Rule} {lookup lookup' : Lookup}
    (h : whitelist.Covers rule) (hagree : ∀ field ∈ whitelist, lookup field = lookup' field) :
    rule.evaluate lookup = rule.evaluate lookup' :=
  Rule.evaluate_congr fun field hmem => hagree field (h field hmem)

end Whitelist

namespace Rule

variable {whitelist : Whitelist} {options : ParseOptions} {rule : Rule}

theorem covers_of_create {text : String} (h : create whitelist options text = .ok rule) :
    whitelist.Covers rule :=
  Whitelist.firstUnknown?_eq_none_iff.1 (create_eq_ok_iff.1 h).2

theorem covers_of_combine {texts : List String} (h : combine whitelist options texts = .ok rule) :
    whitelist.Covers rule := by
  unfold combine at h
  split at h
  · cases h
  · exact covers_of_create h
  · exact covers_of_create h

end Rule

end RecordRules
