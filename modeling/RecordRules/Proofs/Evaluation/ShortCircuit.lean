import RecordRules.Evaluation

/-!
# Short circuit evaluation

The walk along the left spine against the rules of evaluation.  `Outcome` states
those rules one by one, without the walk: an operand that no rule mentions is not
looked at.  Two facts carry the result:

* `bind_unwind_spine`: unwinding the operands that a spine holds back, from the
  answer of its leaf, gives the answer of the whole rule, whatever is pending;
* `answer_eq_iff`: the recursion on the tree gives the one outcome that the rules
  allow.

`evaluate_foldl_and` says what that makes of a conjunction of any number of rules.
-/

namespace RecordRules.Rule

/-- The outcomes that the rules of evaluation allow. -/
inductive Outcome (lookup : Lookup) : Rule → Except EvaluationError Bool → Prop
  | missing {field comparator literal} : lookup field = none →
      Outcome lookup (comparison field comparator literal) (.error (.missingField field))
  | compared {field comparator literal value} : lookup field = some value →
      Outcome lookup (comparison field comparator literal)
        (Condition.compare ⟨field, comparator, literal⟩ value)
  | failed {connective left right error} : Outcome lookup left (.error error) →
      Outcome lookup (operator connective left right) (.error error)
  | andFalse {left right} : Outcome lookup left (.ok false) →
      Outcome lookup (operator .and left right) (.ok false)
  | andTrue {left right result} : Outcome lookup left (.ok true) →
      Outcome lookup right result → Outcome lookup (operator .and left right) result
  | orTrue {left right} : Outcome lookup left (.ok true) →
      Outcome lookup (operator .or left right) (.ok true)
  | orFalse {left right result} : Outcome lookup left (.ok false) →
      Outcome lookup right result → Outcome lookup (operator .or left right) result

/-! ## The recursion on the tree -/

theorem outcome_answer (lookup : Lookup) (rule : Rule) :
    Outcome lookup rule (rule.answer lookup) := by
  induction rule with
  | comparison field comparator literal =>
    rw [answer, Condition.evaluate]
    split
    · next value h => exact .compared h
    · next h => exact .missing h
  | operator connective left right ihleft ihright =>
    rw [answer]
    split
    · next error h => exact .failed (h ▸ ihleft)
    · next outcome h =>
      rw [h] at ihleft
      cases connective <;> cases outcome
      · exact .andFalse ihleft
      · exact .andTrue ihleft ihright
      · exact .orFalse ihleft ihright
      · exact .orTrue ihleft

theorem answer_of_outcome {lookup : Lookup} {rule : Rule} {result : Except EvaluationError Bool}
    (h : Outcome lookup rule result) : rule.answer lookup = result := by
  induction h with
  | missing h => rw [answer, Condition.evaluate, h]
  | compared h => rw [answer, Condition.evaluate, h]
  | failed _ ih => rw [answer, ih]
  | andFalse _ ih => rw [answer, ih]; rfl
  | andTrue _ _ ihleft ihright => rw [answer, ihleft, ← ihright]; rfl
  | orTrue _ ih => rw [answer, ih]; rfl
  | orFalse _ _ ihleft ihright => rw [answer, ihleft, ← ihright]; rfl

theorem answer_eq_iff {lookup : Lookup} {rule : Rule} {result : Except EvaluationError Bool} :
    rule.answer lookup = result ↔ Outcome lookup rule result :=
  ⟨fun h => h ▸ outcome_answer lookup rule, answer_of_outcome⟩

/-! ## The walk along the spine -/

/-- Goes through the operands a spine holds back, from the outcome to their left. -/
def unwind (lookup : Lookup) (pending : List (Connective × Rule)) (outcome : Bool) :
    Except EvaluationError Bool :=
  pending.foldlM (fun outcome operand =>
    if operand.1.settled outcome then .ok outcome else operand.2.answer lookup) outcome

theorem bind_unwind_spine (lookup : Lookup) (rule : Rule) (pending : List (Connective × Rule)) :
    ((rule.spine pending).1.evaluate lookup >>= unwind lookup (rule.spine pending).2) =
      (rule.answer lookup >>= unwind lookup pending) := by
  induction rule generalizing pending with
  | comparison field comparator literal => rfl
  | operator connective left right ihleft _ =>
    rw [spine, ihleft, answer]
    cases left.answer lookup with
    | error error => rfl
    | ok outcome =>
      change unwind lookup ((connective, right) :: pending) outcome = _
      rw [unwind, List.foldlM_cons]
      rfl

theorem evaluate_eq_answer (lookup : Lookup) (rule : Rule) :
    rule.evaluate lookup = rule.answer lookup := by
  induction rule using evaluate.induct with
  | case1 rule _ ih =>
    -- the induction hypothesis speaks of the operands on the spine only
    have hfold (outcome : Bool) :
        (rule.spine []).2.attach.foldlM (fun outcome operand =>
          if operand.1.1.settled outcome then .ok outcome
          else operand.1.2.evaluate lookup) outcome =
        unwind lookup (rule.spine []).2 outcome := by
      rw [List.foldlM_subtype (g := fun outcome operand =>
        if operand.1.settled outcome then .ok outcome else operand.2.answer lookup),
        List.unattach_attach, unwind]
      intro outcome operand hmem
      rw [ih ⟨operand, hmem⟩]
    rw [evaluate]
    dsimp only
    simp only [hfold]
    exact (bind_unwind_spine lookup rule []).trans (bind_pure _)

theorem answer_foldl_and (lookup : Lookup) (rule : Rule) (rules : List Rule) :
    (rules.foldl (operator .and) rule).answer lookup = (rule :: rules).allM (·.answer lookup) := by
  induction rules generalizing rule with
  | nil =>
    rw [List.foldl_nil, List.allM_cons]
    cases rule.answer lookup with
    | error error => rfl
    | ok outcome => cases outcome <;> rfl
  | cons next rules ih =>
    rw [List.foldl_cons, ih, List.allM_cons, List.allM_cons, List.allM_cons, answer]
    cases rule.answer lookup with
    | error error => rfl
    | ok outcome => cases outcome <;> rfl

theorem evaluate_foldl_and (lookup : Lookup) (rule : Rule) (rules : List Rule) :
    (rules.foldl (operator .and) rule).evaluate lookup =
      (rule :: rules).allM (·.evaluate lookup) := by
  simp only [evaluate_eq_answer, answer_foldl_and]

/-- Evaluation finds exactly the outcome that the rules allow. -/
theorem evaluate_eq_iff_outcome (lookup : Lookup) (rule : Rule)
    (result : Except EvaluationError Bool) :
    rule.evaluate lookup = result ↔ Outcome lookup rule result := by
  rw [evaluate_eq_answer, answer_eq_iff]

end RecordRules.Rule
