import RecordRules.Proofs.Evaluation.ShortCircuit

/-!
# Nested calls of the evaluator

Evaluation walks down the left spine of a rule and calls itself for right operands alone, so
the calls nest as deep as the ways through the rule turn right.

* `rightDepth`: how often a way from the root to a leaf turns right at most
  (`WayTo.count_right_le`);
* `evaluateWithin`: evaluation by a bounded number of nested calls, which is evaluation if the
  rule has fewer right turns than there may be calls (`evaluateWithin_eq_evaluate`).
-/

namespace RecordRules.Rule

/-! ## Ways through a rule -/

inductive Turn where
  | left
  | right
  deriving DecidableEq

/-- The turns that lead from the root of a rule to one of its leaves. -/
inductive WayTo : Rule → List Turn → Condition → Prop
  | leaf {field comparator literal} :
      WayTo (comparison field comparator literal) [] ⟨field, comparator, literal⟩
  | left {connective left right way condition} : WayTo left way condition →
      WayTo (operator connective left right) (.left :: way) condition
  | right {connective left right way condition} : WayTo right way condition →
      WayTo (operator connective left right) (.right :: way) condition

def rightDepth : Rule → Nat
  | operator _ left right => max left.rightDepth (right.rightDepth + 1)
  | comparison _ _ _ => 0

theorem WayTo.count_right_le {rule : Rule} {way : List Turn} {condition : Condition}
    (h : WayTo rule way condition) : way.count .right ≤ rule.rightDepth := by
  induction h with
  | leaf => exact Nat.le_refl 0
  | left _ ih =>
    rw [List.count_cons_of_ne (by decide), rightDepth]
    exact Nat.le_trans ih (Nat.le_max_left _ _)
  | right _ ih =>
    rw [List.count_cons_self, rightDepth]
    exact Nat.le_trans (Nat.succ_le_succ ih) (Nat.le_max_right _ _)

theorem rightDepth_lt_of_mem_spine {rule right : Rule} {connective : Connective}
    {pending : List (Connective × Rule)} (h : (connective, right) ∈ (rule.spine pending).2) :
    right.rightDepth < rule.rightDepth ∨ (connective, right) ∈ pending := by
  induction rule generalizing pending with
  | comparison => exact .inr h
  | operator c left other ih _ =>
    rw [rightDepth]
    rcases ih h with hlt | hmem
    · exact .inl (Nat.lt_of_lt_of_le hlt (Nat.le_max_left _ _))
    · rcases List.mem_cons.1 hmem with heq | hmem
      · cases heq
        exact .inl (Nat.lt_of_succ_le (Nat.le_max_right _ _))
      · exact .inr hmem

/-! ## Bounded calls -/

/-- Evaluation by at most `calls` nested calls, this one included; there is no outcome if that
is not enough. -/
def evaluateWithin (lookup : Lookup) : Nat → Rule → ExceptT EvaluationError Option Bool
  | 0, _ => ExceptT.mk none
  | calls + 1, rule =>
    let spine := rule.spine []
    spine.2.foldlM (fun outcome operand =>
      if operand.1.settled outcome then pure outcome
      else evaluateWithin lookup calls operand.2) =<<
        ExceptT.mk (some (spine.1.evaluate lookup))

section

variable {lookup : Lookup}

theorem mk_some_bind {result : Except EvaluationError Bool}
    {f : Bool → ExceptT EvaluationError Option Bool} {g : Bool → Except EvaluationError Bool}
    (h : ∀ outcome, f outcome = ExceptT.mk (some (g outcome))) :
    ExceptT.mk (some result) >>= f = ExceptT.mk (some (result >>= g)) := by
  cases result with
  | error error => rfl
  | ok outcome => exact h outcome

theorem foldlM_evaluateWithin {calls : Nat} {pending : List (Connective × Rule)}
    (h : ∀ operand ∈ pending,
      evaluateWithin lookup calls operand.2 = ExceptT.mk (some (operand.2.answer lookup)))
    (outcome : Bool) :
    pending.foldlM (fun outcome operand =>
        if operand.1.settled outcome then pure outcome
        else evaluateWithin lookup calls operand.2) outcome =
      ExceptT.mk (some (unwind lookup pending outcome)) := by
  induction pending generalizing outcome with
  | nil => rfl
  | cons operand pending ih =>
    obtain ⟨hoperand, hpending⟩ := List.forall_mem_cons.1 h
    rw [List.foldlM_cons, unwind, List.foldlM_cons]
    split
    · exact ih hpending outcome
    · rw [hoperand]
      exact mk_some_bind (ih hpending)

theorem evaluateWithin_eq_answer {calls : Nat} {rule : Rule} (h : rule.rightDepth < calls) :
    evaluateWithin lookup calls rule = ExceptT.mk (some (rule.answer lookup)) := by
  induction calls generalizing rule with
  | zero => exact absurd h (Nat.not_lt_zero _)
  | succ calls ih =>
    have hpending : ∀ operand ∈ (rule.spine []).2,
        evaluateWithin lookup calls operand.2 = ExceptT.mk (some (operand.2.answer lookup)) := by
      intro operand hmem
      have hlt := (rightDepth_lt_of_mem_spine hmem).resolve_right List.not_mem_nil
      exact ih (Nat.lt_of_lt_of_le hlt (Nat.le_of_lt_succ h))
    rw [evaluateWithin]
    refine (mk_some_bind (foldlM_evaluateWithin hpending)).trans ?_
    rw [bind_unwind_spine]
    exact congrArg _ (congrArg _ (bind_pure _))

theorem evaluateWithin_eq_evaluate {calls : Nat} {rule : Rule} (h : rule.rightDepth < calls) :
    (evaluateWithin lookup calls rule).run = some (rule.evaluate lookup) := by
  rw [evaluateWithin_eq_answer h, evaluate_eq_answer]
  rfl

example : (evaluateWithin (fun _ => some (.int 1)) 1 (operator .and
    (comparison "a" .eq (.int 1)) (comparison "b" .gt (.int 2)))).run = none := by
  decide

end

end RecordRules.Rule
