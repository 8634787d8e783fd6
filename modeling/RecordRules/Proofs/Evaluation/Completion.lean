import Mathlib.Data.Finset.Card
import Mathlib.Data.Finset.Dedup
import RecordRules.Proofs.Evaluation.ShortCircuit

/-!
# Records that are filled in

What a record already decides stays decided when more fields are added to it, although these
may be what the rule looks at then.

* `Outcome.extend`: the rules of evaluation lead to the same decided outcome;
* `Outcome.missing_field`: a field that is reported missing is one of the rule, and the record
  has no value for it;
* `exists_decided_round`: whoever supplies the reported field again and again gets an answer,
  since every round leaves fewer fields of the rule without a value (`card_missing_lt`).
-/

namespace RecordRules

def Lookup.Extends (more lookup : Lookup) : Prop :=
  ∀ field value, lookup field = some value → more field = some value

namespace Rule

/-- Outcomes that say something about the rule and not that data is missing. -/
inductive Decided : Except EvaluationError Bool → Prop
  | ok (outcome : Bool) : Decided (.ok outcome)
  | mismatch (field : String) (comparator : Comparator) (value literal : String) :
      Decided (.error (.typeMismatch field comparator value literal))

theorem decided_or_missing (result : Except EvaluationError Bool) :
    Decided result ∨ ∃ field, result = .error (.missingField field) := by
  rcases result with (field | ⟨field, comparator, value, literal⟩) | outcome
  · exact .inr ⟨field, rfl⟩
  · exact .inl (.mismatch field comparator value literal)
  · exact .inl (.ok outcome)

theorem decided_compare (condition : Condition) (value : Value) :
    Decided (condition.compare value) := by
  unfold Condition.compare
  split
  · exact .ok _
  · exact .mismatch _ _ _ _

section

variable {lookup more : Lookup} {rule : Rule} {result : Except EvaluationError Bool}
  {field : String}

/-! ## Records that have more -/

theorem Outcome.extend (h : Outcome lookup rule result) (hmore : more.Extends lookup)
    (hdecided : Decided result) : Outcome more rule result := by
  induction h with
  | missing => cases hdecided
  | compared hvalue => exact .compared (hmore _ _ hvalue)
  | failed _ ih =>
    cases hdecided with
    | mismatch => exact .failed (ih (.mismatch _ _ _ _))
  | andFalse _ ih => exact .andFalse (ih (.ok false))
  | andTrue _ _ ihleft ihright => exact .andTrue (ihleft (.ok true)) (ihright hdecided)
  | orTrue _ ih => exact .orTrue (ih (.ok true))
  | orFalse _ _ ihleft ihright => exact .orFalse (ihleft (.ok false)) (ihright hdecided)

theorem evaluate_of_extends (hmore : more.Extends lookup) (h : rule.evaluate lookup = result)
    (hdecided : Decided result) : rule.evaluate more = result := by
  rw [evaluate_eq_answer] at h ⊢
  exact answer_of_outcome ((answer_eq_iff.1 h).extend hmore hdecided)

/-! ## Fields that are missing -/

theorem Outcome.missing_field (h : Outcome lookup rule result)
    (hmissing : result = .error (.missingField field)) :
    field ∈ rule.fields ∧ lookup field = none := by
  induction h with
  | missing hnone =>
    cases hmissing
    exact ⟨List.mem_singleton_self _, hnone⟩
  | @compared name comparator literal value _ =>
    have hdecided := decided_compare ⟨name, comparator, literal⟩ value
    rw [hmissing] at hdecided
    cases hdecided
  | failed _ ih =>
    rw [fields_operator]
    cases hmissing
    exact (ih rfl).imp_left (List.mem_append_left _)
  | andFalse | orTrue => cases hmissing
  | andTrue _ _ _ ih | orFalse _ _ _ ih =>
    rw [fields_operator]
    exact (ih hmissing).imp_left (List.mem_append_right _)

theorem evaluate_missing_field (h : rule.evaluate lookup = .error (.missingField field)) :
    field ∈ rule.fields ∧ lookup field = none := by
  rw [evaluate_eq_answer] at h
  exact (answer_eq_iff.1 h).missing_field rfl

/-! ## Rounds -/

def missing (rule : Rule) (lookup : Lookup) : Finset String :=
  rule.fields.toFinset.filter fun field => lookup field = none

theorem card_missing_le (rule : Rule) (lookup : Lookup) :
    (rule.missing lookup).card ≤ rule.fields.toFinset.card :=
  Finset.card_filter_le _ _

theorem card_missing_lt (h : rule.evaluate lookup = .error (.missingField field))
    (hmore : more.Extends lookup) (hfield : more field ≠ none) :
    (rule.missing more).card < (rule.missing lookup).card := by
  obtain ⟨hmem, hnone⟩ := evaluate_missing_field h
  apply Finset.card_lt_card
  have hbefore : field ∈ rule.missing lookup :=
    Finset.mem_filter.2 ⟨List.mem_toFinset.2 hmem, hnone⟩
  have hafter : field ∉ rule.missing more := fun hstill => hfield (Finset.mem_filter.1 hstill).2
  refine (Finset.ssubset_iff_of_subset fun other hother => ?_).2 ⟨field, hbefore, hafter⟩
  obtain ⟨hother, hnoneOther⟩ := Finset.mem_filter.1 hother
  refine Finset.mem_filter.2 ⟨hother, Option.eq_none_iff_forall_ne_some.2 fun value hvalue => ?_⟩
  cases hnoneOther.symm.trans (hmore other value hvalue)

theorem exists_decided_round (rounds : Nat → Lookup)
    (h : ∀ n field, rule.evaluate (rounds n) = .error (.missingField field) →
      (rounds (n + 1)).Extends (rounds n) ∧ rounds (n + 1) field ≠ none) :
    ∃ n ≤ (rule.missing (rounds 0)).card, Decided (rule.evaluate (rounds n)) := by
  induction hcard : (rule.missing (rounds 0)).card using Nat.strongRecOn generalizing rounds with
  | ind card ih =>
    rcases decided_or_missing (rule.evaluate (rounds 0)) with hdecided | ⟨field, hmissing⟩
    · exact ⟨0, Nat.zero_le _, hdecided⟩
    · obtain ⟨hextends, hsupplied⟩ := h 0 field hmissing
      have hlt := card_missing_lt hmissing hextends hsupplied
      rw [hcard] at hlt
      obtain ⟨n, hn, hdecided⟩ := ih _ hlt (fun n => rounds (n + 1)) (fun n => h (n + 1)) rfl
      exact ⟨n + 1, Nat.succ_le_of_lt (Nat.lt_of_le_of_lt hn hlt), hdecided⟩

end

/-- More data leaves a decided outcome as it is.  A field that is reported missing is a field
of the rule without a value, which is not reported again once it has one.  So supplying what is
reported, round by round, decides the rule after no more rounds than it has fields. -/
theorem evaluate_with_more_data (rule : Rule) (lookup : Lookup) :
    (∀ more : Lookup, more.Extends lookup →
      (∀ outcome, rule.evaluate lookup = .ok outcome → rule.evaluate more = .ok outcome) ∧
      ∀ field comparator value literal,
        rule.evaluate lookup = .error (.typeMismatch field comparator value literal) →
          rule.evaluate more = .error (.typeMismatch field comparator value literal)) ∧
    (∀ field, rule.evaluate lookup = .error (.missingField field) →
      (field ∈ rule.fields ∧ lookup field = none) ∧
      ∀ more : Lookup, more.Extends lookup → more field ≠ none →
        rule.evaluate more ≠ .error (.missingField field)) ∧
    ∀ rounds : Nat → Lookup, rounds 0 = lookup →
      (∀ n field, rule.evaluate (rounds n) = .error (.missingField field) →
        (rounds (n + 1)).Extends (rounds n) ∧ rounds (n + 1) field ≠ none) →
      ∃ n ≤ rule.fields.toFinset.card, Decided (rule.evaluate (rounds n)) := by
  refine ⟨fun more hmore =>
      ⟨fun outcome hok => ?_, fun field comparator value literal herror => ?_⟩,
    fun field hmissing => ⟨evaluate_missing_field hmissing, fun more _ hfield hagain => ?_⟩, ?_⟩
  · exact evaluate_of_extends hmore hok (.ok outcome)
  · exact evaluate_of_extends hmore herror (.mismatch field comparator value literal)
  · exact hfield (evaluate_missing_field hagain).2
  · rintro rounds rfl hrounds
    obtain ⟨n, hn, hdecided⟩ := exists_decided_round rounds hrounds
    exact ⟨n, hn.trans (rule.card_missing_le _), hdecided⟩

/-- The reported fields are supplied one after the other, until the value of the second turns
out to be of the wrong type.  The third is never asked for. -/
theorem evaluate_with_more_data_supplied :
    let rule := operator .or (operator .and (comparison "a" .gt (.int 1))
      (comparison "b" .eq (.text "x"))) (comparison "c" .lt (.int 2))
    let rounds : Nat → Lookup := fun n field =>
      if field = "a" ∧ 1 ≤ n then some (.int 5)
      else if field = "b" ∧ 2 ≤ n then some (.int 3) else none
    (rule.evaluate (rounds 0) = .error (.missingField "a") ∧
        "a" ∈ rule.fields ∧ rounds 0 "a" = none ∧
        rule.evaluate (rounds 1) ≠ .error (.missingField "a")) ∧
      (rule.evaluate (rounds 2) = .error (.typeMismatch "b" .eq "Int" "String") ∧
        rule.evaluate (rounds 3) = .error (.typeMismatch "b" .eq "Int" "String")) ∧
      ∃ n ≤ rule.fields.toFinset.card, Decided (rule.evaluate (rounds n)) := by
  intro rule rounds
  have hfirst : rule.evaluate (rounds 0) = .error (.missingField "a") := by
    rw [evaluate_eq_answer]
    decide
  have hsecond : rule.evaluate (rounds 1) = .error (.missingField "b") := by
    rw [evaluate_eq_answer]
    decide
  have hthird : rule.evaluate (rounds 2) = .error (.typeMismatch "b" .eq "Int" "String") := by
    rw [evaluate_eq_answer]
    decide
  have hextends (n : Nat) : (rounds (n + 1)).Extends (rounds n) := by
    intro field value hvalue
    simp only [rounds] at hvalue ⊢
    grind
  have hlast (n : Nat) : rounds (n + 2) = rounds 2 := by
    funext field
    simp [rounds]
  obtain ⟨-, hmissing, -⟩ := evaluate_with_more_data rule (rounds 0)
  obtain ⟨⟨hmem, hnone⟩, hagain⟩ := hmissing "a" hfirst
  have hrounds (n : Nat) (field : String)
      (h : rule.evaluate (rounds n) = .error (.missingField field)) :
      (rounds (n + 1)).Extends (rounds n) ∧ rounds (n + 1) field ≠ none := by
    refine ⟨hextends n, ?_⟩
    match n with
    | 0 =>
      cases hfirst.symm.trans h
      decide
    | 1 =>
      cases hsecond.symm.trans h
      decide
    | n + 2 =>
      rw [hlast] at h
      cases hthird.symm.trans h
  exact ⟨⟨hfirst, hmem, hnone, hagain (rounds 1) (hextends 0) (by decide)⟩,
    ⟨hthird,
      ((evaluate_with_more_data rule (rounds 2)).1 (rounds 3) (hextends 2)).2 _ _ _ _ hthird⟩,
    (evaluate_with_more_data rule (rounds 0)).2.2 rounds rfl hrounds⟩

end Rule

end RecordRules
