import Mathlib.Algebra.Order.BigOperators.Group.List
import Mathlib.Algebra.Order.Ring.Nat
import RecordRules.Proofs.Usage.Counters

/-!
# The average latency

Latencies are capped at the greatest word and added up in one word, which wraps around.  So the
average is that of the recorded latencies as long as their sum is a word
(`UsageStats.average_of_evaluations`): it is never above the greatest of them, but it may fall
below the least one as soon as the sum has wrapped around.
-/

namespace RecordRules.UsageStats

/-- The latencies that count, none of which exceeds a word. -/
def latencies (evaluations : List Evaluation) : List Nat :=
  evaluations.map fun evaluation => min evaluation.nanoseconds (UInt64.size - 1)

section

variable (evaluations : List Evaluation)

theorem totalNanoseconds_ofEvaluations :
    (ofEvaluations evaluations).totalNanoseconds = .ofNat (latencies evaluations).sum := by
  induction evaluations using List.reverseRecOn with
  | nil => rfl
  | append_singleton evaluations evaluation ih =>
    have hlatencies : latencies (evaluations ++ [evaluation]) =
        latencies evaluations ++ [min evaluation.nanoseconds (UInt64.size - 1)] := List.map_append
    rw [ofEvaluations_concat, record, ih, hlatencies, List.sum_append, List.sum_singleton,
      UInt64.ofNat_add]
    rfl

variable {evaluations}

theorem toNat_averageNanoseconds (hne : evaluations ≠ [])
    (hlength : evaluations.length < UInt64.size) :
    (ofEvaluations evaluations).averageNanoseconds.toNat =
      (latencies evaluations).sum % UInt64.size / evaluations.length := by
  have hcount : (ofEvaluations evaluations).evaluations.toNat = evaluations.length := by
    rw [evaluations_ofEvaluations]
    exact UInt64.toNat_ofNat_of_lt' hlength
  have hpos : (ofEvaluations evaluations).evaluations ≠ 0 := by
    intro hzero
    rw [hzero] at hcount
    exact hne (List.length_eq_zero_iff.1 hcount.symm)
  rw [averageNanoseconds, if_neg hpos, UInt64.toNat_div, hcount,
    totalNanoseconds_ofEvaluations]
  rfl

end

theorem exists_least_greatest {evaluations : List Evaluation} (hne : evaluations ≠ []) :
    ∃ least greatest, (latencies evaluations).min? = some least ∧
      (latencies evaluations).max? = some greatest := by
  have hlatencies : latencies evaluations ≠ [] := mt List.map_eq_nil_iff.1 hne
  obtain ⟨least, hleast⟩ := Option.isSome_iff_exists.1 (List.isSome_min?_of_ne_nil hlatencies)
  obtain ⟨greatest, hgreatest⟩ :=
    Option.isSome_iff_exists.1 (List.isSome_max?_of_ne_nil hlatencies)
  exact ⟨least, greatest, hleast, hgreatest⟩

/-- The average of some latencies is the part of their sum that fits a word over their number.  It
is never above the greatest of them.  It is not below the least one if that part bears so much, as
it does if the latencies add up to a word. -/
theorem average_of_evaluations (evaluations : List Evaluation) (hne : evaluations ≠ [])
    (hlength : evaluations.length < 2 ^ 64) :
    ∃ least greatest, (latencies evaluations).min? = some least ∧
      (latencies evaluations).max? = some greatest ∧
      (ofEvaluations evaluations).averageNanoseconds.toNat =
        (latencies evaluations).sum % 2 ^ 64 / evaluations.length ∧
      (ofEvaluations evaluations).averageNanoseconds.toNat ≤ greatest ∧
      (least ≤ (ofEvaluations evaluations).averageNanoseconds.toNat ↔
        evaluations.length * least ≤ (latencies evaluations).sum % 2 ^ 64) ∧
      ((latencies evaluations).sum < 2 ^ 64 →
        least ≤ (ofEvaluations evaluations).averageNanoseconds.toNat) := by
  obtain ⟨least, greatest, hleast, hgreatest⟩ := exists_least_greatest hne
  have haverage : (ofEvaluations evaluations).averageNanoseconds.toNat =
      (latencies evaluations).sum % 2 ^ 64 / evaluations.length :=
    toNat_averageNanoseconds hne hlength
  have hcount : (latencies evaluations).length = evaluations.length := List.length_map _
  have hlow : evaluations.length * least ≤ (latencies evaluations).sum := by
    rw [← hcount]
    exact List.card_nsmul_le_sum _ _ (List.min?_eq_some_iff.1 hleast).2
  have hhigh : (latencies evaluations).sum ≤ evaluations.length * greatest := by
    rw [← hcount]
    exact List.sum_le_card_nsmul _ _ (List.max?_eq_some_iff.1 hgreatest).2
  have hiff : least ≤ (ofEvaluations evaluations).averageNanoseconds.toNat ↔
      evaluations.length * least ≤ (latencies evaluations).sum % 2 ^ 64 := by
    rw [haverage, Nat.le_div_iff_mul_le (List.length_pos_of_ne_nil hne), Nat.mul_comm]
  refine ⟨least, greatest, hleast, hgreatest, haverage, ?_, hiff, fun hfits => ?_⟩
  · rw [haverage]
    exact Nat.div_le_of_le_mul ((Nat.mod_le _ _).trans hhigh)
  · rw [hiff, Nat.mod_eq_of_lt hfits]
    exact hlow

theorem average_of_evaluations_third :
    let evaluations : List Evaluation := [⟨true, 2 ^ 64 / 3, 100⟩, ⟨false, 2 ^ 64 / 3 - 7, 200⟩,
      ⟨true, 2 ^ 64 / 3, 300⟩]
    evaluations ≠ [] ∧ evaluations.length < 2 ^ 64 ∧
      (latencies evaluations).sum < 2 ^ 64 ∧
      ∃ least greatest, (latencies evaluations).min? = some least ∧
        (latencies evaluations).max? = some greatest ∧
        least ≤ (ofEvaluations evaluations).averageNanoseconds.toNat ∧
        (ofEvaluations evaluations).averageNanoseconds.toNat ≤ greatest := by
  intro evaluations
  have hfits : (latencies evaluations).sum < 2 ^ 64 := by decide
  obtain ⟨least, greatest, hleast, hgreatest, -, hhigh, -, hlow⟩ :=
    average_of_evaluations evaluations (List.cons_ne_nil _ _) (by decide)
  exact ⟨List.cons_ne_nil _ _, by decide, hfits, least, greatest, hleast, hgreatest, hlow hfits,
    hhigh⟩

/-- Two latencies of half a word each leave nothing of their sum. -/
theorem not_forall_average_between :
    ¬∀ evaluations : List Evaluation, evaluations ≠ [] → evaluations.length < 2 ^ 64 →
      ∃ least greatest, (latencies evaluations).min? = some least ∧
        (latencies evaluations).max? = some greatest ∧
        least ≤ (ofEvaluations evaluations).averageNanoseconds.toNat ∧
        (ofEvaluations evaluations).averageNanoseconds.toNat ≤ greatest := by
  intro hall
  let halves : List Evaluation := [⟨true, 2 ^ 63, 100⟩, ⟨true, 2 ^ 63, 200⟩]
  obtain ⟨least, greatest, hleast, -, hlow, -⟩ :=
    hall halves (List.cons_ne_nil _ _) (by decide)
  have hhalf : (latencies halves).min? = some (2 ^ 63) := by decide
  have hzero : (ofEvaluations halves).averageNanoseconds.toNat = 0 := by
    decide
  rw [hhalf] at hleast
  cases hleast
  rw [hzero] at hlow
  exact absurd hlow (by decide)

end RecordRules.UsageStats
