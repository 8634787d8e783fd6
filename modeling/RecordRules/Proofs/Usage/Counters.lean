import Mathlib.Data.List.Induction
import RecordRules.Usage

/-!
# What counters stand for

The statistics of a rule are told by the evaluations that were recorded, in order
(`UsageStats.ofEvaluations`): how many there were, in how many the rule held, how long they took
in all and when the last one was.  A report says the same as long as the counters, which are
words, have not run over (`UsageStats.report_ofEvaluations`).
-/

namespace RecordRules

structure Evaluation where
  outcome : Bool
  nanoseconds : Nat
  now : Timestamp
  deriving DecidableEq

namespace UsageStats

def ofEvaluations (evaluations : List Evaluation) : UsageStats :=
  evaluations.foldl (fun stats e => stats.record e.nanoseconds e.outcome e.now) {}

variable (evaluations : List Evaluation)

theorem ofEvaluations_concat (evaluation : Evaluation) :
    ofEvaluations (evaluations ++ [evaluation]) =
      (ofEvaluations evaluations).record evaluation.nanoseconds evaluation.outcome
        evaluation.now := by
  rw [ofEvaluations, List.foldl_append]
  rfl

theorem evaluations_ofEvaluations :
    (ofEvaluations evaluations).evaluations = .ofNat evaluations.length := by
  induction evaluations using List.reverseRecOn with
  | nil => rfl
  | append_singleton evaluations evaluation ih =>
    rw [ofEvaluations_concat, record, ih, List.length_append, UInt64.ofNat_add]
    rfl

theorem held_ofEvaluations :
    (ofEvaluations evaluations).held = .ofNat (evaluations.countP Evaluation.outcome) := by
  induction evaluations using List.reverseRecOn with
  | nil => rfl
  | append_singleton evaluations evaluation ih =>
    rw [ofEvaluations_concat, record, ih, List.countP_append, List.countP_singleton,
      UInt64.ofNat_add]
    cases evaluation.outcome
    · exact (UInt64.add_zero _).symm
    · rfl

theorem lastEvaluated_ofEvaluations :
    (ofEvaluations evaluations).lastEvaluated = evaluations.getLast?.map Evaluation.now := by
  induction evaluations using List.reverseRecOn with
  | nil => rfl
  | append_singleton evaluations evaluation =>
    rw [ofEvaluations_concat, List.getLast?_concat]
    rfl

theorem evaluated_ofEvaluations :
    (ofEvaluations evaluations).evaluated = !evaluations.isEmpty := by
  rw [evaluated, lastEvaluated_ofEvaluations, Option.isSome_map]
  cases evaluations <;> rfl

variable {evaluations}

/-- Without overflow a report tells how often a rule was evaluated, held and failed, and when it
was evaluated last. -/
theorem report_ofEvaluations (hlength : evaluations.length < UInt64.size) (id : RuleId) :
    let report := (ofEvaluations evaluations).report id
    report.rule = id ∧
      report.evaluations.toNat = evaluations.length ∧
      report.held.toNat = evaluations.countP Evaluation.outcome ∧
      report.failed.toNat = evaluations.countP (!·.outcome) ∧
      report.lastEvaluated = evaluations.getLast?.map Evaluation.now ∧
      report.evaluated = !evaluations.isEmpty := by
  intro report
  have hsum : evaluations.length =
      evaluations.countP Evaluation.outcome + evaluations.countP (!·.outcome) := by
    simpa using List.length_eq_countP_add_countP Evaluation.outcome
  have hevaluations : (ofEvaluations evaluations).evaluations.toNat = evaluations.length := by
    rw [evaluations_ofEvaluations]
    exact UInt64.toNat_ofNat_of_lt' hlength
  have hheld : (ofEvaluations evaluations).held.toNat =
      evaluations.countP Evaluation.outcome := by
    rw [held_ofEvaluations]
    exact UInt64.toNat_ofNat_of_lt' (by omega)
  have hle : (ofEvaluations evaluations).held ≤ (ofEvaluations evaluations).evaluations := by
    rw [UInt64.le_iff_toNat_le, hevaluations, hheld]
    omega
  have hmin : min (ofEvaluations evaluations).held (ofEvaluations evaluations).evaluations =
      (ofEvaluations evaluations).held := if_pos hle
  refine ⟨rfl, hevaluations, ?held, ?failed, lastEvaluated_ofEvaluations evaluations,
    evaluated_ofEvaluations evaluations⟩
  case held => simpa only [report, UsageStats.report, hmin] using hheld
  case failed =>
    simp only [report, UsageStats.report, hmin]
    rw [UInt64.toNat_sub_of_le _ _ hle, hevaluations, hheld]
    omega

end UsageStats

end RecordRules
