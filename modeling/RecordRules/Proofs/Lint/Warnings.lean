import Mathlib.Data.List.FinRange
import RecordRules.Proofs.Lint.Agreement
import RecordRules.Proofs.Number.Order
import RecordRules.Proofs.Rule.Canonical

/-!
# What the linter warns of

The linter knows conditions by their canonical text.  Within an accepted rule two conditions
have the same text exactly if they are the same (`Condition.canonical_eq_iff_same`), so that the
conditions it takes for repeated are those that repeat an earlier one (`warnings_tell_rule`).
-/

namespace RecordRules

open Number

/-! ## Entries that occur again -/

section

variable {α β : Type} [DecidableEq β]

theorem repeated_go (f : α → β) (seen : List β) (entries : List α) :
    repeated.go seen (entries.map f) =
      ((List.finRange entries.length).filter fun i =>
        f entries[i] ∈ seen ∨ ∃ j < i, f entries[j] = f entries[i]).map fun i => f entries[i] := by
  induction entries generalizing seen with
  | nil => rfl
  | cons entry entries ih =>
    have hlater (i : Fin entries.length) :
        (∃ j < i.succ, f (entry :: entries)[j] = f entries[i]) ↔
          f entry = f entries[i] ∨ ∃ j < i, f entries[j] = f entries[i] := by
      rw [Fin.exists_fin_succ]
      simp
    rw [List.map_cons, repeated.go, ih, ih]
    simp only [List.length_cons, List.finRange_succ, List.filter_cons, List.filter_map,
      Function.comp_def, Fin.getElem_fin, Fin.val_zero, Fin.val_succ, List.getElem_cons_zero,
      List.getElem_cons_succ, Fin.not_lt_zero, false_and, exists_false, or_false,
      decide_eq_true_eq] at hlater ⊢
    split
    · next hseen =>
      rw [List.map_cons, List.map_map]
      refine congrArg (f entry :: List.map _ ·) (List.filter_congr fun i _ => ?_)
      rw [decide_eq_decide, hlater]
      constructor
      · exact Or.imp_right .inr
      · rintro (hmem | heq | hearlier)
        · exact .inl hmem
        · exact .inl (heq ▸ hseen)
        · exact .inr hearlier
    · next hnew =>
      rw [List.map_map]
      refine congrArg (List.map _ ·) (List.filter_congr fun i _ => ?_)
      rw [decide_eq_decide, hlater, List.mem_cons, eq_comm, or_assoc, or_left_comm]

theorem repeated_map (f : α → β) (entries : List α) :
    repeated (entries.map f) =
      ((List.finRange entries.length).filter fun i =>
        ∃ j < i, f entries[j] = f entries[i]).map fun i => f entries[i] := by
  rw [repeated, repeated_go]
  simp

end

/-! ## Conditions that are the same -/

def Condition.toRule (condition : Condition) : Rule :=
  .comparison condition.field condition.comparator condition.literal

/-- Equal in field and comparator, and in the literal by type and value. -/
def Condition.same (a b : Condition) : Bool := a.toRule.same b.toRule

theorem Literal.same_iff_eq {a b : Literal} (ha : a.Expressible) (hb : b.Expressible) :
    a.same b ↔ a = b := by
  cases a with
  | int a => cases b <;> simp [same]
  | text a => cases b <;> simp [same]
  | float a =>
    cases b with
    | int b => simp [same]
    | text b => simp [same]
    | float b =>
      obtain ⟨x, rfl⟩ := ha
      obtain ⟨y, rfl⟩ := hb
      have hunits (z : Magnitude) : (Double.finite false z).units = some (z.units : Int) := rfl
      rw [same, Double.compare?_of_units (hunits x) (hunits y)]
      simpa using ⟨Magnitude.units_injective, congrArg Magnitude.units⟩

theorem Rule.Expressible.of_mem_conditions {rule : Rule} (h : rule.Expressible)
    {condition : Condition} (hmem : condition ∈ rule.conditions) :
    condition.toRule.Expressible := by
  induction rule with
  | comparison field comparator literal =>
    obtain rfl := List.mem_singleton.1 hmem
    exact h
  | operator connective left right ihl ihr =>
    rcases List.mem_append.1 hmem with hleft | hright
    · exact ihl h.1 hleft
    · exact ihr h.2 hright

theorem Condition.canonical_eq_iff_same {a b : Condition} (ha : a.toRule.Expressible)
    (hb : b.toRule.Expressible) : a.canonical = b.canonical ↔ a.same b := by
  have hsame : a.same b ↔ a.toRule = b.toRule := by
    simp [same, toRule, Rule.same, Literal.same_iff_eq ha.2 hb.2, and_assoc]
  rw [hsame]
  constructor
  · have hone : 1 ≤ maxComparisons := by decide
    exact fun htext => hb.eq_of_canonical_eq ha hone hone htext
  · exact congrArg Rule.canonical

def Rule.RepeatsAt (rule : Rule) (place : Fin rule.conditions.length) : Prop :=
  ∃ earlier < place, rule.conditions[earlier].same rule.conditions[place]
  deriving Decidable

def Rule.repetitions (rule : Rule) : List Condition :=
  ((List.finRange rule.conditions.length).filter rule.RepeatsAt).map
    fun place => rule.conditions[place]

theorem Rule.repetitions_eq_nil_iff {rule : Rule} :
    rule.repetitions = [] ↔ ¬∃ place, rule.RepeatsAt place := by
  simp [repetitions, List.filter_eq_nil_iff]

theorem Rule.Expressible.repeated_canonical {rule : Rule} (h : rule.Expressible) :
    repeated (rule.conditions.map Condition.canonical) =
      rule.repetitions.map Condition.canonical := by
  rw [repeated_map, repetitions, List.map_map]
  refine congrArg (List.map _ ·) (List.filter_congr fun place _ => decide_eq_decide.2 ?_)
  refine exists_congr fun earlier => and_congr_right fun _ => ?_
  exact Condition.canonical_eq_iff_same (h.of_mem_conditions (List.getElem_mem _))
    (h.of_mem_conditions (List.getElem_mem _))

/-! ## Warnings -/

theorem Impact.classify_eq (operators : Nat) :
    classify (operators + 1) operators =
      if operators + 1 ≤ 3 then .low else if operators + 1 ≤ 5 then .medium else .high := by
  unfold classify
  split_ifs <;> first | rfl | omega

namespace RuleShape

theorem impact_ofRule (rule : Rule) :
    (ofRule rule).impact = if rule.comparisonCount ≤ 3 then .low
      else if rule.comparisonCount ≤ 5 then .medium else .high := by
  rw [impact, ofRule, visit_eq, Nat.zero_add, Nat.zero_add, ← rule.operatorCount_add_one]
  exact Impact.classify_eq _

theorem conditions_ofRule (rule : Rule) :
    (ofRule rule).conditions.toList = rule.conditions.map Condition.canonical := by
  simp [ofRule, visit_eq]

end RuleShape

namespace LintReport

theorem warningsFor_of_expressible {rule : Rule} (h : rule.Expressible) :
    warningsFor (RuleShape.ofRule rule) rule.depth =
      (if (RuleShape.ofRule rule).impact = .high then [.expensive] else []) ++
      (if ∃ place, rule.RepeatsAt place then
        [.redundant (rule.repetitions.map Condition.canonical)] else []) ++
      (if 9 ≤ rule.depth then [.deep rule.depth] else []) := by
  have hempty : (rule.repetitions.map Condition.canonical).isEmpty = true ↔
      ¬∃ place, rule.RepeatsAt place := by
    rw [List.isEmpty_iff, List.map_eq_nil_iff, Rule.repetitions_eq_nil_iff]
  simp only [warningsFor, RuleShape.conditions_ofRule, h.repeated_canonical, hempty, ite_not]
  rfl

/-- The impact of an accepted rule goes by the number of its comparisons, and the warnings and
their texts are those that the rule deserves: that it is expensive, which conditions repeat an
earlier one, and that it is nested deeply. -/
theorem warnings_tell_rule (whitelist : Whitelist) (options : Rule.ParseOptions) (text : String)
    (rule : Rule) (h : Rule.parse options text = .ok rule) :
    let report := ofText whitelist options text
    (report.impact = if rule.comparisonCount ≤ 3 then .low
        else if rule.comparisonCount ≤ 5 then .medium else .high) ∧
      report.warnings =
        (if report.impact = .high then [.expensive] else []) ++
        (if ∃ place, rule.RepeatsAt place then
          [.redundant (rule.repetitions.map Condition.canonical)] else []) ++
        (if 9 ≤ rule.depth then [.deep rule.depth] else []) ∧
      report.warnings.map LintWarning.message =
        (if report.impact = .high then ["Rule may have performance implications"] else []) ++
        (if ∃ place, rule.RepeatsAt place then
          ["Rule contains potentially redundant conditions: " ++
            ", ".intercalate (rule.repetitions.map Condition.canonical)] else []) ++
        (if 9 ≤ rule.depth then ["Rule is nested " ++ rule.depth.repr ++ " levels deep"]
          else []) := by
  intro report
  have hreport : report.impact = (RuleShape.ofRule rule).impact ∧
      report.warnings = warningsFor (RuleShape.ofRule rule) rule.depth := by
    simp only [report, ofText, h, and_self]
  obtain ⟨himpact, hwarnings⟩ := hreport
  have hkinds := warningsFor_of_expressible (Rule.expressible_of_parse h).1
  rw [← hwarnings, ← himpact] at hkinds
  refine ⟨himpact.trans (RuleShape.impact_ofRule rule), hkinds, ?_⟩
  rw [hkinds, List.map_append, List.map_append, apply_ite (List.map LintWarning.message),
    apply_ite (List.map LintWarning.message), apply_ite (List.map LintWarning.message)]
  rfl

/-- Numbers and texts that are spelled differently repeat each other if their values agree, and a
float does not repeat an integer. -/
theorem warnings_tell_rule_repeated :
    let text := "a = 1 OR b > 0.0 OR a = 1.0 OR a = 01 OR b > 00.00 OR a = 'x' OR a = x" ++
      " OR a != 1 OR c < 2"
    let more : List Condition := [⟨"b", .gt, .float (.finite false .zero)⟩,
      ⟨"a", .eq, .float (.finite false ⟨2 ^ 52, 1022, by decide⟩)⟩, ⟨"a", .eq, .int 1⟩,
      ⟨"b", .gt, .float (.finite false .zero)⟩, ⟨"a", .eq, .text "x"⟩, ⟨"a", .eq, .text "x"⟩,
      ⟨"a", .ne, .int 1⟩, ⟨"c", .lt, .int 2⟩]
    let rule := (more.map Condition.toRule).foldl (.operator .or) (.comparison "a" .eq (.int 1))
    let report := ofText (.ofNames ["a", "b"]) {} text
    Rule.parse {} text = .ok rule ∧ report.impact = .high ∧
      report.warnings = [.expensive, .redundant ["a = 1", "b > 0.0", "a = 'x'"], .deep 9] ∧
      report.warnings.map LintWarning.message =
        ["Rule may have performance implications",
          "Rule contains potentially redundant conditions: a = 1, b > 0.0, a = 'x'",
          "Rule is nested 9 levels deep"] := by
  intro text more rule report
  have hparse : Rule.parse {} text = .ok rule := by decide +kernel
  obtain ⟨himpact, hwarnings, hmessages⟩ :=
    warnings_tell_rule (.ofNames ["a", "b"]) {} text rule hparse
  refine ⟨hparse, himpact, ?_, ?_⟩
  · rw [hwarnings, himpact]
    decide +kernel
  · rw [hmessages, himpact]
    decide +kernel

end LintReport

end RecordRules
