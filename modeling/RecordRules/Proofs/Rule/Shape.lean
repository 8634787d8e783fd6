import RecordRules.Proofs.Evaluation.Calls
import RecordRules.Proofs.Rule.RoundTrip

/-!
# Shape of accepted rules

Every measure of an accepted rule that a walk over it may depend on is bounded.  Its
comparisons bound its depth (`depth_le_comparisonCount`).  Chains grow to the left, so a way
through the rule turns right at most once in every pair of parentheses and once outside of
them (`Derives.rightDepth_le`), however long the chains are.
-/

namespace RecordRules.Rule

theorem depth_le_comparisonCount (rule : Rule) : rule.depth ≤ rule.comparisonCount := by
  induction rule with
  | comparison => exact Nat.le_refl 1
  | operator connective left right ihl ihr =>
    have hleft := left.depth_pos
    have hright := right.depth_pos
    simp only [depth, comparisonCount]
    omega

/-- How often a way through a sentence may turn right outside of its parentheses. -/
def Nonterminal.turns : Nonterminal → Nat
  | expression => 1
  | operand => 0

theorem Derives.rightDepth_le {maxDepth depth : Nat} {nonterminal : Nonterminal}
    {tokens : List Token} {rule : Rule} (h : Derives nonterminal tokens rule)
    (hnested : NestedFrom maxDepth depth tokens) :
    depth + rule.rightDepth ≤ maxDepth + nonterminal.turns := by
  induction h generalizing depth with
  | grouped _ ih =>
    have hinside := ih hnested.inside.left
    simp only [Nonterminal.turns] at hinside ⊢
    omega
  | comparison => exact hnested.le_of_cons
  | single _ ih => exact Nat.le_succ_of_le (ih hnested)
  | @chained tokens more connective left right hleft _ ihl ihr =>
    have hfirst := ihl hnested.left
    have hmore := ihr (hleft.nestedFrom_behind hnested)
    simp only [rightDepth, Nonterminal.turns] at hfirst hmore ⊢
    omega

section

variable {options : ParseOptions} {text : String} {rule : Rule}

theorem rightDepth_le_of_parse (h : parse options text = .ok rule) :
    rule.rightDepth ≤ options.maxDepth + 1 := by
  obtain ⟨tokens, count, -, hpath⟩ := exists_path_of_parse h
  have hnested : NestedFrom options.maxDepth 0 tokens := hpath.nestedFrom (Nat.zero_le _)
  have hbound := hpath.derives.rightDepth_le hnested
  rwa [Nat.zero_add] at hbound

end

/-- An accepted rule has at most 4096 comparisons and is no deeper than it has comparisons.
A way through it turns right at most once more than parentheses may be nested, so that two
more calls than that evaluate it, whatever the record.  Its fields and literals are those that
a text can spell. -/
theorem accepted_rule_bounded (options : ParseOptions) (text : String) (rule : Rule)
    (h : parse options text = .ok rule) :
    rule.comparisonCount ≤ 4096 ∧ rule.depth ≤ rule.comparisonCount ∧
      (∀ way condition, WayTo rule way condition → way.count .right ≤ options.maxDepth + 1) ∧
      (∀ lookup, (evaluateWithin lookup (options.maxDepth + 2) rule).run =
        some (rule.evaluate lookup)) ∧
      rule.Expressible := by
  obtain ⟨hexpressible, hcount⟩ := expressible_of_parse h
  have hright := rightDepth_le_of_parse h
  refine ⟨hcount, rule.depth_le_comparisonCount, fun way condition hway => ?_, fun lookup => ?_,
    hexpressible⟩
  · exact hway.count_right_le.trans hright
  · exact evaluateWithin_eq_evaluate (Nat.lt_succ_of_le hright)

/-- Under a limit of one the bounds on turns and calls are met: the last comparison lies two
turns to the right. -/
theorem accepted_rule_bounded_nested :
    let rule := operator .or (comparison "größe" .ge (.float (.finite false .zero)))
      (operator .and (comparison "_b2" .ne (.text "AND (")) (comparison "or" .lt (.int 7)))
    let lookup : Lookup := fun field => if field = "größe" then some (.int (-1))
      else if field = "_b2" then some (.text "x") else some (.int 3)
    parse ⟨1, false⟩ "größe >= 0.0 OR (_b2 != 'AND (' AND or < 7)" = .ok rule ∧
      (WayTo rule [.right, .right] ⟨"or", .lt, .int 7⟩ ∧
        [Turn.right, .right].count .right ≤ 1 + 1) ∧
      (evaluateWithin lookup 2 rule).run = none ∧
      (evaluateWithin lookup (1 + 2) rule).run = some (rule.evaluate lookup) ∧
      rule.Expressible := by
  intro rule lookup
  have hparse : parse ⟨1, false⟩ "größe >= 0.0 OR (_b2 != 'AND (' AND or < 7)" = .ok rule := by
    decide +kernel
  obtain ⟨-, -, hways, hcalls, hexpressible⟩ := accepted_rule_bounded ⟨1, false⟩ _ rule hparse
  have hway : WayTo rule [.right, .right] ⟨"or", .lt, .int 7⟩ := .right (.right .leaf)
  exact ⟨hparse, ⟨hway, hways _ _ hway⟩, by decide +kernel, hcalls lookup, hexpressible⟩

end RecordRules.Rule
