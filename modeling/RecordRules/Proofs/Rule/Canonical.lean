import RecordRules.Proofs.Rule.Refusal
import RecordRules.Proofs.Rule.RoundTrip

/-!
# Rules told by their canonical text

The canonical text of an expressible rule is a sentence of the grammar, whether the rule was
read from a text or built by hand.  So nothing but the two limits stands between the text and
the rule, and within the limit on comparisons no two rules have a text in common.

* `Expressible.derives_tokens`: the sentence;
* `Expressible.parse_canonical_eq_ok_iff` and `Expressible.exists_limit_of_parse_canonical`:
  which rules are read back, and what happens to the others;
* `Expressible.eq_of_canonical_eq`: the text tells the rule.
-/

namespace RecordRules.Rule

section

variable {rule other : Rule} {options : ParseOptions}

theorem Expressible.derives_tokens (h : rule.Expressible) : Derives .operand rule.tokens rule := by
  induction rule with
  | comparison field comparator literal => exact .comparison (Literal.spelling_token h.2)
  | operator connective left right ihl ihr =>
    have hchain : Derives .expression (left.tokens ++ .connective connective :: right.tokens)
        (.operator connective left right) := .chained (.single (ihl h.1)) (ihr h.2)
    have hgroup := Derives.grouped hchain
    rwa [List.append_assoc, List.cons_append] at hgroup

theorem Expressible.parse_canonical_eq_ok_iff (h : rule.Expressible) :
    parse options rule.canonical = .ok rule ↔
      rule.depth ≤ options.maxDepth + 1 ∧ rule.comparisonCount ≤ maxComparisons := by
  constructor
  · intro hparse
    have hcount := (expressible_of_parse hparse).2
    rw [parse_canonical_of_expressible h hcount] at hparse
    split at hparse
    · next hdepth => exact ⟨hdepth, hcount⟩
    · cases hparse
  · rintro ⟨hdepth, hcount⟩
    rw [parse_canonical_of_expressible h hcount, if_pos hdepth]

theorem Expressible.exists_limit_of_parse_canonical (h : rule.Expressible)
    (hparse : parse options rule.canonical ≠ .ok rule) :
    ∃ error, error.IsLimit options.maxDepth ∧ parse options rule.canonical = .error error := by
  rw [parse_of_scan (scan_canonical options.lenient h)] at hparse ⊢
  exact (ofTokens_of_derives (.single h.derives_tokens)).resolve_left hparse

theorem Expressible.eq_of_canonical_eq (h : rule.Expressible) (hother : other.Expressible)
    (hcount : rule.comparisonCount ≤ maxComparisons)
    (hcount' : other.comparisonCount ≤ maxComparisons)
    (htext : other.canonical = rule.canonical) : other = rule := by
  let options : ParseOptions := { maxDepth := max rule.depth other.depth }
  have hrule : parse options rule.canonical = .ok rule :=
    h.parse_canonical_eq_ok_iff.2 ⟨Nat.le_add_right_of_le (Nat.le_max_left _ _), hcount⟩
  have hread : parse options other.canonical = .ok other :=
    hother.parse_canonical_eq_ok_iff.2 ⟨Nat.le_add_right_of_le (Nat.le_max_right _ _), hcount'⟩
  rw [htext, hrule] at hread
  exact (Except.ok.inj hread).symm

end

/-- The canonical text of an expressible rule is read back as that rule exactly within the
limits, and is refused for a limit otherwise.  It belongs to no other expressible rule of so
few comparisons. -/
theorem canonical_tells_rule (rule : Rule) (h : rule.Expressible) :
    (∀ options : ParseOptions,
      (parse options rule.canonical = .ok rule ↔
        rule.depth ≤ options.maxDepth + 1 ∧ rule.comparisonCount ≤ 4096) ∧
      (¬(rule.depth ≤ options.maxDepth + 1 ∧ rule.comparisonCount ≤ 4096) →
        ∃ error, error.IsLimit options.maxDepth ∧
          parse options rule.canonical = .error error)) ∧
      (rule.comparisonCount ≤ 4096 → ∀ other : Rule, other.Expressible →
        other.comparisonCount ≤ 4096 → other.canonical = rule.canonical → other = rule) := by
  refine ⟨fun options => ⟨h.parse_canonical_eq_ok_iff, fun hlimit => ?_⟩, ?_⟩
  · exact h.exists_limit_of_parse_canonical (mt h.parse_canonical_eq_ok_iff.1 hlimit)
  · exact fun hcount other hother hcount' htext =>
      h.eq_of_canonical_eq hother hcount hcount' htext

/-- A tree of depth three is read back under a limit of two, not under a limit of one. -/
theorem canonical_tells_rule_nested :
    let rule := operator .or (comparison "größe" .ge (.float (.finite false .zero)))
      (operator .and (comparison "_b2" .ne (.text "AND (")) (comparison "or" .lt (.int 7)))
    rule.Expressible ∧ rule.canonical = "(größe >= 0.0 OR (_b2 != 'AND (' AND or < 7))" ∧
      parse ⟨2, true⟩ rule.canonical = .ok rule ∧
      ∃ error, error.IsLimit 1 ∧ parse ⟨1, false⟩ rule.canonical = .error error := by
  intro rule
  have hword {name : String} (c : Char) (rest : List Char) (hname : name.toList = c :: rest)
      (hc : Lexeme.startsWord c) (hrest : rest.all Lexeme.continuesWord) (hand : name ≠ "AND")
      (hor : name ≠ "OR") : IsName name :=
    ⟨⟨c, rest, hname, hc, List.all_eq_true.1 hrest⟩, hand, hor⟩
  have hquotable : IsQuotable "AND (" := show '\x27' ∉ "AND (".toList by decide
  have hexpressible : rule.Expressible :=
    ⟨⟨hword 'g' ['r', 'ö', 'ß', 'e'] rfl (by decide) (by decide +kernel) (by decide) (by decide),
        ⟨_, rfl⟩⟩,
      ⟨hword '_' ['b', '2'] rfl (by decide) (by decide) (by decide) (by decide), hquotable⟩,
      hword 'o' ['r'] rfl (by decide) (by decide) (by decide) (by decide),
      show 0 ≤ (7 : Int64).toInt by decide⟩
  obtain ⟨hlimits, -⟩ := canonical_tells_rule rule hexpressible
  exact ⟨hexpressible, by decide +kernel, (hlimits ⟨2, true⟩).1.2 (by decide),
    (hlimits ⟨1, false⟩).2 (by decide)⟩

end RecordRules.Rule
