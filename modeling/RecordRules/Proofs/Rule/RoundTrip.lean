import RecordRules.Proofs.Rule.Acceptance
import RecordRules.Proofs.Rule.Numerals

/-!
# Canonical text read back

The canonical text of a rule opens one parenthesis for every operator, so its nesting is
the depth of the tree, however flat the text was that the rule came from.

* `Rule.Expressible`: the rules that some text stands for, which holds of every accepted
  rule (`expressible_of_parse`);
* `scan_canonical`: the tokens of the canonical text of an expressible rule;
* `parse_canonical`: they are read back as the same rule if its depth is at most one more
  than the limit on nesting, and are refused as too deep if not.
-/

namespace RecordRules

open Number

/-! ## Rules that some text stands for -/

def Literal.Expressible : Literal → Prop
  | .int value => 0 ≤ value.toInt
  | .float value => ∃ x, value = .finite false x
  | .text value => IsQuotable value

theorem isQuotable_of_isName {name : String} (h : IsName name) : IsQuotable name := by
  obtain ⟨⟨c, rest, hname, hc, hrest⟩, -⟩ := h
  intro hquote
  rw [hname] at hquote
  have hall : ∀ d ∈ c :: rest, Lexeme.continuesWord d :=
    List.forall_mem_cons.2 ⟨Lexeme.continuesWord_of_startsWord hc, hrest⟩
  exact absurd (hall _ hquote) (by decide)

theorem Literal.expressible_of_spelling {token : Token} {literal : Literal}
    (h : Spelling token literal) (htoken : token.WellFormed) : literal.Expressible := by
  cases h with
  | text content => exact htoken
  | word name => exact isQuotable_of_isName htoken
  | int _ _ hvalue =>
    rw [Expressible, hvalue]
    exact Int.natCast_nonneg _
  | float => exact ⟨_, rfl⟩

namespace Rule

open Rule.Parser

def Expressible : Rule → Prop
  | operator _ left right => left.Expressible ∧ right.Expressible
  | comparison field _ literal => IsName field ∧ literal.Expressible

theorem Derives.expressible {nonterminal : Nonterminal} {tokens : List Token} {rule : Rule}
    (h : Derives nonterminal tokens rule) (htokens : ∀ token ∈ tokens, token.WellFormed) :
    rule.Expressible := by
  induction h with
  | grouped _ ih => exact ih fun token hmem => htokens token (by simp [hmem])
  | @comparison field comparator token literal hspelling =>
    have hfield := htokens (.word field) (by simp)
    exact ⟨hfield, Literal.expressible_of_spelling hspelling (htokens token (by simp))⟩
  | single _ ih => exact ih htokens
  | chained _ _ ihl ihr =>
    exact ⟨ihl fun token hmem => htokens token (by simp [hmem]),
      ihr fun token hmem => htokens token (by simp [hmem])⟩

section

variable {options : ParseOptions} {text : String} {tokens : List Token} {rule : Rule}

theorem expressible_of_parse (h : parse options text = .ok rule) :
    rule.Expressible ∧ rule.comparisonCount ≤ maxComparisons := by
  obtain ⟨tokens, count, hscan, hpath⟩ := exists_path_of_parse h
  exact ⟨hpath.derives.expressible fun _ => Token.wellFormed_of_scan hscan,
    hpath.comparisonCount_le⟩

end

end Rule

/-! ## Tokens of the canonical text -/

def Literal.token : Literal → Token
  | .int value => .number (intText value)
  | .float value => .number (floatText value)
  | .text value => .text value

namespace Literal

variable {literal : Literal}

theorem spelling_token (h : literal.Expressible) : Spelling literal.token literal := by
  cases literal with
  | int value => exact spelling_int h
  | float value =>
    obtain ⟨x, rfl⟩ := h
    exact spelling_float x
  | text value => exact .text value

theorem wellFormed_token (h : literal.Expressible) : literal.token.WellFormed := by
  have hspelling := spelling_token h
  cases literal with
  | int value => exact isNumeral_of_spelling hspelling
  | float value => exact isNumeral_of_spelling hspelling
  | text value => exact h

theorem lexemes_canonical (h : literal.Expressible) :
    lexemes literal.canonical.toList = [.token literal.token] := by
  have hshown : literal.canonical = literal.token.shown := by cases literal <;> rfl
  rw [hshown]
  exact lexemes_shown (wellFormed_token h)

end Literal

namespace Rule

open Rule.Parser

def tokens : Rule → List Token
  | operator connective left right =>
    .opening :: (left.tokens ++ .connective connective :: (right.tokens ++ [.closing]))
  | comparison field comparator literal => [.word field, .comparator comparator, literal.token]

variable {rule : Rule}

theorem lexemes_canonical (h : rule.Expressible) :
    lexemes rule.canonical.toList = rule.tokens.map .token := by
  induction rule with
  | comparison field comparator literal =>
    obtain ⟨hfield, hliteral⟩ := h
    have htext : (comparison field comparator literal).canonical.toList =
        field.toList ++ ' ' :: (comparator.text.toList ++ ' ' :: literal.canonical.toList) := by
      simp [canonical, Condition.canonical]
    rw [htext, lexemes_append_blank [.word field] (lexemes_name hfield),
      lexemes_append_blank [.comparator comparator] (lexemes_comparator comparator),
      Literal.lexemes_canonical hliteral]
    rfl
  | operator connective left right ihl ihr =>
    obtain ⟨hleft, hright⟩ := h
    have htext : (operator connective left right).canonical.toList =
        '(' :: (left.canonical.toList ++ ' ' :: (connective.text.toList ++
          ' ' :: (right.canonical.toList ++ [')']))) := by
      simp [canonical]
    rw [htext, lexemes_opening, lexemes_append_blank left.tokens (ihl hleft),
      lexemes_append_blank [.connective connective] (lexemes_connective connective),
      lexemes_append_of_eq_map (ihr hright) (Lexeme.separate_closing []), lexemes_closing,
      lexemes_nil]
    simp [tokens]

theorem scan_canonical (lenient : Bool) (h : rule.Expressible) :
    Token.scan lenient rule.canonical = .ok rule.tokens := by
  rw [Token.scan, lexemes_canonical h, Token.ofLexemes_map_token]

/-! ## The parser on these tokens -/

variable {maxDepth : Nat}

theorem depth_pos (rule : Rule) : 0 < rule.depth := by
  cases rule with
  | operator => exact Nat.lt_add_right _ Nat.one_pos
  | comparison => exact Nat.one_pos

theorem path_tokens (chain : Chain) (outer : List Chain) (count : Nat) (h : rule.Expressible)
    (hdepth : outer.length + rule.depth ≤ maxDepth + 1)
    (hcount : count + rule.comparisonCount ≤ maxComparisons) :
    Path maxDepth (.operand chain outer) count rule.tokens (.complete (chain.join rule) outer)
      (count + rule.comparisonCount) := by
  induction rule generalizing chain outer count with
  | comparison field comparator literal =>
    have hliteral := Literal.spelling_token h.2
    exact .cons (.field hcount) (.cons .comparator (.single (.literal hliteral)))
  | operator connective left right ihl ihr =>
    have hpos := left.depth_pos
    simp only [depth] at hdepth
    simp only [comparisonCount, ← Nat.add_assoc] at hcount ⊢
    have hopen : outer.length + 1 ≤ maxDepth := by omega
    have hinside : (chain :: outer).length = outer.length + 1 := rfl
    have hleft := ihl none (chain :: outer) count h.1 (by omega) (by omega)
    have hright := ihr (some (left, connective)) (chain :: outer) (count + left.comparisonCount)
      h.2 (by omega) (by omega)
    have hrest := hright.append (.single .closing)
    exact .cons (.opening hopen) (hleft.append (.cons .connective hrest))

theorem run_tokens_tooDeep (chain : Chain) (outer : List Chain) (count : Nat)
    (h : rule.Expressible) (houter : outer.length ≤ maxDepth)
    (hdepth : maxDepth + 1 < outer.length + rule.depth)
    (hcount : count + rule.comparisonCount ≤ maxComparisons) (rest : List Token) :
    ((State.operand chain outer).run maxDepth count (rule.tokens ++ rest)).1 =
      .error (.tooDeep maxDepth) := by
  induction rule generalizing chain outer count rest with
  | comparison field comparator literal =>
    simp only [depth] at hdepth
    omega
  | operator connective left right ihl ihr =>
    simp only [depth] at hdepth
    simp only [comparisonCount] at hcount
    rw [tokens, List.cons_append, State.run]
    by_cases hopen : maxDepth < outer.length + 1
    · rw [State.step, if_pos hopen]
    · have hinside : (chain :: outer).length = outer.length + 1 := rfl
      rw [State.step, if_neg hopen]
      dsimp only
      rw [List.append_assoc]
      by_cases hleft : maxDepth + 1 < outer.length + 1 + left.depth
      · exact ihl none (chain :: outer) count h.1 (by omega) (by omega) (by omega) _
      · have hpath : Path maxDepth _ count left.tokens _ _ :=
          path_tokens none (chain :: outer) count h.1 (by omega) (by omega)
        rw [run_append_of_path hpath, List.cons_append, List.append_assoc, State.run]
        exact ihr (some (left, connective)) (chain :: outer) (count + left.comparisonCount) h.2
          (by omega) (by omega) (by omega) _

theorem ofTokens_tokens (h : rule.Expressible) (hcount : rule.comparisonCount ≤ maxComparisons) :
    ofTokens maxDepth rule.tokens =
      if rule.depth ≤ maxDepth + 1 then .ok rule else .error (.tooDeep maxDepth) := by
  split
  · next hdepth =>
    have hpath := path_tokens none [] 0 h (by rwa [List.length_nil, Nat.zero_add])
      (by rwa [Nat.zero_add])
    exact ofTokens_eq_ok_iff_exists_path.2 ⟨_, hpath⟩
  · next hdepth =>
    have hrun := run_tokens_tooDeep none [] 0 h (Nat.zero_le maxDepth)
      (by rw [List.length_nil]; omega) (by omega) []
    rw [List.append_nil] at hrun
    exact ofTokens_eq_error_of_run hrun

theorem parse_canonical_of_expressible {options : ParseOptions} (h : rule.Expressible)
    (hcount : rule.comparisonCount ≤ maxComparisons) :
    parse options rule.canonical =
      if rule.depth ≤ options.maxDepth + 1 then .ok rule
      else .error (.tooDeep options.maxDepth) := by
  rw [parse_of_scan (scan_canonical options.lenient h)]
  exact ofTokens_tokens h hcount

/-- The canonical text of an accepted rule is read back as the same rule, unless the tree
is deeper than the parentheses that the limit allows. -/
theorem parse_canonical (options : ParseOptions) (text : String) (rule : Rule)
    (h : parse options text = .ok rule) :
    parse options rule.canonical =
      if rule.depth ≤ options.maxDepth + 1 then .ok rule
      else .error (.tooDeep options.maxDepth) := by
  obtain ⟨hexpressible, hcount⟩ := expressible_of_parse h
  exact parse_canonical_of_expressible hexpressible hcount

theorem parse_canonical_three :
    let rule := operator .or (operator .and (comparison "a" .eq (.int 1))
      (comparison "b" .gt (.int 2))) (comparison "c" .ne (.text "x"))
    parse ⟨1, false⟩ "a = 1 AND b > 2 OR c != x" = .ok rule ∧
      rule.canonical = "((a = 1 AND b > 2) OR c != 'x')" ∧
      parse ⟨1, false⟩ rule.canonical = .error (.tooDeep 1) := by
  intro rule
  have hparse : parse ⟨1, false⟩ "a = 1 AND b > 2 OR c != x" = .ok rule := by decide +kernel
  exact ⟨hparse, by decide, parse_canonical ⟨1, false⟩ _ rule hparse⟩

/-! ## Chains

A text without parentheses may hold as many connectives as the limit on comparisons
allows, and its rule is as deep as it is long.
-/

def chainText : Nat → String
  | 0 => "a = 1"
  | n + 1 => chainText n ++ " AND a = 1"

def chainRule : Nat → Rule
  | 0 => comparison "a" .eq (.int 1)
  | n + 1 => operator .and (chainRule n) (comparison "a" .eq (.int 1))

def chainTokens : Nat → List Token
  | 0 => [.word "a", .comparator .eq, .number "1"]
  | n + 1 => chainTokens n ++ [.connective .and, .word "a", .comparator .eq, .number "1"]

theorem depth_chainRule (n : Nat) : (chainRule n).depth = n + 1 := by
  induction n with
  | zero => rfl
  | succ n ih =>
    rw [chainRule, depth, ih, depth]
    omega

theorem comparisonCount_chainRule (n : Nat) : (chainRule n).comparisonCount = n + 1 := by
  induction n with
  | zero => rfl
  | succ n ih => rw [chainRule, comparisonCount, ih, comparisonCount]

theorem lexemes_chainText (n : Nat) :
    lexemes (chainText n).toList = (chainTokens n).map .token := by
  induction n with
  | zero => decide +kernel
  | succ n ih =>
    have hnext : lexemes " AND a = 1".toList =
        [.connective .and, .word "a", .comparator .eq, .number "1"].map .token := by
      decide +kernel
    have hseparate : Lexeme.Separate " AND a = 1".toList :=
      Lexeme.separate_blank "AND a = 1".toList
    rw [chainText, String.toList_append, lexemes_append_of_eq_map ih hseparate, hnext,
      chainTokens, List.map_append]

theorem derives_chainTokens (n : Nat) : Derives .expression (chainTokens n) (chainRule n) := by
  have hspelling : Literal.Spelling (.number "1") (.int 1) :=
    Literal.ofNumber?_eq_some_iff.1 (by decide +kernel)
  induction n with
  | zero => exact .single (.comparison hspelling)
  | succ n ih => exact .chained ih (.comparison hspelling)

theorem opening_notMem_chainTokens (n : Nat) : .opening ∉ chainTokens n := by
  induction n with
  | zero => simp [chainTokens]
  | succ n ih => simp [chainTokens, ih]

theorem parse_chainText (options : ParseOptions) {n : Nat} (h : n < maxComparisons) :
    parse options (chainText n) = .ok (chainRule n) := by
  have hscan : Token.scan options.lenient (chainText n) = .ok (chainTokens n) := by
    rw [Token.scan, lexemes_chainText, Token.ofLexemes_map_token]
  have hnested : NestedFrom options.maxDepth 0 (chainTokens n) := by
    intro before token after heq
    have hnot : .opening ∉ before := fun hmem =>
      opening_notMem_chainTokens n (heq ▸ List.mem_append_left _ hmem)
    rw [List.count_eq_zero_of_not_mem hnot]
    exact Nat.zero_le _
  have hpath := (derives_chainTokens n).path none [] 0 (fun _ => rfl) hnested
    (by rwa [comparisonCount_chainRule, Nat.zero_add])
  rw [parse_of_scan hscan]
  exact ofTokens_eq_ok_iff_exists_path.2 ⟨_, hpath⟩

/-- Under the default limits, too, a rule may be accepted whose canonical text is not. -/
theorem not_forall_parse_canonical :
    ¬∀ text rule, parse {} text = .ok rule → parse {} rule.canonical = .ok rule := by
  intro h
  have hparse := parse_chainText {} (show 257 < maxComparisons by decide)
  obtain ⟨hexpressible, hcount⟩ := expressible_of_parse hparse
  have hdepth : ¬(chainRule 257).depth ≤ ({} : ParseOptions).maxDepth + 1 := by
    rw [depth_chainRule]
    decide
  have hcanonical := h _ _ hparse
  rw [parse_canonical_of_expressible hexpressible hcount, if_neg hdepth] at hcanonical
  cases hcanonical

end Rule

end RecordRules
