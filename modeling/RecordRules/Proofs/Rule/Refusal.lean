import RecordRules.Proofs.Rule.Acceptance

/-!
# Sentences that are refused

A sentence of the grammar is either read as the rule of its derivation or refused because
of one of the two limits: no other error can come of it.  `Derives.path_or_limit` follows
the derivation as far as the limits let it.
-/

namespace RecordRules

def SyntaxError.IsLimit (maxDepth : Nat) (error : SyntaxError) : Prop :=
  error = .tooDeep maxDepth ∨ error = .tooLong

namespace Rule

open Rule.Parser

/-- A run along a derivation gets through its tokens or stops at a limit. -/
theorem Derives.path_or_limit {maxDepth : Nat} {nonterminal : Nonterminal} {tokens : List Token}
    {rule : Rule} (h : Derives nonterminal tokens rule) (chain : Chain) (outer : List Chain)
    (count : Nat) (hchain : nonterminal = .expression → chain = none) :
    Path maxDepth (.operand chain outer) count tokens (.complete (chain.join rule) outer)
        (count + rule.comparisonCount) ∨
      ∃ error, error.IsLimit maxDepth ∧ ∀ rest,
        ((State.operand chain outer).run maxDepth count (tokens ++ rest)).1 = .error error := by
  induction h generalizing chain outer count with
  | @grouped tokens rule _ ih =>
    by_cases hopen : outer.length + 1 > maxDepth
    · refine .inr ⟨.tooDeep maxDepth, .inl rfl, fun rest => ?_⟩
      rw [List.cons_append, State.run, State.step, if_pos hopen]
    · have hmove : Move maxDepth (.operand chain outer) count .opening _ count :=
        .opening (Nat.not_lt.1 hopen)
      rcases ih none (chain :: outer) count (fun _ => rfl) with hinside | ⟨error, hlimit, hrun⟩
      · exact .inl (.cons hmove (hinside.append (.single .closing)))
      · refine .inr ⟨error, hlimit, fun rest => ?_⟩
        rw [List.cons_append, State.run, step_of_move hmove, List.append_assoc]
        exact hrun _
  | @comparison field comparator token literal hspelling =>
    by_cases hcount : count + 1 > maxComparisons
    · refine .inr ⟨.tooLong, .inr rfl, fun rest => ?_⟩
      rw [List.cons_append, State.run, State.step, if_pos hcount]
    · exact .inl (.cons (.field (Nat.not_lt.1 hcount))
        (.cons .comparator (.single (.literal hspelling))))
  | single _ ih =>
    rw [hchain rfl]
    exact ih none outer count (fun heq => by cases heq)
  | @chained tokens more connective left right _ _ ihl ihr =>
    rw [hchain rfl]
    rcases ihl none outer count (fun _ => rfl) with hleft | ⟨error, hlimit, hrun⟩
    · simp only [comparisonCount, ← Nat.add_assoc]
      rcases ihr (some (left, connective)) outer (count + left.comparisonCount)
        (fun heq => by cases heq) with hright | ⟨error, hlimit, hrun⟩
      · exact .inl (hleft.append (.cons .connective hright))
      · refine .inr ⟨error, hlimit, fun rest => ?_⟩
        rw [List.append_assoc, run_append_of_path hleft, List.cons_append, State.run]
        exact hrun rest
    · refine .inr ⟨error, hlimit, fun rest => ?_⟩
      rw [List.append_assoc]
      exact hrun _

theorem ofTokens_of_derives {maxDepth : Nat} {tokens : List Token} {rule : Rule}
    (h : Derives .expression tokens rule) :
    ofTokens maxDepth tokens = .ok rule ∨
      ∃ error, error.IsLimit maxDepth ∧ ofTokens maxDepth tokens = .error error := by
  rcases h.path_or_limit none [] 0 (fun _ => rfl) with hpath | ⟨error, hlimit, hrun⟩
  · exact .inl (ofTokens_eq_ok_iff_exists_path.2 ⟨_, hpath⟩)
  · have hstart := hrun []
    rw [List.append_nil] at hstart
    exact .inr ⟨error, hlimit, ofTokens_eq_error_of_run hstart⟩

end Rule

end RecordRules
