import RecordRules.Proofs.Rule.RefusedToken

/-!
# Where a syntax error lies

The parser reports an error at the first token with which the tokens can no longer be the
beginning of a rule.

* `Viable`: some further tokens complete a rule.  That holds of every state as long as one
  more comparison may begin (`viable_of_lt`), however many parentheses are open.
* `Path.count_le_words`: comparisons begin at words only.
* `exists_fault_of_refusal`: a refused token decides the answer, and what stands before it is
  complete or merely unfinished.
-/

namespace RecordRules

def Token.isWord : Token → Bool
  | .word _ => true
  | _ => false

namespace Rule

namespace Parser

def Viable (maxDepth : Nat) (state : State) (count : Nat) : Prop :=
  ∃ tokens rule count', Path maxDepth state count tokens (.complete rule []) count'

section

variable {maxDepth count count' : Nat} {state state' : State} {token : Token}
  {tokens : List Token} {chain : Chain} {outer : List Chain}

theorem viable_of_move (hmove : Move maxDepth state count token state' count')
    (h : Viable maxDepth state' count') : Viable maxDepth state count := by
  obtain ⟨tokens, rule, count'', hpath⟩ := h
  exact ⟨token :: tokens, rule, count'', .cons hmove hpath⟩

theorem viable_complete (rule : Rule) : Viable maxDepth (.complete rule outer) count := by
  induction outer generalizing rule with
  | nil => exact ⟨[], rule, count, .nil⟩
  | cons chain outer ih => exact viable_of_move .closing (ih (chain.join rule))

theorem viable_literal (field : String) (comparator : Comparator) :
    Viable maxDepth (.literal field comparator chain outer) count :=
  viable_of_move (.literal (.word "a")) (viable_complete _)

theorem viable_comparator (field : String) :
    Viable maxDepth (.comparator field chain outer) count :=
  viable_of_move .comparator (viable_literal field .eq)

theorem viable_operand (h : count < maxComparisons) :
    Viable maxDepth (.operand chain outer) count :=
  viable_of_move (.field h) (viable_comparator "a")

/-- Every state can be completed while one more comparison may begin. -/
theorem viable_of_lt (state : State) (h : count < maxComparisons) :
    Viable maxDepth state count := by
  cases state with
  | operand chain outer => exact viable_operand h
  | comparator field chain outer => exact viable_comparator field
  | literal field comparator chain outer => exact viable_literal field comparator
  | complete rule outer => exact viable_complete rule

theorem Move.count_le_words (h : Move maxDepth state count token state' count') :
    count' ≤ count + [token].countP Token.isWord := by
  cases h with
  | field => exact Nat.le_refl _
  | _ => exact Nat.le_add_right _ _

theorem Path.count_le_words (h : Path maxDepth state count tokens state' count') :
    count' ≤ count + tokens.countP Token.isWord := by
  induction h with
  | nil => exact Nat.le_refl _
  | cons hmove _ ih =>
    have hhead := hmove.count_le_words
    rw [← List.singleton_append, List.countP_append]
    omega

theorem Refusal.ne_ended {error : SyntaxError} (h : Refusal maxDepth state count token error)
    (expected : Expected) : error ≠ .ended expected := by
  cases h <;> simp

end

end Parser

open Rule.Parser

section

variable {maxDepth count : Nat} {state : State} {tokens : List Token}

theorem ofTokens_take (h : Path maxDepth .start 0 tokens state count) (n : Nat) :
    (∃ rule, ofTokens maxDepth (tokens.take n) = .ok rule) ∨
      ∃ expected, ofTokens maxDepth (tokens.take n) = .error (.ended expected) := by
  rw [← List.take_append_drop n tokens] at h
  obtain ⟨between, count', hbefore, -⟩ := h.exists_of_append
  rw [ofTokens_of_path hbefore]
  exact atEnd_cases between

theorem exists_ofTokens_append (h : Path maxDepth .start 0 tokens state count)
    (hcount : count < maxComparisons) :
    ∃ more rule, ofTokens maxDepth (tokens ++ more) = .ok rule := by
  obtain ⟨more, rule, count', hmore⟩ : Viable maxDepth state count := viable_of_lt state hcount
  exact ⟨more, rule, ofTokens_eq_ok_iff_exists_path.2 ⟨count', h.append hmore⟩⟩

theorem exists_fault_of_refusal {token : Token} {error : SyntaxError}
    (h : Path maxDepth .start 0 tokens state count)
    (hrefusal : Refusal maxDepth state count token error) (rest : List Token) :
    ∃ p < (tokens ++ token :: rest).length,
      (∀ more, ofTokens maxDepth ((tokens ++ token :: rest).take (p + 1) ++ more) =
        .error error) ∧
      ∀ n ≤ p, (∃ rule, ofTokens maxDepth ((tokens ++ token :: rest).take n) = .ok rule) ∨
        ∃ expected, ofTokens maxDepth ((tokens ++ token :: rest).take n) =
          .error (.ended expected) := by
  refine ⟨tokens.length, by simp, fun more => ?_, fun n hn => ?_⟩
  · have htake : (tokens ++ token :: rest).take (tokens.length + 1) = tokens ++ [token] := by
      simp [List.take_append, List.take_of_length_le]
    rw [htake, List.append_assoc]
    exact ofTokens_of_refusal h hrefusal more
  · rw [List.take_append_of_le_length hn]
    exact ofTokens_take h n

end

/-- An error other than an early end lies at one token: with that token the same error
follows whatever comes next, and what stands before it is a rule or the beginning of one.
Tokens that end too early can be continued to a rule unless their words exhaust the
comparisons. -/
theorem ofTokens_error_at_first_fault (maxDepth : Nat) (tokens : List Token)
    (error : SyntaxError) (h : ofTokens maxDepth tokens = .error error) :
    ((∀ expected, error ≠ .ended expected) →
      ∃ p < tokens.length,
        (∀ more, ofTokens maxDepth (tokens.take (p + 1) ++ more) = .error error) ∧
        ∀ n ≤ p, (∃ rule, ofTokens maxDepth (tokens.take n) = .ok rule) ∨
          ∃ expected, ofTokens maxDepth (tokens.take n) = .error (.ended expected)) ∧
      ((∃ expected, error = .ended expected) → tokens.countP Token.isWord < 4096 →
        ∃ more rule, ofTokens maxDepth (tokens ++ more) = .ok rule) := by
  rcases exists_path_or_refusal maxDepth .start 0 tokens with ⟨state, count, hpath⟩ |
    ⟨read, token, rest, rfl, state, count, refused, hpath, hrefusal⟩
  · rw [ofTokens_of_path hpath] at h
    constructor
    · intro hended
      rcases atEnd_cases state with ⟨rule, hok⟩ | ⟨expected, hend⟩
      · cases h.symm.trans hok
      · exact absurd (Except.error.inj (h.symm.trans hend)) (hended expected)
    · intro _ hwords
      have hcount := hpath.count_le_words
      rw [Nat.zero_add] at hcount
      exact exists_ofTokens_append hpath (Nat.lt_of_le_of_lt hcount hwords)
  · rw [ofTokens_of_refusal hpath hrefusal] at h
    cases h
    constructor
    · exact fun _ => exists_fault_of_refusal hpath hrefusal rest
    · rintro ⟨expected, hended⟩
      exact absurd hended (hrefusal.ne_ended expected)

/-- Inside a parenthesis a second number is one token too many, and a parenthesis may still
be closed after a comparator. -/
theorem ofTokens_error_at_first_fault_group :
    let start : List Token := [.opening, .word "a", .comparator .ge]
    let faulty := start ++ [.number "1", .number "2x", .closing]
    (ofTokens 1 faulty = .error (.unexpected .closing (.number "2x")) ∧
        ∃ p < faulty.length,
          (∀ more, ofTokens 1 (faulty.take (p + 1) ++ more) =
            .error (.unexpected .closing (.number "2x"))) ∧
          ∀ n ≤ p, (∃ rule, ofTokens 1 (faulty.take n) = .ok rule) ∨
            ∃ expected, ofTokens 1 (faulty.take n) = .error (.ended expected)) ∧
      ofTokens 1 start = .error (.ended .literal) ∧
        ∃ more rule, ofTokens 1 (start ++ more) = .ok rule := by
  intro start faulty
  have hfaulty : ofTokens 1 faulty = .error (.unexpected .closing (.number "2x")) := by
    decide +kernel
  have hstart : ofTokens 1 start = .error (.ended .literal) := by decide +kernel
  exact ⟨⟨hfaulty, (ofTokens_error_at_first_fault 1 faulty _ hfaulty).1 nofun⟩, hstart,
    (ofTokens_error_at_first_fault 1 start _ hstart).2 ⟨.literal, rfl⟩ (by decide)⟩

end Rule

end RecordRules
