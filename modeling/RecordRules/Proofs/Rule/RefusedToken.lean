import RecordRules.Proofs.Rule.Path

/-!
# Tokens that are refused

The parser follows a path through the tokens until they end or one of them is refused, and
that place alone decides its answer.

* `Refusal`: which tokens are refused in which states, and with which error.  A token is
  either taken or refused (`move_or_refusal`).
* `exists_path_or_refusal`: there is a path to the end of the tokens or to one that is refused.
* `ofTokens_of_path` and `ofTokens_of_refusal`: what the parser answers there.
-/

namespace RecordRules.Rule

namespace Parser

/-! ## Refusals -/

/-- Why a token is not taken.  Behind a whole expression that is because nothing but a
connective may follow. -/
inductive Refusal (maxDepth : Nat) : State → Nat → Token → SyntaxError → Prop
  | operand {chain outer count token} : token ≠ .opening → (∀ field, token ≠ .word field) →
      Refusal maxDepth (.operand chain outer) count token (.unexpected .operand token)
  | tooDeep {chain outer count} : maxDepth < outer.length + 1 →
      Refusal maxDepth (.operand chain outer) count .opening (.tooDeep maxDepth)
  | tooLong {chain outer count field} : maxComparisons < count + 1 →
      Refusal maxDepth (.operand chain outer) count (.word field) .tooLong
  | comparator {field chain outer count token} : (∀ c, token ≠ .comparator c) →
      Refusal maxDepth (.comparator field chain outer) count token (.unexpected .comparator token)
  | literal {field comparator chain outer count token} : token.isLiteral = false →
      Refusal maxDepth (.literal field comparator chain outer) count token
        (.unexpected .literal token)
  | malformed {field comparator chain outer count digits} :
      (∀ literal, ¬Literal.Spelling (.number digits) literal) →
      Refusal maxDepth (.literal field comparator chain outer) count (.number digits)
        (.malformedNumber digits)
  | closing {rule chain outer count token} : token ≠ .closing → (∀ c, token ≠ .connective c) →
      Refusal maxDepth (.complete rule (chain :: outer)) count token (.unexpected .closing token)
  | trailing {rule count token} : (∀ c, token ≠ .connective c) →
      Refusal maxDepth (.complete rule []) count token (.trailing token)

section

variable {maxDepth count count' : Nat} {state : State} {token : Token} {error : SyntaxError}

theorem refusal_of_step {taken : Bool}
    (h : state.step maxDepth count token = .fail error count' taken) :
    Refusal maxDepth state count token error := by
  cases state with
  | operand chain outer =>
    cases token with
    | opening =>
      simp only [State.step] at h
      split at h
      · next hdepth =>
        cases h
        exact .tooDeep hdepth
      · cases h
    | word field =>
      simp only [State.step] at h
      split at h
      · next hcount =>
        cases h
        exact .tooLong hcount
      · cases h
    | _ =>
      cases h
      exact .operand (by simp) (by simp)
  | comparator field chain outer =>
    cases token with
    | comparator c => cases h
    | _ =>
      cases h
      exact .comparator (by simp)
  | literal field c chain outer =>
    cases token with
    | text content | word name => cases h
    | number digits =>
      simp only [State.step] at h
      split at h
      · cases h
      · next hnone =>
        cases h
        refine .malformed fun literal hspelling => ?_
        rw [Literal.ofNumber?_eq_some_iff.2 hspelling] at hnone
        cases hnone
    | _ =>
      cases h
      exact .literal rfl
  | complete rule outer =>
    cases outer with
    | nil => cases token <;> cases h
    | cons chain outer =>
      cases token with
      | connective c | closing => cases h
      | _ =>
        cases h
        exact .closing (by simp) (by simp)

theorem step_of_refusal (h : Refusal maxDepth state count token error) :
    (∃ rule, state.step maxDepth count token = .done rule ∧ error = .trailing token) ∨
      ∃ count' taken, state.step maxDepth count token = .fail error count' taken := by
  cases h with
  | operand hopening hword =>
    cases token with
    | opening => exact absurd rfl hopening
    | word field => exact absurd rfl (hword field)
    | _ => exact .inr ⟨_, _, rfl⟩
  | tooDeep hdepth => exact .inr ⟨_, _, if_pos hdepth⟩
  | tooLong hcount => exact .inr ⟨_, _, if_pos hcount⟩
  | comparator hcomparator =>
    cases token with
    | comparator c => exact absurd rfl (hcomparator c)
    | _ => exact .inr ⟨_, _, rfl⟩
  | literal hliteral => cases token <;> cases hliteral <;> exact .inr ⟨_, _, rfl⟩
  | @malformed _ _ _ _ _ digits hspelling =>
    have hnone : Literal.ofNumber? digits = none :=
      Option.eq_none_iff_forall_ne_some.2 fun literal hsome =>
        hspelling literal (Literal.ofNumber?_eq_some_iff.1 hsome)
    refine .inr ⟨count, true, ?_⟩
    simp only [State.step, hnone]
  | closing hclosing hconnective =>
    cases token with
    | closing => exact absurd rfl hclosing
    | connective c => exact absurd rfl (hconnective c)
    | _ => exact .inr ⟨_, _, rfl⟩
  | @trailing rule _ _ hconnective =>
    cases token with
    | connective c => exact absurd rfl (hconnective c)
    | _ => exact .inl ⟨rule, rfl, rfl⟩

theorem move_or_refusal (maxDepth : Nat) (state : State) (count : Nat) (token : Token) :
    (∃ state' count', Move maxDepth state count token state' count') ∨
      ∃ error, Refusal maxDepth state count token error := by
  cases hstep : state.step maxDepth count token with
  | next state' count' => exact .inl ⟨state', count', move_of_step hstep⟩
  | done rule =>
    obtain ⟨rfl, hconnective⟩ := step_eq_done hstep
    exact .inr ⟨_, .trailing hconnective⟩
  | fail error count' taken => exact .inr ⟨error, refusal_of_step hstep⟩

end

/-! ## Answers -/

theorem exists_path_or_refusal (maxDepth : Nat) (state : State) (count : Nat)
    (tokens : List Token) :
    (∃ state' count', Path maxDepth state count tokens state' count') ∨
      ∃ read token rest, tokens = read ++ token :: rest ∧
        ∃ state' count' error, Path maxDepth state count read state' count' ∧
          Refusal maxDepth state' count' token error := by
  induction tokens generalizing state count with
  | nil => exact .inl ⟨state, count, .nil⟩
  | cons token tokens ih =>
    rcases move_or_refusal maxDepth state count token with
      ⟨next, count', hmove⟩ | ⟨error, hrefusal⟩
    · rcases ih next count' with ⟨state', count'', hpath⟩ |
        ⟨read, refused, rest, rfl, state', count'', error, hpath, hrefusal⟩
      · exact .inl ⟨state', count'', .cons hmove hpath⟩
      · exact .inr ⟨token :: read, refused, rest, rfl, state', count'', error,
          .cons hmove hpath, hrefusal⟩
    · exact .inr ⟨[], token, tokens, rfl, state, count, error, .nil, hrefusal⟩

end Parser

open Rule.Parser

section

variable {maxDepth count : Nat} {state : State} {tokens : List Token}

theorem ofTokens_of_path (h : Path maxDepth .start 0 tokens state count) :
    ofTokens maxDepth tokens = state.atEnd := by
  have hrun := run_append_of_path h []
  rw [List.append_nil] at hrun
  rw [ofTokens_eq, hrun, State.run]
  cases state.atEnd <;> rfl

theorem ofTokens_of_refusal {token : Token} {error : SyntaxError}
    (h : Path maxDepth .start 0 tokens state count)
    (hrefusal : Refusal maxDepth state count token error) (rest : List Token) :
    ofTokens maxDepth (tokens ++ token :: rest) = .error error := by
  rw [ofTokens_eq, run_append_of_path h, State.run]
  rcases step_of_refusal hrefusal with ⟨rule, hstep, rfl⟩ | ⟨count', taken, hstep⟩ <;> rw [hstep]

end

end RecordRules.Rule
