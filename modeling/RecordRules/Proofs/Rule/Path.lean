import RecordRules.Proofs.Rule.Grammar

/-!
# Paths of the parser

What one token does to the state of the parser is said once, by `Move`: which tokens
are taken in which states, under which limits, and where they lead.  A `Path` goes
through a list of tokens by moves.

* `move_of_step` and `step_of_move`: the moves are the steps that go on;
* `run_append_of_path` and `exists_path_of_run_eq_ok`: a run follows a path, and a run
  that succeeds has followed one to the end of an expression;
* `ofTokens_eq_ok_iff_exists_path`: what is accepted, said by paths.
-/

namespace RecordRules.Rule

namespace Parser

/-! ## Moves -/

/-- What a token does to a state and the count of comparisons when it is taken. -/
inductive Move (maxDepth : Nat) : State → Nat → Token → State → Nat → Prop
  | opening {chain outer count} : outer.length + 1 ≤ maxDepth →
      Move maxDepth (.operand chain outer) count .opening (.operand none (chain :: outer)) count
  | field {chain outer count field} : count + 1 ≤ maxComparisons →
      Move maxDepth (.operand chain outer) count (.word field)
        (.comparator field chain outer) (count + 1)
  | comparator {field chain outer count comparator} :
      Move maxDepth (.comparator field chain outer) count (.comparator comparator)
        (.literal field comparator chain outer) count
  | literal {field comparator chain outer count token value} :
      Literal.Spelling token value →
      Move maxDepth (.literal field comparator chain outer) count token
        (.complete (chain.join (comparison field comparator value)) outer) count
  | connective {rule outer count connective} :
      Move maxDepth (.complete rule outer) count (.connective connective)
        (.operand (some (rule, connective)) outer) count
  | closing {rule chain outer count} :
      Move maxDepth (.complete rule (chain :: outer)) count .closing
        (.complete (chain.join rule) outer) count

section

variable {maxDepth count count' : Nat} {state state' : State} {token : Token}

theorem move_of_step (h : state.step maxDepth count token = .next state' count') :
    Move maxDepth state count token state' count' := by
  cases state with
  | operand chain outer =>
    cases token with
    | opening =>
      simp only [State.step] at h
      split at h
      · cases h
      · next hdepth =>
        cases h
        exact .opening (Nat.not_lt.1 hdepth)
    | word field =>
      simp only [State.step] at h
      split at h
      · cases h
      · next hcount =>
        cases h
        exact .field (Nat.not_lt.1 hcount)
    | _ => cases h
  | comparator field chain outer =>
    cases token with
    | comparator c =>
      cases h
      exact .comparator
    | _ => cases h
  | literal field c chain outer =>
    cases token with
    | text content =>
      cases h
      exact .literal (.text content)
    | word name =>
      cases h
      exact .literal (.word name)
    | number digits =>
      simp only [State.step] at h
      split at h
      · next value hvalue =>
        cases h
        exact .literal (Literal.ofNumber?_eq_some_iff.1 hvalue)
      · cases h
    | _ => cases h
  | complete rule outer =>
    cases token with
    | connective c =>
      cases h
      exact .connective
    | closing =>
      cases outer with
      | nil => cases h
      | cons chain outer =>
        cases h
        exact .closing
    | _ => cases outer <;> cases h

theorem step_of_move (h : Move maxDepth state count token state' count') :
    state.step maxDepth count token = .next state' count' := by
  cases h with
  | opening hdepth => exact if_neg (Nat.not_lt.2 hdepth)
  | field hcount => exact if_neg (Nat.not_lt.2 hcount)
  | comparator => rfl
  | literal hspelling =>
    cases token with
    | number digits => simp only [State.step, Literal.ofNumber?_eq_some_iff.2 hspelling]
    | _ => cases hspelling <;> rfl
  | connective => rfl
  | closing => rfl

theorem step_eq_done {rule : Rule} (h : state.step maxDepth count token = .done rule) :
    state = .complete rule [] ∧ ∀ c, token ≠ .connective c := by
  cases state with
  | operand chain outer =>
    cases token with
    | opening | word field =>
      simp only [State.step] at h
      split at h <;> cases h
    | _ => cases h
  | comparator field chain outer => cases token <;> cases h
  | literal field c chain outer =>
    cases token with
    | number digits =>
      simp only [State.step] at h
      split at h <;> cases h
    | _ => cases h
  | complete rule outer =>
    cases token with
    | connective c => cases h
    | closing =>
      cases outer <;> cases h
      exact ⟨rfl, nofun⟩
    | _ =>
      cases outer <;> cases h
      exact ⟨rfl, nofun⟩

theorem atEnd_eq_ok_iff {rule : Rule} : state.atEnd = .ok rule ↔ state = .complete rule [] := by
  constructor
  · intro h
    cases state with
    | complete found outer =>
      cases outer <;> cases h
      rfl
    | _ => cases h
  · rintro rfl
    rfl

end

theorem atEnd_cases (state : State) :
    (∃ rule, state.atEnd = .ok rule) ∨ ∃ expected, state.atEnd = .error (.ended expected) := by
  cases state with
  | complete rule outer =>
    cases outer with
    | nil => exact .inl ⟨rule, rfl⟩
    | cons => exact .inr ⟨_, rfl⟩
  | _ => exact .inr ⟨_, rfl⟩

/-! ## Paths -/

inductive Path (maxDepth : Nat) : State → Nat → List Token → State → Nat → Prop
  | nil {state count} : Path maxDepth state count [] state count
  | cons {state count token state' count' tokens state'' count''} :
      Move maxDepth state count token state' count' →
      Path maxDepth state' count' tokens state'' count'' →
      Path maxDepth state count (token :: tokens) state'' count''

section

variable {maxDepth count count' count'' : Nat} {state state' state'' : State} {tokens : List Token}

theorem Path.append {more : List Token} (h : Path maxDepth state count tokens state' count')
    (hmore : Path maxDepth state' count' more state'' count'') :
    Path maxDepth state count (tokens ++ more) state'' count'' := by
  induction h with
  | nil => exact hmore
  | cons hmove _ ih => exact .cons hmove (ih hmore)

theorem Path.exists_of_append {more : List Token}
    (h : Path maxDepth state count (tokens ++ more) state'' count'') :
    ∃ state' count', Path maxDepth state count tokens state' count' ∧
      Path maxDepth state' count' more state'' count'' := by
  induction tokens generalizing state count with
  | nil => exact ⟨state, count, .nil, h⟩
  | cons token tokens ih =>
    cases h with
    | cons hmove hrest =>
      obtain ⟨state', count', htokens, hmore⟩ := ih hrest
      exact ⟨state', count', .cons hmove htokens, hmore⟩

theorem Path.single {token : Token} (h : Move maxDepth state count token state' count') :
    Path maxDepth state count [token] state' count' := .cons h .nil

theorem run_append_of_path (h : Path maxDepth state count tokens state' count')
    (rest : List Token) :
    state.run maxDepth count (tokens ++ rest) = state'.run maxDepth count' rest := by
  induction h with
  | nil => rfl
  | cons hmove _ ih =>
    rw [List.cons_append, State.run, step_of_move hmove]
    exact ih

theorem exists_path_of_run_eq_ok {rule : Rule} {cursor : Cursor}
    (h : state.run maxDepth count tokens = (.ok rule, cursor)) :
    ∃ read, tokens = read ++ cursor.tokens ∧
      Path maxDepth state count read (.complete rule []) cursor.count ∧
      ∀ c, cursor.tokens.head? ≠ some (.connective c) := by
  induction tokens generalizing state count with
  | nil =>
    obtain ⟨hend, rfl⟩ := Prod.mk.inj h
    rw [atEnd_eq_ok_iff.1 hend]
    exact ⟨[], rfl, .nil, nofun⟩
  | cons token tokens ih =>
    rw [State.run] at h
    split at h
    · next state' count' hstep =>
      obtain ⟨read, rfl, hpath, hhead⟩ := ih h
      exact ⟨token :: read, rfl, .cons (move_of_step hstep) hpath, hhead⟩
    · next hdone =>
      cases h
      obtain ⟨rfl, hne⟩ := step_eq_done hdone
      exact ⟨[], rfl, .nil, fun c heq => hne c (Option.some.inj heq)⟩
    · cases h

end

end Parser

open Rule.Parser

/-! ## Lists of tokens and texts -/

theorem ofTokens_eq (maxDepth : Nat) (tokens : List Token) :
    ofTokens maxDepth tokens =
      match State.start.run maxDepth 0 tokens with
      | (.ok rule, ⟨[], _⟩) => .ok rule
      | (.ok _, ⟨token :: _, _⟩) => .error (.trailing token)
      | (.error error, _) => .error error := by
  unfold ofTokens Cursor.whole Cursor.expression Cursor.ofTokens
  dsimp only
  rcases State.start.run maxDepth 0 tokens with ⟨error | rule, ⟨⟨⟩ | ⟨token, rest⟩, count⟩⟩ <;> rfl

theorem ofTokens_eq_error_of_run {maxDepth : Nat} {tokens : List Token} {error : SyntaxError}
    (h : (State.start.run maxDepth 0 tokens).1 = .error error) :
    ofTokens maxDepth tokens = .error error := by
  rw [ofTokens_eq]
  rcases hrun : State.start.run maxDepth 0 tokens with ⟨found | rule, cursor⟩ <;>
    rw [hrun] at h <;> cases h
  rfl

/-- A list of tokens is a rule if there is a path through it to the end of an expression. -/
theorem ofTokens_eq_ok_iff_exists_path {maxDepth : Nat} {tokens : List Token} {rule : Rule} :
    ofTokens maxDepth tokens = .ok rule ↔
      ∃ count, Path maxDepth .start 0 tokens (.complete rule []) count := by
  rw [ofTokens_eq]
  constructor
  · intro h
    split at h
    · next found count hrun =>
      cases h
      obtain ⟨read, rfl, hpath, -⟩ := exists_path_of_run_eq_ok hrun
      rw [List.append_nil]
      exact ⟨count, hpath⟩
    · cases h
    · cases h
  · rintro ⟨count, hpath⟩
    have hrun := run_append_of_path hpath []
    rw [List.append_nil] at hrun
    rw [hrun]
    rfl

section

variable {options : ParseOptions} {text : String} {tokens : List Token} {rule : Rule}

theorem parse_of_scan (h : Token.scan options.lenient text = .ok tokens) :
    parse options text = ofTokens options.maxDepth tokens := by
  rw [parse, h]
  rfl

theorem exists_path_of_parse (h : parse options text = .ok rule) :
    ∃ tokens count, Token.scan options.lenient text = .ok tokens ∧
      Path options.maxDepth .start 0 tokens (.complete rule []) count := by
  cases hscan : Token.scan options.lenient text with
  | error e =>
    rw [parse, hscan] at h
    cases h
  | ok tokens =>
    rw [parse_of_scan hscan] at h
    obtain ⟨count, hpath⟩ := ofTokens_eq_ok_iff_exists_path.1 h
    exact ⟨tokens, count, rfl, hpath⟩

end

end RecordRules.Rule
