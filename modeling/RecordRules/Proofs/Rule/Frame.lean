import RecordRules.Proofs.Rule.Limits

/-!
# Sentences in parentheses

Tokens whose parentheses pair up among themselves are read in the same way whatever
parentheses are open around them: the chains below stay as they are (`Path.of_within`)
and what was counted before does not matter (`Path.of_count_add`).  So a parser that gets
through such tokens in parentheses has read a rule there (`Path.group`).
-/

namespace RecordRules.Rule

/-- Every closing parenthesis closes one that was opened before, and none stays open. -/
def Balanced (tokens : List Token) : Prop :=
  (∀ before, before <+: tokens → before.count .closing ≤ before.count .opening) ∧
    tokens.count .opening = tokens.count .closing

namespace Parser

/-- The state inside further parentheses, whose chains are `base`. -/
def State.within (base : List Chain) : State → State
  | operand chain outer => operand chain (outer ++ base)
  | comparator field chain outer => comparator field chain (outer ++ base)
  | literal field c chain outer => literal field c chain (outer ++ base)
  | complete rule outer => complete rule (outer ++ base)

section

variable {maxDepth count count' : Nat} {base : List Chain} {state state' : State} {token : Token}
  {tokens : List Token}

theorem Move.of_within (h : Move maxDepth (state.within base) count token state' count')
    (hclosing : token = .closing → state.outer ≠ []) :
    ∃ inner, state' = inner.within base ∧ Move maxDepth state count token inner count' := by
  cases state with
  | operand chain outer =>
    cases h with
    | opening hdepth =>
      rw [List.length_append] at hdepth
      exact ⟨.operand none (chain :: outer), rfl, .opening (by omega)⟩
    | @field _ _ _ field hcount => exact ⟨.comparator field chain outer, rfl, .field hcount⟩
  | comparator field chain outer =>
    cases h with
    | @comparator _ _ _ _ c => exact ⟨.literal field c chain outer, rfl, .comparator⟩
  | literal field c chain outer =>
    cases h with
    | @literal _ _ _ _ _ _ value hspelling =>
      exact ⟨.complete (chain.join (comparison field c value)) outer, rfl, .literal hspelling⟩
  | complete rule outer =>
    cases outer with
    | nil =>
      cases h with
      | @connective _ _ _ c => exact ⟨.operand (some (rule, c)) [], rfl, .connective⟩
      | closing => exact absurd rfl (hclosing rfl)
    | cons chain outer =>
      cases h with
      | @connective _ _ _ c => exact ⟨.operand (some (rule, c)) (chain :: outer), rfl, .connective⟩
      | closing => exact ⟨.complete (chain.join rule) outer, rfl, .closing⟩

/-- A path that closes no parenthesis it did not open leaves the chains below alone. -/
theorem Path.of_within (h : Path maxDepth (state.within base) count tokens state' count')
    (hclosing : ∀ before, before <+: tokens →
      before.count .closing ≤ state.outer.length + before.count .opening) :
    ∃ inner, state' = inner.within base ∧ Path maxDepth state count tokens inner count' := by
  induction tokens generalizing state count with
  | nil =>
    cases h
    exact ⟨state, rfl, .nil⟩
  | cons token tokens ih =>
    cases h with
    | cons hmove hrest =>
      have hopen : token = .closing → state.outer ≠ [] := by
        rintro rfl hnil
        have hle := hclosing [.closing] (List.prefix_append _ tokens)
        rw [hnil] at hle
        exact absurd hle (by decide)
      obtain ⟨next, rfl, hnext⟩ := hmove.of_within hopen
      have hdepth := hnext.outer_add_closings
      obtain ⟨inner, hinner, hpath⟩ := ih hrest fun before hbefore => by
        have hle := hclosing (token :: before) (List.prefix_cons_inj token |>.2 hbefore)
        rw [← List.singleton_append, List.count_append, List.count_append] at hle
        omega
      exact ⟨inner, hinner, .cons hnext hpath⟩

theorem Move.of_count_add {more : Nat}
    (h : Move maxDepth state (count + more) token state' count') :
    ∃ fewer, count' = fewer + more ∧ Move maxDepth state count token state' fewer := by
  cases h with
  | opening hdepth => exact ⟨count, rfl, .opening hdepth⟩
  | field hcount => exact ⟨count + 1, by omega, .field (by omega)⟩
  | comparator => exact ⟨count, rfl, .comparator⟩
  | literal hspelling => exact ⟨count, rfl, .literal hspelling⟩
  | connective => exact ⟨count, rfl, .connective⟩
  | closing => exact ⟨count, rfl, .closing⟩

theorem Path.of_count_add {more : Nat}
    (h : Path maxDepth state (count + more) tokens state' count') :
    ∃ fewer, count' = fewer + more ∧ Path maxDepth state count tokens state' fewer := by
  induction tokens generalizing state count with
  | nil =>
    cases h
    exact ⟨count, rfl, .nil⟩
  | cons token tokens ih =>
    cases h with
    | cons hmove hrest =>
      obtain ⟨next, rfl, hnext⟩ := hmove.of_count_add
      obtain ⟨fewer, hfewer, hpath⟩ := ih hrest
      exact ⟨fewer, hfewer, .cons hnext hpath⟩

theorem Path.balanced {rule : Rule} (h : Path maxDepth .start 0 tokens (.complete rule []) count) :
    Balanced tokens := by
  constructor
  · rintro before ⟨after, rfl⟩
    obtain ⟨state, count', hbefore, -⟩ := h.exists_of_append
    have hdepth := hbefore.outer_add_closings
    simp only [State.start, State.outer, List.length_nil] at hdepth
    omega
  · have hdepth := h.outer_add_closings
    simpa [State.start, State.outer] using hdepth.symm

end

end Parser

open Rule.Parser

def group (tokens : List Token) : List Token := .opening :: (tokens ++ [.closing])

section

variable {maxDepth count count' : Nat} {state' : State} {tokens more : List Token}

theorem Path.group {chain : Chain} {outer : List Chain} (hbalanced : Balanced tokens)
    (h : Path maxDepth (.operand chain outer) count (Rule.group tokens ++ more) state' count') :
    ∃ rule between, ofTokens maxDepth tokens = .ok rule ∧
      Path maxDepth (.complete (chain.join rule) outer) between more state' count' := by
  rw [Rule.group, List.cons_append, List.append_assoc] at h
  cases h with
  | cons hopening hrest =>
    cases hopening with
    | opening hdepth =>
      obtain ⟨inside, between, hinside, hclosed⟩ := hrest.exists_of_append
      have hstart : Path maxDepth (State.start.within (chain :: outer)) count tokens inside
        between := hinside
      obtain ⟨inner, rfl, hinner⟩ := hstart.of_within fun before hbefore =>
        (hbalanced.1 before hbefore).trans (Nat.le_add_left _ _)
      have hlength := hinner.outer_add_closings
      rw [hbalanced.2] at hlength
      have houter := List.length_eq_zero_iff.1 (Nat.add_right_cancel hlength)
      cases hclosed with
      | cons hclosing hmore =>
        cases inner with
        | complete rule stack =>
          cases houter
          cases hclosing
          rw [← Nat.zero_add count] at hinner
          obtain ⟨fewer, -, hrule⟩ := hinner.of_count_add
          exact ⟨rule, between, ofTokens_eq_ok_iff_exists_path.2 ⟨fewer, hrule⟩, hmore⟩
        | literal field c chain outer =>
          cases hclosing with
          | literal hspelling => cases hspelling
        | _ => cases hclosing

end

end RecordRules.Rule
