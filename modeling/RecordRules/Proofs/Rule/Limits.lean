import RecordRules.Proofs.Rule.Path

/-!
# Limits along a path

How many parentheses are open and how many comparisons have begun is a matter of the
tokens alone:

* `Path.outer_add_closings`: a path opens as many parentheses as its tokens say;
* `Path.nestedFrom`: it takes no token inside too many of them;
* `Path.count_add_comparisons`: it counts the comparisons that it puts into the state, which
  are those of the rule in the end (`Path.count_complete`).

Sentences are balanced (`Derives.opening_eq_closing`), so what is open before a sentence
is open behind it (`Derives.nestedFrom_behind`).
-/

namespace RecordRules.Rule

/-- No token lies inside more than `maxDepth` open parentheses, of which `depth` are open
before the first token. -/
def NestedFrom (maxDepth depth : Nat) (tokens : List Token) : Prop :=
  ∀ before token after, tokens = before ++ token :: after →
    depth + before.count .opening ≤ before.count .closing + maxDepth

section

variable {maxDepth depth depth' : Nat} {token : Token} {tokens more : List Token}

theorem nestedFrom_zero_iff : NestedFrom maxDepth 0 tokens ↔ NestedWithin maxDepth tokens := by
  simp only [NestedFrom, NestedWithin, Nat.zero_add]

theorem nestedFrom_nil : NestedFrom maxDepth depth [] := by
  intro before token after h
  simp at h

theorem NestedFrom.le_of_cons (h : NestedFrom maxDepth depth (token :: tokens)) :
    depth ≤ maxDepth := by
  have hhead := h [] token tokens rfl
  simpa using hhead

theorem NestedFrom.left (h : NestedFrom maxDepth depth (tokens ++ more)) :
    NestedFrom maxDepth depth tokens := by
  intro before token after heq
  apply h before token (after ++ more)
  rw [heq, List.append_assoc, List.cons_append]

theorem NestedFrom.right (h : NestedFrom maxDepth depth (tokens ++ more))
    (hdepth : depth + tokens.count .opening = depth' + tokens.count .closing) :
    NestedFrom maxDepth depth' more := by
  intro before token after heq
  have hle := h (tokens ++ before) token after (by rw [heq, List.append_assoc])
  rw [List.count_append, List.count_append] at hle
  omega

theorem nestedFrom_append (h : NestedFrom maxDepth depth tokens)
    (hmore : NestedFrom maxDepth depth' more)
    (hdepth : depth + tokens.count .opening = depth' + tokens.count .closing) :
    NestedFrom maxDepth depth (tokens ++ more) := by
  intro before token after heq
  rcases List.append_eq_append_iff.1 heq with ⟨rest, rfl, hrest⟩ | ⟨rest, htokens, hrest⟩
  · have hle := hmore rest token after hrest
    rw [List.count_append, List.count_append]
    omega
  · cases rest with
    | nil =>
      have hle := hmore [] token after (by simpa using hrest.symm)
      rw [List.append_nil] at htokens
      subst htokens
      simp only [List.count_nil] at hle
      omega
    | cons first rest =>
      obtain ⟨rfl, -⟩ := List.cons.inj hrest
      exact h before token rest htokens

theorem nestedFrom_singleton (h : depth ≤ maxDepth) : NestedFrom maxDepth depth [token] := by
  intro before other after heq
  cases before with
  | nil => simpa using h
  | cons first before => simp at heq

theorem nestedFrom_succ_iff :
    NestedFrom (maxDepth + 1) (depth + 1) tokens ↔ NestedFrom maxDepth depth tokens := by
  unfold NestedFrom
  refine forall_congr' fun before => forall_congr' fun token => forall_congr' fun after => ?_
  refine imp_congr_right fun _ => ?_
  omega

theorem nestedFrom_append_iff (depth' : Nat)
    (hdepth : depth + tokens.count .opening = depth' + tokens.count .closing) :
    NestedFrom maxDepth depth (tokens ++ more) ↔
      NestedFrom maxDepth depth tokens ∧ NestedFrom maxDepth depth' more :=
  ⟨fun h => ⟨h.left, h.right hdepth⟩, fun h => nestedFrom_append h.1 h.2 hdepth⟩

end

theorem Derives.opening_eq_closing {nonterminal : Nonterminal} {tokens : List Token} {rule : Rule}
    (h : Derives nonterminal tokens rule) : tokens.count .opening = tokens.count .closing := by
  induction h with
  | grouped _ ih => simp [ih]
  | comparison hspelling => cases hspelling <;> rfl
  | single _ ih => exact ih
  | chained _ _ ihl ihr => simp [ihl, ihr]

section

variable {maxDepth depth : Nat} {tokens more : List Token}

theorem NestedFrom.inside (h : NestedFrom maxDepth depth (.opening :: tokens)) :
    NestedFrom maxDepth (depth + 1) tokens :=
  NestedFrom.right (List.singleton_append ▸ h) rfl

theorem Derives.nestedFrom_behind {nonterminal : Nonterminal} {rule : Rule}
    {connective : Connective} (h : Derives nonterminal tokens rule)
    (hnested : NestedFrom maxDepth depth (tokens ++ .connective connective :: more)) :
    NestedFrom maxDepth depth more := by
  have hbalance := h.opening_eq_closing
  rw [← List.singleton_append, ← List.append_assoc] at hnested
  apply hnested.right
  simp [hbalance]

end

namespace Parser

/-! ## Measures of a state -/

def State.outer : State → List Chain
  | operand _ outer => outer
  | comparator _ _ outer => outer
  | literal _ _ _ outer => outer
  | complete _ outer => outer

/-- The comparisons that stand before the operand of a chain. -/
def chainComparisons : Chain → Nat
  | none => 0
  | some (left, _) => left.comparisonCount

def outerComparisons (outer : List Chain) : Nat :=
  (outer.map chainComparisons).sum

/-- The comparisons that have begun, that of the operand included. -/
def State.comparisons : State → Nat
  | operand chain outer => chainComparisons chain + outerComparisons outer
  | comparator _ chain outer => chainComparisons chain + outerComparisons outer + 1
  | literal _ _ chain outer => chainComparisons chain + outerComparisons outer + 1
  | complete rule outer => rule.comparisonCount + outerComparisons outer

@[simp] theorem comparisonCount_join (chain : Chain) (operand : Rule) :
    (chain.join operand).comparisonCount = chainComparisons chain + operand.comparisonCount := by
  rcases chain with _ | ⟨left, connective⟩
  · exact (Nat.zero_add _).symm
  · rfl

@[simp] theorem outerComparisons_cons (chain : Chain) (outer : List Chain) :
    outerComparisons (chain :: outer) = chainComparisons chain + outerComparisons outer := by
  simp [outerComparisons]

/-! ## What a move does to them -/

section

variable {maxDepth count count' : Nat} {state state' : State} {token : Token}

theorem Move.outer_add_closings (h : Move maxDepth state count token state' count') :
    state'.outer.length + [token].count .closing =
      state.outer.length + [token].count .opening := by
  cases h with
  | literal hspelling => cases hspelling <;> rfl
  | _ => rfl

theorem Move.outer_le (h : Move maxDepth state count token state' count')
    (hle : state.outer.length ≤ maxDepth) : state'.outer.length ≤ maxDepth := by
  cases h with
  | opening hdepth => exact hdepth
  | closing =>
    simp only [State.outer, List.length_cons] at hle ⊢
    omega
  | _ => exact hle

theorem Move.count_add_comparisons (h : Move maxDepth state count token state' count') :
    count' + state.comparisons = count + state'.comparisons := by
  cases h <;>
    simp only [State.comparisons, comparisonCount_join, outerComparisons_cons, chainComparisons,
      comparisonCount] <;>
    omega

theorem Move.count_eq_or_le (h : Move maxDepth state count token state' count') :
    count' = count ∨ count' ≤ maxComparisons := by
  cases h with
  | field hcount => exact .inr hcount
  | _ => exact .inl rfl

end

/-! ## What a path does to them -/

section

variable {maxDepth count count' : Nat} {state state' : State} {tokens : List Token}

theorem Path.outer_add_closings (h : Path maxDepth state count tokens state' count') :
    state'.outer.length + tokens.count .closing =
      state.outer.length + tokens.count .opening := by
  induction h with
  | nil => rfl
  | @cons _ _ token _ _ tokens _ _ hmove _ ih =>
    have hhead := hmove.outer_add_closings
    rw [← List.singleton_append, List.count_append, List.count_append]
    omega

theorem Path.nestedFrom (h : Path maxDepth state count tokens state' count')
    (hle : state.outer.length ≤ maxDepth) : NestedFrom maxDepth state.outer.length tokens := by
  induction h with
  | nil => exact nestedFrom_nil
  | cons hmove _ ih =>
    rw [← List.singleton_append]
    apply nestedFrom_append (nestedFrom_singleton hle) (ih (hmove.outer_le hle))
    exact hmove.outer_add_closings.symm

theorem Path.count_add_comparisons (h : Path maxDepth state count tokens state' count') :
    count' + state.comparisons = count + state'.comparisons := by
  induction h with
  | nil => rfl
  | cons hmove _ ih =>
    have hhead := hmove.count_add_comparisons
    omega

theorem Path.count_eq_or_le (h : Path maxDepth state count tokens state' count') :
    count' = count ∨ count' ≤ maxComparisons := by
  induction h with
  | nil => exact .inl rfl
  | cons hmove _ ih =>
    rcases ih with rfl | hle
    · exact hmove.count_eq_or_le
    · exact .inr hle

theorem Path.count_complete {rule : Rule}
    (h : Path maxDepth .start count tokens (.complete rule []) count') :
    count' = count + rule.comparisonCount ∧ count' ≤ maxComparisons := by
  have hcount : count' = count + rule.comparisonCount := by
    simpa [State.start, State.comparisons, chainComparisons, outerComparisons] using
      h.count_add_comparisons
  have hpos := rule.operatorCount_add_one
  refine ⟨hcount, h.count_eq_or_le.resolve_left ?_⟩
  omega

end

end Parser

end RecordRules.Rule
