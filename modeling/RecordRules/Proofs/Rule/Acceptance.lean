import RecordRules.Proofs.Rule.Limits

/-!
# What the parser accepts

The parser accepts the sentences of the grammar that stay within its two limits, and
gives the rule of their derivation.

* `Derives.path`: a derivation within the limits is a path;
* `State.Reads`: what the tokens before a state have been read as, which every move
  preserves; at the end of a path it is a derivation.
-/

namespace RecordRules.Rule

open Rule.Parser

/-! ## Sentences are accepted -/

/-- A sentence takes the parser from the start of an operand to behind it.  An
expression starts a chain, an operand may also continue one. -/
theorem Derives.path {maxDepth : Nat} {nonterminal : Nonterminal} {tokens : List Token}
    {rule : Rule} (h : Derives nonterminal tokens rule) (chain : Chain) (outer : List Chain)
    (count : Nat) (hchain : nonterminal = .expression → chain = none)
    (hnested : NestedFrom maxDepth outer.length tokens)
    (hcount : count + rule.comparisonCount ≤ maxComparisons) :
    Path maxDepth (.operand chain outer) count tokens (.complete (chain.join rule) outer)
      (count + rule.comparisonCount) := by
  induction h generalizing chain outer count with
  | @grouped tokens rule _ ih =>
    have hrest : NestedFrom maxDepth (chain :: outer).length (tokens ++ [.closing]) :=
      hnested.inside
    have hopen : outer.length + 1 ≤ maxDepth := by
      cases tokens <;> exact hrest.le_of_cons
    have hinside := ih none (chain :: outer) count (fun _ => rfl) hrest.left hcount
    exact .cons (.opening hopen) (hinside.append (.single .closing))
  | @comparison field comparator token literal hspelling =>
    exact .cons (.field hcount) (.cons .comparator (.single (.literal hspelling)))
  | single _ ih =>
    rw [hchain rfl] at *
    exact ih none outer count nofun hnested hcount
  | @chained tokens more connective left right hleft _ ihl ihr =>
    rw [hchain rfl]
    simp only [comparisonCount, ← Nat.add_assoc] at hcount ⊢
    have hfirst := ihl none outer count (fun _ => rfl) hnested.left (by omega)
    have hmore := hleft.nestedFrom_behind hnested
    exact hfirst.append (.cons .connective (ihr _ outer _ nofun hmore hcount))

/-! ## What is accepted is a sentence -/

namespace Parser

/-- The tokens before an operand, within its parentheses. -/
inductive ChainReads : Chain → List Token → Prop
  | none : ChainReads none []
  | some {left connective tokens} : Derives .expression tokens left →
      ChainReads (some (left, connective)) (tokens ++ [.connective connective])

inductive OuterReads : List Chain → List Token → Prop
  | nil : OuterReads [] []
  | cons {chain outer tokens more} : OuterReads outer tokens → ChainReads chain more →
      OuterReads (chain :: outer) (tokens ++ more ++ [.opening])

inductive State.Reads : State → List Token → Prop
  | operand {chain outer tokens more} : OuterReads outer tokens → ChainReads chain more →
      Reads (.operand chain outer) (tokens ++ more)
  | comparator {field chain outer tokens more} : OuterReads outer tokens → ChainReads chain more →
      Reads (.comparator field chain outer) (tokens ++ more ++ [.word field])
  | literal {field comparator chain outer tokens more} : OuterReads outer tokens →
      ChainReads chain more →
      Reads (.literal field comparator chain outer)
        (tokens ++ more ++ [.word field, .comparator comparator])
  | complete {rule outer tokens more} : OuterReads outer tokens → Derives .expression more rule →
      Reads (.complete rule outer) (tokens ++ more)

section

variable {maxDepth count count' : Nat} {state state' : State} {token : Token}
  {tokens read : List Token}

theorem ChainReads.derives {chain : Chain} {operand : Rule} (h : ChainReads chain read)
    (hoperand : Derives .operand tokens operand) :
    Derives .expression (read ++ tokens) (chain.join operand) := by
  cases h with
  | none => exact .single hoperand
  | some hleft =>
    rw [List.append_assoc]
    exact .chained hleft hoperand

theorem Move.reads (h : Move maxDepth state count token state' count') (hread : state.Reads read) :
    state'.Reads (read ++ [token]) := by
  cases h with
  | opening =>
    cases hread with
    | operand houter hchain =>
      have hinside := State.Reads.operand (houter.cons hchain) .none
      rwa [List.append_nil] at hinside
  | field =>
    cases hread with
    | operand houter hchain => exact .comparator houter hchain
  | comparator =>
    cases hread with
    | comparator houter hchain =>
      rw [List.append_assoc]
      exact .literal houter hchain
  | @literal field comparator _ _ _ _ _ hspelling =>
    cases hread with
    | literal houter hchain =>
      have hrule := hchain.derives (@Derives.comparison field comparator _ _ hspelling)
      simpa only [List.append_assoc, List.cons_append, List.nil_append] using
        State.Reads.complete houter hrule
  | connective =>
    cases hread with
    | complete houter hrule =>
      rw [List.append_assoc]
      exact .operand houter (.some hrule)
  | closing =>
    cases hread with
    | complete hinside hrule =>
      cases hinside with
      | cons houter hchain =>
        have hgroup := hchain.derives (.grouped hrule)
        simpa only [List.append_assoc, List.cons_append, List.nil_append] using
          State.Reads.complete houter hgroup

theorem Path.reads (h : Path maxDepth state count tokens state' count')
    (hread : state.Reads read) : state'.Reads (read ++ tokens) := by
  induction h generalizing read with
  | nil => rwa [List.append_nil]
  | cons hmove _ ih =>
    have hrest := ih (hmove.reads hread)
    rwa [List.append_assoc, List.singleton_append] at hrest

theorem reads_start : State.start.Reads [] := .operand .nil .none

theorem Path.derives {rule : Rule}
    (h : Path maxDepth .start count tokens (.complete rule []) count') :
    Derives .expression tokens rule := by
  have hread := h.reads reads_start
  rw [List.nil_append] at hread
  cases hread with
  | complete houter hrule =>
    cases houter
    exact hrule

theorem Path.comparisonCount_le {rule : Rule}
    (h : Path maxDepth .start 0 tokens (.complete rule []) count) :
    rule.comparisonCount ≤ maxComparisons := by
  obtain ⟨hcount, hle⟩ := h.count_complete
  omega

end

end Parser

/-- The parser accepts a list of tokens if it is a sentence within the limits, with the
rule of its derivation. -/
theorem ofTokens_eq_ok_iff_derives (maxDepth : Nat) (tokens : List Token) (rule : Rule) :
    ofTokens maxDepth tokens = .ok rule ↔
      Derives .expression tokens rule ∧ NestedWithin maxDepth tokens ∧
        rule.comparisonCount ≤ 4096 := by
  rw [ofTokens_eq_ok_iff_exists_path, ← nestedFrom_zero_iff]
  constructor
  · rintro ⟨count, hpath⟩
    exact ⟨hpath.derives, hpath.nestedFrom (Nat.zero_le _), hpath.comparisonCount_le⟩
  · rintro ⟨hrule, hnested, hcount⟩
    have hpath := hrule.path none [] 0 (fun _ => rfl) hnested
      (by rwa [Nat.zero_add])
    exact ⟨_, hpath⟩

end RecordRules.Rule
