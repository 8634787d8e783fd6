import RecordRules.Proofs.Catalog.Rules
import RecordRules.Proofs.Creation.Bounds

/-!
# Stored rules stay usable

A text is stored only after the engine has made a rule of it, and no change afterwards
takes that back (`Reached.usable`).  So a stored rule can always be evaluated, and stored
rules can be combined unless their conjunction exceeds a limit, which depends on how deep their
texts lie and on their comparisons alone (`combine_eq_ok_iff_of_holds`).
-/

namespace RecordRules

namespace Catalog

/-! ## The invariant -/

/-- The rule under an id has a text that the engine makes this tree of. -/
def Holds (catalog : Catalog) (id : RuleId) (tree : Rule) : Prop :=
  ∃ stored, catalog.get id = .ok stored ∧ catalog.engine.create stored.text = .ok tree

def Usable (catalog : Catalog) : Prop :=
  ∀ id stored, catalog.get id = .ok stored → ∃ tree, catalog.engine.create stored.text = .ok tree

section

variable {catalog : Catalog}

theorem Reached.usable {config : Config} {changes : List Change}
    (h : Reached config changes catalog) : catalog.Usable := by
  intro id stored hget
  have hcreate {changes : List Change} {earlier : Catalog}
      (hearlier : Reached config changes earlier) : earlier.engine.create = catalog.engine.create :=
    Engine.create_of_config_eq (hearlier.config_eq.trans h.config_eq.symm)
  refine h.rule_induction (fun _ rule => ∃ tree, catalog.engine.create rule.text = .ok tree)
    (fun changes earlier _ new now hearlier heffect => ?created)
    (fun changes earlier _ update now rule hearlier heffect ih => ?updated)
    (fun _ _ _ _ ih => ih) (get_eq_ok_iff.1 hget)
  case created =>
    rw [← hcreate hearlier]
    exact heffect.created_inv.2
  case updated =>
    unfold RuleUpdate.apply
    cases hnew : update.text with
    | none => exact ih
    | some text =>
      rw [← hcreate hearlier]
      exact heffect.updated_inv text hnew

/-! ## What it makes of evaluation and combination -/

theorem eq_evaluation_of_answer {tree : Rule} {lookup : Lookup} {error : RuleError}
    (h : Engine.answer tree lookup = .error error) :
    (∃ field, error = .evaluation (.missingField field)) ∨
      ∃ field comparator value literal,
        error = .evaluation (.typeMismatch field comparator value literal) := by
  unfold Engine.answer at h
  cases hevaluate : tree.evaluate lookup with
  | ok outcome =>
    rw [hevaluate] at h
    cases h
  | error cause =>
    rw [hevaluate] at h
    cases h
    cases cause with
    | missingField field => exact .inl ⟨field, rfl⟩
    | typeMismatch field comparator value literal =>
      exact .inr ⟨field, comparator, value, literal, rfl⟩

theorem evaluate_of_holds (h : catalog.engine.Sound) {id : RuleId} {tree : Rule}
    (htree : catalog.Holds id tree) (lookup : Lookup) (nanoseconds : Nat) (now : Timestamp) :
    (catalog.evaluate id lookup nanoseconds now).1 = Engine.answer tree lookup := by
  obtain ⟨stored, hget, hcreate⟩ := htree
  rw [evaluate_fst h, hget, ok_bind, hcreate, ok_bind]

theorem exists_texts_of_holds {ids : List RuleId} {trees : List Rule}
    (h : List.Forall₂ catalog.Holds ids trees) :
    ∃ stored, List.Forall₂ (fun id rule => catalog.get id = .ok rule) ids stored ∧
      List.Forall₂ (fun text tree => catalog.engine.create text = .ok tree)
        (stored.map StoredRule.text) trees ∧
      catalog.combine ids = catalog.engine.combine (stored.map StoredRule.text) := by
  obtain ⟨stored, hget, hcreate⟩ := Rule.exists_forall₂_between h
  refine ⟨stored, hget, List.forall₂_map_left_iff.2 hcreate, ?_⟩
  rw [combine, mapM_eq_ok_iff.2 hget, ok_bind]

theorem combine_of_holds {ids : List RuleId} {tree : Rule} {trees : List Rule}
    (h : List.Forall₂ catalog.Holds ids (tree :: trees)) :
    catalog.combine ids = .ok (trees.foldl (.operator .and) tree) ∨
      ∃ error, error.IsLimit catalog.engine.config.parseOptions.maxDepth ∧
        catalog.combine ids = .error (.invalidSyntax error) := by
  obtain ⟨stored, -, hcreate, hcombine⟩ := exists_texts_of_holds h
  rw [hcombine]
  cases stored with
  | nil => cases hcreate
  | cons first rest => exact Rule.combine_of_create hcreate

theorem combine_of_holds_single {ids : List RuleId} {tree : Rule}
    (h : List.Forall₂ catalog.Holds ids [tree]) : catalog.combine ids = .ok tree := by
  obtain ⟨stored, -, hcreate, hcombine⟩ := exists_texts_of_holds h
  rw [hcombine]
  match stored, hcreate with
  | [_], .cons hcreate .nil => exact hcreate

/-- Two or more stored rules are combined if each is accepted one level less deep and they do not
have too many comparisons in all. -/
theorem combine_eq_ok_iff_of_holds {maxDepth : Nat} {ids : List RuleId} {tree next : Rule}
    {trees : List Rule} (h : List.Forall₂ catalog.Holds ids (tree :: next :: trees))
    (hdepth : catalog.engine.config.parseOptions.maxDepth = maxDepth + 1) :
    catalog.combine ids = .ok ((next :: trees).foldl (.operator .and) tree) ↔
      (∀ id ∈ ids, ∃ stored found, catalog.get id = .ok stored ∧
        Rule.create catalog.engine.config.attributes
          { catalog.engine.config.parseOptions with maxDepth } stored.text = .ok found) ∧
        ((tree :: next :: trees).map Rule.comparisonCount).sum ≤ maxComparisons := by
  obtain ⟨stored, hget, hcreate, hcombine⟩ := exists_texts_of_holds h
  have hids : (∀ id ∈ ids, ∃ stored found, catalog.get id = .ok stored ∧
      Rule.create catalog.engine.config.attributes
        { catalog.engine.config.parseOptions with maxDepth } stored.text = .ok found) ↔
      ∀ text ∈ stored.map StoredRule.text, ∃ found,
        Rule.create catalog.engine.config.attributes
          { catalog.engine.config.parseOptions with maxDepth } text = .ok found := by
    refine Rule.forall_mem_iff_of_forall₂ (List.forall₂_map_right_iff.2 (hget.imp ?_))
    intro id rule hrule
    simp only [hrule, Except.ok.injEq, exists_and_left, exists_eq_left']
  rw [hcombine, hids]
  match stored, hcreate with
  | first :: second :: rest, hcreate => exact Rule.combine_eq_ok_iff_of_create hdepth hcreate

theorem combine_eq_unknownRule {before : List RuleId} {id : RuleId}
    (hbefore : ∀ other ∈ before, ∃ stored, catalog.get other = .ok stored)
    (hid : ∀ stored, catalog.get id ≠ .ok stored) (after : List RuleId) :
    catalog.combine (before ++ id :: after) = .error (.unknownRule id) := by
  have hunknown : catalog.get id = .error (.unknownRule id) := by
    cases hget : catalog.get id with
    | error error => rw [(get_eq_error_iff.1 hget).2]
    | ok stored => exact absurd hget (hid stored)
  rw [combine, mapM_eq_error hbefore hunknown, error_bind]

end

/-- After any calls, every stored rule is one that the engine accepts: it evaluates to what
its tree evaluates to, and stored rules combine to the conjunction of their trees unless
that exceeds a limit. -/
theorem stored_rules_usable (config : Config) (calls : List Call) :
    let catalog := (session config calls).2
    (∀ id stored, catalog.get id = .ok stored →
      ∃ tree, catalog.engine.create stored.text = .ok tree ∧
        ∀ lookup nanoseconds now,
          let result := (catalog.evaluate id lookup nanoseconds now).1
          result = Engine.answer tree lookup ∧
            ∀ error, result = .error error →
              (∃ field, error = .evaluation (.missingField field)) ∨
                ∃ field comparator value literal,
                  error = .evaluation (.typeMismatch field comparator value literal)) ∧
      catalog.combine [] = .error .nothingToCombine ∧
      (∀ before id after, (∀ other ∈ before, ∃ stored, catalog.get other = .ok stored) →
        (∀ stored, catalog.get id ≠ .ok stored) →
        catalog.combine (before ++ id :: after) = .error (.unknownRule id)) ∧
      ∀ ids, ids ≠ [] → (∀ id ∈ ids, ∃ stored, catalog.get id = .ok stored) →
        ∃ tree trees, List.Forall₂ catalog.Holds ids (tree :: trees) ∧
          (catalog.combine ids = .ok (trees.foldl (.operator .and) tree) ∨
            ∃ error, error.IsLimit config.parseOptions.maxDepth ∧
              catalog.combine ids = .error (.invalidSyntax error)) ∧
          (trees = [] → catalog.combine ids = .ok tree) ∧
          ∀ maxDepth, trees ≠ [] → config.parseOptions.maxDepth = maxDepth + 1 →
            (catalog.combine ids = .ok (trees.foldl (.operator .and) tree) ↔
              (∀ id ∈ ids, ∃ stored found, catalog.get id = .ok stored ∧
                Rule.create config.attributes { config.parseOptions with maxDepth } stored.text =
                  .ok found) ∧
                ((tree :: trees).map Rule.comparisonCount).sum ≤ 4096) := by
  intro catalog
  have hreached := reached_session config calls
  refine ⟨fun id stored hget => ?_, rfl, fun before id after hbefore hid =>
    combine_eq_unknownRule hbefore hid after, fun ids hne hstored => ?_⟩
  · obtain ⟨tree, hcreate⟩ := hreached.usable id stored hget
    refine ⟨tree, hcreate, fun lookup nanoseconds now => ?_⟩
    have hresult := evaluate_of_holds hreached.sound ⟨stored, hget, hcreate⟩ lookup nanoseconds now
    refine ⟨hresult, fun error herror => ?_⟩
    rw [hresult] at herror
    exact eq_evaluation_of_answer herror
  · have hholds : ∀ id ∈ ids, ∃ tree, catalog.Holds id tree := by
      intro id hmem
      obtain ⟨stored, hget⟩ := hstored id hmem
      obtain ⟨tree, hcreate⟩ := hreached.usable id stored hget
      exact ⟨tree, stored, hget, hcreate⟩
    obtain ⟨trees, htrees⟩ := Rule.exists_forall₂ hholds
    cases trees with
    | nil => exact absurd (List.forall₂_nil_right_iff.1 htrees) hne
    | cons tree trees =>
      rw [← hreached.config_eq]
      refine ⟨tree, trees, htrees, combine_of_holds htrees, ?_, ?_⟩
      · rintro rfl
        exact combine_of_holds_single htrees
      · intro maxDepth hmore hdepth
        obtain ⟨next, trees, rfl⟩ := List.exists_cons_of_ne_nil hmore
        exact combine_eq_ok_iff_of_holds htrees hdepth

example :
    let calls : List Call := [
      ⟨.create { name := "senior", text := "age > 30 OR experience > 5" }, 100, 0⟩,
      ⟨.create { name := "sales", text := "department = 'Sales'" }, 200, 0⟩]
    (session {} calls).2.combine [2, 1] =
      .ok (.operator .and (.comparison "department" .eq (.text "Sales"))
        (.operator .or (.comparison "age" .gt (.int 30))
          (.comparison "experience" .gt (.int 5)))) := by
  decide +kernel

end Catalog

end RecordRules
