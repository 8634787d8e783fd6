import RecordRules.Proofs.Catalog.Session
import RecordRules.Proofs.Evaluation.Fields

/-!
# Rules are confined to the whitelist

Whichever way a rule is come by, it names no field outside the whitelist, so data under
other names cannot show in its outcome, nor in that of an evaluation by text or by id.
-/

namespace RecordRules

namespace Engine

section

variable {engine : Engine} {tree : Rule}

theorem covers_of_create {text : String} (h : engine.create text = .ok tree) :
    engine.config.attributes.Covers tree := Rule.covers_of_create h

theorem covers_of_combine {texts : List String} (h : engine.combine texts = .ok tree) :
    engine.config.attributes.Covers tree := Rule.covers_of_combine h

theorem bind_answer_eq_of_agree {lookup lookup' : Lookup}
    (h : ∀ field ∈ engine.config.attributes, lookup field = lookup' field) (text : String) :
    (engine.create text >>= (answer · lookup)) = (engine.create text >>= (answer · lookup')) := by
  cases hcreate : engine.create text with
  | error error => rfl
  | ok tree =>
    have heq := (covers_of_create hcreate).evaluate_eq h
    rw [ok_bind, ok_bind, answer, answer, heq]

end

end Engine

namespace Catalog

theorem exists_combine_of_combine {catalog : Catalog} {ids : List RuleId} {tree : Rule}
    (h : catalog.combine ids = .ok tree) : ∃ texts, catalog.engine.combine texts = .ok tree := by
  unfold combine at h
  cases hrules : ids.mapM catalog.get with
  | error error =>
    rw [hrules] at h
    cases h
  | ok rules =>
    rw [hrules] at h
    exact ⟨_, h⟩

/-- Lookups that agree on the whitelist are not told apart by any rule that can be had from
the engine or the catalog, nor by an evaluation there. -/
theorem evaluate_eq_of_agree (config : Config) (calls : List Call) (lookup lookup' : Lookup)
    (hagree : ∀ field ∈ config.attributes, lookup field = lookup' field) :
    let catalog := (session config calls).2
    let engine := catalog.engine
    (∀ text tree, engine.create text = .ok tree → tree.evaluate lookup = tree.evaluate lookup') ∧
      (∀ text tree, (engine.parse text).1 = .ok tree →
        tree.evaluate lookup = tree.evaluate lookup') ∧
      (∀ texts tree, engine.combine texts = .ok tree →
        tree.evaluate lookup = tree.evaluate lookup') ∧
      (∀ ids tree, catalog.combine ids = .ok tree →
        tree.evaluate lookup = tree.evaluate lookup') ∧
      (∀ text, (engine.evaluate text lookup).1 = (engine.evaluate text lookup').1) ∧
      ∀ id nanoseconds nanoseconds' now now',
        (catalog.evaluate id lookup nanoseconds now).1 =
          (catalog.evaluate id lookup' nanoseconds' now').1 := by
  intro catalog engine
  have hreached := reached_session config calls
  have hagree : ∀ field ∈ engine.config.attributes, lookup field = lookup' field := by
    rwa [hreached.config_eq]
  have hcreate (text : String) (tree : Rule) (h : engine.create text = .ok tree) :=
    (Engine.covers_of_create h).evaluate_eq hagree
  have hcombine (texts : List String) (tree : Rule) (h : engine.combine texts = .ok tree) :=
    (Engine.covers_of_combine h).evaluate_eq hagree
  refine ⟨hcreate, fun text tree h => ?_, hcombine, fun ids tree h => ?_, fun text => ?_,
    fun id nanoseconds nanoseconds' now now' => ?_⟩
  · rw [Engine.parse_fst hreached.sound] at h
    exact hcreate text tree h
  · obtain ⟨texts, htexts⟩ := exists_combine_of_combine h
    exact hcombine texts tree htexts
  · rw [Engine.evaluate_fst hreached.sound, Engine.evaluate_fst hreached.sound]
    exact Engine.bind_answer_eq_of_agree hagree text
  · rw [evaluate_fst hreached.sound, evaluate_fst hreached.sound]
    exact congrArg (catalog.get id >>= ·) (funext fun rule =>
      Engine.bind_answer_eq_of_agree hagree rule.text)

theorem evaluate_eq_of_agree_bonus :
    let catalog := (session {} [⟨.create { name := "senior", text := "age > 30" }, 100, 0⟩]).2
    let lookup : Lookup := fun field => if field = "age" then some (.int 35) else none
    let lookup' : Lookup := fun field => if field = "bonus" then some (.int 1) else lookup field
    (∀ field ∈ ({} : Config).attributes, lookup field = lookup' field) ∧
      lookup "bonus" ≠ lookup' "bonus" ∧
      (catalog.evaluate 1 lookup 7 200).1 = .ok true ∧
      (catalog.evaluate 1 lookup' 5 300).1 = .ok true := by
  intro catalog lookup lookup'
  have hagree : ∀ field ∈ ({} : Config).attributes, lookup field = lookup' field := by
    intro field hmem
    have hne : field ≠ "bonus" := by
      rintro rfl
      exact absurd hmem (by decide +kernel)
    exact (if_neg hne).symm
  have hevaluate : (catalog.evaluate 1 lookup 7 200).1 = .ok true := by decide +kernel
  obtain ⟨-, -, -, -, -, heq⟩ := evaluate_eq_of_agree {} _ lookup lookup' hagree
  exact ⟨hagree, by decide +kernel, hevaluate, (heq 1 7 5 200 300).symm.trans hevaluate⟩

end Catalog

end RecordRules
