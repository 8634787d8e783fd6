import RecordRules.Engine
import RecordRules.Proofs.Results
import RecordRules.Proofs.Session

/-!
# Engines in use

What may be asked of an engine, and what its cache does to the answers.  An engine is
`Sound` if every rule in its cache is the one it would create from the text; a call
leaves it so, with the configuration it had (`Follows`).

* `parse_eq`, `parse_spec` and `evaluate_spec`: a sound engine answers from its cache what it
  would answer without one;
* `follows_handle` and `follows_session`: what any request and any session leave behind.
-/

namespace RecordRules

/-! ## The cache -/

namespace Cache

theorem mem_entries_of_find? {cache : Cache} {text : String} {rule : Rule}
    (h : cache.find? text = some rule) : (text, rule) ∈ cache.entries := by
  obtain ⟨before, after, hentries, -⟩ := List.lookup_eq_some_iff.1 h
  rw [hentries]
  exact List.mem_append_right _ List.mem_cons_self

theorem mem_entries_use {cache : Cache} {text : String} {rule : Rule} {entry : String × Rule}
    (h : entry ∈ (cache.use text rule).entries) : entry = (text, rule) ∨ entry ∈ cache.entries := by
  rcases List.mem_cons.1 (List.mem_of_mem_take h) with heq | hmem
  · exact .inl heq
  · exact .inr (List.mem_of_mem_filter hmem)

end Cache

namespace Engine

/-! ## Requests -/

inductive Request where
  | create (text : String)
  /-- The rule of a text, through the cache. -/
  | parse (text : String)
  | evaluate (text : String) (lookup : Lookup)
  | combine (texts : List String)
  | lint (text : String)
  | clearCache

/-- What is answered; whether a rule came from the cache, and how many are in it, is not
part of the answer. -/
inductive Answer where
  | rule (result : Except RuleError Rule)
  | outcome (result : Except RuleError Bool)
  | report (report : LintReport)
  | done

def handle (engine : Engine) : Request → Answer × Engine
  | .create text => (.rule (engine.create text), engine)
  | .parse text =>
    let (rule, engine) := engine.parse text
    (.rule rule, engine)
  | .evaluate text lookup =>
    let (outcome, engine) := engine.evaluate text lookup
    (.outcome outcome, engine)
  | .combine texts => (.rule (engine.combine texts), engine)
  | .lint text => (.report (engine.lint text), engine)
  | .clearCache => (.done, engine.clearCache)

def session (config : Config) (requests : List Request) : List Answer × Engine :=
  serve handle (ofConfig config) requests

/-! ## Soundness -/

/-- What is cached is what would be created. -/
def Sound (engine : Engine) : Prop :=
  ∀ text rule, (text, rule) ∈ engine.cache.entries → engine.create text = .ok rule

/-- What calls may turn an engine into: nothing but the cache has changed, and that is
sound. -/
structure Follows (later engine : Engine) : Prop where
  config_eq : later.config = engine.config
  sound : later.Sound

theorem sound_ofConfig (config : Config) : (ofConfig config).Sound := by
  intro text rule hmem
  cases hmem

theorem create_of_config_eq {a b : Engine} (h : a.config = b.config) : a.create = b.create := by
  unfold create
  rw [h]

theorem Follows.create_eq {later engine : Engine} (h : later.Follows engine) :
    later.create = engine.create := create_of_config_eq h.config_eq

theorem Follows.trans {later engine earlier : Engine} (h : later.Follows engine)
    (h' : engine.Follows earlier) : later.Follows earlier :=
  ⟨h.config_eq.trans h'.config_eq, h.sound⟩

section

variable {engine : Engine}

theorem Sound.follows (h : engine.Sound) : engine.Follows engine := ⟨rfl, h⟩

theorem Sound.use {text : String} {rule : Rule} (h : engine.Sound)
    (hcreate : engine.create text = .ok rule) :
    Follows { engine with cache := engine.cache.use text rule } engine where
  config_eq := rfl
  sound := by
    intro other found hmem
    rcases Cache.mem_entries_use hmem with heq | hmem
    · cases heq
      exact hcreate
    · exact h other found hmem

theorem parse_eq (h : engine.Sound) (text : String) :
    engine.parse text =
      match engine.create text with
      | .ok rule => (.ok rule, { engine with cache := engine.cache.use text rule })
      | .error error => (.error error, engine) := by
  cases hfind : engine.cache.find? text with
  | some rule => rw [parse, hfind, h text rule (Cache.mem_entries_of_find? hfind)]
  | none => cases hcreate : engine.create text <;> rw [parse, hfind, hcreate]

theorem parse_spec (h : engine.Sound) (text : String) :
    ∃ later, Follows later engine ∧ engine.parse text = (engine.create text, later) := by
  rw [parse_eq h]
  cases hcreate : engine.create text with
  | ok rule => exact ⟨_, h.use hcreate, rfl⟩
  | error error => exact ⟨engine, h.follows, rfl⟩

theorem parse_fst (h : engine.Sound) (text : String) :
    (engine.parse text).1 = engine.create text := by
  obtain ⟨later, -, hparse⟩ := parse_spec h text
  rw [hparse]

theorem evaluate_spec (h : engine.Sound) (text : String) (lookup : Lookup) :
    ∃ later, Follows later engine ∧
      engine.evaluate text lookup = (engine.create text >>= (answer · lookup), later) := by
  obtain ⟨later, hlater, hparse⟩ := parse_spec h text
  refine ⟨later, hlater, ?_⟩
  rw [evaluate, hparse]
  cases engine.create text with
  | error error => rw [error_bind]
  | ok rule => rw [ok_bind]

theorem evaluate_fst (h : engine.Sound) (text : String) (lookup : Lookup) :
    (engine.evaluate text lookup).1 = engine.create text >>= (answer · lookup) := by
  obtain ⟨later, -, hevaluate⟩ := evaluate_spec h text lookup
  rw [hevaluate]

theorem follows_clearCache (engine : Engine) : engine.clearCache.Follows engine where
  config_eq := rfl
  sound := by
    intro text rule hmem
    cases hmem

theorem follows_handle (h : engine.Sound) (request : Request) :
    (engine.handle request).2.Follows engine := by
  cases request with
  | parse text =>
    obtain ⟨later, hlater, hparse⟩ := parse_spec h text
    rw [handle, hparse]
    exact hlater
  | evaluate text lookup =>
    obtain ⟨later, hlater, hevaluate⟩ := evaluate_spec h text lookup
    rw [handle, hevaluate]
    exact hlater
  | clearCache => exact follows_clearCache engine
  | create | combine | lint => exact h.follows

theorem follows_session (config : Config) (requests : List Request) :
    (session config requests).2.Follows (ofConfig config) :=
  serve_invariant (Follows · (ofConfig config))
    (fun _ request h => (follows_handle h.sound request).trans h)
    (sound_ofConfig config).follows requests

theorem sound_session (config : Config) (requests : List Request) :
    (session config requests).2.Sound :=
  (follows_session config requests).sound

end

end Engine

end RecordRules
