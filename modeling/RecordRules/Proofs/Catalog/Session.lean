import Mathlib.Data.List.Induction
import RecordRules.Catalog
import RecordRules.Proofs.Engine.Session
import RecordRules.Proofs.Usage.Counters

/-!
# Catalogs in use

What may be asked of a catalog, and what that can change.  An answered call is an
`Event`, and `Event.change?` reads off what it has changed: a rule created, updated,
deleted or evaluated with success, or nothing.  `Effect` says once what each change does
to the catalog, and every invariant is derived from it.

* `effect_step`: what a step leaves behind is told by the change that it reports;
* `Reached`: the catalogs that a list of changes leads to from an empty one, and
  `reached_session`: every session leads to one of them.

Requests to the engine itself may come between those to the catalog.
-/

namespace RecordRules

def NewRule.stored (new : NewRule) (id : RuleId) (now : Timestamp) : StoredRule where
  id := id
  name := new.name
  description := new.description
  text := new.text
  createdAt := now
  updatedAt := now
  version := 1
  active := true

namespace Catalog

/-! ## Requests -/

inductive Request where
  | create (new : NewRule)
  | get (id : RuleId)
  | list
  | update (id : RuleId) (update : RuleUpdate)
  | delete (id : RuleId)
  | evaluate (id : RuleId) (lookup : Lookup)
  | combine (ids : List RuleId)
  | report (id : RuleId)
  /-- Asked of the engine, past the catalog. -/
  | engine (request : Engine.Request)

inductive Answer where
  | stored (result : Except RuleError StoredRule)
  | rules (rules : List StoredRule)
  | outcome (result : Except RuleError Bool)
  | rule (result : Except RuleError Rule)
  | report (result : Except RuleError UsageReport)
  | engine (answer : Engine.Answer)

/-- A request, what the clock reads then, and how long an evaluation takes if it asks for one. -/
structure Call where
  request : Request
  now : Timestamp
  nanoseconds : Nat

structure Event where
  call : Call
  answer : Answer

def handle (catalog : Catalog) (call : Call) : Answer × Catalog :=
  match call.request with
  | .create new =>
    let (result, catalog) := catalog.create new call.now
    (.stored result, catalog)
  | .get id => (.stored (catalog.get id), catalog)
  | .list => (.rules catalog.list, catalog)
  | .update id update =>
    let (result, catalog) := catalog.update id update call.now
    (.stored result, catalog)
  | .delete id =>
    let (result, catalog) := catalog.delete id
    (.stored result, catalog)
  | .evaluate id lookup =>
    let (result, catalog) := catalog.evaluate id lookup call.nanoseconds call.now
    (.outcome result, catalog)
  | .combine ids => (.rule (catalog.combine ids), catalog)
  | .report id => (.report (catalog.report id), catalog)
  | .engine request =>
    let (answer, engine) := catalog.engine.handle request
    (.engine answer, { catalog with engine })

def step (catalog : Catalog) (call : Call) : Event × Catalog :=
  let (answer, next) := catalog.handle call
  (⟨call, answer⟩, next)

/-- What comes of calls made one after the other on an empty catalog. -/
def session (config : Config) (calls : List Call) : List Event × Catalog :=
  serve step (ofEngine (.ofConfig config)) calls

/-! ## Changes -/

inductive Change where
  | created (id : RuleId) (new : NewRule) (now : Timestamp)
  | updated (id : RuleId) (update : RuleUpdate) (now : Timestamp)
  | deleted (id : RuleId)
  | evaluated (id : RuleId) (evaluation : Evaluation)
  deriving DecidableEq

def Event.change? : Event → Option Change
  | ⟨⟨.create new, now, _⟩, .stored (.ok rule)⟩ => some (.created rule.id new now)
  | ⟨⟨.update id update, now, _⟩, .stored (.ok _)⟩ => some (.updated id update now)
  | ⟨⟨.delete id, _, _⟩, .stored (.ok _)⟩ => some (.deleted id)
  | ⟨⟨.evaluate id _, now, nanoseconds⟩, .outcome (.ok outcome)⟩ =>
    some (.evaluated id { outcome, nanoseconds, now })
  | _ => none

def history (config : Config) (calls : List Call) : List Change :=
  (session config calls).1.filterMap Event.change?

/-- What a change makes of a catalog; the engine's cache may change in any case. -/
inductive Effect (catalog : Catalog) : Option Change → Catalog → Prop
  | nothing {engine} : engine.Follows catalog.engine → Effect catalog none { catalog with engine }
  | created {new now tree engine} : catalog.engine.create new.text = .ok tree →
      engine.Follows catalog.engine →
      Effect catalog (some (.created catalog.nextId new now))
        { catalog with
          engine
          rules := catalog.rules.insert catalog.nextId (new.stored catalog.nextId now)
          nextId := catalog.nextId + 1 }
  | updated {id update now rule engine} : catalog.get id = .ok rule →
      (∀ text, update.text = some text → ∃ tree, catalog.engine.create text = .ok tree) →
      engine.Follows catalog.engine →
      Effect catalog (some (.updated id update now))
        { catalog with engine, rules := catalog.rules.insert id (update.apply now rule) }
  | deleted {id rule} : catalog.get id = .ok rule → catalog.engine.Sound →
      Effect catalog (some (.deleted id))
        { catalog with rules := catalog.rules.erase id, usage := catalog.usage.forget id }
  | evaluated {id rule lookup outcome nanoseconds now engine} : catalog.get id = .ok rule →
      catalog.engine.create rule.text >>= (Engine.answer · lookup) = .ok outcome →
      engine.Follows catalog.engine →
      Effect catalog (some (.evaluated id { outcome, nanoseconds, now }))
        { catalog with engine, usage := catalog.usage.track id nanoseconds outcome now }

/-! ## Operations -/

section

variable {catalog : Catalog} {id : RuleId}

theorem get_eq_ok_iff {rule : StoredRule} :
    catalog.get id = .ok rule ↔ catalog.rules[id]? = some rule := by
  unfold get
  split
  · next found h => rw [h, Except.ok.injEq, Option.some.injEq]
  · next h => simp [h]

theorem get_eq_error_iff {error : RuleError} :
    catalog.get id = .error error ↔ catalog.rules[id]? = none ∧ error = .unknownRule id := by
  unfold get
  split
  · next found h => simp [h]
  · next h =>
    rw [h, Except.error.injEq]
    exact ⟨fun heq => ⟨rfl, heq.symm⟩, fun heq => heq.2.symm⟩

theorem create_spec (h : catalog.engine.Sound) (new : NewRule) (now : Timestamp) :
    ∃ engine, engine.Follows catalog.engine ∧
      catalog.create new now =
        match catalog.engine.create new.text with
        | .error error => (.error error, { catalog with engine })
        | .ok _ =>
          (.ok (new.stored catalog.nextId now),
            { catalog with
              engine
              rules := catalog.rules.insert catalog.nextId (new.stored catalog.nextId now)
              nextId := catalog.nextId + 1 }) := by
  obtain ⟨engine, hengine, hparse⟩ := Engine.parse_spec h new.text
  refine ⟨engine, hengine, ?_⟩
  rw [create, hparse]
  cases catalog.engine.create new.text <;> rfl

theorem update_spec (h : catalog.engine.Sound) (id : RuleId) (update : RuleUpdate)
    (now : Timestamp) :
    ∃ engine, engine.Follows catalog.engine ∧
      catalog.update id update now =
        match update.text.map catalog.engine.create with
        | some (.error error) => (.error error, { catalog with engine })
        | _ => replace { catalog with engine } id update now := by
  unfold Catalog.update
  cases update.text with
  | none => exact ⟨catalog.engine, h.follows, rfl⟩
  | some text =>
    obtain ⟨engine, hengine, hparse⟩ := Engine.parse_spec h text
    refine ⟨engine, hengine, ?_⟩
    rw [Option.map_some]
    dsimp only
    rw [hparse]
    cases catalog.engine.create text <;> rfl

theorem evaluate_spec (h : catalog.engine.Sound) (id : RuleId) (lookup : Lookup)
    (nanoseconds : Nat) (now : Timestamp) :
    let result := catalog.get id >>= fun rule =>
      catalog.engine.create rule.text >>= (Engine.answer · lookup)
    ∃ engine, engine.Follows catalog.engine ∧
      catalog.evaluate id lookup nanoseconds now =
        (result,
          { catalog with
            engine
            usage := match result with
              | .ok outcome => catalog.usage.track id nanoseconds outcome now
              | .error _ => catalog.usage }) := by
  unfold evaluate
  cases catalog.get id with
  | error error => exact ⟨catalog.engine, h.follows, rfl⟩
  | ok rule =>
    obtain ⟨engine, hengine, hevaluate⟩ := Engine.evaluate_spec h rule.text lookup
    refine ⟨engine, hengine, ?_⟩
    simp only [ok_bind, hevaluate]
    cases catalog.engine.create rule.text >>= (Engine.answer · lookup) <;> rfl

theorem evaluate_fst (h : catalog.engine.Sound) (id : RuleId) (lookup : Lookup)
    (nanoseconds : Nat) (now : Timestamp) :
    (catalog.evaluate id lookup nanoseconds now).1 = catalog.get id >>= fun rule =>
      catalog.engine.create rule.text >>= (Engine.answer · lookup) := by
  obtain ⟨engine, -, hevaluate⟩ := evaluate_spec h id lookup nanoseconds now
  rw [hevaluate]

/-! ## Steps -/

theorem effect_update {next : Catalog} {result : Except RuleError StoredRule}
    {update : RuleUpdate} {now : Timestamp} {nanoseconds : Nat} (h : catalog.engine.Sound)
    (hupdate : catalog.update id update now = (result, next)) :
    Effect catalog (Event.change? ⟨⟨.update id update, now, nanoseconds⟩, .stored result⟩)
      next := by
  obtain ⟨engine, hengine, hspec⟩ := update_spec h id update now
  rw [hspec] at hupdate
  split at hupdate
  · cases hupdate
    exact .nothing hengine
  · next hvalid =>
    unfold replace at hupdate
    split at hupdate
    · cases hupdate
      exact .nothing hengine
    · next rule hget =>
      cases hupdate
      refine .updated hget (fun text htext => ?_) hengine
      cases hcreate : catalog.engine.create text with
      | ok tree => exact ⟨tree, rfl⟩
      | error error => exact absurd (by rw [htext, Option.map_some, hcreate]) (hvalid error)

theorem effect_step (h : catalog.engine.Sound) (call : Call) :
    Effect catalog (catalog.step call).1.change? (catalog.step call).2 := by
  obtain ⟨request, now, nanoseconds⟩ := call
  cases request with
  | create new =>
    obtain ⟨engine, hengine, hcreate⟩ := create_spec h new now
    simp only [step, handle, hcreate]
    split
    · exact .nothing hengine
    · next tree hok => exact .created hok hengine
  | update id update => exact effect_update h rfl
  | delete id =>
    simp only [step, handle, delete]
    split
    · exact .nothing h.follows
    · next rule hget => exact .deleted hget h
  | evaluate id lookup =>
    obtain ⟨engine, hengine, hevaluate⟩ := evaluate_spec h id lookup nanoseconds now
    simp only [step, handle, hevaluate]
    cases hget : catalog.get id with
    | error error => exact .nothing hengine
    | ok rule =>
      simp only [ok_bind]
      cases hresult : catalog.engine.create rule.text >>= (Engine.answer · lookup) with
      | error error => exact .nothing hengine
      | ok outcome => exact .evaluated hget hresult hengine
  | engine request => exact .nothing (Engine.follows_handle h request)
  | get | list | combine | report => exact .nothing h.follows

end

/-! ## Sessions -/

theorem Effect.follows {catalog next : Catalog} {change : Option Change}
    (h : Effect catalog change next) : next.engine.Follows catalog.engine := by
  cases h with
  | nothing hengine => exact hengine
  | created _ hengine => exact hengine
  | updated _ _ hengine => exact hengine
  | deleted _ hsound => exact hsound.follows
  | evaluated _ _ hengine => exact hengine

/-- The catalogs that changes lead to from an empty one. -/
inductive Reached (config : Config) : List Change → Catalog → Prop
  | start : Reached config [] (ofEngine (.ofConfig config))
  | step {changes catalog change next} : Reached config changes catalog →
      Effect catalog change next → Reached config (changes ++ change.toList) next

section

variable {config : Config} {changes : List Change} {catalog : Catalog}

theorem Reached.follows (h : Reached config changes catalog) :
    catalog.engine.Follows (.ofConfig config) := by
  induction h with
  | start => exact (Engine.sound_ofConfig config).follows
  | step _ heffect ih => exact heffect.follows.trans ih

theorem Reached.sound (h : Reached config changes catalog) : catalog.engine.Sound :=
  h.follows.sound

theorem Reached.config_eq (h : Reached config changes catalog) :
    catalog.engine.config = config :=
  h.follows.config_eq

theorem session_concat (config : Config) (calls : List Call) (call : Call) :
    session config (calls ++ [call]) =
      ((session config calls).1 ++ [((session config calls).2.step call).1],
        ((session config calls).2.step call).2) :=
  serve_concat _ calls call

theorem history_concat (config : Config) (calls : List Call) (call : Call) :
    history config (calls ++ [call]) =
      history config calls ++ ((session config calls).2.step call).1.change?.toList := by
  rw [history, session_concat, filterMap_concat, history]

theorem reached_session (config : Config) (calls : List Call) :
    Reached config (history config calls) (session config calls).2 := by
  induction calls using List.reverseRecOn with
  | nil => exact .start
  | append_singleton calls call ih =>
    rw [history_concat, session_concat]
    exact .step ih (effect_step ih.sound call)

end

end Catalog

end RecordRules
