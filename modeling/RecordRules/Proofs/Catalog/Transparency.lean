import RecordRules.Proofs.Catalog.Session

/-!
# The cache does not show

Two engines that are configured alike except for the size of their caches give the same
answers, whatever either has cached, because both answer what they would answer without a
cache.  `Alike` is what two runs keep in common, for engines and for the catalogs over
them; `Alike.step` says that one step keeps it and answers alike.

What the clock reads and how long an evaluation takes is no matter of the cache: two runs may
differ in both, and all that is told by them is left out of the comparison (`untimed`).
-/

namespace RecordRules

/-! ## Engines -/

namespace Engine

/-- Sound engines that read rules by the same settings. -/
structure Alike (a b : Engine) : Prop where
  attributes_eq : a.config.attributes = b.config.attributes
  options_eq : a.config.parseOptions = b.config.parseOptions
  left : a.Sound
  right : b.Sound

theorem alike_ofConfig (config : Config) (capacity : UInt64) :
    Alike (ofConfig config) (ofConfig { config with cacheCapacity := capacity }) where
  attributes_eq := rfl
  options_eq := rfl
  left := sound_ofConfig config
  right := sound_ofConfig _

section

variable {a b a' b' : Engine}

theorem Alike.of_follows (h : Alike a b) (ha : a'.Follows a) (hb : b'.Follows b) :
    Alike a' b' where
  attributes_eq := by rw [ha.config_eq, hb.config_eq, h.attributes_eq]
  options_eq := by rw [ha.config_eq, hb.config_eq, h.options_eq]
  left := ha.sound
  right := hb.sound

theorem Alike.create_eq (h : Alike a b) : a.create = b.create := by
  unfold create
  rw [h.attributes_eq, h.options_eq]

theorem Alike.combine_eq (h : Alike a b) : a.combine = b.combine := by
  unfold combine
  rw [h.attributes_eq, h.options_eq]

theorem Alike.lint_eq (h : Alike a b) : a.lint = b.lint := by
  unfold lint
  rw [h.attributes_eq, h.options_eq]

theorem Alike.handle (h : Alike a b) (request : Request) :
    (a.handle request).1 = (b.handle request).1 ∧
      Alike (a.handle request).2 (b.handle request).2 := by
  refine ⟨?_, h.of_follows (follows_handle h.left request) (follows_handle h.right request)⟩
  cases request with
  | create text => simp only [Engine.handle, h.create_eq]
  | parse text =>
    obtain ⟨later, -, hleft⟩ := parse_spec h.left text
    obtain ⟨later', -, hright⟩ := parse_spec h.right text
    simp only [Engine.handle, hleft, hright, h.create_eq]
  | evaluate text lookup =>
    obtain ⟨later, -, hleft⟩ := evaluate_spec h.left text lookup
    obtain ⟨later', -, hright⟩ := evaluate_spec h.right text lookup
    simp only [Engine.handle, hleft, hright, h.create_eq]
  | combine texts => simp only [Engine.handle, h.combine_eq]
  | lint text => simp only [Engine.handle, h.lint_eq]
  | clearCache => rfl

end

end Engine

/-! ## Times left out -/

def StoredRule.untimed (rule : StoredRule) : StoredRule :=
  { rule with createdAt := 0, updatedAt := 0 }

theorem StoredRule.text_eq_of_untimed {rule rule' : StoredRule} (h : rule.untimed = rule'.untimed) :
    rule.text = rule'.text := by
  have htext : rule.untimed.text = rule'.untimed.text := by rw [h]
  exact htext

/-- Whether there was an evaluation is not left out. -/
def UsageStats.untimed (stats : UsageStats) : UsageStats :=
  { stats with totalNanoseconds := 0, lastEvaluated := stats.lastEvaluated.map fun _ => 0 }

theorem UsageStats.untimed_record (stats : UsageStats) (nanoseconds : Nat) (outcome : Bool)
    (now : Timestamp) :
    (stats.record nanoseconds outcome now).untimed = (stats.untimed.record 0 outcome 0).untimed :=
  rfl

def UsageReport.untimed (report : UsageReport) : UsageReport :=
  { report with
    averageMilliseconds := .ofNat 0
    lastEvaluated := report.lastEvaluated.map fun _ => 0 }

theorem UsageStats.untimed_report (stats : UsageStats) (id : RuleId) :
    (stats.report id).untimed = (stats.untimed.report id).untimed := by
  simp only [UsageReport.untimed, report, untimed, Option.map_map]
  rfl

namespace Catalog

def Call.untimed (call : Call) : Call := { call with now := 0, nanoseconds := 0 }

def Answer.untimed : Answer → Answer
  | .stored result => .stored (result.map StoredRule.untimed)
  | .rules found => .rules (found.map StoredRule.untimed)
  | .report result => .report (result.map UsageReport.untimed)
  | answer => answer

def Event.untimed (event : Event) : Event := ⟨event.call.untimed, event.answer.untimed⟩

/-! ## Catalogs -/

/-- Catalogs over engines that are alike, with the same rules and statistics but for the
times. -/
structure Alike (a b : Catalog) : Prop where
  engine : a.engine.Alike b.engine
  rules_eq : ∀ id : RuleId,
    a.rules[id]?.map StoredRule.untimed = b.rules[id]?.map StoredRule.untimed
  nextId_eq : a.nextId = b.nextId
  usage_eq : ∀ id, (a.usage.getD id {}).untimed = (b.usage.getD id {}).untimed

section

variable {a b : Catalog}

/-! ### Maps -/

theorem untimed_getElem?_insert {rules rules' : Std.ExtTreeMap RuleId StoredRule}
    (h : ∀ id : RuleId, rules[id]?.map StoredRule.untimed = rules'[id]?.map StoredRule.untimed)
    {rule rule' : StoredRule} (hrule : rule.untimed = rule'.untimed) (id other : RuleId) :
    (rules.insert id rule)[other]?.map StoredRule.untimed =
      (rules'.insert id rule')[other]?.map StoredRule.untimed := by
  rw [Std.ExtTreeMap.getElem?_insert, Std.ExtTreeMap.getElem?_insert]
  split
  · rw [Option.map_some, Option.map_some, hrule]
  · exact h other

theorem untimed_getElem?_erase {rules rules' : Std.ExtTreeMap RuleId StoredRule}
    (h : ∀ id : RuleId, rules[id]?.map StoredRule.untimed = rules'[id]?.map StoredRule.untimed)
    (id other : RuleId) :
    (rules.erase id)[other]?.map StoredRule.untimed =
      (rules'.erase id)[other]?.map StoredRule.untimed := by
  rw [Std.ExtTreeMap.getElem?_erase, Std.ExtTreeMap.getElem?_erase]
  split
  · rfl
  · exact h other

theorem untimed_getD_track {log log' : UsageLog}
    (h : ∀ id, (log.getD id {}).untimed = (log'.getD id {}).untimed) (id : RuleId)
    (nanoseconds nanoseconds' : Nat) (outcome : Bool) (now now' : Timestamp) (other : RuleId) :
    ((log.track id nanoseconds outcome now).getD other {}).untimed =
      ((log'.track id nanoseconds' outcome now').getD other {}).untimed := by
  unfold UsageLog.track
  rw [Std.ExtTreeMap.getD_insert, Std.ExtTreeMap.getD_insert]
  split
  · rw [UsageStats.untimed_record, h id, ← UsageStats.untimed_record _ nanoseconds' _ now']
  · exact h other

theorem untimed_getD_forget {log log' : UsageLog}
    (h : ∀ id, (log.getD id {}).untimed = (log'.getD id {}).untimed) (id other : RuleId) :
    ((log.forget id).getD other {}).untimed = ((log'.forget id).getD other {}).untimed := by
  unfold UsageLog.forget
  rw [Std.ExtTreeMap.getD_erase, Std.ExtTreeMap.getD_erase]
  split
  · rfl
  · exact h other

/-! ### Operations -/

theorem Alike.get_cases (h : Alike a b) (id : RuleId) :
    (∃ error, a.get id = .error error ∧ b.get id = .error error) ∨
      ∃ rule rule', a.get id = .ok rule ∧ b.get id = .ok rule' ∧ rule.untimed = rule'.untimed := by
  have heq := h.rules_eq id
  unfold get
  cases hrule : a.rules[id]? with
  | none =>
    rw [hrule, Option.map_none, eq_comm, Option.map_eq_none_iff] at heq
    rw [heq]
    exact .inl ⟨_, rfl, rfl⟩
  | some rule =>
    rw [hrule, Option.map_some, eq_comm, Option.map_eq_some_iff] at heq
    obtain ⟨rule', hrule', heq⟩ := heq
    rw [hrule']
    exact .inr ⟨rule, rule', rfl, rfl, heq.symm⟩

theorem Alike.get_eq (h : Alike a b) (id : RuleId) :
    (a.get id).map StoredRule.untimed = (b.get id).map StoredRule.untimed := by
  obtain ⟨error, ha, hb⟩ | ⟨rule, rule', ha, hb, hrule⟩ := h.get_cases id
  · rw [ha, hb]
  · rw [ha, hb, Except.map, Except.map, hrule]

theorem Alike.text_eq (h : Alike a b) :
    (fun id => (a.get id).map StoredRule.text) = fun id => (b.get id).map StoredRule.text := by
  funext id
  obtain ⟨error, ha, hb⟩ | ⟨rule, rule', ha, hb, hrule⟩ := h.get_cases id
  · rw [ha, hb]
  · rw [ha, hb, Except.map, Except.map, StoredRule.text_eq_of_untimed hrule]

theorem Alike.list_eq (h : Alike a b) :
    a.list.map StoredRule.untimed = b.list.map StoredRule.untimed := by
  have hmap : a.rules.map (fun _ => StoredRule.untimed) =
      b.rules.map fun _ => StoredRule.untimed := by
    refine Std.ExtTreeMap.ext_getElem? fun id => ?_
    rw [Std.ExtTreeMap.getElem?_map, Std.ExtTreeMap.getElem?_map, h.rules_eq id]
  have hlist (catalog : Catalog) : catalog.list.map StoredRule.untimed =
      (catalog.rules.map fun _ => StoredRule.untimed).toList.map Prod.snd := by
    rw [list, Std.ExtTreeMap.toList_map, List.map_map, List.map_map]
    rfl
  rw [hlist, hlist, hmap]

theorem Alike.replace (h : Alike a b) (id : RuleId) (update : RuleUpdate) (now now' : Timestamp) :
    (a.replace id update now).1.map StoredRule.untimed =
        (b.replace id update now').1.map StoredRule.untimed ∧
      Alike (a.replace id update now).2 (b.replace id update now').2 := by
  unfold Catalog.replace
  obtain ⟨error, ha, hb⟩ | ⟨rule, rule', ha, hb, hrule⟩ := h.get_cases id
  · rw [ha, hb]
    exact ⟨rfl, h⟩
  · have hupdated : (update.apply now rule).untimed = (update.apply now' rule').untimed := by
      simp only [StoredRule.untimed, StoredRule.mk.injEq] at hrule
      obtain ⟨hid, hname, hdescription, htext, -, -, hversion, hactive⟩ := hrule
      simp only [StoredRule.untimed, RuleUpdate.apply, hid, hname, hdescription, htext, hversion,
        hactive]
    rw [ha, hb]
    exact ⟨congrArg Except.ok hupdated, h.engine, untimed_getElem?_insert h.rules_eq hupdated id,
      h.nextId_eq, h.usage_eq⟩

theorem Alike.step (h : Alike a b) {call call' : Call} (hcall : call.request = call'.request) :
    (a.step call).1.untimed = (b.step call').1.untimed ∧
      Alike (a.step call).2 (b.step call').2 := by
  obtain ⟨request, now, nanoseconds⟩ := call
  obtain ⟨request', now', nanoseconds'⟩ := call'
  obtain rfl : request = request' := hcall
  have hcreate := h.engine.create_eq
  have hevent {answer answer' : Answer} (hanswer : answer.untimed = answer'.untimed) :
      Event.untimed ⟨⟨request, now, nanoseconds⟩, answer⟩ =
        Event.untimed ⟨⟨request, now', nanoseconds'⟩, answer'⟩ :=
    congrArg (Event.mk ⟨request, 0, 0⟩) hanswer
  cases request with
  | create new =>
    obtain ⟨later, hlater, hleft⟩ := create_spec h.engine.left new now
    obtain ⟨later', hlater', hright⟩ := create_spec h.engine.right new now'
    simp only [Catalog.step, handle, hleft, hright, hcreate, h.nextId_eq]
    have hengine := h.engine.of_follows hlater hlater'
    split
    · exact ⟨rfl, hengine, h.rules_eq, rfl, h.usage_eq⟩
    · have hstored : (new.stored b.nextId now).untimed = (new.stored b.nextId now').untimed := rfl
      exact ⟨rfl, hengine, untimed_getElem?_insert h.rules_eq hstored b.nextId, rfl, h.usage_eq⟩
  | get id => exact ⟨hevent (congrArg Answer.stored (h.get_eq id)), h⟩
  | list => exact ⟨hevent (congrArg Answer.rules h.list_eq), h⟩
  | update id update =>
    obtain ⟨later, hlater, hleft⟩ := update_spec h.engine.left id update now
    obtain ⟨later', hlater', hright⟩ := update_spec h.engine.right id update now'
    have hlater : Alike { a with engine := later } { b with engine := later' } :=
      { h with engine := h.engine.of_follows hlater hlater' }
    obtain ⟨hresult, hnext⟩ := hlater.replace id update now now'
    simp only [Catalog.step, handle, hleft, hright, hcreate]
    split
    · exact ⟨rfl, hlater⟩
    · exact ⟨hevent (congrArg Answer.stored hresult), hnext⟩
  | delete id =>
    simp only [Catalog.step, handle, delete]
    obtain ⟨error, ha, hb⟩ | ⟨rule, rule', ha, hb, hrule⟩ := h.get_cases id
    · rw [ha, hb]
      exact ⟨rfl, h⟩
    · rw [ha, hb]
      exact ⟨hevent (congrArg (Answer.stored <| .ok ·) hrule), h.engine,
        untimed_getElem?_erase h.rules_eq id, h.nextId_eq, untimed_getD_forget h.usage_eq id⟩
  | evaluate id lookup =>
    obtain ⟨later, hlater, hleft⟩ := evaluate_spec h.engine.left id lookup nanoseconds now
    obtain ⟨later', hlater', hright⟩ := evaluate_spec h.engine.right id lookup nanoseconds' now'
    have hengine := h.engine.of_follows hlater hlater'
    simp only [Catalog.step, handle, hleft, hright, hcreate]
    obtain ⟨error, ha, hb⟩ | ⟨rule, rule', ha, hb, hrule⟩ := h.get_cases id
    · rw [ha, hb]
      exact ⟨rfl, hengine, h.rules_eq, h.nextId_eq, h.usage_eq⟩
    · rw [ha, hb, ok_bind, ok_bind, StoredRule.text_eq_of_untimed hrule]
      refine ⟨rfl, hengine, h.rules_eq, h.nextId_eq, ?_⟩
      dsimp only
      split
      · exact untimed_getD_track h.usage_eq id nanoseconds nanoseconds' _ now now'
      · exact h.usage_eq
  | combine ids =>
    have hcombine : a.combine ids = b.combine ids := by
      have hspec (catalog : Catalog) : catalog.combine ids =
          ids.mapM (fun id => (catalog.get id).map StoredRule.text) >>= catalog.engine.combine := by
        rw [← map_mapM, map_bind]
        rfl
      rw [hspec, hspec, h.text_eq, h.engine.combine_eq]
    exact ⟨hevent (congrArg (Answer.untimed <| .rule ·) hcombine), h⟩
  | report id =>
    refine ⟨hevent (congrArg Answer.report ?_), h⟩
    unfold report
    obtain ⟨error, ha, hb⟩ | ⟨rule, rule', ha, hb, -⟩ := h.get_cases id
    · rw [ha, hb]
      rfl
    · have husage : (a.usage.report id).untimed = (b.usage.report id).untimed := by
        rw [UsageLog.report, UsageStats.untimed_report, h.usage_eq id, ← UsageStats.untimed_report]
        rfl
      rw [ha, hb]
      exact congrArg Except.ok husage
  | engine request =>
    obtain ⟨hanswer, hengine⟩ := h.engine.handle request
    exact ⟨hevent (congrArg (Answer.untimed <| .engine ·) hanswer), { h with engine := hengine }⟩

theorem alike_ofConfig (config : Config) (capacity : UInt64) :
    Alike (ofEngine (.ofConfig config))
      (ofEngine (.ofConfig { config with cacheCapacity := capacity })) where
  engine := Engine.alike_ofConfig config capacity
  rules_eq := fun _ => rfl
  nextId_eq := rfl
  usage_eq := fun _ => rfl

end

/-- Whatever the size of the cache, the same requests get the same answers, up to what the clock
tells, and a rule parsed through the cache is the one that is created without it. -/
theorem session_untimed_eq_of_cacheCapacity (config : Config) (capacity : UInt64) :
    let other := { config with cacheCapacity := capacity }
    (∀ requests, (Engine.session config requests).1 = (Engine.session other requests).1) ∧
      (∀ calls calls', calls.map Call.request = calls'.map Call.request →
        (session config calls).1.map Event.untimed =
          (session other calls').1.map Event.untimed) ∧
      (∀ requests text,
        let engine := (Engine.session config requests).2
        (engine.parse text).1 = engine.create text) ∧
      ∀ calls text,
        let engine := (session config calls).2.engine
        (engine.parse text).1 = engine.create text := by
  intro other
  refine ⟨fun requests => ?_, fun calls calls' hcalls => ?_, fun requests text => ?_,
    fun calls text => ?_⟩
  · have hstep (a b : Engine) (request request' : Engine.Request) (halike : a.Alike b)
        (heq : request = request') : (a.handle request).1 = (b.handle request').1 ∧
          (a.handle request).2.Alike (b.handle request').2 := heq ▸ halike.handle request
    have hanswers := serve_simulation Engine.Alike (· = ·) id id hstep
      (Engine.alike_ofConfig config capacity) (List.forall₂_refl requests)
    rwa [List.map_id, List.map_id] at hanswers
  · have hstep (a b : Catalog) (call call' : Call) (halike : a.Alike b)
        (hcall : call.request = call'.request) := halike.step hcall
    have hrequests : List.Forall₂ (· = ·) (calls.map Call.request) (calls'.map Call.request) :=
      hcalls ▸ List.forall₂_refl _
    exact serve_simulation Alike (fun call call' => call.request = call'.request) Event.untimed
      Event.untimed hstep (alike_ofConfig config capacity)
      (List.forall₂_map_right_iff.1 (List.forall₂_map_left_iff.1 hrequests))
  · exact Engine.parse_fst (Engine.sound_session config requests) text
  · exact Engine.parse_fst (reached_session config calls).sound text

end Catalog

end RecordRules
