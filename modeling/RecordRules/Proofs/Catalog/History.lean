import RecordRules.Proofs.Catalog.Rules

/-!
# A catalog and its history

The changes made to a catalog tell what is in it.  An id is `Live` if it was given to a
new rule and the rule was not deleted since, a `Field` of a rule has the latest value that
was supplied for it, and the version counts the updates.

* `Reached.live_iff`, `Reached.latest_eq`, `Reached.createdIds_eq`, `Reached.version_eq`:
  the invariants along a history;
* `Reached.get_step` and `update_eq_error_iff`: what a call leaves alone, and when an update
  fails;
* `history_replicate_size`: when an id comes round again;
* `Reflects`: all that a history tells.

Ids and versions are words, and a history is held to be short enough not to exhaust them.
-/

namespace RecordRules.Catalog

/-! ## What a history says -/

namespace Change

def createdId? : Change → Option RuleId
  | created id .. => some id
  | _ => none

def updates (id : RuleId) : Change → Bool
  | updated other .. => other = id
  | _ => false

end Change

def Request.target? : Request → Option RuleId
  | update id _ | delete id => some id
  | _ => none

def createdIds (changes : List Change) : List RuleId := changes.filterMap Change.createdId?

def updateCount (id : RuleId) (changes : List Change) : Nat := changes.countP (Change.updates id)

/-- Created, and not deleted since. -/
def Live (id : RuleId) (changes : List Change) : Prop :=
  ∃ before new now after, changes = before ++ .created id new now :: after ∧ .deleted id ∉ after

/-- A field of stored rules, with the value that a creation gives it and the one that an update
may give it. -/
structure Field (α : Type) where
  read : StoredRule → α
  initial : NewRule → Timestamp → α
  given : RuleUpdate → Timestamp → Option α
  read_stored : ∀ new id now, read (new.stored id now) = initial new now
  read_apply : ∀ update now rule,
    read (update.apply now rule) = (given update now).getD (read rule)

namespace Field

def name : Field String where
  read := StoredRule.name
  initial new _ := new.name
  given update _ := update.name
  read_stored _ _ _ := rfl
  read_apply _ _ _ := rfl

def description : Field String where
  read := StoredRule.description
  initial new _ := new.description
  given update _ := update.description
  read_stored _ _ _ := rfl
  read_apply _ _ _ := rfl

def text : Field String where
  read := StoredRule.text
  initial new _ := new.text
  given update _ := update.text
  read_stored _ _ _ := rfl
  read_apply _ _ _ := rfl

def active : Field Bool where
  read := StoredRule.active
  initial _ _ := true
  given update _ := update.active
  read_stored _ _ _ := rfl
  read_apply _ _ _ := rfl

def createdAt : Field Timestamp where
  read := StoredRule.createdAt
  initial _ now := now
  given _ _ := none
  read_stored _ _ _ := rfl
  read_apply _ _ _ := rfl

/-- Every update stamps the rule, whatever it gives. -/
def updatedAt : Field Timestamp where
  read := StoredRule.updatedAt
  initial _ now := now
  given _ now := some now
  read_stored _ _ _ := rfl
  read_apply _ _ _ := rfl

def supplied {α : Type} (field : Field α) (id : RuleId) : Change → Option α
  | .created other new now => if other = id then some (field.initial new now) else none
  | .updated other update now => if other = id then field.given update now else none
  | _ => none

def latest {α : Type} (field : Field α) (id : RuleId) (changes : List Change) : Option α :=
  (changes.filterMap (field.supplied id)).getLast?

end Field

/-! ## One more change -/

section

variable {changes : List Change} {change : Change} {id : RuleId}

theorem live_concat_iff : Live id (changes ++ [change]) ↔
    (∃ new now, change = .created id new now) ∨ Live id changes ∧ change ≠ .deleted id := by
  constructor
  · rintro ⟨before, new, now, after, heq, hafter⟩
    rcases List.eq_nil_or_concat after with rfl | ⟨after, last, rfl⟩
    · obtain ⟨-, hlast⟩ := List.append_inj' heq rfl
      exact .inl ⟨new, now, List.singleton_inj.1 hlast⟩
    · rw [List.concat_eq_append, ← List.cons_append, ← List.append_assoc] at heq
      obtain ⟨hchanges, hlast⟩ := List.append_inj' heq rfl
      rw [List.concat_eq_append, List.mem_append, List.mem_singleton, not_or] at hafter
      rw [List.singleton_inj.1 hlast]
      exact .inr ⟨⟨before, new, now, after, hchanges, hafter.1⟩, Ne.symm hafter.2⟩
  · rintro (⟨new, now, rfl⟩ | ⟨⟨before, new, now, after, rfl, hafter⟩, hne⟩)
    · exact ⟨changes, new, now, [], rfl, List.not_mem_nil⟩
    · refine ⟨before, new, now, after ++ [change], by simp, ?_⟩
      rw [List.mem_append, List.mem_singleton, not_or]
      exact ⟨hafter, hne.symm⟩

theorem Field.latest_concat {α : Type} (field : Field α) :
    field.latest id (changes ++ [change]) =
      (field.supplied id change).or (field.latest id changes) := by
  rw [latest, filterMap_concat, List.getLast?_append]
  cases field.supplied id change <;> rfl

theorem updateCount_concat :
    updateCount id (changes ++ [change]) =
      updateCount id changes + if change.updates id then 1 else 0 := by
  rw [updateCount, List.countP_append, List.countP_singleton]
  rfl

theorem createdIds_concat :
    createdIds (changes ++ [change]) = createdIds changes ++ change.createdId?.toList :=
  filterMap_concat _ _ _

theorem createdIds_append_toList (change : Option Change) :
    createdIds (changes ++ change.toList) =
      createdIds changes ++ (change.bind Change.createdId?).toList := by
  cases change with
  | none => simp only [Option.toList_none, Option.bind_none, List.append_nil]
  | some change => exact createdIds_concat

end

/-! ## What a change spares -/

section

variable {id : RuleId} {change : Change}

theorem Change.Spares.updates_eq (h : change.Spares id) : change.updates id = false := by
  cases change with
  | updated other update now => exact decide_eq_false h
  | created | deleted | evaluated => rfl

theorem Change.Spares.supplied_eq {α : Type} (h : change.Spares id) (field : Field α) :
    field.supplied id change = none := by
  cases change with
  | created other new now => exact if_neg h
  | updated other update now => exact if_neg h
  | deleted | evaluated => rfl

end

/-! ## Invariants -/

section

variable {config : Config} {changes : List Change} {catalog : Catalog} {id : RuleId}
  {rule : StoredRule}

theorem Reached.live_iff (h : Reached config changes catalog) :
    catalog.rules[id]?.isSome ↔ Live id changes := by
  induction h with
  | start => simp [ofEngine, Live]
  | @step changes catalog change next _ heffect ih =>
    rw [heffect.getElem?_eq id]
    cases change with
    | none =>
      rw [Option.toList_none, List.append_nil]
      exact ih
    | some change =>
      rw [Option.toList_some, live_concat_iff, ← ih]
      exact Change.isSome_onRule_iff

theorem Reached.latest_eq (h : Reached config changes catalog) {α : Type} (field : Field α)
    (hrule : catalog.rules[id]? = some rule) :
    field.latest id changes = some (field.read rule) := by
  refine h.rule_induction (fun changes rule => field.latest id changes = some (field.read rule))
    (fun changes _ _ new now _ _ => ?created)
    (fun changes _ _ update now rule _ _ ih => ?updated)
    (fun changes change rule hspares ih => ?spared) hrule
  case created =>
    rw [field.latest_concat, Field.supplied, if_pos rfl, field.read_stored]
    rfl
  case updated =>
    rw [field.latest_concat, Field.supplied, if_pos rfl, field.read_apply, ih]
    cases field.given update now <;> rfl
  case spared => rw [field.latest_concat, hspares.supplied_eq, Option.none_or, ih]

/-! ### Ids -/

theorem Reached.nextId_eq (h : Reached config changes catalog) :
    catalog.nextId = .ofNat (1 + (createdIds changes).length) := by
  induction h with
  | start => rfl
  | step _ heffect ih =>
    rw [createdIds_append_toList, List.length_append]
    cases heffect with
    | created =>
      rw [← Nat.add_assoc, UInt64.ofNat_add, ← ih]
      rfl
    | nothing | updated | deleted | evaluated => exact ih

theorem Reached.createdIds_eq (h : Reached config changes catalog) :
    createdIds changes = (List.range' 1 (createdIds changes).length).map .ofNat := by
  induction h with
  | start => rfl
  | step hreached heffect ih =>
    rw [createdIds_append_toList, List.length_append]
    cases heffect with
    | created =>
      rw [Option.bind_some, Change.createdId?, Option.toList_some, List.length_singleton,
        List.range'_1_concat, List.map_append, ← ih, List.map_singleton, ← hreached.nextId_eq]
    | nothing | updated | deleted | evaluated =>
      exact (List.append_nil _).trans ih

theorem Reached.toNat_createdIds (h : Reached config changes catalog)
    (hcreates : (createdIds changes).length < UInt64.size - 1) :
    (createdIds changes).map UInt64.toNat = List.range' 1 (createdIds changes).length := by
  have htoNat : ∀ n ∈ List.range' 1 (createdIds changes).length, (UInt64.ofNat n).toNat = n := by
    intro n hn
    rw [List.mem_range'_1] at hn
    exact UInt64.toNat_ofNat_of_lt' (by omega)
  calc (createdIds changes).map UInt64.toNat
      = (List.range' 1 (createdIds changes).length).map (UInt64.toNat ∘ .ofNat) := by
        rw [← List.map_map, ← h.createdIds_eq]
    _ = (List.range' 1 (createdIds changes).length).map id := List.map_congr_left htoNat
    _ = List.range' 1 (createdIds changes).length := List.map_id _

theorem mem_createdIds_of_live (h : Live id changes) : id ∈ createdIds changes := by
  obtain ⟨before, new, now, after, rfl, -⟩ := h
  exact List.mem_filterMap.2 ⟨.created id new now, List.mem_append_cons_self, rfl⟩

theorem Reached.nextId_not_mem (h : Reached config changes catalog)
    (hcreates : (createdIds changes).length < UInt64.size - 1) :
    catalog.nextId ∉ createdIds changes := by
  intro hmem
  have hnext : catalog.nextId.toNat = 1 + (createdIds changes).length := by
    rw [h.nextId_eq]
    exact UInt64.toNat_ofNat_of_lt' (by omega)
  have hrange : catalog.nextId.toNat ∈ (createdIds changes).map UInt64.toNat :=
    List.mem_map_of_mem hmem
  rw [h.toNat_createdIds hcreates, List.mem_range'_1] at hrange
  omega

/-! ### Versions -/

theorem Reached.mem_createdIds_of_subject (h : Reached config changes catalog) {change : Change}
    (hmem : change ∈ changes) (hid : change.subject? = some id) : id ∈ createdIds changes := by
  induction h with
  | start => cases hmem
  | @step changes catalog last next hreached heffect ih =>
    rw [createdIds, List.filterMap_append, List.mem_append]
    rcases List.mem_append.1 hmem with hmem | hmem
    · exact .inl (ih hmem)
    · obtain rfl := Option.mem_toList.1 hmem
      exact .inl (mem_createdIds_of_live (hreached.live_iff.1 (heffect.isSome_of_subject hid)))

theorem Reached.updateCount_eq_zero (h : Reached config changes catalog)
    (hid : id ∉ createdIds changes) : updateCount id changes = 0 := by
  refine List.countP_eq_zero.2 fun change hmem hupdates => hid ?_
  cases change with
  | updated other update now =>
    exact h.mem_createdIds_of_subject hmem (congrArg some (of_decide_eq_true hupdates))
  | created | deleted | evaluated => cases hupdates

theorem Reached.version_eq (h : Reached config changes catalog)
    (hcreates : (createdIds changes).length < UInt64.size - 1)
    (hrule : catalog.rules[id]? = some rule) :
    rule.version = .ofNat (1 + updateCount id changes) := by
  refine h.rule_induction (fun changes rule => (createdIds changes).length < UInt64.size - 1 →
      rule.version = .ofNat (1 + updateCount id changes))
    (fun changes earlier _ new now hearlier heffect hcreates => ?created)
    (fun changes _ _ update now rule _ _ ih hcreates => ?updated)
    (fun changes change rule hspares ih hcreates => ?spared) hrule hcreates
  all_goals
    rw [createdIds_concat, List.length_append] at hcreates
    rw [updateCount_concat]
  case created =>
    have hfresh : id ∉ createdIds changes := by
      rw [heffect.created_inv.1]
      exact hearlier.nextId_not_mem (by omega)
    rw [hearlier.updateCount_eq_zero hfresh]
    rfl
  case updated =>
    rw [Change.updates, if_pos (decide_eq_true rfl), ← Nat.add_assoc, UInt32.ofNat_add,
      ← ih (by omega)]
    rfl
  case spared =>
    rw [hspares.updates_eq]
    exact ih (by omega)

/-! ### Frame -/

theorem spares_of_change? {event : Event} {change : Change} (h : event.change? = some change)
    (hid : event.call.request.target? ≠ some id) :
    (∃ other new now, change = .created other new now) ∨ change.Spares id := by
  unfold Event.change? at h
  split at h
  · cases h
    exact .inl ⟨_, _, _, rfl⟩
  · cases h
    exact .inr fun heq => hid (congrArg some heq)
  · cases h
    exact .inr fun heq => hid (congrArg some heq)
  · cases h
    exact .inr trivial
  · cases h

theorem Reached.get_step (h : Reached config changes catalog)
    (hcreates : (createdIds changes).length < UInt64.size - 1) {call : Call}
    (hid : call.request.target? ≠ some id) (hget : catalog.get id = .ok rule) :
    (catalog.step call).2.get id = .ok rule := by
  rw [get_eq_ok_iff] at hget ⊢
  have heffect := effect_step h.sound call
  have hrule := heffect.getElem?_eq id
  cases hchange : (catalog.step call).1.change? with
  | none => rw [hrule, hchange, Option.elim_none, hget]
  | some change =>
    have hspares : change.Spares id := by
      obtain ⟨other, new, now, rfl⟩ | hspares := spares_of_change? hchange hid
      · rw [hchange] at heffect
        intro heq
        have hlive := h.live_iff.1 (by rw [hget, Option.isSome_some])
        exact h.nextId_not_mem hcreates (by
          rw [← heffect.created_inv.1, heq]
          exact mem_createdIds_of_live hlive)
      · exact hspares
    rw [hrule, hchange, Option.elim_some, hspares.onRule_eq, hget]

end

/-! ## Updates -/

section

variable {catalog : Catalog} {id : RuleId}

theorem replace_eq_error_iff {update : RuleUpdate} {now : Timestamp} {error : RuleError} :
    (catalog.replace id update now).1 = .error error ↔
      (¬∃ rule, catalog.get id = .ok rule) ∧ error = .unknownRule id := by
  unfold replace
  cases hget : catalog.get id with
  | ok rule => simp
  | error cause => simp [(get_eq_error_iff.1 hget).2, eq_comm]

theorem update_eq_error_iff (h : catalog.engine.Sound) {update : RuleUpdate} {now : Timestamp}
    {error : RuleError} :
    (catalog.update id update now).1 = .error error ↔
      (∃ text, update.text = some text ∧ catalog.engine.create text = .error error) ∨
        (∀ text, update.text = some text → ∃ tree, catalog.engine.create text = .ok tree) ∧
          (¬∃ rule, catalog.get id = .ok rule) ∧ error = .unknownRule id := by
  obtain ⟨engine, -, hspec⟩ := update_spec h id update now
  have hreplace : (replace { catalog with engine } id update now).1 = .error error ↔
      (¬∃ rule, catalog.get id = .ok rule) ∧ error = .unknownRule id := replace_eq_error_iff
  rw [hspec]
  cases update.text with
  | none => simp [hreplace]
  | some text => cases hcreate : catalog.engine.create text <;> simp [hcreate, hreplace]

end

/-! ## Rules created in a row -/

/-- The changes of so many creates, made after some earlier ones. -/
def creations (earlier count : Nat) (new : NewRule) (now : Timestamp) : List Change :=
  (List.range count).map fun i => .created (.ofNat (1 + (earlier + i))) new now

section

variable {config : Config} {calls : List Call} {new : NewRule} {now : Timestamp}
  {nanoseconds : Nat} {tree : Rule}

theorem creations_succ (earlier count : Nat) (new : NewRule) (now : Timestamp) :
    creations earlier (count + 1) new now =
      creations earlier count new now ++ [.created (.ofNat (1 + (earlier + count))) new now] := by
  rw [creations, List.range_succ, List.map_append]
  rfl

theorem length_createdIds_creations (earlier count : Nat) (new : NewRule) (now : Timestamp) :
    (createdIds (creations earlier count new now)).length = count := by
  induction count with
  | zero => rfl
  | succ count ih =>
    rw [creations_succ, createdIds_concat, List.length_append, ih]
    rfl

theorem history_create (h : (Engine.ofConfig config).create new.text = .ok tree) :
    history config (calls ++ [⟨.create new, now, nanoseconds⟩]) = history config calls ++
      [.created (.ofNat (1 + (createdIds (history config calls)).length)) new now] := by
  have hreached := reached_session config calls
  obtain ⟨engine, -, hcreate⟩ := create_spec hreached.sound new now
  rw [hreached.follows.create_eq, h] at hcreate
  rw [history_concat, ← hreached.nextId_eq]
  simp only [step, handle, hcreate]
  rfl

theorem history_replicate_create (h : (Engine.ofConfig config).create new.text = .ok tree)
    (count : Nat) :
    history config (calls ++ List.replicate count ⟨.create new, now, nanoseconds⟩) =
      history config calls ++
        creations (createdIds (history config calls)).length count new now := by
  induction count with
  | zero => simp [creations]
  | succ count ih =>
    have hlength : (createdIds (history config calls ++
        creations (createdIds (history config calls)).length count new now)).length =
        (createdIds (history config calls)).length + count := by
      rw [createdIds, List.filterMap_append, List.length_append]
      exact congrArg _ (length_createdIds_creations _ count new now)
    rw [List.replicate_succ', ← List.append_assoc, history_create h, ih, hlength, creations_succ,
      List.append_assoc]

/-- With as many creates as there are ids, the first id comes round again. -/
theorem history_replicate_size (h : (Engine.ofConfig config).create new.text = .ok tree)
    (hfirst : (createdIds (history config calls)).length = 1) :
    history config (calls ++ List.replicate UInt64.size ⟨.create new, now, nanoseconds⟩) =
      history config calls ++ creations 1 (UInt64.size - 1) new now ++ [.created 1 new now] := by
  have hsize : UInt64.size = UInt64.size - 1 + 1 := by decide
  have hround : UInt64.ofNat (1 + (1 + (UInt64.size - 1))) = 1 := by decide
  rw [history_replicate_create h, hfirst, hsize, creations_succ, ← hsize, hround,
    List.append_assoc]

end

/-! ## The catalog that a history describes -/

/-- The catalog is the map that the changes describe. -/
structure Reflects (catalog : Catalog) (changes : List Change) : Prop where
  /-- Ids are given out in order, and none twice. -/
  createdIds_eq : (createdIds changes).map UInt64.toNat = List.range' 1 (createdIds changes).length
  get_iff : ∀ id, (∃ rule, catalog.get id = .ok rule) ↔ Live id changes
  id_eq : ∀ {id rule}, catalog.get id = .ok rule → rule.id = id
  name_eq : ∀ {id rule}, catalog.get id = .ok rule →
    Field.name.latest id changes = some rule.name
  description_eq : ∀ {id rule}, catalog.get id = .ok rule →
    Field.description.latest id changes = some rule.description
  text_eq : ∀ {id rule}, catalog.get id = .ok rule →
    Field.text.latest id changes = some rule.text
  active_eq : ∀ {id rule}, catalog.get id = .ok rule →
    Field.active.latest id changes = some rule.active
  createdAt_eq : ∀ {id rule}, catalog.get id = .ok rule →
    Field.createdAt.latest id changes = some rule.createdAt
  updatedAt_eq : ∀ {id rule}, catalog.get id = .ok rule →
    Field.updatedAt.latest id changes = some rule.updatedAt
  version_eq : ∀ {id rule}, catalog.get id = .ok rule →
    rule.version.toNat = 1 + updateCount id changes
  /-- An update fails for its text, or else for its id. -/
  update_eq_error_iff : ∀ {id update now error}, (catalog.update id update now).1 = .error error ↔
    (∃ text, update.text = some text ∧ catalog.engine.create text = .error error) ∨
      (∀ text, update.text = some text → ∃ tree, catalog.engine.create text = .ok tree) ∧
        ¬Live id changes ∧ error = .unknownRule id
  mem_list_iff : ∀ {rule}, rule ∈ catalog.list ↔ catalog.get rule.id = .ok rule
  pairwise_list : catalog.list.Pairwise (·.id < ·.id)
  size_eq : catalog.size = catalog.list.length
  isEmpty_eq : catalog.isEmpty = catalog.list.isEmpty
  /-- A stored rule is altered by no call but an update or a delete of it. -/
  get_step : ∀ {call : Call} {id rule}, call.request.target? ≠ some id →
    catalog.get id = .ok rule → (catalog.step call).2.get id = .ok rule

/-- What calls leave in an empty catalog is told by what they have changed, as long as ids
and versions last. -/
theorem session_reflects_history (config : Config) (calls : List Call)
    (hcreates : (createdIds (history config calls)).length < UInt64.size - 1)
    (hupdates : ∀ id, updateCount id (history config calls) < UInt32.size - 1) :
    (session config calls).2.Reflects (history config calls) := by
  have hreached := reached_session config calls
  have hlive (id : RuleId) : (∃ rule, (session config calls).2.get id = .ok rule) ↔
      Live id (history config calls) := by
    simp only [get_eq_ok_iff, ← Option.isSome_iff_exists, hreached.live_iff]
  have hversion {id : RuleId} {rule : StoredRule}
      (hget : (session config calls).2.get id = .ok rule) :
      rule.version.toNat = 1 + updateCount id (history config calls) := by
    have hcount := hupdates id
    rw [hreached.version_eq hcreates (get_eq_ok_iff.1 hget)]
    exact UInt32.toNat_ofNat_of_lt' (by omega)
  exact {
    createdIds_eq := hreached.toNat_createdIds hcreates
    get_iff := hlive
    id_eq := fun hget => hreached.id_eq (get_eq_ok_iff.1 hget)
    name_eq := fun hget => hreached.latest_eq .name (get_eq_ok_iff.1 hget)
    description_eq := fun hget => hreached.latest_eq .description (get_eq_ok_iff.1 hget)
    text_eq := fun hget => hreached.latest_eq .text (get_eq_ok_iff.1 hget)
    active_eq := fun hget => hreached.latest_eq .active (get_eq_ok_iff.1 hget)
    createdAt_eq := fun hget => hreached.latest_eq .createdAt (get_eq_ok_iff.1 hget)
    updatedAt_eq := fun hget => hreached.latest_eq .updatedAt (get_eq_ok_iff.1 hget)
    version_eq := hversion
    update_eq_error_iff := by
      simp only [← hlive]
      exact Catalog.update_eq_error_iff hreached.sound
    mem_list_iff := hreached.mem_list_iff
    pairwise_list := hreached.pairwise_list
    size_eq := (length_list _).symm
    isEmpty_eq := (isEmpty_list _).symm
    get_step := hreached.get_step hcreates }

/-- A rule is updated, one is refused, and one is deleted. -/
theorem session_reflects_history_deleted :
    let calls : List Call := [
      ⟨.create { name := "senior", text := "age > 30" }, 100, 0⟩,
      ⟨.create { name := "broken", text := "age >" }, 200, 0⟩,
      ⟨.create { name := "sales", text := "department = 'Sales'" }, 300, 0⟩,
      ⟨.update 1 { text := some "age > 40" }, 400, 0⟩,
      ⟨.delete 2, 500, 0⟩]
    let changes : List Change := [
      .created 1 { name := "senior", text := "age > 30" } 100,
      .created 2 { name := "sales", text := "department = 'Sales'" } 300,
      .updated 1 { text := some "age > 40" } 400,
      .deleted 2]
    history {} calls = changes ∧ (createdIds changes).length < UInt64.size - 1 ∧
      (∀ id, updateCount id changes < UInt32.size - 1) ∧ (session {} calls).2.Reflects changes := by
  intro calls changes
  have hchanges : history {} calls = changes := by decide +kernel
  have hcreates : (createdIds changes).length < UInt64.size - 1 := by decide
  have hupdates (id : RuleId) : updateCount id changes < UInt32.size - 1 :=
    Nat.lt_of_le_of_lt List.countP_le_length (by decide)
  refine ⟨hchanges, hcreates, hupdates, ?_⟩
  rw [← hchanges] at hcreates hupdates ⊢
  exact session_reflects_history {} calls hcreates hupdates

end RecordRules.Catalog
