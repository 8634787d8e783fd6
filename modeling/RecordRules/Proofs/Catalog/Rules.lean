import RecordRules.Proofs.Catalog.Session

/-!
# Where stored rules come from

A rule is stored under an id when it is created, and its updates are stored there after;
every other change leaves it alone.

* `Change.onRule` and `Effect.getElem?_eq`: what one change makes of the rule under an id;
* `Reached.rule_induction`: what holds of a new rule and is kept by every change holds of
  every stored rule;
* `Reached.mem_list_iff` and `Reached.pairwise_list`: stored rules are listed by their ids.
-/

namespace RecordRules.Catalog

/-! ## The rule under an id -/

namespace Change

def onRule (id : RuleId) : Change → Option StoredRule → Option StoredRule
  | created other new now, rule => if other = id then some (new.stored other now) else rule
  | updated other update now, rule => if other = id then rule.map (update.apply now) else rule
  | deleted other, rule => if other = id then none else rule
  | evaluated _ _, rule => rule

/-- The stored rule that a change is made to; a creation is made to none. -/
def subject? : Change → Option RuleId
  | created .. => none
  | updated id .. | deleted id | evaluated id _ => some id

def Spares (id : RuleId) : Change → Prop
  | created other .. | updated other .. | deleted other => other ≠ id
  | evaluated _ _ => True

section

variable {id : RuleId} {change : Change} {old : Option StoredRule} {rule : StoredRule}

theorem Spares.onRule_eq (h : change.Spares id) : change.onRule id old = old := by
  cases change with
  | created other new now => exact if_neg h
  | updated other update now => exact if_neg h
  | deleted other => exact if_neg h
  | evaluated other evaluation => rfl

theorem isSome_onRule_iff : (change.onRule id old).isSome ↔
    (∃ new now, change = .created id new now) ∨ old.isSome ∧ change ≠ .deleted id := by
  cases change with
  | created other new now => by_cases hid : other = id <;> simp [onRule, hid]
  | updated other update now => by_cases hid : other = id <;> simp [onRule, hid]
  | deleted other => by_cases hid : other = id <;> simp [onRule, hid]
  | evaluated other evaluation => simp [onRule]

theorem cases_of_onRule (h : change.onRule id old = some rule) :
    (∃ new now, change = .created id new now ∧ rule = new.stored id now) ∨
      (∃ update now before,
        change = .updated id update now ∧ old = some before ∧ rule = update.apply now before) ∨
      change.Spares id ∧ old = some rule := by
  cases change with
  | created other new now =>
    by_cases hid : other = id
    · subst hid
      rw [onRule, if_pos rfl] at h
      exact .inl ⟨new, now, rfl, (Option.some.inj h).symm⟩
    · rw [onRule, if_neg hid] at h
      exact .inr (.inr ⟨hid, h⟩)
  | updated other update now =>
    by_cases hid : other = id
    · subst hid
      rw [onRule, if_pos rfl] at h
      obtain ⟨before, hbefore, happly⟩ := Option.map_eq_some_iff.1 h
      exact .inr (.inl ⟨update, now, before, rfl, hbefore, happly.symm⟩)
    · rw [onRule, if_neg hid] at h
      exact .inr (.inr ⟨hid, h⟩)
  | deleted other =>
    by_cases hid : other = id
    · rw [onRule, if_pos hid] at h
      cases h
    · rw [onRule, if_neg hid] at h
      exact .inr (.inr ⟨hid, h⟩)
  | evaluated other evaluation => exact .inr (.inr ⟨trivial, h⟩)

end

end Change

section

variable {catalog next : Catalog} {change : Option Change}

theorem Effect.getElem?_eq (h : Effect catalog change next) (id : RuleId) :
    next.rules[id]? = change.elim catalog.rules[id]? (·.onRule id catalog.rules[id]?) := by
  cases h with
  | nothing => rfl
  | created => simp [Change.onRule, Std.ExtTreeMap.getElem?_insert]
  | @updated other update now rule engine hrule =>
    rw [get_eq_ok_iff] at hrule
    by_cases hid : other = id
    · subst hid
      simp [Change.onRule, hrule]
    · simp [Change.onRule, Std.ExtTreeMap.getElem?_insert, hid]
  | deleted => simp [Change.onRule, Std.ExtTreeMap.getElem?_erase]
  | evaluated => rfl

theorem Effect.created_inv {id : RuleId} {new : NewRule} {now : Timestamp}
    (h : Effect catalog (some (.created id new now)) next) :
    id = catalog.nextId ∧ ∃ tree, catalog.engine.create new.text = .ok tree := by
  cases h with
  | created hcreate => exact ⟨rfl, _, hcreate⟩

theorem Effect.updated_inv {id : RuleId} {update : RuleUpdate} {now : Timestamp}
    (h : Effect catalog (some (.updated id update now)) next) :
    ∀ text, update.text = some text → ∃ tree, catalog.engine.create text = .ok tree := by
  cases h with
  | updated _ htext => exact htext

theorem Effect.isSome_of_subject {id : RuleId} {change : Change}
    (h : Effect catalog (some change) next) (hid : change.subject? = some id) :
    catalog.rules[id]?.isSome := by
  cases h with
  | created => cases hid
  | updated hget | deleted hget | evaluated hget =>
    cases hid
    rw [get_eq_ok_iff.1 hget, Option.isSome_some]

end

/-! ## Stored rules -/

section

variable {config : Config} {changes : List Change} {catalog : Catalog} {id : RuleId}
  {rule : StoredRule}

/-- What holds of a rule when it is created, and is preserved by updates of it and by the
other changes, holds of every stored rule. -/
theorem Reached.rule_induction (holds : List Change → StoredRule → Prop)
    (hcreated : ∀ changes earlier next new now, Reached config changes earlier →
      Effect earlier (some (.created id new now)) next →
      holds (changes ++ [.created id new now]) (new.stored id now))
    (hupdated : ∀ changes earlier next update now rule, Reached config changes earlier →
      Effect earlier (some (.updated id update now)) next → holds changes rule →
      holds (changes ++ [.updated id update now]) (update.apply now rule))
    (hspared : ∀ changes change rule, change.Spares id → holds changes rule →
      holds (changes ++ [change]) rule)
    (h : Reached config changes catalog) (hrule : catalog.rules[id]? = some rule) :
    holds changes rule := by
  induction h generalizing rule with
  | start => cases Std.ExtTreeMap.getElem?_empty.symm.trans hrule
  | @step changes earlier change next hearlier heffect ih =>
    rw [heffect.getElem?_eq id] at hrule
    cases change with
    | none =>
      rw [Option.toList_none, List.append_nil]
      exact ih hrule
    | some change =>
      obtain ⟨new, now, rfl, rfl⟩ | ⟨update, now, before, rfl, hbefore, rfl⟩ |
          ⟨hspares, hbefore⟩ := Change.cases_of_onRule hrule
      · exact hcreated changes earlier next new now hearlier heffect
      · exact hupdated changes earlier next update now before hearlier heffect (ih hbefore)
      · exact hspared changes change rule hspares (ih hbefore)

theorem Reached.id_eq (h : Reached config changes catalog)
    (hrule : catalog.rules[id]? = some rule) : rule.id = id :=
  h.rule_induction (fun _ rule => rule.id = id) (fun _ _ _ _ _ _ _ => rfl)
    (fun _ _ _ _ _ _ _ _ hid => hid) (fun _ _ _ _ hid => hid) hrule

end

/-! ## Lists -/

section

variable {config : Config} {changes : List Change} {catalog : Catalog}

theorem Reached.mem_list_iff (h : Reached config changes catalog) {rule : StoredRule} :
    rule ∈ catalog.list ↔ catalog.get rule.id = .ok rule := by
  rw [get_eq_ok_iff, ← Std.ExtTreeMap.mem_toList_iff_getElem?_eq_some, list, List.mem_map]
  constructor
  · rintro ⟨⟨id, rule⟩, hmem, rfl⟩
    rwa [h.id_eq (Std.ExtTreeMap.mem_toList_iff_getElem?_eq_some.1 hmem)]
  · exact fun hmem => ⟨_, hmem, rfl⟩

theorem Reached.pairwise_list (h : Reached config changes catalog) :
    catalog.list.Pairwise (·.id < ·.id) := by
  have hid (entry : RuleId × StoredRule) (hmem : entry ∈ catalog.rules.toList) :
      entry.2.id = entry.1 := h.id_eq (Std.ExtTreeMap.mem_toList_iff_getElem?_eq_some.1 hmem)
  refine List.pairwise_map.2 (Std.ExtTreeMap.ordered_keys_toList.imp_of_mem ?_)
  intro first second hfirst hsecond hlt
  rw [hid first hfirst, hid second hsecond]
  exact Std.compare_eq_lt.1 hlt

theorem length_list (catalog : Catalog) : catalog.list.length = catalog.size := by
  rw [list, List.length_map, Std.ExtTreeMap.length_toList, size]

theorem isEmpty_list (catalog : Catalog) : catalog.list.isEmpty = catalog.isEmpty := by
  rw [list, List.isEmpty_map, Std.ExtTreeMap.isEmpty_toList, isEmpty]

end

end RecordRules.Catalog
