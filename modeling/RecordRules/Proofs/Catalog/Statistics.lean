import Mathlib.Data.List.DropRight
import Mathlib.Data.List.Nodup
import RecordRules.Proofs.Catalog.History

/-!
# Statistics and their history

The statistics of a rule are those of the evaluations that gave an answer since the rule was
created.  `tracked` finds them in a history: none of them lies before the last time that the id
was given up, and none before the rule was created.

* `Reached.usage_eq`: what is kept under an id, whether it is in use or not;
* `Reached.tracked_eq`: which creation the evaluations of a stored rule are counted from;
* `Accounts`: all that statistics and reports tell of a history;
* `Reached.tracked_of_created`, `Reached.not_live_of_deleted`: what follows as long as no id is
  given out twice, and `statistics_of_reused_ids`: what does not hold beyond.

Counters are words, and no rule is held to be evaluated so often as to exhaust them.
-/

namespace RecordRules.Catalog

open UsageStats (ofEvaluations)

/-! ## Evaluations in a history -/

def Change.evaluation? (id : RuleId) : Change → Option Evaluation
  | evaluated other evaluation => if other = id then some evaluation else none
  | _ => none

def evaluations (id : RuleId) (changes : List Change) : List Evaluation :=
  changes.filterMap (Change.evaluation? id)

/-- The evaluations of a rule behind the last deletion of its id. -/
def tracked (id : RuleId) (changes : List Change) : List Evaluation :=
  evaluations id (changes.rtakeWhile (· ≠ .deleted id))

/-- What is kept of some evaluations; nothing is kept of none. -/
def kept (evaluations : List Evaluation) : Option UsageStats :=
  if evaluations = [] then none else some (ofEvaluations evaluations)

section

variable {id : RuleId} {changes before after : List Change} {change : Change}

theorem evaluations_append (id : RuleId) (before after : List Change) :
    evaluations id (before ++ after) = evaluations id before ++ evaluations id after :=
  List.filterMap_append

theorem evaluations_concat (id : RuleId) (changes : List Change) (change : Change) :
    evaluations id (changes ++ [change]) =
      evaluations id changes ++ (change.evaluation? id).toList :=
  filterMap_concat _ _ _

theorem tracked_concat_deleted (id : RuleId) (changes : List Change) :
    tracked id (changes ++ [.deleted id]) = [] := by
  rw [tracked, List.rtakeWhile_concat_neg _ _ _ (by simp)]
  rfl

theorem tracked_concat (h : change ≠ .deleted id) :
    tracked id (changes ++ [change]) = tracked id changes ++ (change.evaluation? id).toList := by
  rw [tracked, List.rtakeWhile_concat_pos _ _ _ (by simpa using h), evaluations_concat, tracked]

theorem tracked_append_deleted (id : RuleId) (before after : List Change) :
    tracked id (before ++ .deleted id :: after) = tracked id after := by
  induction after using List.reverseRecOn with
  | nil => exact tracked_concat_deleted id before
  | append_singleton after change ih =>
    rw [← List.cons_append, ← List.append_assoc]
    by_cases hdeleted : change = .deleted id
    · rw [hdeleted, tracked_concat_deleted, tracked_concat_deleted]
    · rw [tracked_concat hdeleted, tracked_concat hdeleted, ih]

theorem length_tracked_le (id : RuleId) (changes : List Change) :
    (tracked id changes).length ≤ (evaluations id changes).length :=
  ((List.rtakeWhile_suffix _ _).filterMap _).length_le

theorem tracked_of_not_mem (h : .deleted id ∉ changes) :
    tracked id changes = evaluations id changes := by
  have hall : ∀ change ∈ changes, decide (change ≠ .deleted id) = true :=
    fun change hmem => decide_eq_true fun heq => h (heq ▸ hmem)
  rw [tracked, List.rtakeWhile_eq_self_iff.2 hall]

theorem getD_kept (evaluations : List Evaluation) :
    (kept evaluations).getD {} = ofEvaluations evaluations := by
  unfold kept
  split
  · next hnil =>
    rw [hnil]
    rfl
  · rfl

theorem kept_concat (evaluations : List Evaluation) (evaluation : Evaluation) :
    kept (evaluations ++ [evaluation]) = some ((ofEvaluations evaluations).record
      evaluation.nanoseconds evaluation.outcome evaluation.now) := by
  rw [kept, if_neg (List.concat_ne_nil _ _), UsageStats.ofEvaluations_concat]

end

/-! ## What a change does to the statistics -/

section

variable {catalog next : Catalog} {change : Option Change} {id : RuleId}

theorem Effect.usage_eq (h : Effect catalog change next)
    (hchange : ∀ c, change = some c → c.evaluation? id = none ∧ c ≠ .deleted id) :
    next.usage[id]? = catalog.usage[id]? := by
  cases h with
  | nothing | created | updated => rfl
  | @deleted other rule =>
    have hne : other ≠ id := fun heq => (hchange _ rfl).2 (congrArg _ heq)
    simp [UsageLog.forget, Std.ExtTreeMap.getElem?_erase, hne]
  | @evaluated other =>
    have hne : other ≠ id := by
      intro heq
      have hnone := (hchange _ rfl).1
      rw [Change.evaluation?, if_pos heq] at hnone
      cases hnone
    simp [UsageLog.track, Std.ExtTreeMap.getElem?_insert, hne]

theorem Effect.usage_deleted (h : Effect catalog (some (.deleted id)) next) :
    next.usage[id]? = none := by
  cases h with
  | deleted => simp [UsageLog.forget]

theorem Effect.usage_evaluated {evaluation : Evaluation} {evaluations : List Evaluation}
    (h : Effect catalog (some (.evaluated id evaluation)) next)
    (hkept : catalog.usage[id]? = kept evaluations) :
    next.usage[id]? = kept (evaluations ++ [evaluation]) := by
  cases h with
  | evaluated =>
    rw [UsageLog.track, Std.ExtTreeMap.getElem?_insert_self, Std.ExtTreeMap.getD_eq_getD_getElem?,
      hkept, getD_kept, kept_concat]

theorem Effect.usage_kept {change : Change} {evaluations : List Evaluation}
    (h : Effect catalog (some change) next) (hne : change ≠ .deleted id)
    (hkept : catalog.usage[id]? = kept evaluations) :
    next.usage[id]? = kept (evaluations ++ (change.evaluation? id).toList) := by
  cases hevaluation : change.evaluation? id with
  | none =>
    rw [h.usage_eq (fun c hc => Option.some.inj hc ▸ ⟨hevaluation, hne⟩), hkept,
      Option.toList_none, List.append_nil]
  | some evaluation =>
    cases change with
    | evaluated other answered =>
      obtain ⟨rfl, rfl⟩ : other = id ∧ answered = evaluation := by
        simpa [Change.evaluation?] using hevaluation
      exact h.usage_evaluated hkept
    | _ => cases hevaluation

end

/-! ## Invariants -/

section

variable {config : Config} {changes : List Change} {catalog : Catalog} {id : RuleId}

theorem Reached.usage_eq (h : Reached config changes catalog) (id : RuleId) :
    catalog.usage[id]? = kept (tracked id changes) := by
  induction h with
  | start => exact Std.ExtTreeMap.getElem?_empty
  | @step changes catalog change next _ heffect ih =>
    cases change with
    | none => rw [Option.toList_none, List.append_nil, heffect.usage_eq nofun, ih]
    | some change =>
      rw [Option.toList_some]
      by_cases hdeleted : change = .deleted id
      · subst hdeleted
        rw [tracked_concat_deleted, heffect.usage_deleted]
        rfl
      · rw [tracked_concat hdeleted, heffect.usage_kept hdeleted ih]

theorem Reached.tracked_eq_nil (h : Reached config changes catalog) (hid : ¬Live id changes) :
    tracked id changes = [] := by
  induction h with
  | start => rfl
  | @step changes catalog change next hreached heffect ih =>
    cases change with
    | none =>
      rw [Option.toList_none, List.append_nil] at hid ⊢
      exact ih hid
    | some change =>
      rw [Option.toList_some, live_concat_iff, not_or, not_and'] at hid
      rw [Option.toList_some]
      by_cases hdeleted : change = .deleted id
      · rw [hdeleted, tracked_concat_deleted]
      have hbefore := hid.2 hdeleted
      have hnone : change.evaluation? id = none := by
        cases change with
        | evaluated other evaluation =>
          refine if_neg fun heq => hbefore (hreached.live_iff.1 ?_)
          exact heffect.isSome_of_subject (congrArg some heq)
        | _ => rfl
      rw [tracked_concat hdeleted, ih hbefore, hnone]
      rfl

/-- What counts for a stored rule are its evaluations since it was created. -/
theorem Reached.tracked_eq (h : Reached config changes catalog) (hlive : Live id changes) :
    ∃ before new now after, changes = before ++ .created id new now :: after ∧ ¬Live id before ∧
      .deleted id ∉ after ∧ tracked id changes = evaluations id after := by
  induction h with
  | start =>
    obtain ⟨before, new, now, after, heq, -⟩ := hlive
    simp at heq
  | @step changes catalog change next hreached heffect ih =>
    cases change with
    | none =>
      rw [Option.toList_none, List.append_nil] at hlive ⊢
      exact ih hlive
    | some change =>
      rw [Option.toList_some] at hlive ⊢
      have hne : change ≠ .deleted id := by
        rintro rfl
        simp [live_concat_iff] at hlive
      rw [tracked_concat hne]
      by_cases hbefore : Live id changes
      · obtain ⟨before, new, now, after, rfl, hfree, hafter, htracked⟩ := ih hbefore
        refine ⟨before, new, now, after ++ [change], by simp, hfree, ?_, ?_⟩
        · rw [List.mem_append, List.mem_singleton, not_or]
          exact ⟨hafter, hne.symm⟩
        · rw [evaluations_concat, htracked]
      · obtain ⟨new, now, rfl⟩ := (live_concat_iff.1 hlive).resolve_right fun h => hbefore h.1
        refine ⟨changes, new, now, [], rfl, hbefore, List.not_mem_nil, ?_⟩
        rw [hreached.tracked_eq_nil hbefore]
        rfl

end

/-! ### As long as ids last -/

section

variable {config : Config} {changes before after : List Change} {catalog : Catalog}
  {id : RuleId} {new : NewRule} {now : Timestamp}

theorem Reached.exists_of_prefix (h : Reached config changes catalog)
    (hbefore : before <+: changes) : ∃ earlier, Reached config before earlier := by
  induction h with
  | start =>
    obtain rfl := List.prefix_nil.1 hbefore
    exact ⟨_, .start⟩
  | @step changes catalog change next hreached heffect ih =>
    cases change with
    | none =>
      rw [Option.toList_none, List.append_nil] at hbefore
      exact ih hbefore
    | some change =>
      rcases List.prefix_concat_iff.1 hbefore with rfl | hprefix
      · exact ⟨next, hreached.step heffect⟩
      · exact ih hprefix

theorem Reached.nodup_createdIds (h : Reached config changes catalog)
    (hcreates : (createdIds changes).length ≤ UInt64.size) : (createdIds changes).Nodup := by
  rw [h.createdIds_eq]
  refine List.Nodup.map_on (fun n hn m hm heq => ?_) List.nodup_range'
  rw [List.mem_range'_1] at hn hm
  have hmod : n % UInt64.size = m % UInt64.size := by
    rw [← UInt64.toNat_ofNat', ← UInt64.toNat_ofNat', heq]
  unfold UInt64.size at hmod hcreates
  omega

theorem Reached.not_mem_before_created
    (h : Reached config (before ++ .created id new now :: after) catalog)
    (hcreates : (createdIds (before ++ .created id new now :: after)).length ≤ UInt64.size)
    {change : Change} (hid : change.subject? = some id) : change ∉ before := by
  intro hmem
  obtain ⟨earlier, hearlier⟩ := h.exists_of_prefix (List.prefix_append _ _)
  have hbefore : id ∈ createdIds before := hearlier.mem_createdIds_of_subject hmem hid
  have hnodup := h.nodup_createdIds hcreates
  rw [createdIds, List.filterMap_append] at hnodup
  exact List.disjoint_of_nodup_append hnodup hbefore List.mem_cons_self

theorem Reached.tracked_of_created
    (h : Reached config (before ++ .created id new now :: after) catalog)
    (hcreates : (createdIds (before ++ .created id new now :: after)).length ≤ UInt64.size)
    (hafter : .deleted id ∉ after) :
    tracked id (before ++ .created id new now :: after) = evaluations id after := by
  have hbefore : .deleted id ∉ before := h.not_mem_before_created hcreates rfl
  have hnone : evaluations id before = [] := by
    rw [evaluations, List.filterMap_eq_nil_iff]
    intro change hmem
    cases change with
    | evaluated other evaluation =>
      refine if_neg fun heq => ?_
      have hid : (Change.evaluated other evaluation).subject? = some id := congrArg some heq
      exact h.not_mem_before_created hcreates hid hmem
    | _ => rfl
  rw [tracked_of_not_mem (by simp [hbefore, hafter]), evaluations_append, hnone]
  rfl

theorem Reached.not_live_of_deleted (h : Reached config changes catalog)
    (hcreates : (createdIds changes).length ≤ UInt64.size) (hmem : .deleted id ∈ changes) :
    ¬Live id changes := by
  rintro ⟨before, new, now, after, rfl, hafter⟩
  have hbefore : .deleted id ∉ before := h.not_mem_before_created hcreates rfl
  simp [hbefore, hafter] at hmem

end

/-! ## Reports -/

section

variable {catalog next : Catalog} {id : RuleId}

theorem report_eq_of_get {rule : StoredRule} (h : catalog.get id = .ok rule) :
    catalog.report id = .ok ((catalog.usage.getD id {}).report id) := by
  rw [report, h, UsageLog.report]
  rfl

theorem Effect.report_eq {change : Option Change} (h : Effect catalog change next)
    (hchange : ∀ c, change = some c → c.evaluation? id = none ∧ c ≠ .deleted id)
    {rule : StoredRule} (hget : catalog.get id = .ok rule) :
    next.report id = catalog.report id := by
  have hsome : next.rules[id]?.isSome := by
    rw [h.getElem?_eq id, get_eq_ok_iff.1 hget]
    cases change with
    | none => rfl
    | some change => exact Change.isSome_onRule_iff.2 (.inr ⟨rfl, (hchange _ rfl).2⟩)
  obtain ⟨rule', hrule'⟩ := Option.isSome_iff_exists.1 hsome
  rw [report_eq_of_get hget, report_eq_of_get (get_eq_ok_iff.2 hrule'),
    Std.ExtTreeMap.getD_eq_getD_getElem?, h.usage_eq hchange,
    ← Std.ExtTreeMap.getD_eq_getD_getElem?]

theorem mem_reports_iff {log : UsageLog} {report : UsageReport} :
    report ∈ log.reports ↔
      ∃ stats, log[report.rule]? = some stats ∧ stats.report report.rule = report := by
  rw [UsageLog.reports, List.mem_map]
  constructor
  · rintro ⟨⟨id, stats⟩, hmem, rfl⟩
    exact ⟨stats, Std.ExtTreeMap.mem_toList_iff_getElem?_eq_some.1 hmem, rfl⟩
  · rintro ⟨stats, hstats, hreport⟩
    exact ⟨(report.rule, stats), Std.ExtTreeMap.mem_toList_iff_getElem?_eq_some.2 hstats, hreport⟩

theorem pairwise_reports (log : UsageLog) : log.reports.Pairwise (·.rule < ·.rule) :=
  List.pairwise_map.2 (Std.ExtTreeMap.ordered_keys_toList.imp Std.compare_eq_lt.1)

end

section

variable {config : Config} {changes : List Change} {catalog : Catalog} {id : RuleId}

theorem Reached.exists_get_iff (h : Reached config changes catalog) :
    (∃ rule, catalog.get id = .ok rule) ↔ Live id changes := by
  simp only [get_eq_ok_iff, ← Option.isSome_iff_exists, h.live_iff]

theorem Reached.report_eq (h : Reached config changes catalog) {rule : StoredRule}
    (hget : catalog.get id = .ok rule) :
    catalog.report id = .ok ((ofEvaluations (tracked id changes)).report id) := by
  rw [report_eq_of_get hget, Std.ExtTreeMap.getD_eq_getD_getElem?, h.usage_eq, getD_kept]

theorem Reached.mem_reports_iff (h : Reached config changes catalog) {report : UsageReport} :
    report ∈ catalog.usage.reports ↔
      catalog.report report.rule = .ok report ∧ tracked report.rule changes ≠ [] := by
  have hentry (stats : UsageStats) : catalog.usage[report.rule]? = some stats ↔
      tracked report.rule changes ≠ [] ∧ ofEvaluations (tracked report.rule changes) = stats := by
    rw [h.usage_eq, kept, Option.ite_none_left_eq_some, Option.some.injEq]
  have hstored (hne : tracked report.rule changes ≠ []) :
      ∃ rule, catalog.get report.rule = .ok rule := by
    by_contra hnone
    exact hne (h.tracked_eq_nil (mt h.exists_get_iff.2 hnone))
  rw [Catalog.mem_reports_iff]
  constructor
  · rintro ⟨stats, hstats, hreport⟩
    obtain ⟨hne, rfl⟩ := (hentry stats).1 hstats
    obtain ⟨rule, hget⟩ := hstored hne
    exact ⟨(h.report_eq hget).trans (congrArg _ hreport), hne⟩
  · rintro ⟨hreport, hne⟩
    obtain ⟨rule, hget⟩ := hstored hne
    rw [h.report_eq hget, Except.ok.injEq] at hreport
    exact ⟨_, (hentry _).2 ⟨hne, rfl⟩, hreport⟩

end

/-! ## The statistics that a history describes -/

/-- The statistics account for the answered evaluations in a history. -/
structure Accounts (catalog : Catalog) (changes : List Change) : Prop where
  get_iff : ∀ {id}, (∃ rule, catalog.get id = .ok rule) ↔ Live id changes
  /-- What counts for a stored rule are its evaluations since it was created. -/
  tracked_eq : ∀ {id}, Live id changes → ∃ before new now after,
    changes = before ++ .created id new now :: after ∧ ¬Live id before ∧ .deleted id ∉ after ∧
      tracked id changes = evaluations id after
  report_eq : ∀ {id rule}, catalog.get id = .ok rule →
    ∃ report, catalog.report id = .ok report ∧ report.rule = id ∧
      report.evaluations.toNat = (tracked id changes).length ∧
      report.held.toNat = (tracked id changes).countP Evaluation.outcome ∧
      report.failed.toNat = (tracked id changes).countP (!·.outcome) ∧
      report.lastEvaluated = (tracked id changes).getLast?.map Evaluation.now ∧
      report.evaluated = !(tracked id changes).isEmpty
  /-- A report is altered by no call but an answered evaluation of the rule, or its deletion. -/
  report_step : ∀ {call : Call} {id rule}, catalog.get id = .ok rule →
    (∀ change, (catalog.step call).1.change? = some change →
      change.evaluation? id = none ∧ change ≠ .deleted id) →
    (catalog.step call).2.report id = catalog.report id
  mem_reports_iff : ∀ {report}, report ∈ catalog.usage.reports ↔
    catalog.report report.rule = .ok report ∧ tracked report.rule changes ≠ []
  pairwise_reports : catalog.usage.reports.Pairwise (·.rule < ·.rule)
  usage_eq_none : ∀ {id}, (¬∃ rule, catalog.get id = .ok rule) → catalog.usage[id]? = none
  /-- Behind a deletion nothing is left of what was counted before it, and that never comes
  back: what is kept later on is what was evaluated since. -/
  usage_of_deleted : ∀ {id before after}, changes = before ++ .deleted id :: after →
    catalog.usage[id]? = kept (tracked id after)

/-- The statistics that calls leave in an empty catalog account for what they have changed, as
long as no rule has been evaluated more often than its counters can tell.  As long as no more
rules are created than there are ids, a rule is created once, and an id that was given up has
neither a rule nor statistics again. -/
theorem session_accounts_for_evaluations (config : Config) (calls : List Call)
    (hevaluations : ∀ id, (evaluations id (history config calls)).length < UInt64.size) :
    let catalog := (session config calls).2
    let changes := history config calls
    catalog.Accounts changes ∧
      ((createdIds changes).length ≤ UInt64.size →
        (∀ before id new now after, changes = before ++ .created id new now :: after →
          .deleted id ∉ after → tracked id changes = evaluations id after) ∧
        ∀ id, .deleted id ∈ changes →
          (¬∃ rule, catalog.get id = .ok rule) ∧ catalog.usage[id]? = none) := by
  intro catalog changes
  have hreached : Reached config changes catalog := reached_session config calls
  refine ⟨?accounts, fun hcreates => ⟨fun before id new now after hchanges hafter => ?created,
    fun id hmem => ?deleted⟩⟩
  case accounts =>
    exact {
      get_iff := hreached.exists_get_iff
      tracked_eq := hreached.tracked_eq
      report_eq := fun {id rule} hget => ⟨_, hreached.report_eq hget,
        UsageStats.report_ofEvaluations
          (Nat.lt_of_le_of_lt (length_tracked_le id changes) (hevaluations id)) id⟩
      report_step := fun hget hchange => (effect_step hreached.sound _).report_eq hchange hget
      mem_reports_iff := hreached.mem_reports_iff
      pairwise_reports := pairwise_reports _
      usage_eq_none := fun {id} hget => by
        rw [hreached.usage_eq, hreached.tracked_eq_nil (mt hreached.exists_get_iff.2 hget)]
        rfl
      usage_of_deleted := fun {id before after} hchanges => by
        rw [hreached.usage_eq, hchanges, tracked_append_deleted] }
  case created =>
    rw [hchanges] at hreached hcreates ⊢
    exact hreached.tracked_of_created hcreates hafter
  case deleted =>
    have hdead := hreached.not_live_of_deleted hcreates hmem
    rw [hreached.usage_eq, hreached.tracked_eq_nil hdead, hreached.exists_get_iff]
    exact ⟨hdead, rfl⟩

/-- Two rules give answers, one of them fails for want of its field, and the other is deleted. -/
theorem session_accounts_for_evaluations_two :
    let age (years : Int64) : Lookup := fun field =>
      if field = "age" then some (.int years) else none
    let calls : List Call := [
      ⟨.create { name := "senior", text := "age > 30" }, 100, 0⟩,
      ⟨.create { name := "young", text := "age < 20" }, 200, 0⟩,
      ⟨.evaluate 1 (age 35), 300, 7⟩,
      ⟨.evaluate 2 (age 35), 400, 5⟩,
      ⟨.update 1 { text := some "age > 40" }, 500, 0⟩,
      ⟨.evaluate 1 (age 35), 600, 9⟩,
      ⟨.evaluate 1 fun _ => none, 700, 3⟩,
      ⟨.delete 2, 800, 0⟩]
    let changes : List Change := [
      .created 1 { name := "senior", text := "age > 30" } 100,
      .created 2 { name := "young", text := "age < 20" } 200,
      .evaluated 1 ⟨true, 7, 300⟩,
      .evaluated 2 ⟨false, 5, 400⟩,
      .updated 1 { text := some "age > 40" } 500,
      .evaluated 1 ⟨false, 9, 600⟩,
      .deleted 2]
    history {} calls = changes ∧ (∀ id, (evaluations id changes).length < UInt64.size) ∧
      (session {} calls).2.Accounts changes ∧
      (¬∃ rule, (session {} calls).2.get 2 = .ok rule) ∧
      (session {} calls).2.usage[(2 : RuleId)]? = none := by
  intro age calls changes
  have hchanges : history {} calls = changes := by decide +kernel
  have hevaluations (id : RuleId) : (evaluations id changes).length < UInt64.size :=
    Nat.lt_of_le_of_lt (List.length_filterMap_le _ _) (by decide)
  have hcreates : (createdIds changes).length ≤ UInt64.size := by decide
  refine ⟨hchanges, hevaluations, ?_⟩
  rw [← hchanges] at hevaluations hcreates ⊢
  obtain ⟨haccounts, hlast⟩ := session_accounts_for_evaluations {} calls hevaluations
  exact ⟨haccounts, (hlast hcreates).2 2 (by rw [hchanges]; decide)⟩

/-! ## Ids that are given out again -/

section

variable {config : Config} {changes before : List Change} {catalog : Catalog} {id : RuleId}
  {new : NewRule} {now : Timestamp}

theorem evaluations_creations (id : RuleId) (earlier count : Nat) (new : NewRule)
    (now : Timestamp) : evaluations id (creations earlier count new now) = [] := by
  induction count with
  | zero => rfl
  | succ count ih =>
    rw [creations_succ, evaluations_concat, ih]
    rfl

theorem evaluations_around (id : RuleId) (before after : List Change) (earlier count : Nat)
    (new : NewRule) (now : Timestamp) :
    evaluations id (before ++ creations earlier count new now ++ after) =
      evaluations id (before ++ after) := by
  simp only [evaluations_append, evaluations_creations, List.append_nil]

theorem length_evaluations_around_le (id : RuleId) (before after : List Change)
    (earlier count : Nat) (new : NewRule) (now : Timestamp) :
    (evaluations id (before ++ creations earlier count new now ++ after)).length ≤
      (before ++ after).length := by
  rw [evaluations_around]
  exact List.length_filterMap_le _ _

theorem Reached.report_of_replaced {earlier count : Nat}
    (h : Reached config
      (before ++ creations earlier count new now ++ [.created id new now]) catalog)
    (hbefore : .deleted id ∉ before) :
    catalog.report id = .ok ((ofEvaluations (evaluations id before)).report id) := by
  obtain ⟨rule, hget⟩ := h.exists_get_iff.2 (live_concat_iff.2 (.inl ⟨new, now, rfl⟩))
  have hnot : .deleted id ∉ before ++ creations earlier count new now ++ [.created id new now] := by
    simp [creations, hbefore]
  rw [h.report_eq hget, tracked_of_not_mem hnot, evaluations_around, evaluations_append]
  exact congrArg (fun given => Except.ok ((ofEvaluations given).report id)) (List.append_nil _)

theorem Reached.usage_of_evaluated {evaluation : Evaluation}
    (h : Reached config (changes ++ [.evaluated id evaluation]) catalog) :
    catalog.usage[id]? ≠ none := by
  have hevaluated : (Change.evaluated id evaluation).evaluation? id = some evaluation := if_pos rfl
  have hne : Change.evaluated id evaluation ≠ .deleted id := nofun
  rw [h.usage_eq, tracked_concat hne, hevaluated, Option.toList_some, kept_concat]
  exact Option.some_ne_none _

theorem history_evaluate {calls : List Call} {lookup : Lookup} {outcome : Bool}
    {nanoseconds : Nat} {now' : Timestamp}
    (hcreated : history config calls = changes ++ [.created id new now])
    (hanswer : (Engine.ofConfig config).create new.text >>= (Engine.answer · lookup) =
      .ok outcome) :
    history config (calls ++ [⟨.evaluate id lookup, now', nanoseconds⟩]) =
      history config calls ++ [.evaluated id ⟨outcome, nanoseconds, now'⟩] := by
  have hreached := reached_session config calls
  have hlive : Live id (history config calls) :=
    hcreated ▸ live_concat_iff.2 (.inl ⟨new, now, rfl⟩)
  obtain ⟨rule, hget⟩ := hreached.exists_get_iff.2 hlive
  have htext := hreached.latest_eq .text (get_eq_ok_iff.1 hget)
  rw [hcreated, Field.latest_concat, Field.supplied, if_pos rfl, Option.some_or,
    Option.some.injEq] at htext
  change new.text = rule.text at htext
  obtain ⟨engine, -, hevaluate⟩ := evaluate_spec hreached.sound id lookup nanoseconds now'
  have hresult : (session config calls).2.engine.create rule.text >>= (Engine.answer · lookup) =
      .ok outcome := by
    rw [hreached.follows.create_eq, ← htext, hanswer]
  rw [history_concat]
  simp only [step, handle, hevaluate, hget, ok_bind, hresult]
  rfl

end

/-- After as many creates as there are ids, an id is given out again.  A rule that is stored under
it is replaced, but its evaluations go on to count; and if it was deleted, there are statistics
under its id again as soon as the new rule is evaluated. -/
theorem statistics_of_reused_ids :
    let create : Call := ⟨.create { name := "senior", text := "age > 30" }, 0, 0⟩
    let evaluate : Call := ⟨.evaluate 1 fun _ => some (.int 35), 0, 0⟩
    let replaced := [create, evaluate] ++ List.replicate UInt64.size create
    let again := [create, evaluate, ⟨.delete 1, 0, 0⟩] ++ List.replicate UInt64.size create ++
      [evaluate]
    (∀ id, (evaluations id (history {} replaced)).length < UInt64.size) ∧
    (∃ before new now after report, history {} replaced = before ++ .created 1 new now :: after ∧
      .deleted 1 ∉ after ∧ (session {} replaced).2.report 1 = .ok report ∧
      report.evaluations.toNat ≠ (evaluations 1 after).length) ∧
    (∀ id, (evaluations id (history {} again)).length < UInt64.size) ∧
    .deleted 1 ∈ history {} again ∧ (session {} again).2.usage[(1 : RuleId)]? ≠ none := by
  intro create evaluate replaced again
  let new : NewRule := { name := "senior", text := "age > 30" }
  let answered : Change := .evaluated 1 ⟨true, 0, 0⟩
  have hcreate : (Engine.ofConfig {}).create new.text =
      .ok (.comparison "age" .gt (.int 30)) := by decide +kernel
  have hkept : history {} [create, evaluate] = [.created 1 new 0, answered] := by decide +kernel
  have hdeleted : history {} [create, evaluate, ⟨.delete 1, 0, 0⟩] =
      [.created 1 new 0, answered, .deleted 1] := by decide +kernel
  have hreplaced : history {} replaced = [.created 1 new 0, answered] ++
      creations 1 (UInt64.size - 1) new 0 ++ [.created 1 new 0] := by
    rw [← hkept]
    exact history_replicate_size hcreate (by rw [hkept]; rfl)
  have hcreated : history {} ([create, evaluate, ⟨.delete 1, 0, 0⟩] ++
      List.replicate UInt64.size create) = [.created 1 new 0, answered, .deleted 1] ++
        creations 1 (UInt64.size - 1) new 0 ++ [.created 1 new 0] := by
    rw [← hdeleted]
    exact history_replicate_size hcreate (by rw [hdeleted]; rfl)
  have hagain : history {} again = [.created 1 new 0, answered, .deleted 1] ++
      creations 1 (UInt64.size - 1) new 0 ++ [.created 1 new 0] ++ [answered] := by
    rw [← hcreated]
    exact history_evaluate hcreated (by decide +kernel)
  have hreport : (session {} replaced).2.report 1 =
      .ok ((ofEvaluations (evaluations 1 [.created 1 new 0, answered])).report 1) := by
    have hreached := reached_session {} replaced
    rw [hreplaced] at hreached
    exact hreached.report_of_replaced (by decide)
  have husage : (session {} again).2.usage[(1 : RuleId)]? ≠ none := by
    have hreached := reached_session {} again
    rw [hagain] at hreached
    exact hreached.usage_of_evaluated
  refine ⟨fun id => ?_, ⟨_, new, 0, [], _, hreplaced, List.not_mem_nil, hreport, ?_⟩,
    fun id => ?_, ?_, husage⟩
  · rw [hreplaced]
    exact Nat.lt_of_le_of_lt (length_evaluations_around_le ..) (by decide)
  · decide +kernel
  · rw [hagain, List.append_assoc]
    exact Nat.lt_of_le_of_lt (length_evaluations_around_le ..) (by decide)
  · rw [hagain]
    refine List.mem_append_left _ (List.mem_append_left _ (List.mem_append_left _ ?_))
    exact List.mem_cons_of_mem _ (List.mem_cons_of_mem _ List.mem_cons_self)

end RecordRules.Catalog
