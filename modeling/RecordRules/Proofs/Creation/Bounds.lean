import RecordRules.Proofs.Creation.Combination
import RecordRules.Proofs.Evaluation.ShortCircuit

/-!
# Limits of combined rules

The parentheses around its texts put every token of a combined rule one level deeper, and
its comparisons are those of all its rules.  So the limits of the parser stop exactly
the combinations that these take past them, and nothing else does.

* `nestedFrom_conjoined_iff`, `comparisonCount_foldl`: how both limits shift;
* `exists_create_iff_nestedFrom`: when an accepted text is accepted under another limit;
* `combine_eq_ok_iff_of_create`: when accepted texts are combined.
-/

namespace RecordRules.Rule

/-! ## Nesting -/

section

variable {maxDepth depth : Nat} {tokens : List Token}

theorem nestedFrom_group_iff (hbalance : tokens.count .opening = tokens.count .closing) :
    NestedFrom (maxDepth + 1) 0 (group tokens) ↔ NestedFrom maxDepth 0 tokens := by
  have hopening : NestedFrom (maxDepth + 1) 0 [.opening] := nestedFrom_singleton (Nat.zero_le _)
  have hclosing : NestedFrom (maxDepth + 1) 1 [.closing] :=
    nestedFrom_singleton (Nat.le_add_left _ _)
  rw [group, ← List.singleton_append, nestedFrom_append_iff 1 rfl,
    nestedFrom_append_iff 1 (by rw [hbalance]), nestedFrom_succ_iff]
  exact ⟨fun h => h.2.1, fun h => ⟨hopening, h, hclosing⟩⟩

theorem opening_eq_closing_group (hbalance : tokens.count .opening = tokens.count .closing) :
    (group tokens).count .opening = (group tokens).count .closing := by
  simp [group, hbalance]

theorem nestedFrom_conjoined_iff {groups : List (List Token)}
    (hbalance : ∀ tokens ∈ groups, tokens.count .opening = tokens.count .closing) :
    NestedFrom (maxDepth + 1) 0 (conjoined groups) ↔
      ∀ tokens ∈ groups, NestedFrom maxDepth 0 tokens := by
  induction groups with
  | nil => exact ⟨fun _ => List.forall_mem_nil _, fun _ => nestedFrom_nil⟩
  | cons tokens groups ih =>
    obtain ⟨hfirst, hrest⟩ := List.forall_mem_cons.1 hbalance
    have hand : NestedFrom (maxDepth + 1) 0 [.connective .and] :=
      nestedFrom_singleton (Nat.zero_le _)
    have hgroup := opening_eq_closing_group hfirst
    rw [conjoined, List.flatMap_cons, ← List.singleton_append, List.append_assoc,
      nestedFrom_append_iff 0 rfl, nestedFrom_append_iff 0 (by rw [hgroup]),
      nestedFrom_group_iff hfirst, List.forall_mem_cons]
    rw [← conjoined, ih hrest]
    exact ⟨And.right, And.intro hand⟩

end

/-! ## Comparisons -/

theorem comparisonCount_foldl (connective : Connective) (rule : Rule) (rules : List Rule) :
    (rules.foldl (operator connective) rule).comparisonCount =
      ((rule :: rules).map comparisonCount).sum := by
  induction rules generalizing rule with
  | nil => simp
  | cons next rules ih =>
    rw [List.foldl_cons, ih]
    simp [comparisonCount, Nat.add_assoc]

/-! ## Acceptance within the limits -/

section

variable {maxDepth : Nat} {tokens : List Token} {rule : Rule}

theorem Derives.ofTokens_eq_ok_iff (h : Derives .expression tokens rule) :
    ofTokens maxDepth tokens = .ok rule ↔
      NestedFrom maxDepth 0 tokens ∧ rule.comparisonCount ≤ maxComparisons := by
  rw [ofTokens_eq_ok_iff_exists_path]
  constructor
  · rintro ⟨count, hpath⟩
    exact ⟨hpath.nestedFrom (Nat.zero_le _), hpath.comparisonCount_le⟩
  · rintro ⟨hnested, hcount⟩
    exact ⟨_, h.path none [] 0 (fun _ => rfl) hnested (by rwa [Nat.zero_add])⟩

theorem Derives.eq_of_ofTokens (h : Derives .expression tokens rule) {found : Rule}
    (hfound : ofTokens maxDepth tokens = .ok found) : found = rule := by
  rcases ofTokens_of_derives h with hok | ⟨error, -, herror⟩
  · exact Except.ok.inj (hfound.symm.trans hok)
  · rw [hfound] at herror
    cases herror

end

section

variable {whitelist : Whitelist} {options : ParseOptions} {text : String} {tokens : List Token}
  {rule : Rule}

/-- Whether a text that is accepted is so under another limit on nesting depends on its
tokens alone. -/
theorem exists_create_iff_nestedFrom (h : create whitelist options text = .ok rule)
    (hscan : Token.scan options.lenient text = .ok tokens) (depth : Nat) :
    (∃ found, create whitelist { options with maxDepth := depth } text = .ok found) ↔
      NestedFrom depth 0 tokens := by
  obtain ⟨hparse, hknown⟩ := create_eq_ok_iff.1 h
  rw [parse_of_scan hscan] at hparse
  obtain ⟨count, hpath⟩ := ofTokens_eq_ok_iff_exists_path.1 hparse
  have hderives := hpath.derives
  have hdeeper : parse { options with maxDepth := depth } text = ofTokens depth tokens :=
    parse_of_scan hscan
  constructor
  · rintro ⟨found, hfound⟩
    have hfound := hdeeper.symm.trans (create_eq_ok_iff.1 hfound).1
    rw [hderives.eq_of_ofTokens hfound] at hfound
    exact (hderives.ofTokens_eq_ok_iff.1 hfound).1
  · intro hnested
    have hok := hderives.ofTokens_eq_ok_iff.2 ⟨hnested, hpath.comparisonCount_le⟩
    exact ⟨rule, create_eq_ok_iff.2 ⟨hdeeper.trans hok, hknown⟩⟩

end

/-! ## Combination -/

section

variable {whitelist : Whitelist} {options : ParseOptions} {text next : String}
  {texts : List String} {rule : Rule} {rules : List Rule}

theorem exists_tokens_of_create (h : create whitelist options text = .ok rule) (depth : Nat) :
    ∃ tokens, (Token.scan options.lenient text = .ok tokens ∧
        ((∃ found, create whitelist { options with maxDepth := depth } text = .ok found) ↔
          NestedFrom depth 0 tokens)) ∧ Derives .expression tokens rule := by
  obtain ⟨tokens, hscan, hderives⟩ := exists_derives_of_parse (create_eq_ok_iff.1 h).1
  exact ⟨tokens, ⟨hscan, exists_create_iff_nestedFrom h hscan depth⟩, hderives⟩

theorem eq_foldl_of_combine {tree : Rule}
    (h : List.Forall₂ (fun text rule => create whitelist options text = .ok rule) (text :: texts)
      (rule :: rules)) (hok : combine whitelist options (text :: texts) = .ok tree) :
    tree = rules.foldl (operator .and) rule := by
  rcases combine_of_create h with hfold | ⟨error, -, herror⟩
  · exact Except.ok.inj (hok.symm.trans hfold)
  · cases hok.symm.trans herror

/-- Two or more texts that create rules by themselves are combined if none of them comes too
deep within one more parenthesis and the rules do not have too many comparisons in all. -/
theorem combine_eq_ok_iff_of_create {maxDepth : Nat} (hdepth : options.maxDepth = maxDepth + 1)
    (h : List.Forall₂ (fun text rule => create whitelist options text = .ok rule)
      (text :: next :: texts) (rule :: rules)) :
    combine whitelist options (text :: next :: texts) = .ok (rules.foldl (operator .and) rule) ↔
      (∀ t ∈ text :: next :: texts,
          ∃ found, create whitelist { options with maxDepth := maxDepth } t = .ok found) ∧
        ((rule :: rules).map comparisonCount).sum ≤ maxComparisons := by
  have hknown : ∀ r ∈ rule :: rules, whitelist.firstUnknown? r = none :=
    forall_mem_right_of_forall₂ h fun _ _ hcreate => (create_eq_ok_iff.1 hcreate).2
  obtain ⟨groups, hread, hderives⟩ :=
    exists_forall₂_between (h.imp fun _ _ hcreate => exists_tokens_of_create hcreate maxDepth)
  have hbalance : ∀ tokens ∈ groups, tokens.count .opening = tokens.count .closing :=
    forall_mem_right_of_forall₂ hderives.flip fun _ _ hrule => hrule.opening_eq_closing
  rw [forall_mem_iff_of_forall₂ (hread.imp fun _ _ => And.right)]
  have hscans := hread.imp fun _ _ => And.left
  cases groups with
  | nil => cases hderives
  | cons tokens groups =>
    obtain ⟨hscan, hscans⟩ := List.forall₂_cons.1 hscans
    obtain ⟨hrule, hrules⟩ := List.forall₂_cons.1 hderives
    obtain ⟨hfirst, hrest⟩ := List.forall_mem_cons.1 hbalance
    have hall : Derives .expression (group tokens ++ conjoined groups) _ :=
      derives_conjoined (.single (.grouped hrule)) hrules
    have hgroup := opening_eq_closing_group hfirst
    change create whitelist options (conjunction (text :: next :: texts)) = _ ↔ _
    rw [create_eq_ok_iff, firstUnknown?_foldl_eq_none_iff, and_iff_left hknown,
      parse_of_scan (scan_conjunction hscan hscans), hall.ofTokens_eq_ok_iff, hdepth,
      nestedFrom_append_iff 0 (by rw [hgroup]), nestedFrom_group_iff hfirst,
      nestedFrom_conjoined_iff hrest, comparisonCount_foldl, List.forall_mem_cons]

end

/-- Rules that are accepted alone are combined unless the parentheses around them or their
number of comparisons takes them past a limit, and then mean what they mean one after the
other: the first that is false or fails decides. -/
theorem combine_eq_ok_iff_within_limits (whitelist : Whitelist) (options : ParseOptions)
    (texts : List String) (rules : List Rule) (hdepth : 1 ≤ options.maxDepth)
    (hlength : 2 ≤ texts.length) (hrules : texts.mapM (create whitelist options) = .ok rules) :
    let result := combine whitelist options texts
    let shallower := { options with maxDepth := options.maxDepth - 1 }
    ((∃ tree, result = .ok tree) ↔
        (∀ text ∈ texts, ∃ rule, create whitelist shallower text = .ok rule) ∧
          (rules.map comparisonCount).sum ≤ 4096) ∧
      (∀ error, result = .error error →
        error = .invalidSyntax (.tooDeep options.maxDepth) ∨ error = .invalidSyntax .tooLong) ∧
      ∀ tree, result = .ok tree →
        (∃ first rest, rules = first :: rest ∧ tree = rest.foldl (operator .and) first) ∧
          ∀ lookup, tree.evaluate lookup = rules.allM (·.evaluate lookup) := by
  match texts, rules, hlength, mapM_eq_ok_iff.1 hrules with
  | text :: next :: texts, rule :: rules, _, hcreate =>
    intro result shallower
    have hmax : options.maxDepth = options.maxDepth - 1 + 1 := (Nat.sub_add_cancel hdepth).symm
    have hlimits := combine_eq_ok_iff_of_create hmax hcreate
    have htree (tree : Rule) (hok : result = .ok tree) : tree = rules.foldl (operator .and) rule :=
      eq_foldl_of_combine hcreate hok
    refine ⟨⟨fun ⟨tree, hok⟩ => hlimits.1 (htree tree hok ▸ hok), fun h => ⟨_, hlimits.2 h⟩⟩,
      fun error herror => ?_, fun tree hok => ⟨⟨rule, rules, rfl, htree tree hok⟩, fun lookup => ?_⟩⟩
    · rcases combine_of_create hcreate with hok | ⟨cause, hlimit, hcause⟩
      · cases herror.symm.trans hok
      · rw [Except.error.inj (herror.symm.trans hcause)]
        exact hlimit.imp (congrArg _) (congrArg _)
    · rw [htree tree hok, evaluate_foldl_and]

/-- The parentheses of the first text are one too many under a limit of 1, which it does not
exceed alone. -/
theorem combine_eq_ok_iff_within_limits_grouped :
    let whitelist := Whitelist.ofNames defaultAttributes
    let texts := ["(age > 30 OR experience > 5)", "department = 'Sales'"]
    let rules := [operator .or (comparison "age" .gt (.int 30)) (comparison "experience" .gt (.int 5)),
      comparison "department" .eq (.text "Sales")]
    (texts.mapM (create whitelist { maxDepth := 1 }) = .ok rules ∧
        ¬∃ tree, combine whitelist { maxDepth := 1 } texts = .ok tree) ∧
      texts.mapM (create whitelist { maxDepth := 2 }) = .ok rules ∧
        ∃ tree, combine whitelist { maxDepth := 2 } texts = .ok tree ∧
          ∀ lookup, tree.evaluate lookup = rules.allM (·.evaluate lookup) := by
  intro whitelist texts rules
  have hone : texts.mapM (create whitelist { maxDepth := 1 }) = .ok rules := by decide +kernel
  have htwo : texts.mapM (create whitelist { maxDepth := 2 }) = .ok rules := by decide +kernel
  have hdeep : create whitelist { maxDepth := 0 } "(age > 30 OR experience > 5)" =
      .error (.invalidSyntax (.tooDeep 0)) := by decide +kernel
  refine ⟨⟨hone, fun hok => ?_⟩, htwo, ?_⟩
  · obtain ⟨hshallow, -⟩ := (combine_eq_ok_iff_within_limits whitelist { maxDepth := 1 } texts rules
      (by decide) (by decide) hone).1.1 hok
    obtain ⟨rule, hrule⟩ := hshallow _ List.mem_cons_self
    cases hdeep.symm.trans hrule
  · obtain ⟨hlimits, -, hmeaning⟩ := combine_eq_ok_iff_within_limits whitelist { maxDepth := 2 }
      texts rules (by decide) (by decide) htwo
    obtain ⟨tree, hok⟩ := hlimits.2 ⟨forall_mem_right_of_forall₂ (mapM_eq_ok_iff.1 hone).flip
      fun _ _ hcreate => ⟨_, hcreate⟩, by decide⟩
    exact ⟨tree, hok, (hmeaning tree hok).2⟩

end RecordRules.Rule
