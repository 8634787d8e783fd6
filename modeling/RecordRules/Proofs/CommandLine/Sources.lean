import RecordRules.CommandLine
import RecordRules.Proofs.Config.RoundTrip

/-!
# Where settings come from

The file, the variables and the list of the command line replace each other's settings in this
order, and every one of them is checked before the next one is looked at.  So a setting that is
replaced has no influence on the configuration, but it may keep a run from getting that far.

* `Config.override_eq_ok_iff`, `loadConfig_eq_ok_iff`: what each source gives and what is checked;
* `Overridden`, `PassedAtSource`: two runs that differ only in settings which a later source
  replaces, and where these stand up to the check of their own source; `Admitted`: a run that
  stands up to these checks with all that it reads;
* `loadConfig_of_overridden`: what such runs have in common, and `influenced_of_refused`: what
  they need not.
-/

namespace RecordRules

namespace Config

def Gives {α : Type} (env : Environment) (name : String) (read : String → Option α) (value : α) :
    Prop :=
  ∃ raw, env name = some raw ∧ read (Text.trim raw) = some value

def listed (attributes : Whitelist) : Option String → Whitelist
  | some list => .ofCommaSeparated list
  | none => attributes

def withAttributes (config : Config) (attributes : Whitelist) : Config :=
  { config with attributes }

section

variable {α : Type} {env env₂ : Environment} {name : String} {read : String → Option α}
  {default default₂ value : α}

theorem fromVariable_eq_ok_iff : fromVariable env name read default = .ok value ↔
    (env name = none ∧ value = default) ∨ Gives env name read value := by
  unfold fromVariable Gives
  cases env name with
  | none => simp [eq_comm]
  | some raw => cases hread : read (Text.trim raw) <;> simp [hread]

theorem Gives.congr (hname : env name = env₂ name) (h : Gives env name read value) :
    Gives env₂ name read value := by
  rwa [Gives, ← hname]

theorem fromVariable_congr (hname : env name = env₂ name)
    (h : default = default₂ ∨ ∃ value, Gives env name read value) :
    fromVariable env name read default = fromVariable env₂ name read default₂ := by
  rcases h with rfl | ⟨value, hvalue⟩
  · rw [fromVariable, fromVariable, hname]
  · rw [fromVariable_eq_ok_iff.2 (.inr hvalue),
      fromVariable_eq_ok_iff.2 (.inr (hvalue.congr hname))]

end

variable {base next : Config} {env : Environment}

theorem override_eq_ok_iff : base.override env = .ok next ↔
    next.attributes = listed base.attributes (env "RULEKIT_ATTRIBUTES") ∧
      fromVariable env "RULEKIT_MAX_DEPTH" word? base.maxDepth = .ok next.maxDepth ∧
      fromVariable env "RULEKIT_LENIENT_TOKENS" flag? base.lenientTokens =
        .ok next.lenientTokens ∧
      fromVariable env "RULEKIT_CACHE_CAPACITY" word? base.cacheCapacity =
        .ok next.cacheCapacity ∧ next.Valid := by
  simp only [override, bind_eq_ok_iff, check_eq_ok_iff]
  constructor
  · rintro ⟨maxDepth, hmaxDepth, lenientTokens, hlenientTokens, cacheCapacity, hcacheCapacity,
      rfl, hvalid⟩
    exact ⟨rfl, hmaxDepth, hlenientTokens, hcacheCapacity, hvalid⟩
  · rintro ⟨hattributes, hmaxDepth, hlenientTokens, hcacheCapacity, hvalid⟩
    have hnext : next = ⟨listed base.attributes (env "RULEKIT_ATTRIBUTES"), next.maxDepth,
        next.lenientTokens, next.cacheCapacity⟩ := by rw [← hattributes]
    exact ⟨_, hmaxDepth, _, hlenientTokens, _, hcacheCapacity, hnext, hnext ▸ hvalid⟩

end Config

namespace CommandLine

/-- What the configuration file says, or the default configuration without a file, unchecked. -/
def document? (invocation : Invocation) (files : Files) : Option Config :=
  match invocation.config with
  | none => some {}
  | some path => files path >>= fun text => Json.read? text >>= Config.ofJson?

theorem default_valid : ({} : Config).Valid := by
  have h : ({} : Config).check = .ok {} := rfl
  exact (Config.check_eq_ok_iff.1 h).2

theorem read_eq_ok_iff {text : String} {base config : Config}
    (h : (Json.read? text >>= Config.ofJson?) = some base) :
    Config.read text = .ok config ↔ config = base ∧ base.Valid := by
  rw [Config.read, h, Config.check_eq_ok_iff]

variable {invocation : Invocation} {env : Environment} {files : Files} {base next config : Config}

/-- A run succeeds if the document, what the variables make of it and what the list makes of that
pass the check, one by one. -/
theorem loadConfig_eq_ok_iff (hbase : document? invocation files = some base) :
    loadConfig invocation env files = .ok config ↔
      base.Valid ∧ ∃ next, base.override env = .ok next ∧
        (next.withAttributes (Config.listed next.attributes invocation.attributes)).check =
          .ok config := by
  rcases invocation with ⟨_ | path, attributes, command⟩
  · obtain rfl : {} = base := Option.some.inj hbase
    simp only [loadConfig, pure_bind, bind_eq_ok_iff, mapError_eq_ok_iff, default_valid, true_and]
    cases attributes <;> exact Iff.rfl
  · obtain ⟨text, hread, hjson⟩ := Option.bind_eq_some_iff.1 hbase
    simp only [loadConfig, hread, bind_eq_ok_iff, mapError_eq_ok_iff, read_eq_ok_iff hjson,
      and_assoc, exists_eq_left]
    cases attributes <;> exact Iff.rfl

/-! ## Two runs -/

def Names (list : Option String) : Prop :=
  ∃ text, list = some text ∧ ∃ name, name ∈ Whitelist.ofCommaSeparated text

theorem named_listed_iff {attributes : Whitelist} {list : Option String}
    (h : ∃ name, name ∈ attributes) :
    (∃ name, name ∈ Config.listed attributes list) ↔ list = none ∨ Names list := by
  cases list with
  | none => simpa [Config.listed] using h
  | some text => simp [Config.listed, Names]

def SameOutcome (first second : Except Failure Config) : Prop :=
  first.toOption = second.toOption

instance (first second : Except Failure Config) : Decidable (SameOutcome first second) :=
  inferInstanceAs (Decidable (first.toOption = second.toOption))

/-- Two environments and two documents differ only in settings for which a later source gives a
valid value: the variables over the document, the list of the command line over both. -/
structure Overridden (list : Option String) (env env₂ : Environment) (base base₂ : Config) :
    Prop where
  environment : ∀ name, env name = env₂ name ∨ name = "RULEKIT_ATTRIBUTES" ∧ Names list
  attributes : base.attributes = base₂.attributes ∨ Names (env "RULEKIT_ATTRIBUTES") ∨ Names list
  maxDepth : base.maxDepth = base₂.maxDepth ∨
    ∃ depth, Config.Gives env "RULEKIT_MAX_DEPTH" Config.word? depth ∧
      1 ≤ depth.toNat ∧ depth.toNat ≤ 512
  lenientTokens : base.lenientTokens = base₂.lenientTokens ∨
    ∃ flag, Config.Gives env "RULEKIT_LENIENT_TOKENS" Config.flag? flag
  cacheCapacity : base.cacheCapacity = base₂.cacheCapacity ∨
    ∃ capacity, Config.Gives env "RULEKIT_CACHE_CAPACITY" Config.word? capacity

/-- Where two runs differ, both values pass the check that is made right behind their source. -/
structure PassedAtSource (env env₂ : Environment) (base base₂ : Config) : Prop where
  attributes : base.attributes = base₂.attributes ∨
    (∃ name, name ∈ base.attributes) ∧ ∃ name, name ∈ base₂.attributes
  maxDepth : base.maxDepth = base₂.maxDepth ∨
    (1 ≤ base.maxDepth.toNat ∧ base.maxDepth.toNat ≤ 512) ∧
      1 ≤ base₂.maxDepth.toNat ∧ base₂.maxDepth.toNat ≤ 512
  list : env "RULEKIT_ATTRIBUTES" = env₂ "RULEKIT_ATTRIBUTES" ∨
    (env "RULEKIT_ATTRIBUTES" = none ∨ Names (env "RULEKIT_ATTRIBUTES")) ∧
      (env₂ "RULEKIT_ATTRIBUTES" = none ∨ Names (env₂ "RULEKIT_ATTRIBUTES"))

/-- What one run reads before its last list passes the check that is made right behind its
source. -/
structure Admitted (env : Environment) (base : Config) : Prop where
  document : base.Valid
  list : env "RULEKIT_ATTRIBUTES" = none ∨ Names (env "RULEKIT_ATTRIBUTES")

variable {list : Option String} {env₂ : Environment} {files₂ : Files} {base₂ config₂ : Config}

theorem toOption_eq_some_iff {result : Except Failure Config} :
    result.toOption = some config ↔ result = .ok config := by
  cases result <;> simp [Except.toOption]

theorem SameOutcome.eq_ok_iff {first second : Except Failure Config}
    (h : SameOutcome first second) : first = .ok config ↔ second = .ok config := by
  rw [← toOption_eq_some_iff, h, toOption_eq_some_iff]

theorem sameOutcome_of_forall {first second : Except Failure Config}
    (h : ∀ config, first = .ok config → second = .ok config)
    (h' : ∀ config, second = .ok config → first = .ok config) : SameOutcome first second := by
  unfold SameOutcome
  cases first with
  | ok config => rw [h config rfl]
  | error failure =>
    cases second with
    | ok config => cases h' config rfl
    | error failure₂ => rfl

theorem PassedAtSource.symm (h : PassedAtSource env env₂ base base₂) :
    PassedAtSource env₂ env base₂ base where
  attributes := h.attributes.imp Eq.symm And.symm
  maxDepth := h.maxDepth.imp Eq.symm And.symm
  list := h.list.imp Eq.symm And.symm

section

variable (h : Overridden list env env₂ base base₂)

include h

theorem Overridden.same {name : String} (hname : name ≠ "RULEKIT_ATTRIBUTES") :
    env name = env₂ name :=
  (h.environment name).resolve_right fun hlist => hname hlist.1

theorem Overridden.symm : Overridden list env₂ env base₂ base where
  environment name := (h.environment name).imp_left Eq.symm
  attributes := by
    rcases h.environment "RULEKIT_ATTRIBUTES" with hsame | ⟨-, hlist⟩
    · rw [← hsame]
      exact h.attributes.imp_left Eq.symm
    · exact .inr (.inr hlist)
  maxDepth := h.maxDepth.imp Eq.symm fun ⟨depth, hgives, hdepth⟩ =>
    ⟨depth, hgives.congr (h.same (by decide)), hdepth⟩
  lenientTokens := h.lenientTokens.imp Eq.symm fun ⟨flag, hgives⟩ =>
    ⟨flag, hgives.congr (h.same (by decide))⟩
  cacheCapacity := h.cacheCapacity.imp Eq.symm fun ⟨capacity, hgives⟩ =>
    ⟨capacity, hgives.congr (h.same (by decide))⟩

theorem Overridden.listed_eq :
    Config.listed (Config.listed base.attributes (env "RULEKIT_ATTRIBUTES")) list =
      Config.listed (Config.listed base₂.attributes (env₂ "RULEKIT_ATTRIBUTES")) list := by
  cases hlist : list with
  | some text => rfl
  | none =>
    have hnone : ¬Names list := by
      rintro ⟨text, htext, -⟩
      rw [hlist] at htext
      cases htext
    have hvariable := (h.environment "RULEKIT_ATTRIBUTES").resolve_right fun h => hnone h.2
    rw [← hvariable]
    rcases h.attributes with hsame | ⟨text, htext, -⟩ | hnamed
    · rw [hsame]
    · rw [htext]
      rfl
    · exact absurd hnamed hnone

end

theorem PassedAtSource.valid (h : PassedAtSource env env₂ base base₂) (hvalid : base.Valid) :
    base₂.Valid := by
  have hnamed : ∃ name, name ∈ base₂.attributes := by
    rcases h.attributes with hsame | ⟨-, hnamed⟩
    · exact hsame ▸ hvalid.named
    · exact hnamed
  have hdepth : 1 ≤ base₂.maxDepth.toNat ∧ base₂.maxDepth.toNat ≤ 512 := by
    rcases h.maxDepth with hsame | ⟨-, hdepth⟩
    · exact hsame ▸ ⟨hvalid.positive, hvalid.limited⟩
    · exact hdepth
  exact ⟨hnamed, hdepth.1, hdepth.2⟩

theorem Admitted.passedAtSource (h : Admitted env base) (h₂ : Admitted env₂ base₂) :
    PassedAtSource env env₂ base base₂ where
  attributes := .inr ⟨h.document.named, h₂.document.named⟩
  maxDepth := .inr ⟨⟨h.document.positive, h.document.limited⟩, h₂.document.positive,
    h₂.document.limited⟩
  list := .inr ⟨h.list, h₂.list⟩

theorem admitted_of_override (hvalid : base.Valid) (hnext : base.override env = .ok next) :
    Admitted env base := by
  obtain ⟨hattributes, -, -, -, hnextValid⟩ := Config.override_eq_ok_iff.1 hnext
  exact ⟨hvalid, (named_listed_iff hvalid.named).1 (hattributes ▸ hnextValid.named)⟩

theorem admitted_of_ok (hbase : document? invocation files = some base)
    (hrun : loadConfig invocation env files = .ok config) : Admitted env base := by
  obtain ⟨hvalid, next, hnext, -⟩ := (loadConfig_eq_ok_iff hbase).1 hrun
  exact admitted_of_override hvalid hnext

theorem Overridden.override (h : Overridden list env env₂ base base₂)
    (hpassed : PassedAtSource env env₂ base base₂) (hvalid : base.Valid)
    (hnext : base.override env = .ok next) :
    base₂.override env₂ = .ok (next.withAttributes
      (Config.listed base₂.attributes (env₂ "RULEKIT_ATTRIBUTES"))) := by
  obtain ⟨-, hmaxDepth, hlenientTokens, hcacheCapacity, hnextValid⟩ :=
    Config.override_eq_ok_iff.1 hnext
  have hfirst : env "RULEKIT_ATTRIBUTES" = none ∨ Names (env "RULEKIT_ATTRIBUTES") :=
    (admitted_of_override hvalid hnext).list
  have hsecond : env₂ "RULEKIT_ATTRIBUTES" = none ∨ Names (env₂ "RULEKIT_ATTRIBUTES") := by
    rcases hpassed.list with hsame | ⟨-, hsecond⟩
    · exact hsame ▸ hfirst
    · exact hsecond
  have hgiven : base.maxDepth = base₂.maxDepth ∨
      ∃ depth, Config.Gives env "RULEKIT_MAX_DEPTH" Config.word? depth :=
    h.maxDepth.imp_right fun ⟨depth, hgives, _⟩ => ⟨depth, hgives⟩
  refine Config.override_eq_ok_iff.2 ⟨rfl, ?_, ?_, ?_, ?_⟩
  · exact (Config.fromVariable_congr (h.same (by decide)) hgiven).symm.trans hmaxDepth
  · exact (Config.fromVariable_congr (h.same (by decide)) h.lenientTokens).symm.trans
      hlenientTokens
  · exact (Config.fromVariable_congr (h.same (by decide)) h.cacheCapacity).symm.trans
      hcacheCapacity
  · exact ⟨(named_listed_iff (hpassed.valid hvalid).named).2 hsecond, hnextValid.positive,
      hnextValid.limited⟩

section

variable (hbase : document? invocation files = some base)
  (hbase₂ : document? invocation files₂ = some base₂)

include hbase hbase₂

theorem loadConfig_transfer (h : Overridden invocation.attributes env env₂ base base₂)
    (hpassed : PassedAtSource env env₂ base base₂)
    (hrun : loadConfig invocation env files = .ok config) :
    loadConfig invocation env₂ files₂ = .ok config := by
  obtain ⟨hvalid, next, hnext, hcheck⟩ := (loadConfig_eq_ok_iff hbase).1 hrun
  refine (loadConfig_eq_ok_iff hbase₂).2
    ⟨hpassed.valid hvalid, _, h.override hpassed hvalid hnext, ?_⟩
  have hattributes := (Config.override_eq_ok_iff.1 hnext).1
  rw [hattributes, h.listed_eq] at hcheck
  exact hcheck

theorem passedAtSource_of_ok (hrun : loadConfig invocation env files = .ok config)
    (hrun₂ : loadConfig invocation env₂ files₂ = .ok config₂) :
    PassedAtSource env env₂ base base₂ :=
  (admitted_of_ok hbase hrun).passedAtSource (admitted_of_ok hbase₂ hrun₂)

theorem sameOutcome_of_not_admitted (h : ¬Admitted env base) (h₂ : ¬Admitted env₂ base₂) :
    SameOutcome (loadConfig invocation env files) (loadConfig invocation env₂ files₂) :=
  sameOutcome_of_forall (fun _ hrun => absurd (admitted_of_ok hbase hrun) h)
    (fun _ hrun => absurd (admitted_of_ok hbase₂ hrun) h₂)

/-- A setting that a later source replaces has no influence, as long as it passes the check that
is made right behind its own source: then both runs succeed with the same configuration or both
fail, as they do if each of them is refused at one of these checks.  In any case, two runs that
succeed have passed them, and end with the same configuration, and the outcomes are the same
exactly if neither run succeeds where the other is refused. -/
theorem loadConfig_of_overridden (h : Overridden invocation.attributes env env₂ base base₂) :
    (PassedAtSource env env₂ base base₂ →
      SameOutcome (loadConfig invocation env files) (loadConfig invocation env₂ files₂)) ∧
    (∀ config config₂, loadConfig invocation env files = .ok config →
      loadConfig invocation env₂ files₂ = .ok config₂ →
        PassedAtSource env env₂ base base₂ ∧ config = config₂) ∧
    (¬Admitted env base → ¬Admitted env₂ base₂ →
      SameOutcome (loadConfig invocation env files) (loadConfig invocation env₂ files₂)) ∧
    (SameOutcome (loadConfig invocation env files) (loadConfig invocation env₂ files₂) ↔
      (∀ config, loadConfig invocation env files = .ok config → Admitted env₂ base₂) ∧
      ∀ config, loadConfig invocation env₂ files₂ = .ok config → Admitted env base) := by
  refine ⟨fun hpassed => ?_, fun config config₂ hrun hrun₂ => ?_,
    sameOutcome_of_not_admitted hbase hbase₂, fun hsame => ⟨?_, ?_⟩, fun ⟨hfirst, hsecond⟩ => ?_⟩
  · exact sameOutcome_of_forall
      (fun _ => loadConfig_transfer hbase hbase₂ h hpassed)
      (fun _ => loadConfig_transfer hbase₂ hbase h.symm hpassed.symm)
  · have hpassed := passedAtSource_of_ok hbase hbase₂ hrun hrun₂
    have hsame := loadConfig_transfer hbase hbase₂ h hpassed hrun
    exact ⟨hpassed, Except.ok.inj (hsame.symm.trans hrun₂)⟩
  · exact fun config hrun => admitted_of_ok hbase₂ (hsame.eq_ok_iff.1 hrun)
  · exact fun config hrun => admitted_of_ok hbase (hsame.eq_ok_iff.2 hrun)
  · refine sameOutcome_of_forall (fun config hrun => ?_) fun config hrun => ?_
    · exact loadConfig_transfer hbase hbase₂ h
        ((admitted_of_ok hbase hrun).passedAtSource (hfirst config hrun)) hrun
    · exact loadConfig_transfer hbase₂ hbase h.symm
        ((admitted_of_ok hbase₂ hrun).passedAtSource (hsecond config hrun)) hrun

end

/-! ## Runs that are told apart -/

def environment (pairs : List (String × String)) : Environment := fun name => pairs.lookup name

def configured (text : String) : Files :=
  (FileTree.ofFiles [("config.json", text)]).files

def invocationWith (list : Option String) : Invocation :=
  ⟨some "config.json", list, .lint "age > 30"⟩

theorem overridden_maxDepth {depth : UInt64}
    (hgives : Config.Gives env "RULEKIT_MAX_DEPTH" Config.word? depth)
    (hdepth : 1 ≤ depth.toNat ∧ depth.toNat ≤ 512) (base : Config) (first second : UInt64) :
    Overridden list env env { base with maxDepth := first } { base with maxDepth := second } where
  environment _ := .inl rfl
  attributes := .inl rfl
  maxDepth := .inr ⟨depth, hgives, hdepth⟩
  lenientTokens := .inl rfl
  cacheCapacity := .inl rfl

theorem gives_five :
    Config.Gives (environment [("RULEKIT_MAX_DEPTH", "5")]) "RULEKIT_MAX_DEPTH" Config.word? 5 :=
  ⟨"5", rfl, by decide +kernel⟩

theorem loadConfig_of_overridden_maxDepth :
    let invocation := invocationWith none
    let env := environment [("RULEKIT_MAX_DEPTH", "5")]
    let files := configured "\x7b\"max_depth\": 10\x7d"
    let files₂ := configured "\x7b\"max_depth\": 20\x7d"
    document? invocation files = some { maxDepth := 10 } ∧
      document? invocation files₂ = some { maxDepth := 20 } ∧
      Overridden none env env { maxDepth := 10 } { maxDepth := 20 } ∧
      PassedAtSource env env { maxDepth := 10 } { maxDepth := 20 } ∧
      loadConfig invocation env files = .ok { maxDepth := 5 } ∧
      SameOutcome (loadConfig invocation env files) (loadConfig invocation env files₂) := by
  intro invocation env files files₂
  have hbase : document? invocation files = some { maxDepth := 10 } := by decide +kernel
  have hbase₂ : document? invocation files₂ = some { maxDepth := 20 } := by decide +kernel
  have h : Overridden none env env { maxDepth := 10 } { maxDepth := 20 } :=
    overridden_maxDepth gives_five (by decide) {} 10 20
  have hpassed : PassedAtSource env env { maxDepth := 10 } { maxDepth := 20 } :=
    ⟨.inl rfl, .inr (by decide), .inl rfl⟩
  exact ⟨hbase, hbase₂, h, hpassed, by decide +kernel,
    (loadConfig_of_overridden hbase hbase₂ h).1 hpassed⟩

/-- Two runs differ only in settings that a later source replaces, and still in their outcome. -/
def Influenced (invocation : Invocation) (env env₂ : Environment) (files files₂ : Files) : Prop :=
  ∃ base base₂, document? invocation files = some base ∧
    document? invocation files₂ = some base₂ ∧
    Overridden invocation.attributes env env₂ base base₂ ∧
    ¬SameOutcome (loadConfig invocation env files) (loadConfig invocation env₂ files₂)

theorem names_age : Names (some "age") := ⟨"age", rfl, "age", by decide +kernel⟩

/-- A depth or a list that its own check refuses is refused even if a later source replaces it:
a depth of zero and an empty list in the file, and a variable that names nothing. -/
theorem influenced_of_refused :
    Influenced (invocationWith none)
      (environment [("RULEKIT_MAX_DEPTH", "5")]) (environment [("RULEKIT_MAX_DEPTH", "5")])
      (configured "\x7b\"max_depth\": 10\x7d") (configured "\x7b\"max_depth\": 0\x7d") ∧
    Influenced (invocationWith (some "age"))
      (environment [("RULEKIT_ATTRIBUTES", "age")]) (environment [("RULEKIT_ATTRIBUTES", "age")])
      (configured "\x7b\x7d") (configured "\x7b\"attributes\": []\x7d") ∧
    Influenced (invocationWith (some "age"))
      (environment [("RULEKIT_ATTRIBUTES", "age")]) (environment [("RULEKIT_ATTRIBUTES", " , ")])
      (configured "\x7b\x7d") (configured "\x7b\x7d") := by
  refine ⟨⟨{ maxDepth := 10 }, { maxDepth := 0 }, by decide +kernel, by decide +kernel,
      overridden_maxDepth gives_five (by decide) {} 10 0, by decide +kernel⟩,
    ⟨{}, { attributes := .ofNames [] }, by decide +kernel, by decide +kernel,
      ⟨fun _ => .inl rfl, .inr (.inr names_age), .inl rfl, .inl rfl, .inl rfl⟩,
      by decide +kernel⟩,
    ⟨{}, {}, by decide +kernel, by decide +kernel,
      ⟨fun name => ?_, .inl rfl, .inl rfl, .inl rfl, .inl rfl⟩, by decide +kernel⟩⟩
  by_cases hname : name = "RULEKIT_ATTRIBUTES"
  · exact .inr ⟨hname, names_age⟩
  · left
    rw [environment, environment, List.lookup_cons, List.lookup_cons, beq_false_of_ne hname]

end CommandLine

end RecordRules
