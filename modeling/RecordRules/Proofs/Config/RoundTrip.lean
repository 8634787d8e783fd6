import RecordRules.Config
import RecordRules.Proofs.Json.RoundTrip
import RecordRules.Proofs.Results

/-!
# Configurations read back from JSON

The JSON text of a configuration tells all of it, whatever characters its names have and up to
the largest words.  Whether it is accepted is up to the check, which passes exactly the
configurations an engine can rely on (`Config.Valid`) and refuses any other one for the first
thing that is wrong with it (`Config.Refused`).

* `Config.ofJson?_toJson`, `Config.read_of_tells`: what is read is the configuration, checked;
* `Config.check_cases`, `Config.check_eq_ok_iff`: what the check says;
* `Config.json_tells_config`: the text against the check, and the check behind every way in.
-/

namespace RecordRules

open Number

namespace Json

variable (texts : List String) (word : UInt64)

theorem strings?_array : (array (texts.map string)).strings? = some texts := by
  rw [strings?, List.mapM_map]
  exact List.mapM_pure.trans (congrArg some (List.map_id texts))

theorem word?_integer : (integer word.toNat).word? = some word :=
  uint64?_eq_some_iff.2 rfl

theorem exact_array : (array (texts.map string)).Exact := by
  refine exact_array_iff.2 fun item hitem => ?_
  obtain ⟨text, -, rfl⟩ := List.mem_map.1 hitem
  trivial

theorem exact_integer : (integer word.toNat).Exact := by
  rw [Exact, Int.natAbs_natCast]
  exact Double.isFinite_ofNat word.toNat_lt.le

end Json

namespace Whitelist

theorem isEmpty_iff {whitelist : Whitelist} :
    whitelist.isEmpty = true ↔ ∀ name, name ∉ whitelist := by
  rw [Std.ExtTreeSet.isEmpty_iff, Std.ExtTreeSet.eq_empty_iff_forall_not_mem]

theorem ofNames_toList (whitelist : Whitelist) : ofNames whitelist.toList = whitelist :=
  Std.ExtTreeSet.ext_mem fun name => by
    rw [ofNames, Std.ExtTreeSet.mem_ofList, List.contains_iff_mem, Std.ExtTreeSet.mem_toList]

theorem ofJson?_toJson (whitelist : Whitelist) : ofJson? whitelist.toJson = some whitelist := by
  rw [ofJson?, toJson, Json.strings?_array, Option.map_some, ofNames_toList]

end Whitelist

namespace Config

/-! ## Reading what is written -/

variable (config : Config)

theorem read_fields : fields.read config.toJson =
    some [some config.attributes.toJson, some (.integer config.maxDepth.toNat),
      some (.bool config.lenientTokens), some (.integer config.cacheCapacity.toNat)] := by
  simp [fields, toJson, Json.Fields.read, List.lookup_cons, List.count]

theorem ofJson?_toJson : ofJson? config.toJson = some config := by
  rw [ofJson?, read_fields]
  simp [setting, Whitelist.ofJson?_toJson, Json.word?_integer, Json.bool?]

theorem exact_toJson : config.toJson.Exact := by
  rw [toJson, Json.Exact]
  simp only [Json.MembersExact]
  exact ⟨Json.exact_array _, Json.exact_integer _, by rw [Json.Exact]; trivial,
    Json.exact_integer _, trivial⟩

theorem read_of_tells {text : String} (h : Json.read? text = some config.toJson) :
    read text = config.check := by
  rw [read, h, Option.bind_eq_bind, Option.bind_some, ofJson?_toJson]

/-! ## The check -/

/-- What an engine relies on: there is a name for a rule to use, and the nesting is not deeper
than the stack bears. -/
structure Valid : Prop where
  named : ∃ name, name ∈ config.attributes
  positive : 1 ≤ config.maxDepth.toNat
  limited : config.maxDepth.toNat ≤ 512

inductive Refused : ConfigError → Prop
  | noAttributes : (∀ name, name ∉ config.attributes) → Refused .noAttributes
  | zeroDepth : (∃ name, name ∈ config.attributes) → config.maxDepth.toNat = 0 →
      Refused .zeroDepth
  | deepNesting : (∃ name, name ∈ config.attributes) → 512 < config.maxDepth.toNat →
      Refused (.deepNesting config.maxDepth)

theorem check_cases :
    (config.Valid ∧ config.check = .ok config) ∨
      ∃ error, config.Refused error ∧ config.check = .error error := by
  rw [check]
  split
  next hempty => exact .inr ⟨_, .noAttributes (Whitelist.isEmpty_iff.1 hempty), rfl⟩
  next hempty =>
    have hnamed : ∃ name, name ∈ config.attributes := by
      rw [Whitelist.isEmpty_iff] at hempty
      push Not at hempty
      exact hempty
    split
    next hzero => exact .inr ⟨_, .zeroDepth hnamed (congrArg UInt64.toNat hzero), rfl⟩
    next hzero =>
      have hpositive : 1 ≤ config.maxDepth.toNat :=
        Nat.one_le_iff_ne_zero.2 fun h => hzero (UInt64.toNat_inj.1 h)
      split
      next hdeep => exact .inr ⟨_, .deepNesting hnamed (UInt64.lt_iff_toNat_lt.1 hdeep), rfl⟩
      next hdeep =>
        have hlimited : config.maxDepth.toNat ≤ 512 :=
          Nat.not_lt.1 fun h => hdeep (UInt64.lt_iff_toNat_lt.2 h)
        exact .inl ⟨⟨hnamed, hpositive, hlimited⟩, rfl⟩

variable {config}

theorem Refused.not_valid {error : ConfigError} (h : config.Refused error) : ¬config.Valid := by
  intro hvalid
  obtain ⟨name, hname⟩ := hvalid.named
  cases h with
  | noAttributes hnone => exact hnone name hname
  | zeroDepth _ hzero => exact absurd hvalid.positive (by omega)
  | deepNesting _ hdeep => exact absurd hvalid.limited (by omega)

theorem check_eq_ok_iff {next : Config} :
    config.check = .ok next ↔ next = config ∧ config.Valid := by
  rcases check_cases config with ⟨hvalid, hcheck⟩ | ⟨error, hrefused, hcheck⟩
  · rw [hcheck, Except.ok.injEq, eq_comm]
    exact (and_iff_left hvalid).symm
  · simp [hcheck, hrefused.not_valid]

theorem check_of_check {next : Config} (h : config.check = .ok next) : next.check = .ok next := by
  obtain ⟨rfl, -⟩ := check_eq_ok_iff.1 h
  exact h

theorem check_of_read {text : String} (h : read text = .ok config) : config.check = .ok config := by
  rw [read] at h
  split at h
  · exact check_of_check h
  · cases h

theorem check_of_override {next : Config} {env : Environment}
    (h : config.override env = .ok next) : next.check = .ok next := by
  simp only [override] at h
  obtain ⟨maxDepth, -, h⟩ := bind_eq_ok_iff.1 h
  obtain ⟨lenientTokens, -, h⟩ := bind_eq_ok_iff.1 h
  obtain ⟨cacheCapacity, -, h⟩ := bind_eq_ok_iff.1 h
  exact check_of_check h

/-- The JSON text of a configuration, on one line or on many, is read as the configuration if the
check passes it, and refused as the check refuses it otherwise.  Every configuration that is read
from a text, or made with the variables of an environment, passes the check. -/
theorem json_tells_config (config : Config) (level : Nat) :
    (∀ text ∈ [config.toJson.compact, config.toJson.pretty level],
      (read text = .ok config ↔ config.check = .ok config) ∧
      (config.check ≠ .ok config →
        ∃ error, config.Refused error ∧ config.check = .error error ∧
          read text = .error error)) ∧
    (config.check = .ok config ↔ config.Valid) ∧
    (∀ text next, read text = .ok next → next.check = .ok next) ∧
    (∀ env next, config.override env = .ok next → next.check = .ok next) := by
  refine ⟨?_, ?_, fun _ _ => check_of_read, fun _ _ => check_of_override⟩
  · intro text htext
    have hread : read text = config.check := by
      apply read_of_tells
      rcases List.mem_pair.1 htext with rfl | rfl
      · exact Json.read?_compact config.exact_toJson
      · exact Json.read?_pretty config.exact_toJson level
    rw [hread]
    refine ⟨Iff.rfl, fun hcheck => ?_⟩
    rcases check_cases config with ⟨-, hok⟩ | ⟨error, hrefused, herror⟩
    · exact absurd hok hcheck
    · exact ⟨error, hrefused, herror, herror⟩
  · rw [check_eq_ok_iff]
    exact and_iff_right rfl

end Config

end RecordRules
