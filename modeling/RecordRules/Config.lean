import RecordRules.Creation
import RecordRules.Number.Word
import RecordRules.Text.Quoted

/-!
# Configuration

What an engine is set up with. A configuration is read from JSON, where every setting
may be left out, and settings may be replaced from variables of the environment. Either
way the outcome is checked.
-/

namespace RecordRules

structure Config where
  attributes : Whitelist := .ofNames defaultAttributes
  maxDepth : UInt64 := UInt64.ofNat Rule.defaultMaxDepth
  /-- Whether characters that start no token are passed over. -/
  lenientTokens : Bool := false
  /-- Parsed rules that are kept; none at 0. -/
  cacheCapacity : UInt64 := 1024
  deriving DecidableEq

inductive ConfigError where
  | noAttributes
  | zeroDepth
  | deepNesting (given : UInt64)
  | invalidVariable (name value : String)
  /-- The document is not the JSON form of a configuration. -/
  | malformed
  deriving DecidableEq

abbrev Environment := String → Option String

namespace Config

def maxDepthLimit : UInt64 := 512

def parseOptions (config : Config) : Rule.ParseOptions :=
  ⟨config.maxDepth.toNat, config.lenientTokens⟩

def check (config : Config) : Except ConfigError Config :=
  if config.attributes.isEmpty then .error .noAttributes
  else if config.maxDepth = 0 then .error .zeroDepth
  else if config.maxDepth > maxDepthLimit then .error (.deepNesting config.maxDepth)
  else .ok config

/-! ## JSON -/

def fields : Json.Fields where
  names := ["attributes", "max_depth", "lenient_tokens", "cache_capacity"]
  closed := true
  shortened := true

/-- A setting that is not given keeps its default. -/
def setting (read : Json → Option α) (default : α) : Option Json → Option α
  | none => some default
  | some json => read json

def ofJson? (json : Json) : Option Config := do
  match ← fields.read json with
  | [attributes, maxDepth, lenientTokens, cacheCapacity] =>
    let default : Config := {}
    return {
      attributes := ← setting Whitelist.ofJson? default.attributes attributes
      maxDepth := ← setting Json.word? default.maxDepth maxDepth
      lenientTokens := ← setting Json.bool? default.lenientTokens lenientTokens
      cacheCapacity := ← setting Json.word? default.cacheCapacity cacheCapacity }
  | _ => none

def read (text : String) : Except ConfigError Config :=
  match Json.read? text >>= ofJson? with
  | some config => config.check
  | none => .error .malformed

def toJson (config : Config) : Json :=
  .object [
    ("attributes", config.attributes.toJson),
    ("max_depth", .integer config.maxDepth.toNat),
    ("lenient_tokens", .bool config.lenientTokens),
    ("cache_capacity", .integer config.cacheCapacity.toNat)]

/-! ## Environment -/

/-- Digits after an optional plus sign, within 64 bits. -/
def word? (text : String) : Option UInt64 :=
  let digits := match text.toList with
    | '+' :: rest => rest
    | rest => rest
  Number.natOfDigits? digits >>= Number.uint64?

def flag? (text : String) : Option Bool :=
  if text = "true" then some true else if text = "false" then some false else none

/-- The value of a variable, blanks around it aside; `default` if it is not set. -/
def fromVariable (env : Environment) (name : String) (read : String → Option α) (default : α) :
    Except ConfigError α :=
  match env name with
  | none => .ok default
  | some raw =>
    match read (Text.trim raw) with
    | some value => .ok value
    | none => .error (.invalidVariable name raw)

/-- Replaces the settings for which a variable is set and checks the outcome. -/
def override (config : Config) (env : Environment) : Except ConfigError Config := do
  let attributes := match env "RULEKIT_ATTRIBUTES" with
    | some list => Whitelist.ofCommaSeparated list
    | none => config.attributes
  let maxDepth ← fromVariable env "RULEKIT_MAX_DEPTH" word? config.maxDepth
  let lenientTokens ← fromVariable env "RULEKIT_LENIENT_TOKENS" flag? config.lenientTokens
  let cacheCapacity ← fromVariable env "RULEKIT_CACHE_CAPACITY" word? config.cacheCapacity
  check ⟨attributes, maxDepth, lenientTokens, cacheCapacity⟩

end Config

/-- What is wrong with a configuration; a malformed document has no wording of its own. -/
def ConfigError.message : ConfigError → String
  | noAttributes => "Configuration error: attribute whitelist is empty"
  | zeroDepth => "Configuration error: max_depth must be at least 1"
  | deepNesting given =>
    "Configuration error: max_depth must be at most " ++ Config.maxDepthLimit.toNat.repr
      ++ ", got " ++ given.toNat.repr
  | invalidVariable name value =>
    "Configuration error: invalid value for " ++ name ++ ": " ++ Text.quoted '"' value
  | malformed => "malformed configuration"

end RecordRules
