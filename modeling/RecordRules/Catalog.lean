import RecordRules.Engine
import RecordRules.Usage

/-!
# Rule catalog

Named, versioned rules under ids that are given out in order and never again. A text is
parsed by the engine before it is stored. Every operation returns the catalog as it
leaves it; after a failure at most the engine's cache has changed. An operation that
stamps a rule or its statistics is given what the clock reads.
-/

namespace RecordRules

structure StoredRule where
  id : RuleId
  name : String
  description : String
  text : String
  createdAt : Timestamp
  updatedAt : Timestamp
  /-- Starts at 1 and grows with every update. -/
  version : UInt32
  /-- For information; an inactive rule is evaluated as well. -/
  active : Bool
  deriving DecidableEq

structure NewRule where
  name : String
  description : String := ""
  text : String
  deriving DecidableEq

structure RuleUpdate where
  name : Option String := none
  description : Option String := none
  text : Option String := none
  active : Option Bool := none
  deriving DecidableEq

/-! ## Requests as JSON -/

/-- The description may be left out of an object. -/
def NewRule.ofJson? (json : Json) : Option NewRule := do
  match ← Json.Fields.read ⟨["name", "description", "rule_string"], false, false⟩ json with
  | [name, description, text] =>
    return {
      name := ← (← name).string?
      description := ← (description.getD (.string "")).string?
      text := ← (← text).string? }
  | _ => none

/-- A field may be left out of an object, or null. -/
def RuleUpdate.ofJson? (json : Json) : Option RuleUpdate := do
  match ← Json.Fields.read ⟨["name", "description", "rule_string", "active"], false, false⟩ json with
  | [name, description, text, active] =>
    return {
      name := ← optional Json.string? name
      description := ← optional Json.string? description
      text := ← optional Json.string? text
      active := ← optional Json.bool? active }
  | _ => none
where
  optional {α : Type} (read : Json → Option α) : Option Json → Option (Option α)
    | none | some .null => some none
    | some json => (read json).map some

def NewRule.read? (text : String) : Option NewRule := do
  ofJson? (← Json.read? text)

def RuleUpdate.read? (text : String) : Option RuleUpdate := do
  ofJson? (← Json.read? text)

/-- The rule with the fields that the update gives, one version on. -/
def RuleUpdate.apply (update : RuleUpdate) (now : Timestamp) (rule : StoredRule) : StoredRule where
  id := rule.id
  name := update.name.getD rule.name
  description := update.description.getD rule.description
  text := update.text.getD rule.text
  createdAt := rule.createdAt
  updatedAt := now
  version := rule.version + 1
  active := update.active.getD rule.active

/-! ## The catalog -/

structure Catalog where
  engine : Engine
  rules : Std.ExtTreeMap RuleId StoredRule := ∅
  nextId : RuleId := 1
  usage : UsageLog := ∅

namespace Catalog

def ofEngine (engine : Engine) : Catalog := { engine }

def create (catalog : Catalog) (new : NewRule) (now : Timestamp := 0) :
    Except RuleError StoredRule × Catalog :=
  match catalog.engine.parse new.text with
  | (.error error, engine) => (.error error, { catalog with engine })
  | (.ok _, engine) =>
    let id := catalog.nextId
    let rule : StoredRule :=
      { id, name := new.name, description := new.description, text := new.text
        createdAt := now, updatedAt := now, version := 1, active := true }
    (.ok rule, { catalog with engine, rules := catalog.rules.insert id rule, nextId := id + 1 })

def get (catalog : Catalog) (id : RuleId) : Except RuleError StoredRule :=
  match catalog.rules[id]? with
  | some rule => .ok rule
  | none => .error (.unknownRule id)

def list (catalog : Catalog) : List StoredRule :=
  catalog.rules.toList.map Prod.snd

def size (catalog : Catalog) : Nat := catalog.rules.size

def isEmpty (catalog : Catalog) : Bool := catalog.rules.isEmpty

def replace (catalog : Catalog) (id : RuleId) (update : RuleUpdate) (now : Timestamp) :
    Except RuleError StoredRule × Catalog :=
  match catalog.get id with
  | .error error => (.error error, catalog)
  | .ok rule =>
    let rule := update.apply now rule
    (.ok rule, { catalog with rules := catalog.rules.insert id rule })

/-- Updates a rule; a new text has to be acceptable even if there is no such rule. -/
def update (catalog : Catalog) (id : RuleId) (update : RuleUpdate) (now : Timestamp := 0) :
    Except RuleError StoredRule × Catalog :=
  match update.text with
  | none => catalog.replace id update now
  | some text =>
    match catalog.engine.parse text with
    | (.error error, engine) => (.error error, { catalog with engine })
    | (.ok _, engine) => replace { catalog with engine } id update now

def delete (catalog : Catalog) (id : RuleId) : Except RuleError StoredRule × Catalog :=
  match catalog.get id with
  | .error error => (.error error, catalog)
  | .ok rule =>
    (.ok rule, { catalog with rules := catalog.rules.erase id, usage := catalog.usage.forget id })

/-- Evaluates a stored rule; only an evaluation that gives an answer is counted, with the
time it took. -/
def evaluate (catalog : Catalog) (id : RuleId) (lookup : Lookup) (nanoseconds : Nat)
    (now : Timestamp := 0) : Except RuleError Bool × Catalog :=
  match catalog.get id with
  | .error error => (.error error, catalog)
  | .ok rule =>
    match catalog.engine.evaluate rule.text lookup with
    | (.error error, engine) => (.error error, { catalog with engine })
    | (.ok outcome, engine) =>
      (.ok outcome,
        { catalog with engine, usage := catalog.usage.track id nanoseconds outcome now })

def combine (catalog : Catalog) (ids : List RuleId) : Except RuleError Rule := do
  let rules ← ids.mapM catalog.get
  catalog.engine.combine (rules.map StoredRule.text)

def report (catalog : Catalog) (id : RuleId) : Except RuleError UsageReport := do
  let _ ← catalog.get id
  return catalog.usage.report id

end Catalog

end RecordRules
