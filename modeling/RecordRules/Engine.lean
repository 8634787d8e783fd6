import RecordRules.Config
import RecordRules.Engine.Cache
import RecordRules.Lint

/-!
# Rule engine

An engine is a configuration and a cache of the rules it has parsed. Operations that go
through the cache return the engine as they leave it; a text that gives no rule leaves
it as it was.
-/

namespace RecordRules

structure Engine where
  config : Config
  cache : Cache

namespace Engine

def ofConfig (config : Config) : Engine :=
  ⟨config, { capacity := config.cacheCapacity.toNat }⟩

def create (engine : Engine) (text : String) : Except RuleError Rule :=
  Rule.create engine.config.attributes engine.config.parseOptions text

/-- The rule of a text, from the cache if it is there. -/
def parse (engine : Engine) (text : String) : Except RuleError Rule × Engine :=
  match engine.cache.find? text with
  | some rule => (.ok rule, { engine with cache := engine.cache.use text rule })
  | none =>
    match engine.create text with
    | .ok rule => (.ok rule, { engine with cache := engine.cache.use text rule })
    | .error error => (.error error, engine)

def answer (rule : Rule) (lookup : Lookup) : Except RuleError Bool :=
  (rule.evaluate lookup).mapError .evaluation

def evaluate (engine : Engine) (text : String) (lookup : Lookup) : Except RuleError Bool × Engine :=
  match engine.parse text with
  | (.ok rule, engine) => (answer rule lookup, engine)
  | (.error error, engine) => (.error error, engine)

def combine (engine : Engine) (texts : List String) : Except RuleError Rule :=
  Rule.combine engine.config.attributes engine.config.parseOptions texts

def lint (engine : Engine) (text : String) : LintReport :=
  .ofText engine.config.attributes engine.config.parseOptions text

def clearCache (engine : Engine) : Engine :=
  { engine with cache := engine.cache.clear }

end Engine

end RecordRules
