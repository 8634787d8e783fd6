import RecordRules.Proofs.Catalog.Session

/-!
# Calls that fail

Whatever step of an operation fails, the catalog keeps its rules, its next id and its
statistics, and the engine its configuration.  Only what the engine parsed on the way may have
found its way into the cache, or to the front of it.
-/

namespace RecordRules

namespace Engine

def Answer.error? : Answer → Option RuleError
  | .rule (.error error) | .outcome (.error error) => some error
  | _ => none

theorem Follows.eq_with_cache {later engine : Engine} (h : later.Follows engine) :
    later = { engine with cache := later.cache } := by
  obtain ⟨config, cache⟩ := later
  obtain rfl : config = engine.config := h.config_eq
  rfl

end Engine

namespace Catalog

def Answer.error? : Answer → Option RuleError
  | .stored (.error error) | .outcome (.error error) | .rule (.error error)
  | .report (.error error) => some error
  | .engine answer => answer.error?
  | _ => none

theorem change?_eq_none_of_error {event : Event} {error : RuleError}
    (h : event.answer.error? = some error) : event.change? = none := by
  unfold Event.change?
  split
  case h_5 => rfl
  all_goals cases h

theorem Effect.eq_of_nothing {catalog next : Catalog} (h : Effect catalog none next) :
    ∃ cache, next = { catalog with engine := { catalog.engine with cache } } := by
  cases h with
  | nothing hengine => exact ⟨_, by rw [hengine.eq_with_cache]⟩

/-- A call that fails changes nothing but the cache. -/
theorem step_of_error (config : Config) (calls : List Call) (call : Call) (error : RuleError)
    (h : ((session config calls).2.step call).1.answer.error? = some error) :
    let catalog := (session config calls).2
    ∃ cache, (catalog.step call).2 = { catalog with engine := { catalog.engine with cache } } := by
  intro catalog
  have heffect := effect_step (reached_session config calls).sound call
  rw [change?_eq_none_of_error h] at heffect
  exact heffect.eq_of_nothing

theorem step_of_error_missingField :
    let age : Lookup := fun field => if field = "age" then some (.int 35) else none
    let calls : List Call :=
      [⟨.create { name := "senior", text := "age > 30" }, 100, 0⟩, ⟨.evaluate 1 age, 200, 7⟩]
    let catalog := (session {} calls).2
    let call : Call := ⟨.evaluate 1 fun _ => none, 300, 5⟩
    (catalog.step call).1.answer.error? = some (.evaluation (.missingField "age")) ∧
      ∃ cache,
        (catalog.step call).2 = { catalog with engine := { catalog.engine with cache } } := by
  intro age calls catalog call
  have herror : (catalog.step call).1.answer.error? =
      some (.evaluation (.missingField "age")) := by decide +kernel
  exact ⟨herror, step_of_error {} calls call _ herror⟩

end Catalog

end RecordRules
