import Mathlib.Data.List.Induction
import RecordRules.Proofs.Distinct
import RecordRules.Proofs.Engine.Session

/-!
# What the cache holds

The cache of an engine is told by what the engine was used for: of the valid texts that were
parsed or evaluated since the cache was last cleared, it holds the most recent distinct ones,
as many as it has room for (`texts_session`).  Nothing else that is asked of an engine makes
a difference to it.
-/

namespace RecordRules

/-! ## Using the cache -/

namespace Cache

def texts (cache : Cache) : List String := cache.entries.map Prod.fst

section

variable {cache : Cache} {text : String}

theorem length_texts (cache : Cache) : cache.texts.length = cache.size := List.length_map _

theorem isSome_find?_iff : (cache.find? text).isSome ↔ text ∈ cache.texts := by
  rw [find?, List.lookup_isSome_iff, texts, List.mem_map]
  simp only [beq_iff_eq, eq_comm (a := text)]

theorem texts_use (cache : Cache) (text : String) (rule : Rule) :
    (cache.use text rule).texts =
      (text :: cache.texts.filter (· ≠ text)).take cache.capacity := by
  rw [texts, use, List.map_take, List.map_cons, texts, List.filter_map]
  rfl

end

end Cache

namespace Engine

def Request.text? : Request → Option String
  | .parse text | .evaluate text _ => some text
  | _ => none

def Request.clears : Request → Bool
  | .clearCache => true
  | _ => false

def Request.use? (config : Config) (request : Request) : Option String :=
  request.text?.filter fun text => ((ofConfig config).create text).isOk

/-- The texts that requests have used since the cache was last cleared, the latest use
first. -/
def uses (config : Config) (requests : List Request) : List String :=
  (requests.reverse.takeWhile (!·.clears)).filterMap (Request.use? config)

section

variable {config : Config} {engine : Engine} {requests : List Request} {request : Request}

theorem uses_nil (config : Config) : uses config [] = [] := rfl

theorem uses_concat_of_clears (h : request.clears) : uses config (requests ++ [request]) = [] := by
  rw [uses, List.reverse_concat, List.takeWhile_cons_of_neg (by simp [h]), List.filterMap_nil]

theorem uses_concat (h : request.clears = false) :
    uses config (requests ++ [request]) =
      (request.use? config).toList ++ uses config requests := by
  rw [uses, List.reverse_concat, List.takeWhile_cons_of_pos (by simp [h]), List.filterMap_cons,
    uses]
  cases request.use? config <;> rfl

/-! ## One request -/

theorem evaluate_snd (engine : Engine) (text : String) (lookup : Lookup) :
    (engine.evaluate text lookup).2 = (engine.parse text).2 := by
  unfold evaluate
  rcases engine.parse text with ⟨_ | rule, later⟩ <;> rfl

theorem handle_snd_of_text? {text : String} (h : request.text? = some text) :
    (engine.handle request).2 = (engine.parse text).2 := by
  cases request with
  | parse other =>
    cases h
    rfl
  | evaluate other lookup =>
    cases h
    exact evaluate_snd engine text lookup
  | _ => cases h

theorem handle_snd_of_use?_eq_none (h : engine.Follows (ofConfig config))
    (hclears : request.clears = false) (huse : request.use? config = none) :
    (engine.handle request).2 = engine := by
  have hparse {text : String} (htext : request.text? = some text) :
      (engine.handle request).2 = engine := by
    rw [Request.use?, htext, Option.filter_eq_none_iff] at huse
    have hfail := huse text rfl
    rw [handle_snd_of_text? htext, parse_eq h.sound, h.create_eq]
    cases hcreate : (ofConfig config).create text with
    | ok rule => exact absurd (by rw [hcreate]; rfl) hfail
    | error error => rfl
  cases request with
  | parse text | evaluate text lookup => exact hparse rfl
  | clearCache => cases hclears
  | create | combine | lint => rfl

theorem handle_snd_of_use? {text : String} (h : engine.Follows (ofConfig config))
    (huse : request.use? config = some text) :
    ∃ rule, (engine.handle request).2 =
      { engine with cache := engine.cache.use text rule } := by
  obtain ⟨htext, hok⟩ := Option.filter_eq_some_iff.1 huse
  rw [handle_snd_of_text? htext, parse_eq h.sound, h.create_eq]
  cases hcreate : (ofConfig config).create text with
  | ok rule => exact ⟨rule, rfl⟩
  | error error =>
    rw [hcreate] at hok
    cases hok

theorem capacity_handle (engine : Engine) (request : Request) :
    (engine.handle request).2.cache.capacity = engine.cache.capacity := by
  have hparse (text : String) : (engine.parse text).2.cache.capacity = engine.cache.capacity := by
    unfold parse
    split
    · rfl
    · split <;> rfl
  cases request with
  | parse text => exact hparse text
  | evaluate text lookup =>
    rw [handle, evaluate_snd]
    exact hparse text
  | create | combine | lint | clearCache => rfl

/-! ## Sessions -/

theorem session_concat (config : Config) (requests : List Request) (request : Request) :
    (session config (requests ++ [request])).2 =
      ((session config requests).2.handle request).2 := by
  rw [session, serve_concat, session]

theorem capacity_session (config : Config) (requests : List Request) :
    (session config requests).2.cache.capacity = config.cacheCapacity.toNat :=
  serve_invariant (·.cache.capacity = config.cacheCapacity.toNat)
    (fun engine request h => (capacity_handle engine request).trans h) rfl requests

theorem texts_session (config : Config) (requests : List Request) :
    (session config requests).2.cache.texts =
      (distinct (uses config requests)).take config.cacheCapacity.toNat := by
  -- uses are listed from the latest one, so the induction takes the last request off
  induction requests using List.reverseRecOn with
  | nil =>
    rw [uses_nil, distinct_nil, List.take_nil, session, serve, ofConfig, Cache.texts,
      List.map_nil]
  | append_singleton requests request ih =>
    have hfollows := follows_session config requests
    rw [session_concat]
    cases hclears : request.clears with
    | true =>
      rw [uses_concat_of_clears hclears, distinct_nil, List.take_nil]
      cases request with
      | clearCache => rfl
      | _ => cases hclears
    | false =>
      rw [uses_concat hclears]
      cases huse : request.use? config with
      | none =>
        rw [handle_snd_of_use?_eq_none hfollows hclears huse, ih]
        rfl
      | some text =>
        obtain ⟨rule, hhandle⟩ := handle_snd_of_use? hfollows huse
        rw [hhandle, Cache.texts_use, ih, capacity_session, take_cons_filter_take]
        rfl

/-- A text that is found is answered with the rule that it is found with, which is the one that
would be created, and goes in front of the others, all of which stay. -/
theorem parse_of_find? {text : String} {rule : Rule}
    (h : (session config requests).2.cache.find? text = some rule) :
    let engine := (session config requests).2
    (engine.parse text).1 = .ok rule ∧ engine.create text = .ok rule ∧
      (engine.parse text).2.cache.texts = text :: engine.cache.texts.filter (· ≠ text) := by
  intro engine
  have hparse : engine.parse text =
      (.ok rule, { engine with cache := engine.cache.use text rule }) := by rw [parse, h]
  have hcreate : engine.create text = .ok rule :=
    sound_session config requests text rule (Cache.mem_entries_of_find? h)
  refine ⟨congrArg Prod.fst hparse, hcreate, ?_⟩
  have hmem : text ∈ engine.cache.texts := Cache.isSome_find?_iff.1 (Option.isSome_of_eq_some h)
  have hless : (engine.cache.texts.filter (· ≠ text)).length < engine.cache.texts.length :=
    List.length_filter_lt_length_iff_exists.2 ⟨text, hmem, by simp⟩
  have hroom : engine.cache.texts.length ≤ engine.cache.capacity := by
    rw [texts_session, capacity_session]
    exact List.length_take_le _ _
  rw [hparse, Cache.texts_use, List.take_of_length_le]
  exact Nat.le_trans hless hroom

/-- The cache holds the most recently used valid texts: of the distinct ones used since it was
last cleared, the latest use first, as many as it has room for.  So a text is found if it was
used and fewer others than that were used later, and then it is answered from the cache.  Nothing
but a use changes the engine, and evaluating a text uses it as parsing it does, whatever the
outcome. -/
theorem session_cache_most_recent (config : Config) (requests : List Request) :
    let engine := (session config requests).2
    let recent := uses config requests
    let capacity := config.cacheCapacity.toNat
    engine.cache.texts = (distinct recent).take capacity ∧
      engine.cache.size = min capacity (distinct recent).length ∧
      (∀ text, (engine.cache.find? text).isSome ↔
        ∃ later earlier, recent = later ++ text :: earlier ∧ text ∉ later ∧
          (distinct later).length < capacity) ∧
      (∀ text rule, engine.cache.find? text = some rule →
        (engine.parse text).1 = .ok rule ∧ engine.create text = .ok rule ∧
          (engine.parse text).2.cache.texts = text :: engine.cache.texts.filter (· ≠ text)) ∧
      (∀ request : Request, request.clears = false → request.use? config = none →
        (engine.handle request).2 = engine) ∧
      ∀ text lookup,
        (engine.handle (.evaluate text lookup)).2 = (engine.handle (.parse text)).2 := by
  have htexts := texts_session config requests
  have hfollows := follows_session config requests
  refine ⟨htexts, ?_, fun text => ?_, fun text rule => parse_of_find?,
    fun request hclears huse => ?_, fun text lookup => ?_⟩
  · rw [← Cache.length_texts, htexts, List.length_take]
  · rw [Cache.isSome_find?_iff, htexts, mem_take_distinct_iff]
  · exact handle_snd_of_use?_eq_none hfollows hclears huse
  · rw [handle_snd_of_text? rfl, handle_snd_of_text? rfl]

example :
    let requests := ["age > 1", "age > 2", "age >", "age > 1", "age > 3"].map Request.parse
    (session { cacheCapacity := 2 } requests).2.cache.texts = ["age > 3", "age > 1"] := by
  decide +kernel

end

end Engine

end RecordRules
