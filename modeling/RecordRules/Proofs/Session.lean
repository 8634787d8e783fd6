import Mathlib.Data.List.Forall2

/-!
# Sessions

A system that answers inputs one at a time is a function from its state and an input to an
output and the next state; `serve` puts it to a list of inputs.  What holds along every
session is shown of one step:

* `serve_invariant`: what every step preserves holds in the end;
* `serve_simulation`: two systems whose steps stay related give outputs that look alike.
-/

namespace RecordRules

variable {σ τ ι κ ο π ω : Type}

def serve (step : σ → ι → ο × σ) (state : σ) : List ι → List ο × σ
  | [] => ([], state)
  | input :: inputs =>
    let first := step state input
    let rest := serve step first.2 inputs
    (first.1 :: rest.1, rest.2)

variable {step : σ → ι → ο × σ} {step' : τ → κ → π × τ}

theorem serve_concat (state : σ) (inputs : List ι) (input : ι) :
    serve step state (inputs ++ [input]) =
      ((serve step state inputs).1 ++ [(step (serve step state inputs).2 input).1],
        (step (serve step state inputs).2 input).2) := by
  induction inputs generalizing state with
  | nil => rfl
  | cons first inputs ih =>
    rw [List.cons_append, serve, ih]
    rfl

theorem filterMap_concat {α β : Type} (f : α → Option β) (as : List α) (a : α) :
    (as ++ [a]).filterMap f = as.filterMap f ++ (f a).toList := by
  rw [List.filterMap_append, List.filterMap_cons]
  cases f a <;> rfl

theorem serve_invariant (holds : σ → Prop)
    (hstep : ∀ state input, holds state → holds (step state input).2) {state : σ}
    (hstate : holds state) (inputs : List ι) : holds (serve step state inputs).2 := by
  induction inputs generalizing state with
  | nil => exact hstate
  | cons input inputs ih => exact ih (hstep state input hstate)

theorem serve_simulation (related : σ → τ → Prop) (alike : ι → κ → Prop) (view : ο → ω)
    (view' : π → ω)
    (hstep : ∀ state state' input input', related state state' → alike input input' →
      view (step state input).1 = view' (step' state' input').1 ∧
        related (step state input).2 (step' state' input').2)
    {state : σ} {state' : τ} (hstate : related state state') {inputs : List ι} {inputs' : List κ}
    (hinputs : List.Forall₂ alike inputs inputs') :
    (serve step state inputs).1.map view = (serve step' state' inputs').1.map view' := by
  induction hinputs generalizing state state' with
  | nil => rfl
  | cons hinput _ ih =>
    obtain ⟨houtput, hnext⟩ := hstep _ _ _ _ hstate hinput
    exact congr (congrArg List.cons houtput) (ih hnext)

end RecordRules
