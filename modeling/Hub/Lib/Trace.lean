import Mathlib.Logic.Basic

namespace hub

universe u v w x

variable {σ : Type u} {τ : Type v} {ℓ : Type w} {ρ : Type x}

/-- Executes the labels in order and collects what the steps return. A step that yields
nothing has no defined outcome. -/
def trace (step : σ → ℓ → Option (σ × ρ)) : σ → List ℓ → Option (σ × List ρ)
  | state, [] => some (state, [])
  | state, label :: labels =>
    (step state label).bind fun next =>
      (trace step next.1 labels).map fun rest => (rest.1, next.2 :: rest.2)

/-- In related states the label is defined on both sides, returns the same and leads to
related states again. -/
def StepMatches (step : σ → ℓ → Option (σ × ρ)) (spec : τ → ℓ → Option (τ × ρ)) (R : σ → τ → Prop)
    (state : σ) (abstract : τ) (label : ℓ) : Prop :=
  ∃ next abstract' result, step state label = some (next, result) ∧ spec abstract label = some (abstract', result) ∧
    R next abstract'

/-- The outcome of a step on the lower side, if there is one, is that of the specification,
and the states that follow are related. -/
def Agrees (R : σ → τ → Prop) (outcome : Option (σ × ρ)) (spec : τ × ρ) : Prop :=
  ∃ next, outcome = some (next, spec.2) ∧ R next spec.1

namespace Agrees

variable {R : σ → τ → Prop} {outcome other : Option (σ × ρ)} {spec spec' : τ × ρ}

theorem keep {state : σ} {abstract : τ} (h : R state abstract) (result : ρ) :
    Agrees R (some (state, result)) (abstract, result) :=
  ⟨state, rfl, h⟩

theorem ite {c d : Prop} [Decidable c] [Decidable d] (hiff : c ↔ d) (hthen : c → Agrees R outcome spec)
    (helse : ¬c → Agrees R other spec') : Agrees R (if c then outcome else other) (if d then spec else spec') := by
  by_cases hc : c
  · rw [if_pos hc, if_pos (hiff.mp hc)]
    exact hthen hc
  · rw [if_neg hc, if_neg (mt hiff.mpr hc)]
    exact helse hc

theorem stepMatches {step : σ → ℓ → Option (σ × ρ)} {spec : τ → ℓ → τ × ρ} {state : σ} {abstract : τ} {label : ℓ}
    (h : Agrees R (step state label) (spec abstract label)) :
    StepMatches step (fun abstract label => some (spec abstract label)) R state abstract label := by
  obtain ⟨next, hstep, hnext⟩ := h
  exact ⟨next, _, _, hstep, rfl, hnext⟩

end Agrees

/-- The simulation rule: when every step from related states matches, so do the runs, with
all that they return. -/
theorem trace_simulation {step : σ → ℓ → Option (σ × ρ)} {spec : τ → ℓ → Option (τ × ρ)} (R : σ → τ → Prop)
    (hstep : ∀ state abstract label, R state abstract → StepMatches step spec R state abstract label)
    {state : σ} {abstract : τ} (hR : R state abstract) (labels : List ℓ) :
    ∃ last abstract' results, trace step state labels = some (last, results) ∧
      trace spec abstract labels = some (abstract', results) ∧ R last abstract' := by
  induction labels generalizing state abstract with
  | nil => exact ⟨state, abstract, [], rfl, rfl, hR⟩
  | cons label labels ih =>
    obtain ⟨next, abstract₁, result, hnext, hspec, hR₁⟩ := hstep state abstract label hR
    obtain ⟨last, abstract', results, hlast, habstract, hR'⟩ := ih hR₁
    refine ⟨last, abstract', result :: results, ?_, ?_, hR'⟩
    · simp [trace, hnext, hlast]
    · simp [trace, hspec, habstract]

end hub
