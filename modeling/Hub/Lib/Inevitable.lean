import Hub.Lib.Run

namespace hub

universe u v

variable {σ : Type u} {ℓ : Type v}

/-- Every run reaches `goal`. The labels of `environment` are taken by others, finitely many
between two labels of the system; a label of `certain` is not put off for ever while it can
be taken; and all other labels may or may not come. -/
inductive Inevitable (step : σ → ℓ → Option σ) (environment certain : ℓ → Prop) (goal : σ → Prop) : σ → Prop where
  | reached {state : σ} (hgoal : goal state) : Inevitable step environment certain goal state
  | onward {state : σ}
      (henabled : ∀ labels middle, (∀ label ∈ labels, environment label) → run step state labels = some middle →
        ∃ label, certain label ∧ (step middle label).isSome)
      (hnext : ∀ labels middle, (∀ label ∈ labels, environment label) → run step state labels = some middle →
        ∀ label next, ¬ environment label → step middle label = some next →
          Inevitable step environment certain goal next) :
      Inevitable step environment certain goal state

namespace Inevitable

variable {step : σ → ℓ → Option σ} {environment certain : ℓ → Prop} {goal : σ → Prop} {state next : σ} {label : ℓ}

section

variable (h : Inevitable step environment certain goal state) (hgoal : ¬ goal state)

include h hgoal

theorem enabled :
    ∃ label, certain label ∧ (step state label).isSome := by
  cases h with
  | reached hreached => exact absurd hreached hgoal
  | onward henabled _ => exact henabled [] state (fun label hlabel => absurd hlabel List.not_mem_nil) rfl

theorem of_system (hlabel : ¬ environment label) (hstep : step state label = some next) :
    Inevitable step environment certain goal next := by
  cases h with
  | reached hreached => exact absurd hreached hgoal
  | onward _ hnext =>
    exact hnext [] state (fun label hlabel => absurd hlabel List.not_mem_nil) rfl label next hlabel hstep

theorem of_environment (hlabel : environment label) (hstep : step state label = some next) :
    Inevitable step environment certain goal next := by
  cases h with
  | reached hreached => exact absurd hreached hgoal
  | onward henabled hnext =>
    have hcons : ∀ labels, (∀ other ∈ labels, environment other) → ∀ other ∈ label :: labels, environment other := by
      intro labels hlabels other hother
      rcases List.mem_cons.mp hother with rfl | hother
      · exact hlabel
      · exact hlabels other hother
    refine .onward (fun labels middle hlabels hrun => ?_) fun labels middle hlabels hrun => ?_
    · exact henabled (label :: labels) middle (hcons labels hlabels) (run_cons_eq_some.mpr ⟨next, hstep, hrun⟩)
    · exact hnext (label :: labels) middle (hcons labels hlabels) (run_cons_eq_some.mpr ⟨next, hstep, hrun⟩)

end

/-- The rank rule: the labels of the system lower the rank until the goal is reached, and
those of the others do not raise it. -/
theorem of_rank (Inv : σ → Prop) (rank : σ → Nat)
    (henvironment : ∀ state label next, Inv state → environment label → step state label = some next →
      Inv next ∧ rank next ≤ rank state)
    (hcertain : ∀ state, Inv state → ∃ label, certain label ∧ (step state label).isSome)
    (hsystem : ∀ state label next, Inv state → ¬ environment label → step state label = some next →
      goal next ∨ (Inv next ∧ rank next < rank state))
    (hstate : Inv state) : Inevitable step environment certain goal state := by
  induction hrank : rank state using Nat.strongRecOn generalizing state with
  | ind bound ih =>
    subst hrank
    have hmiddle : ∀ labels middle, (∀ label ∈ labels, environment label) → run step state labels = some middle →
        Inv middle ∧ rank middle ≤ rank state := by
      intro labels middle hlabels hrun
      refine run_invariant_of_meets (fun middle => Inv middle ∧ rank middle ≤ rank state) ?_ ⟨hstate, Nat.le_refl _⟩
        (Meets.of_forall hlabels state) hrun
      intro before label after hbefore hlabel hstep
      obtain ⟨hinv, hle⟩ := henvironment before label after hbefore.1 hlabel hstep
      exact ⟨hinv, Nat.le_trans hle hbefore.2⟩
    refine .onward (fun labels middle hlabels hrun => ?_) fun labels middle hlabels hrun label next hlabel hstep => ?_
    · exact hcertain middle (hmiddle labels middle hlabels hrun).1
    · obtain ⟨hinv, hle⟩ := hmiddle labels middle hlabels hrun
      obtain hgoal | ⟨hinv', hlt⟩ := hsystem middle label next hinv hlabel hstep
      · exact .reached hgoal
      · exact ih (rank next) (Nat.lt_of_lt_of_le hlt hle) hinv' rfl

/-- The system can stay among the states of `Trap` for ever, none of which is a goal. -/
theorem not_of_trap (Trap : σ → Prop) (hgoal : ∀ state, Trap state → ¬ goal state)
    (hstep : ∀ state, Trap state → ∃ label next, ¬ environment label ∧ step state label = some next ∧ Trap next)
    (hstate : Trap state) : ¬ Inevitable step environment certain goal state := by
  intro h
  induction h with
  | reached hreached => exact hgoal _ hstate hreached
  | @onward state _ _ ih =>
    obtain ⟨label, next, hlabel, hnext, htrap⟩ := hstep state hstate
    exact ih [] state (fun label hlabel => absurd hlabel List.not_mem_nil) rfl label next hlabel hnext htrap

end Inevitable

end hub
