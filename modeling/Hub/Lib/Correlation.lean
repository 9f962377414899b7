import Mathlib.Tactic.Common

namespace hub

/-- How far the request of a call is known to a table of outstanding requests: the
call is outside, it has its number and is not in the table yet, or it was entered with
the resource that its answer goes to. -/
inductive Standing (ρ : Type) where
  | absent
  | preparing
  | listed (r : ρ)
deriving DecidableEq

/-- Calls `ι` and their answers `κ` are matched by number. `table` finds the resource of
an outstanding request, and `target` are the answers under way, each with the number
it was found under and the resource that was found. -/
structure Correlated {ι κ ν ρ : Type} (standing : ι → Standing ρ) (number : ι → ν) (table : ν → Option ρ)
    (target : κ → Option (ν × ρ)) : Prop where
  distinct : ∀ i j, standing i ≠ .absent → standing j ≠ .absent → number i = number j → i = j
  entry : ∀ n r, table n = some r → ∃ i, standing i = .listed r ∧ number i = n
  early : ∀ i, standing i = .preparing → ∀ k n r, target k = some (n, r) → n ≠ number i
  aimed : ∀ i r, standing i = .listed r → ∀ k n r', target k = some (n, r') → n = number i → r' = r

namespace Correlated

variable {ι κ ν ρ : Type} {standing standing' : ι → Standing ρ} {number number' : ι → ν}
  {table table' : ν → Option ρ} {target target' : κ → Option (ν × ρ)} {i : ι}

section

variable (h : Correlated standing number table target)

include h

theorem shrink (hstanding : ∀ j, standing' j = standing j)
    (hnumber : ∀ j, number' j = number j) (htable : ∀ n r, table' n = some r → table n = some r)
    (htarget : ∀ k n r, target' k = some (n, r) → target k = some (n, r)) :
    Correlated standing' number' table' target' := by
  have hs : standing' = standing := funext hstanding
  have hn : number' = number := funext hnumber
  subst hs hn
  exact ⟨h.distinct, fun n r hentry => h.entry n r (htable n r hentry),
    fun j hj k n r hk => h.early j hj k n r (htarget k n r hk),
    fun j r hj k n r' hk => h.aimed j r hj k n r' (htarget k n r' hk)⟩

/-- A call gets a number that no other call and no answer under way has. -/
theorem enter (hold : standing i = .absent)
    (hself : standing' i = .preparing) (hothers : ∀ j, j ≠ i → standing' j = standing j ∧ number' j = number j)
    (hunused : ∀ j, standing j ≠ .absent → number j ≠ number' i)
    (hunaimed : ∀ k n r, target k = some (n, r) → n ≠ number' i) :
    Correlated standing' number' table target := by
  have hlisted : ∀ j r, standing' j = .listed r → j ≠ i := by
    rintro j r hj rfl
    rw [hself] at hj
    cases hj
  constructor
  · intro j k hj hk hnumber
    by_cases hji : j = i
    · by_cases hki : k = i
      · rw [hji, hki]
      · rw [(hothers k hki).1] at hk
        rw [hji, (hothers k hki).2] at hnumber
        exact absurd hnumber.symm (hunused k hk)
    · rw [(hothers j hji).1] at hj
      by_cases hki : k = i
      · rw [hki, (hothers j hji).2] at hnumber
        exact absurd hnumber (hunused j hj)
      · rw [(hothers k hki).1] at hk
        rw [(hothers j hji).2, (hothers k hki).2] at hnumber
        exact h.distinct j k hj hk hnumber
  · intro n r hentry
    obtain ⟨j, hj, hn⟩ := h.entry n r hentry
    have hji : j ≠ i := by
      rintro rfl
      rw [hold] at hj
      cases hj
    exact ⟨j, (hothers j hji).1.trans hj, (hothers j hji).2.trans hn⟩
  · intro j hj k n r hk
    by_cases hji : j = i
    · rw [hji]
      exact hunaimed k n r hk
    · rw [(hothers j hji).1] at hj
      rw [(hothers j hji).2]
      exact h.early j hj k n r hk
  · intro j r hj k n r' hk hn
    have hji := hlisted j r hj
    rw [(hothers j hji).1] at hj
    rw [(hothers j hji).2] at hn
    exact h.aimed j r hj k n r' hk hn

theorem table_eq_none (hi : standing i = .preparing) :
    table (number i) = none := by
  cases hentry : table (number i) with
  | none => rfl
  | some r =>
    obtain ⟨j, hj, hn⟩ := h.entry _ r hentry
    have hji : j = i := h.distinct j i (by rw [hj]; simp) (by rw [hi]; simp) hn
    rw [hji, hi] at hj
    cases hj

theorem list {r : ρ} (hold : standing i = .preparing)
    (hself : standing' i = .listed r) (hothers : ∀ j, j ≠ i → standing' j = standing j)
    (hentry : ∀ n r', table' n = some r' → (n = number i ∧ r' = r) ∨ table n = some r') :
    Correlated standing' number table' target := by
  have habsent : ∀ j, standing' j ≠ .absent → standing j ≠ .absent := by
    intro j hj
    by_cases hji : j = i
    · rw [hji, hold]
      simp
    · rwa [hothers j hji] at hj
  constructor
  · exact fun j k hj hk hn => h.distinct j k (habsent j hj) (habsent k hk) hn
  · intro n r' hn
    rcases hentry n r' hn with ⟨rfl, rfl⟩ | hn
    · exact ⟨i, hself, rfl⟩
    · obtain ⟨j, hj, hnumber⟩ := h.entry n r' hn
      have hji : j ≠ i := by
        rintro rfl
        rw [hold] at hj
        cases hj
      exact ⟨j, (hothers j hji).trans hj, hnumber⟩
  · intro j hj k n r' hk
    have hji : j ≠ i := by
      rintro rfl
      rw [hself] at hj
      cases hj
    rw [hothers j hji] at hj
    exact h.early j hj k n r' hk
  · intro j r' hj k n r'' hk hn
    by_cases hji : j = i
    · rw [hji] at hn
      exact absurd hn (h.early i hold k n r'' hk)
    · rw [hothers j hji] at hj
      exact h.aimed j r' hj k n r'' hk hn

theorem leave (hself : standing' i = .absent) (hothers : ∀ j, j ≠ i → standing' j = standing j)
    (hentry : ∀ n r, table' n = some r → n ≠ number i ∧ table n = some r) :
    Correlated standing' number table' target := by
  have hne : ∀ j, standing' j ≠ .absent → j ≠ i := by
    rintro j hj rfl
    exact hj hself
  constructor
  · intro j k hj hk hn
    rw [hothers j (hne j hj)] at hj
    rw [hothers k (hne k hk)] at hk
    exact h.distinct j k hj hk hn
  · intro n r hn
    obtain ⟨hni, hn⟩ := hentry n r hn
    obtain ⟨j, hj, rfl⟩ := h.entry n r hn
    have hji : j ≠ i := by
      rintro rfl
      exact hni rfl
    exact ⟨j, (hothers j hji).trans hj, rfl⟩
  · intro j hj k n r hk
    rw [hothers j (hne j (by rw [hj]; simp))] at hj
    exact h.early j hj k n r hk
  · intro j r hj k n r' hk hn
    rw [hothers j (hne j (by rw [hj]; simp))] at hj
    exact h.aimed j r hj k n r' hk hn

theorem find {k : κ} {n : ν} {r : ρ} (hfound : table n = some r) (hself : target' k = some (n, r))
    (hothers : ∀ k', k' ≠ k → target' k' = target k') (htable : ∀ n r, table' n = some r → table n = some r) :
    Correlated standing number table' target' := by
  obtain ⟨i, hi, hnumber⟩ := h.entry n r hfound
  have hcases : ∀ k' n' r', target' k' = some (n', r') → (n' = n ∧ r' = r) ∨ target k' = some (n', r') := by
    intro k' n' r' hk'
    by_cases hkk : k' = k
    · rw [hkk, hself] at hk'
      cases hk'
      exact .inl ⟨rfl, rfl⟩
    · rw [hothers k' hkk] at hk'
      exact .inr hk'
  constructor
  · exact h.distinct
  · exact fun n r hn => h.entry n r (htable n r hn)
  · intro j hj k' n' r' hk'
    rcases hcases k' n' r' hk' with ⟨rfl, rfl⟩ | hk'
    · intro hn
      have hji : j = i := h.distinct j i (by rw [hj]; simp) (by rw [hi]; simp) (hn.symm.trans hnumber.symm)
      rw [hji, hi] at hj
      cases hj
    · exact h.early j hj k' n' r' hk'
  · intro j s hj k' n' r' hk' hn
    rcases hcases k' n' r' hk' with ⟨rfl, rfl⟩ | hk'
    · have hji : j = i := h.distinct j i (by rw [hj]; simp) (by rw [hi]; simp) (hn.symm.trans hnumber.symm)
      rw [hji, hi] at hj
      cases hj
      rfl
    · exact h.aimed j s hj k' n' r' hk' hn

end

end Correlated

end hub
