import Mathlib.Logic.Equiv.Basic
import Mathlib.Order.Lattice
import Mathlib.Tactic.Common

namespace hub

variable {K : Type} [LinearOrder K] {key key' : Nat → K} {n p : Nat}

/-- The keys at positions `1` to `n` are those of a heap. The children of position `p`
are at `2 * p` and `2 * p + 1`. -/
def Heaped (key : Nat → K) (n : Nat) : Prop := ∀ q, 2 ≤ q → q ≤ n → key (q / 2) ≤ key q

/-- The keys are those of a heap apart from the one at position `p`, which may be any. -/
structure Hole (key : Nat → K) (n p : Nat) : Prop where
  off : ∀ q, 2 ≤ q → q ≤ n → q ≠ p → q / 2 ≠ p → key (q / 2) ≤ key q
  across : ∀ q, 2 ≤ p → q ≤ n → q / 2 = p → key (p / 2) ≤ key q

/-- The key at position `p` is at most too low for its place. -/
structure HoleUp (key : Nat → K) (n p : Nat) : Prop extends Hole key n p where
  below : ∀ q, q ≤ n → q / 2 = p → key p ≤ key q

theorem Heaped.root_le (h : Heaped key n) (hp : 1 ≤ p) (hpn : p ≤ n) : key 1 ≤ key p := by
  induction p using Nat.strongRecOn with
  | ind p ih =>
    by_cases hroot : p = 1
    · rw [hroot]
    · calc
        key 1 ≤ key (p / 2) := ih (p / 2) (by omega) (by omega) (by omega)
        _ ≤ key p := h p (by omega) hpn

theorem Heaped.hole (h : Heaped key n) (p : Nat) : Hole key n p where
  off q hq hqn _ _ := h q hq hqn
  across q hp2 hqn hqp := by
    have hpn : p ≤ n := by omega
    have hup := h p hp2 hpn
    have hdown := h q (by omega) hqn
    rw [hqp] at hdown
    exact hup.trans hdown

theorem Heaped.congr (h : Heaped key n) (hagree : ∀ q, 1 ≤ q → q ≤ n → key' q = key q) : Heaped key' n := by
  intro q hq hqn
  rw [hagree q (by omega) hqn, hagree (q / 2) (by omega) (by omega)]
  exact h q hq hqn

theorem Heaped.append (h : Heaped key n) : HoleUp key (n + 1) (n + 1) where
  off q hq hqn hne _ := h q hq (by omega)
  across q _ hqn hqp := by omega
  below q hqn hqp := by omega

theorem Hole.of_agree (h : Hole key n p) (hagree : ∀ q, 1 ≤ q → q ≤ n → q ≠ p → key' q = key q) : Hole key' n p where
  off q hq hqn hne hhalf := by
    rw [hagree q (by omega) hqn hne, hagree (q / 2) (by omega) (by omega) hhalf]
    exact h.off q hq hqn hne hhalf
  across q hp2 hqn hqp := by
    rw [hagree q (by omega) hqn (by omega), hagree (p / 2) (by omega) (by omega) (by omega)]
    exact h.across q hp2 hqn hqp

theorem Hole.shrink (h : Hole key (n + 1) p) : Hole key n p where
  off q hq hqn hne hhalf := h.off q hq (by omega) hne hhalf
  across q hp2 hqn hqp := h.across q hp2 (by omega) hqp

theorem Hole.heaped_of_last (h : Hole key (n + 1) (n + 1)) : Heaped key n :=
  fun q hq hqn => h.off q hq (by omega) (by omega) (by omega)

theorem HoleUp.heaped (h : HoleUp key n p) (hup : 2 ≤ p → key (p / 2) ≤ key p) : Heaped key n := by
  intro q hq hqn
  by_cases hself : q = p
  · subst hself
    exact hup hq
  · by_cases hhalf : q / 2 = p
    · rw [hhalf]
      exact h.below q hqn hhalf
    · exact h.off q hq hqn hself hhalf

variable {c : Nat}

/-- Moving the lowest child up moves the hole down. -/
theorem Hole.down (h : Hole key n p) (hp : 1 ≤ p) (hc : c / 2 = p) (hcn : c ≤ n)
    (hmin : ∀ q, q ≤ n → q / 2 = p → key c ≤ key q) : Hole (key ∘ Equiv.swap p c) n c where
  off q hq hqn hne hhalf := by
    simp only [Function.comp_apply]
    by_cases hself : q = p
    · -- the edge above the old hole
      subst hself
      rw [Equiv.swap_apply_left, Equiv.swap_apply_of_ne_of_ne (by omega) (by omega)]
      exact h.across c hq hcn hc
    · rw [Equiv.swap_apply_of_ne_of_ne hself hne]
      by_cases hsibling : q / 2 = p
      · rw [hsibling, Equiv.swap_apply_left]
        exact hmin q hqn hsibling
      · rw [Equiv.swap_apply_of_ne_of_ne hsibling hhalf]
        exact h.off q hq hqn hself hsibling
  across q _ hqn hqc := by
    simp only [Function.comp_apply]
    rw [hc, Equiv.swap_apply_left, Equiv.swap_apply_of_ne_of_ne (by omega) (by omega), ← hqc]
    exact h.off q (by omega) hqn (by omega) (by omega)

/-- A key that is too low moves up by one position. -/
theorem HoleUp.up (h : HoleUp key n p) (hp : 2 ≤ p) (hpn : p ≤ n) (hlow : key p < key (p / 2)) :
    HoleUp (key ∘ Equiv.swap (p / 2) p) n (p / 2) where
  off q hq hqn hne hhalf := by
    simp only [Function.comp_apply]
    have hself : q ≠ p := by
      intro heq
      exact hhalf (heq ▸ rfl)
    rw [Equiv.swap_apply_of_ne_of_ne hne hself]
    by_cases hchild : q / 2 = p
    · rw [hchild, Equiv.swap_apply_right]
      exact h.across q hp hqn hchild
    · rw [Equiv.swap_apply_of_ne_of_ne hhalf hchild]
      exact h.off q hq hqn hself hchild
  across q hp2 hqn hqp := by
    simp only [Function.comp_apply]
    have hparent : key (p / 2 / 2) ≤ key (p / 2) := h.off (p / 2) hp2 (by omega) (by omega) (by omega)
    rw [Equiv.swap_apply_of_ne_of_ne (by omega) (by omega)]
    by_cases hself : q = p
    · rw [hself, Equiv.swap_apply_right]
      exact hparent
    · rw [Equiv.swap_apply_of_ne_of_ne (by omega) hself]
      have hsibling := h.off q (by omega) hqn hself (by omega)
      rw [hqp] at hsibling
      exact hparent.trans hsibling
  below q hqn hqp := by
    simp only [Function.comp_apply, Equiv.swap_apply_left]
    by_cases hself : q = p
    · rw [hself, Equiv.swap_apply_right]
      exact hlow.le
    · rw [Equiv.swap_apply_of_ne_of_ne (by omega) hself]
      have hsibling := h.off q (by omega) hqn hself (by omega)
      rw [hqp] at hsibling
      exact hlow.le.trans hsibling

end hub
