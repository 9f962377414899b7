import Hub.Base.ObjectPool
import Mathlib.Data.List.Basic

namespace hub.hpp.Borrowers

variable {τ : Type}

/-- Every object is idle, lent or being made, and there are not too many. -/
structure Balanced (s : Borrowers τ) : Prop where
  balance : s.pool._object_num = s.pool.IdleNum + s.lent.length + s.creating
  bounded : s.pool._object_num ≤ s.pool._max_num

/-- What `_object_num` says of a pool. With no object being made, `BorrowNum` is the number of
the lent ones. -/
structure Accounted (s : Borrowers τ) : Prop extends s.Balanced where
  borrowed : s.creating = 0 → s.pool.BorrowNum = s.lent.length

/-- `Clear` finds no object lent and none being made. -/
def ClearsIdle (s : Borrowers τ) : PoolEvent τ → Prop
  | .Clear => s.lent = [] ∧ s.creating = 0
  | _ => True

variable {timeout : UInt64} {s next otherwise : Borrowers τ} {event : PoolEvent τ}

theorem accounted_iff (hmax : s.pool._max_num < range64) : s.Accounted ↔ s.Balanced := by
  refine ⟨fun h => h.toBalanced, fun h => ⟨h, fun hnone => ?_⟩⟩
  obtain ⟨hbalance, hbounded⟩ := h
  simp only [range64, ObjectPool.BorrowNum] at hmax ⊢
  omega

theorem Balanced.takeOr (h : s.Balanced) (hotherwise : otherwise.Balanced) : (s.takeOr otherwise).Balanced := by
  obtain ⟨-, heq⟩ | ⟨object, rest, hobjects, heq⟩ := s.takeOr_cases otherwise
  · rwa [heq]
  · have hbalance := h.balance
    rw [ObjectPool.IdleNum, hobjects, List.length_cons] at hbalance
    rw [heq]
    refine ⟨?_, h.bounded⟩
    simp only [ObjectPool.IdleNum, List.length_cons]
    omega

section Count

variable (h : s.Balanced) (hmax_num : next.pool._max_num = s.pool._max_num)

include h hmax_num

/-- `_object_num` is raised for one more object. -/
theorem Balanced.countUp (hmax : s.pool._max_num < range64) (hroom : s.pool._object_num < s.pool._max_num)
    (hobject_num : next.pool._object_num = sizeUp s.pool._object_num)
    (hmore : next.pool.IdleNum + next.lent.length + next.creating =
      s.pool.IdleNum + s.lent.length + s.creating + 1) : next.Balanced := by
  have hbalance := h.balance
  have hup := sizeUp_of_lt hroom hmax
  constructor
  · omega
  · omega

/-- `_object_num` is lowered for one object less. -/
theorem Balanced.countDown (hobject_num : next.pool._object_num = sizeDown s.pool._object_num)
    (hless : next.pool.IdleNum + next.lent.length + next.creating + 1 =
      s.pool.IdleNum + s.lent.length + s.creating) : next.Balanced := by
  have hbalance := h.balance
  have hbounded := h.bounded
  have hdown := sizeDown_of_pos (show 0 < s.pool._object_num by omega)
  constructor
  · omega
  · omega

end Count

theorem Balanced.step (h : s.Balanced) (hmax : s.pool._max_num < range64)
    (hstep : s.step timeout event = some next) (hevent : event ≠ .Clear) : next.Balanced := by
  have hbalance := h.balance
  have hbounded := h.bounded
  cases event with
  | TryBorrow =>
    cases hstep
    exact h.takeOr h
  | Borrow =>
    cases hstep
    exact h.takeOr ⟨h.balance, h.bounded⟩
  | proceed =>
    obtain ⟨-, hstep⟩ := Option.ite_none_right_eq_some.mp hstep
    split at hstep
    · rename_i hroom
      cases hstep
      exact h.countUp rfl hmax hroom rfl rfl
    · split at hstep
      all_goals
        cases hstep
        exact ⟨hbalance, hbounded⟩
  | created object =>
    obtain ⟨hcreating, hnext⟩ := Option.ite_none_right_eq_some.mp hstep
    cases hnext
    refine ⟨?_, hbounded⟩
    change s.pool._object_num = s.pool.IdleNum + (s.lent.length + 1) + (s.creating - 1)
    omega
  | create_fails =>
    obtain ⟨hcreating, hnext⟩ := Option.ite_none_right_eq_some.mp hstep
    cases hnext
    refine h.countDown rfl rfl ?_
    change s.pool.IdleNum + s.lent.length + (s.creating - 1) + 1 = s.pool.IdleNum + s.lent.length + s.creating
    omega
  | expire | spurious | give_up =>
    obtain ⟨-, hnext⟩ := Option.ite_none_right_eq_some.mp hstep
    cases hnext
    exact ⟨hbalance, hbounded⟩
  | resume late =>
    obtain ⟨-, hstep⟩ := Option.ite_none_right_eq_some.mp hstep
    split at hstep
    · cases hstep
      exact ⟨hbalance, hbounded⟩
    · cases hstep
      exact Balanced.takeOr ⟨hbalance, hbounded⟩ ⟨hbalance, hbounded⟩
  | Return object =>
    obtain ⟨hmem, hnext⟩ := Option.ite_none_right_eq_some.mp hstep
    cases hnext
    have hlent := List.length_erase_add_one hmem
    refine ⟨?_, hbounded⟩
    simp only [notify_one, ObjectPool.Return, ObjectPool.IdleNum, List.length_append,
      List.length_singleton] at hbalance ⊢
    omega
  | Add object =>
    simp only [Borrowers.step] at hstep
    split at hstep
    · rename_i hadd
      cases hstep
      obtain ⟨hroom, hpool⟩ := Option.ite_none_left_eq_some.mp hadd
      cases hpool
      refine h.countUp rfl hmax (Nat.not_le.mp hroom) rfl ?_
      simp only [notify_one, ObjectPool.Return, ObjectPool.countUp, ObjectPool.IdleNum, List.length_append,
        List.length_singleton]
      omega
    · cases hstep
      exact h
  | Remove object =>
    simp only [Borrowers.step] at hstep
    split at hstep
    · rename_i hremove
      cases hstep
      obtain ⟨hmem, hpool⟩ := Option.ite_none_right_eq_some.mp hremove
      cases hpool
      have hidle := List.length_erase_add_one hmem
      refine h.countDown rfl rfl ?_
      simp only [ObjectPool.countDown, ObjectPool.IdleNum]
      omega
    · cases hstep
      exact h
  | Clear => exact absurd rfl hevent

theorem clear_balanced_iff (s : Borrowers τ) :
    Balanced { s with pool := s.pool.Clear } ↔ ClearsIdle s .Clear := by
  constructor
  · rintro ⟨hbalance, -⟩
    change 0 = 0 + s.lent.length + s.creating at hbalance
    exact ⟨List.eq_nil_of_length_eq_zero (by omega), by omega⟩
  · rintro ⟨hlent, hcreating⟩
    refine ⟨?_, Nat.zero_le _⟩
    change 0 = 0 + s.lent.length + s.creating
    rw [hlent, hcreating]
    rfl

theorem takeOr_max (hmax : otherwise.pool._max_num = s.pool._max_num) :
    (s.takeOr otherwise).pool._max_num = s.pool._max_num := by
  obtain ⟨-, heq⟩ | ⟨object, rest, -, heq⟩ := s.takeOr_cases otherwise
  · rw [heq, hmax]
  · rw [heq]

theorem step_max (hstep : s.step timeout event = some next) : next.pool._max_num = s.pool._max_num := by
  cases event with
  | TryBorrow | Borrow =>
    cases hstep
    exact takeOr_max rfl
  | resume late =>
    obtain ⟨-, hstep⟩ := Option.ite_none_right_eq_some.mp hstep
    split at hstep
    · cases hstep
      rfl
    · cases hstep
      exact takeOr_max rfl
  | _ => grind [step, ObjectPool.countUp, ObjectPool.countDown, ObjectPool.Return, ObjectPool.Add,
      ObjectPool.Remove, ObjectPool.Clear]

/-- The counter of a pool is right throughout a run exactly when the pool does not start with
more than `max_num` objects and no `Clear` comes while an object is lent or being made. -/
theorem object_num_accounted_iff (init_num max_num timeout : UInt64) (creates : Nat → Option (Ptr τ))
    (events : List (PoolEvent τ)) :
    Throughout (step timeout) Accounted (init init_num max_num creates) events ↔
      ((List.range init_num.toNat).filterMap creates).length ≤ max_num.toNat ∧
        Meets (step timeout) ClearsIdle (init init_num max_num creates) events := by
  have hmax : (init init_num max_num creates).pool._max_num < range64 := max_num.toNat_lt
  have hinit : (init init_num max_num creates).Accounted ↔
      ((List.range init_num.toNat).filterMap creates).length ≤ max_num.toNat := by
    rw [accounted_iff hmax]
    exact ⟨fun h => h.bounded, fun hle => ⟨rfl, hle⟩⟩
  have hruns (hfirst : (init init_num max_num creates).Accounted) :
      Throughout (step timeout) Accounted (init init_num max_num creates) events ↔
        Meets (step timeout) ClearsIdle (init init_num max_num creates) events := by
    apply throughout_iff_meets fun s _ => s.pool._max_num < range64
    · intro s event _ next hwf hstep
      rw [step_max hstep]
      exact hwf
    · intro s event hstuck
      cases event with
      | Clear => cases hstuck
      | _ => trivial
    · intro s event _ next hwf haccounted hstep
      rw [accounted_iff (step_max hstep ▸ hwf)]
      by_cases hevent : event = .Clear
      · subst hevent
        cases hstep
        exact clear_balanced_iff s
      · refine iff_of_true (haccounted.toBalanced.step hwf hstep hevent) ?_
        cases event with
        | Clear => exact absurd rfl hevent
        | _ => trivial
    · exact hmax
    · exact hfirst
  constructor
  · intro h
    have hfirst := h.first
    exact ⟨hinit.mp hfirst, (hruns hfirst).mp h⟩
  · rintro ⟨hle, hmeets⟩
    exact (hruns (hinit.mpr hle)).mpr hmeets

/-- A pool of one object lends it, is cleared and makes another one: two objects are lent, and
`BorrowNum` is 1. -/
theorem clear_forgets_lent :
    (run (step 0) (init 1 1 fun _ => some ⟨0⟩) [.TryBorrow, .Clear, .Borrow, .proceed, .created ⟨1⟩]).map
      (fun s : Borrowers Unit => (s.lent, s.pool.BorrowNum, s.creating)) = some ([⟨1⟩, ⟨0⟩], 1, 0) := rfl

end hub.hpp.Borrowers
