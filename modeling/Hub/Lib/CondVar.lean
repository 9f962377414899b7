import Mathlib.Data.Finset.Card
import Mathlib.Tactic.Common

namespace hub

/-- A condition variable: the threads that are blocked on it, and those that were woken and
do not have the mutex back yet. -/
structure CondVar (ι : Type) where
  blocked : Finset ι
  woken : Finset ι
  apart : Disjoint blocked woken

namespace CondVar

variable {ι : Type}

def init : CondVar ι := ⟨∅, ∅, Finset.disjoint_empty_left ∅⟩

variable [DecidableEq ι]

variable (cv : CondVar ι)

def wait (i : ι) : CondVar ι where
  blocked := insert i cv.blocked
  woken := cv.woken.erase i
  apart := by
    rw [Finset.disjoint_insert_left]
    exact ⟨Finset.notMem_erase i cv.woken, cv.apart.mono_right (Finset.erase_subset i cv.woken)⟩

def wake (i : ι) : CondVar ι where
  blocked := cv.blocked.erase i
  woken := insert i cv.woken
  apart := by
    rw [Finset.disjoint_insert_right]
    exact ⟨Finset.notMem_erase i cv.blocked, cv.apart.mono_left (Finset.erase_subset i cv.blocked)⟩

def leave (i : ι) : CondVar ι where
  blocked := cv.blocked.erase i
  woken := cv.woken.erase i
  apart := cv.apart.mono (Finset.erase_subset i cv.blocked) (Finset.erase_subset i cv.woken)

/-- A signal wakes one of the blocked threads, if there is one. There is no result for a
choice that is not possible. -/
def signal : Option ι → Option (CondVar ι)
  | none => if cv.blocked = ∅ then some cv else none
  | some i => if i ∈ cv.blocked then some (cv.wake i) else none

/-- As long as a thread is blocked, there is a woken one for each of `n` items. -/
def Covers (n : Nat) : Prop := cv.blocked.Nonempty → n ≤ cv.woken.card

variable {cv} {next : CondVar ι} {i : ι} {n m : Nat}

omit [DecidableEq ι] in
theorem Covers.mono (h : cv.Covers n) (hle : m ≤ n) : cv.Covers m := fun hblocked => hle.trans (h hblocked)

omit [DecidableEq ι] in
theorem covers_zero (cv : CondVar ι) : cv.Covers 0 := fun _ => Nat.zero_le _

omit [DecidableEq ι] in
theorem covers_of_blocked_eq_empty (h : cv.blocked = ∅) (n : Nat) : cv.Covers n := by
  intro hblocked
  rw [h] at hblocked
  exact absurd hblocked Finset.not_nonempty_empty

omit [DecidableEq ι] in
/-- Nobody is blocked while there is an item and nobody is on the way to it. -/
theorem Covers.exists_woken (h : cv.Covers n) (hblocked : cv.blocked.Nonempty) (hpos : 0 < n) : cv.woken.Nonempty := by
  apply Finset.card_pos.mp
  exact Nat.lt_of_lt_of_le hpos (h hblocked)

theorem Covers.wake (h : cv.Covers n) (hi : i ∈ cv.blocked) : (cv.wake i).Covers (n + 1) := by
  intro _
  have hfresh : i ∉ cv.woken := Finset.disjoint_left.mp cv.apart hi
  have hcard : (cv.wake i).woken.card = cv.woken.card + 1 := Finset.card_insert_of_notMem hfresh
  rw [hcard]
  exact Nat.succ_le_succ (h ⟨i, hi⟩)

/-- A signal with every new item keeps the items covered. -/
theorem Covers.signal {choice : Option ι} (h : cv.Covers n) (hsignal : cv.signal choice = some next) :
    next.Covers (n + 1) := by
  cases choice with
  | none =>
    obtain ⟨hempty, hnext⟩ := Option.ite_none_right_eq_some.mp hsignal
    cases hnext
    exact covers_of_blocked_eq_empty hempty (n + 1)
  | some i =>
    obtain ⟨hi, hnext⟩ := Option.ite_none_right_eq_some.mp hsignal
    cases hnext
    exact h.wake hi

theorem Covers.leave (h : cv.Covers (n + 1)) (i : ι) : (cv.leave i).Covers n := by
  intro hblocked
  obtain ⟨j, hj⟩ := hblocked
  have hbefore : n + 1 ≤ cv.woken.card := h ⟨j, Finset.mem_of_mem_erase hj⟩
  have herase : cv.woken.card - 1 ≤ (cv.leave i).woken.card := Finset.pred_card_le_card_erase
  omega

theorem Covers.leave_blocked (h : cv.Covers n) (hi : i ∈ cv.blocked) : (cv.leave i).Covers n := by
  intro hblocked
  obtain ⟨j, hj⟩ := hblocked
  have hfresh : i ∉ cv.woken := Finset.disjoint_left.mp cv.apart hi
  have hsame : (cv.leave i).woken = cv.woken := Finset.erase_eq_of_notMem hfresh
  rw [hsame]
  exact h ⟨j, Finset.mem_of_mem_erase hj⟩

end CondVar

end hub
