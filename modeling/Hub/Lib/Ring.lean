import Mathlib.Data.Nat.ModEq

namespace hub

/-- The `i`-th slot in use of a ring whose oldest entry is in slot `tail`. -/
def ringSlot (capacity tail i : Nat) : Nat := (tail + i) % capacity

section Slot

variable {capacity tail i j : Nat}

theorem ringSlot_lt (hcapacity : 0 < capacity) : ringSlot capacity tail i < capacity := Nat.mod_lt _ hcapacity

theorem ringSlot_zero (htail : tail < capacity) : ringSlot capacity tail 0 = tail := Nat.mod_eq_of_lt htail

theorem ringSlot_inj (hi : i < capacity) (hj : j < capacity)
    (heq : ringSlot capacity tail i = ringSlot capacity tail j) :
    i = j := by
  have hmod : i % capacity = j % capacity := Nat.ModEq.add_left_cancel' tail heq
  rwa [Nat.mod_eq_of_lt hi, Nat.mod_eq_of_lt hj] at hmod

theorem ringSlot_succ : (ringSlot capacity tail i + 1) % capacity = ringSlot capacity tail (i + 1) := by
  rw [ringSlot, ringSlot, Nat.mod_add_mod, Nat.add_assoc]

theorem ringSlot_advance : ringSlot capacity ((tail + 1) % capacity) i = ringSlot capacity tail (i + 1) := by
  rw [ringSlot, ringSlot, Nat.mod_add_mod, Nat.add_assoc, Nat.add_comm 1]

/-- After a whole turn the ring is back at its oldest slot. -/
theorem ringSlot_capacity : ringSlot capacity tail capacity = ringSlot capacity tail 0 := by
  rw [ringSlot, ringSlot, Nat.add_mod_right, Nat.add_zero]

end Slot

theorem getElem?_set_ringSlot {α : Type} {slots : List α} {tail i j : Nat} (hi : i < slots.length)
    (hj : j < slots.length) (entry : α) :
    (slots.set (ringSlot slots.length tail j) entry)[ringSlot slots.length tail i]? =
      if i = j then some entry else slots[ringSlot slots.length tail i]? := by
  have hslot : ringSlot slots.length tail i < slots.length := ringSlot_lt (by omega)
  rw [List.getElem?_set]
  by_cases hij : i = j
  · subst hij
    simp [hslot]
  · have hne : ringSlot slots.length tail j ≠ ringSlot slots.length tail i :=
      fun heq => hij (ringSlot_inj hi hj heq.symm)
    simp [hij, hne]

end hub
