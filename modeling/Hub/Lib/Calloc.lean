import Hub.Lib.Heap
import Hub.Lib.UnorderedMap

namespace hub

abbrev Memory (τ V : Type) : Type := UnorderedMap (Ptr τ) V

/-- What one call of `calloc` does: it fails, or it returns the address of an object that is
not in use. A freed address may come back. -/
structure Calloc (τ V : Type) where
  fails : Bool
  pick : Memory τ V → Ptr τ
  fresh : ∀ memory, (memory : Memory τ V).lookup (pick memory) = none

variable {τ V : Type}

/-- `free`, which has no defined outcome for an object that is not allocated. -/
def Memory.free (memory : Memory τ V) (p : Ptr τ) : Option (Memory τ V) :=
  if (memory.lookup p).isSome then some (memory.erase p) else none

theorem Memory.free_of_lookup {memory : Memory τ V} {p : Ptr τ} {value : V} (hlookup : memory.lookup p = some value) :
    memory.free p = some (memory.erase p) := by
  simp [free, hlookup]

theorem Memory.mem_iff {memory : Memory τ V} {p : Ptr τ} : p ∈ memory ↔ ∃ value, memory.lookup p = some value := by
  rw [← AList.lookup_isSome, Option.isSome_iff_exists]

/-- An allocator that returns the address after the highest one in use. -/
def Calloc.above (fails : Bool) : Calloc τ V where
  fails := fails
  pick memory := ⟨(memory.keys.map Ptr.addr).foldr max 0 + 1⟩
  fresh memory := by
    rw [AList.lookup_eq_none]
    intro hmem
    have hle (addrs : List Nat) (addr : Nat) (haddr : addr ∈ addrs) : addr ≤ addrs.foldr max 0 := by
      induction addrs with
      | nil => cases haddr
      | cons first addrs ih =>
        rcases List.mem_cons.mp haddr with rfl | haddr
        · exact Nat.le_max_left _ _
        · exact Nat.le_trans (ih haddr) (Nat.le_max_right _ _)
    have hself := hle (memory.keys.map Ptr.addr) _ (List.mem_map.mpr ⟨_, hmem, rfl⟩)
    exact absurd hself (Nat.not_succ_le_self _)

end hub
