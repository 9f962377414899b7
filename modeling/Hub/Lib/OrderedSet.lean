import Mathlib.Order.Lattice
import Mathlib.Tactic.Common

namespace hub.OrderedSet

variable {α κ : Type}

/-- `insert` of a `std::set`, whose elements are listed in order. An element that is
equivalent to one of the set is not inserted. -/
def insert (less : α → α → Bool) (x : α) : List α → List α
  | [] => [x]
  | y :: rest =>
    if less x y then x :: y :: rest
    else if less y x then y :: insert less x rest
    else y :: rest

/-- `erase` by key of a `std::set`, which removes the element that is equivalent to `x`. -/
def erase (less : α → α → Bool) (x : α) : List α → List α
  | [] => []
  | y :: rest =>
    if less x y then y :: rest
    else if less y x then y :: erase less x rest
    else rest

/-- The elements are in order, and no two of them are equivalent. -/
def Sorted (less : α → α → Bool) (set : List α) : Prop := set.Pairwise fun a b => less a b = true

/-- The comparison is the one of a key. -/
def Keyed [LinearOrder κ] (less : α → α → Bool) (key : α → κ) : Prop := ∀ a b, less a b = true ↔ key a < key b

section Keys

variable [LinearOrder κ] {less : α → α → Bool} {key : α → κ} {set : List α} {x a : α}

theorem mem_insert (hless : Keyed less key) (hnew : ∀ y ∈ set, key y ≠ key x) :
    a ∈ insert less x set ↔ a = x ∨ a ∈ set := by
  induction set with
  | nil => simp [insert]
  | cons y rest ih =>
    have ih := ih fun z hz => hnew z (.tail _ hz)
    have hne : key y ≠ key x := hnew y List.mem_cons_self
    rw [insert]
    split
    · simp
    · rename_i hxy
      have hyx : less y x = true := by
        rw [hless] at hxy ⊢
        exact lt_of_le_of_ne (not_lt.mp hxy) hne
      rw [if_pos hyx, List.mem_cons, ih, List.mem_cons]
      exact or_left_comm

theorem sorted_insert (hless : Keyed less key) (hset : Sorted less set) (hnew : ∀ y ∈ set, key y ≠ key x) :
    Sorted less (insert less x set) := by
  induction set with
  | nil => exact List.pairwise_singleton _ x
  | cons y rest ih =>
    obtain ⟨hy, hrest⟩ := List.pairwise_cons.mp hset
    have hnew' : ∀ z ∈ rest, key z ≠ key x := fun z hz => hnew z (.tail _ hz)
    rw [insert]
    split
    · rename_i hxy
      refine List.pairwise_cons.mpr ⟨fun z hz => ?_, hset⟩
      rcases List.mem_cons.mp hz with rfl | hz
      · exact hxy
      · have hyz := hy z hz
        rw [hless] at hxy hyz ⊢
        exact lt_trans hxy hyz
    · rename_i hxy
      have hyx : less y x = true := by
        rw [hless] at hxy ⊢
        exact lt_of_le_of_ne (not_lt.mp hxy) (hnew y List.mem_cons_self)
      rw [if_pos hyx]
      refine List.pairwise_cons.mpr ⟨fun z hz => ?_, ih hrest hnew'⟩
      rcases (mem_insert hless hnew').mp hz with rfl | hz
      · exact hyx
      · exact hy z hz

theorem erase_sublist (less : α → α → Bool) (x : α) (set : List α) : (erase less x set).Sublist set := by
  induction set with
  | nil => exact .refl _
  | cons y rest ih =>
    rw [erase]
    split
    · exact .refl _
    · split
      · exact ih.cons_cons y
      · exact List.sublist_cons_self y rest

theorem Sorted.erase (hset : Sorted less set) (x : α) : Sorted less (OrderedSet.erase less x set) :=
  List.Pairwise.sublist (erase_sublist less x set) hset

/-- The search by key finds an element of the set, and no other one is removed. -/
theorem Sorted.mem_erase (hless : Keyed less key) (hset : Sorted less set) (hx : x ∈ set) :
    a ∈ OrderedSet.erase less x set ↔ a ∈ set ∧ a ≠ x := by
  induction set with
  | nil => cases hx
  | cons y rest ih =>
    obtain ⟨hy, hrest⟩ := List.pairwise_cons.mp hset
    have hirrefl : ∀ z, ¬ less z z = true := fun z hz => lt_irrefl _ ((hless z z).mp hz)
    have hfirst : ∀ z ∈ rest, z ≠ y := by
      rintro z hz rfl
      exact hirrefl z (hy z hz)
    rcases List.mem_cons.mp hx with rfl | hx'
    · rw [OrderedSet.erase, if_neg (hirrefl x), if_neg (hirrefl x), List.mem_cons]
      constructor
      · exact fun ha => ⟨.inr ha, hfirst a ha⟩
      · exact fun ha => ha.1.resolve_left ha.2
    · have hyx : less y x = true := hy x hx'
      have hxy : ¬ less x y = true := by
        rw [hless] at hyx ⊢
        exact not_lt_of_gt hyx
      rw [OrderedSet.erase, if_neg hxy, if_pos hyx, List.mem_cons, ih hrest hx', List.mem_cons]
      constructor
      · rintro (rfl | ⟨ha, hne⟩)
        · exact ⟨.inl rfl, (hfirst x hx').symm⟩
        · exact ⟨.inr ha, hne⟩
      · rintro ⟨rfl | ha, hne⟩
        · exact .inl rfl
        · exact .inr ⟨ha, hne⟩

theorem Sorted.nodup (hless : Keyed less key) (hset : Sorted less set) : set.Nodup := by
  refine List.Pairwise.imp (fun {a b} hab => ?_) hset
  rintro rfl
  exact lt_irrefl _ ((hless a a).mp hab)

variable {less' : α → α → Bool} {key' : α → κ}

theorem Sorted.congr (hless : Keyed less key) (hless' : Keyed less' key') (hset : Sorted less set)
    (hkeys : ∀ y ∈ set, key' y = key y) : Sorted less' set := by
  refine List.Pairwise.imp_of_mem (fun {a b} ha hb hab => ?_) hset
  rw [hless', hkeys a ha, hkeys b hb]
  exact (hless a b).mp hab

end Keys

end hub.OrderedSet
