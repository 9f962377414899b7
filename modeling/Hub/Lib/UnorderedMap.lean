import Mathlib.Data.List.AList

namespace hub

/-- A `std::unordered_map`: finitely many entries with pairwise distinct keys.
The order of `entries` is bookkeeping; code that iterates goes through an
`IterationOrder`. -/
abbrev UnorderedMap (K V : Type) : Type := AList (fun _ : K => V)

namespace UnorderedMap

variable {K V : Type} [DecidableEq K]

/-- `insert({key, value})`, which leaves the map alone when the key is taken. -/
def insertNew (m : UnorderedMap K V) (key : K) (value : V) : UnorderedMap K V :=
  if key ∈ m then m else AList.insert key value m

variable {m : UnorderedMap K V} {key other : K} {value : V}

theorem lookup_insertNew_of_some {key : K} {old : V} (value : V)
    (hold : m.lookup key = some old) : m.insertNew key value = m := by
  have hmem : key ∈ m := AList.lookup_isSome.mp (by simp [hold])
  simp [insertNew, hmem]

theorem insertNew_of_none {key : K} (value : V) (hnone : m.lookup key = none) :
    m.insertNew key value = AList.insert key value m := by
  have hmem : key ∉ m := AList.lookup_eq_none.mp hnone
  simp [insertNew, hmem]

theorem keys_insertNew_of_none {key : K} (value : V) (hnone : m.lookup key = none) :
    (m.insertNew key value).keys = key :: m.keys := by
  have hmem : key ∉ m.keys := AList.lookup_eq_none.mp hnone
  rw [insertNew_of_none value hnone, AList.keys_insert, List.erase_of_not_mem hmem]

theorem lookup_insertNew_self (m : UnorderedMap K V) (key : K) (value : V) :
    (m.insertNew key value).lookup key = some ((m.lookup key).getD value) := by
  cases hold : m.lookup key with
  | none => simp [insertNew_of_none value hold]
  | some old => simp [lookup_insertNew_of_some value hold, hold]

theorem lookup_insertNew_ne (m : UnorderedMap K V) (value : V) (hne : other ≠ key) :
    (m.insertNew key value).lookup other = m.lookup other := by
  unfold insertNew
  split
  · rfl
  · exact AList.lookup_insert_ne hne

theorem lookup_erase_eq_some :
    (m.erase key).lookup other = some value ↔ other ≠ key ∧ m.lookup other = some value := by
  by_cases hkey : other = key
  · subst hkey
    simp
  · simp [AList.lookup_erase_ne hkey, hkey]

theorem lookup_foldl_erase_eq_some {keys : List K} {other : K} :
    (keys.foldl (fun m key => m.erase key) m).lookup other = some value ↔
      other ∉ keys ∧ m.lookup other = some value := by
  induction keys generalizing m with
  | nil => simp
  | cons key keys ih =>
    rw [List.foldl_cons, ih, lookup_erase_eq_some, List.mem_cons, not_or]
    tauto

theorem lookup_insert_eq_some {value found : V} :
    (AList.insert key value m).lookup other = some found ↔
      (other = key ∧ found = value) ∨ (other ≠ key ∧ m.lookup other = some found) := by
  by_cases hkey : other = key
  · subst hkey
    simp [eq_comm]
  · simp [AList.lookup_insert_ne hkey, hkey]

/-- An entry that is there afterwards was there before, or it is the new one. -/
theorem lookup_insertNew_eq_some {found : V} :
    (m.insertNew key value).lookup other = some found ↔
      m.lookup other = some found ∨ (other = key ∧ m.lookup key = none ∧ found = value) := by
  cases hold : m.lookup key with
  | none =>
    rw [insertNew_of_none value hold, lookup_insert_eq_some]
    by_cases hkey : other = key
    · subst hkey
      simp [hold]
    · simp [hkey]
  | some old => simp [lookup_insertNew_of_some value hold]

theorem mem_values :
    value ∈ m.entries.map (·.2) ↔ ∃ key, m.lookup key = some value := by
  rw [List.mem_map]
  constructor
  · rintro ⟨⟨key, _⟩, hmem, rfl⟩
    exact ⟨key, AList.mem_lookup_iff.mpr hmem⟩
  · rintro ⟨key, hlookup⟩
    exact ⟨⟨key, value⟩, AList.mem_lookup_iff.mp hlookup, rfl⟩

end UnorderedMap

/-- One way in which loops over unordered maps visit the entries. The standard
leaves the order open, so results hold for every value of this type. -/
structure IterationOrder where
  visit : {K V : Type} → UnorderedMap K V → List (Σ _ : K, V)
  perm : ∀ {K V : Type} (m : UnorderedMap K V), (visit m).Perm m.entries

/-- The order in which the entries are stored, latest insertion first. -/
def IterationOrder.stored : IterationOrder where
  visit m := m.entries
  perm _ := .refl _

variable {K V : Type} (order : IterationOrder)

theorem IterationOrder.mem_visit [DecidableEq K] {m : UnorderedMap K V} {key : K} {value : V} :
    (⟨key, value⟩ : Σ _ : K, V) ∈ order.visit m ↔ m.lookup key = some value := by
  rw [(order.perm m).mem_iff, ← AList.mem_lookup_iff, Option.mem_def]

theorem UnorderedMap.length_entries (m : UnorderedMap K V) : m.entries.length = m.keys.length := by
  rw [AList.keys, List.keys, List.length_map]

theorem IterationOrder.length_visit (m : UnorderedMap K V) : (order.visit m).length = m.keys.length := by
  rw [(order.perm m).length_eq, m.length_entries]

theorem IterationOrder.take_visit_perm {m : UnorderedMap K V} {limit : Nat} (hfits : m.keys.length ≤ limit) :
    ((order.visit m).take limit).Perm m.entries := by
  rw [List.take_of_length_le (by rwa [order.length_visit])]
  exact order.perm m

end hub
