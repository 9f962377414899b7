import Mathlib.Tactic.Common

namespace hub

universe u v w

section Index

variable {α : Type u}

/-- The element at an index that was not checked. There is none outside the array. -/
def elementAt (items : List α) (index : Int) : Option α :=
  if 0 ≤ index then items[index.toNat]? else none

theorem elementAt_eq_none_iff {items : List α} {index : Int} :
    elementAt items index = none ↔ ¬(0 ≤ index ∧ index < items.length) := by
  unfold elementAt
  split
  · rw [List.getElem?_eq_none_iff]
    omega
  · simp only [true_iff]
    omega

theorem elementAt_ofNat (items : List α) (index : Nat) : elementAt items (index : Int) = items[index]? := by
  rw [elementAt, if_pos (Int.natCast_nonneg index), Int.toNat_natCast]

end Index

/-- An array of fixed size that is filled from its start, with the count beside it. -/
structure FixedArray (α : Type u) (capacity : Nat) where
  items : List α
  fits : items.length ≤ capacity

namespace FixedArray

variable {α : Type u} {capacity : Nat}

variable {a b : FixedArray α capacity} {items : List α}

def empty : FixedArray α capacity where
  items := []
  fits := Nat.zero_le capacity

/-- Writes behind the last item. There is no result when the write lands outside. -/
def push (a : FixedArray α capacity) (item : α) : Option (FixedArray α capacity) :=
  if h : a.items.length < capacity then
    some { items := a.items ++ [item], fits := by rw [List.length_append]; exact h }
  else none

/-- A loop that writes the items one after another. -/
def pushAll (a : FixedArray α capacity) : List α → Option (FixedArray α capacity)
  | [] => some a
  | item :: rest => (a.push item).bind fun a => a.pushAll rest

theorem push_eq_some_iff {item : α} : a.push item = some b ↔ b.items = a.items ++ [item] := by
  unfold push
  split
  · obtain ⟨items, fits⟩ := b
    simp [eq_comm]
  · rename_i hfull
    simp only [reduceCtorEq, false_iff]
    intro hitems
    have hfits := b.fits
    rw [hitems, List.length_append, List.length_singleton] at hfits
    omega

theorem pushAll_eq_some_iff : a.pushAll items = some b ↔ b.items = a.items ++ items := by
  induction items generalizing a with
  | nil =>
    obtain ⟨old, fits⟩ := a
    obtain ⟨new, fits'⟩ := b
    simp [pushAll, eq_comm]
  | cons item rest ih =>
    simp only [pushAll, Option.bind_eq_some_iff, push_eq_some_iff, ih]
    constructor
    · rintro ⟨next, hnext, hb⟩
      simp [hb, hnext]
    · intro hb
      have hroom : (a.items ++ [item]).length ≤ capacity := by
        have hfits := b.fits
        rw [hb] at hfits
        simp only [List.length_append, List.length_cons, List.length_nil] at hfits ⊢
        omega
      exact ⟨⟨a.items ++ [item], hroom⟩, rfl, by simp [hb]⟩

theorem pushAll_isSome_iff : (a.pushAll items).isSome = true ↔ a.items.length + items.length ≤ capacity := by
  rw [Option.isSome_iff_exists]
  constructor
  · rintro ⟨b, hb⟩
    have hfits := b.fits
    rwa [pushAll_eq_some_iff.mp hb, List.length_append] at hfits
  · intro hroom
    exact ⟨⟨a.items ++ items, by rwa [List.length_append]⟩, pushAll_eq_some_iff.mpr rfl⟩

/-- A loop that writes the items one after another and stops once the array is full. -/
def pushUntilFull (a : FixedArray α capacity) : List α → Option (FixedArray α capacity)
  | [] => some a
  | item :: rest =>
    (a.push item).bind fun a => if capacity ≤ a.items.length then some a else a.pushUntilFull rest

theorem pushUntilFull_items (hroom : a.items.length < capacity) :
    (a.pushUntilFull items).map FixedArray.items = some ((a.items ++ items).take capacity) := by
  induction items generalizing a with
  | nil => rw [pushUntilFull, Option.map_some, List.append_nil, List.take_of_length_le a.fits]
  | cons item rest ih =>
    obtain ⟨b, hb⟩ : ∃ b, a.push item = some b := by simp [push, hroom]
    have hitems := push_eq_some_iff.mp hb
    have hcons : a.items ++ item :: rest = b.items ++ rest := by rw [hitems, List.append_cons]
    rw [pushUntilFull, hb, Option.bind_some, hcons]
    split
    · rename_i hfull
      rw [Option.map_some, List.take_left' (Nat.le_antisymm b.fits hfull)]
    · rename_i hfull
      exact ih (Nat.lt_of_not_le hfull)

theorem map_pushUntilFull_empty {β : Type v} (f : List α → β) (items : List α) (hcapacity : 0 < capacity) :
    ((empty : FixedArray α capacity).pushUntilFull items).map (fun a => f a.items) =
      some (f (items.take capacity)) := by
  have hitems := @pushUntilFull_items _ _ (empty : FixedArray α capacity) items hcapacity
  obtain ⟨a, hloop, ha⟩ := Option.map_eq_some_iff.mp hitems
  rw [hloop, Option.map_some, ha]
  rfl

end FixedArray

/-- One turn of a loop that fills an array: the item that it writes, if any, and the state
that the loop goes on with, unless it is left. -/
structure Turn (β : Type u) (σ : Type v) where
  written : Option β
  next : Option σ

namespace FixedArray

variable {ι : Type w} {β : Type u} {σ : Type v} {capacity : Nat} {turn : σ → ι → Turn β σ}

variable {a : FixedArray β capacity} {filled : Option (FixedArray β capacity)} {inputs : List ι}
  {last state : σ} (spec : List ι → σ → Option (List β) × σ)

/-- A loop that fills an array, with the array unless the loop was left. There is no
result when a write lands outside. -/
def fill (turn : σ → ι → Turn β σ) :
    List ι → FixedArray β capacity → σ → Option (Option (FixedArray β capacity) × σ)
  | [], a, state => some (some a, state)
  | input :: rest, a, state =>
    (a.pushAll (turn state input).written.toList).bind fun a =>
      match (turn state input).next with
      | none => some (none, state)
      | some next => fill turn rest a next

/-- What the loop computes when nothing lands outside, for any function `spec` with the
equations of the loop. -/
theorem fill_eq_some (hnil : ∀ state, spec [] state = (some [], state))
    (hleft : ∀ input rest state, (turn state input).next = none → spec (input :: rest) state = (none, state))
    (hnext : ∀ input rest state next, (turn state input).next = some next → spec (input :: rest) state =
      ((spec rest next).1.map ((turn state input).written.toList ++ ·), (spec rest next).2))
    (h : fill turn inputs a state = some (filled, last)) :
    (spec inputs state).2 = last ∧ filled.map items = (spec inputs state).1.map (a.items ++ ·) := by
  induction inputs generalizing a state with
  | nil =>
    cases h
    rw [hnil]
    simp
  | cons input rest ih =>
    obtain ⟨b, hb, h⟩ := Option.bind_eq_some_iff.mp h
    have hitems := pushAll_eq_some_iff.mp hb
    cases hturn : (turn state input).next with
    | none =>
      rw [hturn] at h
      cases h
      rw [hleft input rest _ hturn]
      exact ⟨rfl, rfl⟩
    | some next =>
      rw [hturn] at h
      obtain ⟨hlast, hfilled⟩ := ih h
      rw [hnext input rest state next hturn]
      refine ⟨hlast, ?_⟩
      rw [hfilled, hitems, Option.map_map]
      congr 1
      funext items
      exact List.append_assoc ..

theorem fill_empty_eq_some (hnil : ∀ state, spec [] state = (some [], state))
    (hleft : ∀ input rest state, (turn state input).next = none → spec (input :: rest) state = (none, state))
    (hnext : ∀ input rest state next, (turn state input).next = some next → spec (input :: rest) state =
      ((spec rest next).1.map ((turn state input).written.toList ++ ·), (spec rest next).2))
    (h : fill turn inputs empty state = some (filled, last)) :
    spec inputs state = (filled.map items, last) := by
  obtain ⟨hlast, hfilled⟩ := fill_eq_some spec hnil hleft hnext h
  have hitems : filled.map items = (spec inputs state).1 := by simpa [empty] using hfilled
  rw [hitems, ← hlast]

/-- Nothing lands outside when there is room for one item of each turn. -/
theorem fill_isSome (state : σ) (hroom : a.items.length + inputs.length ≤ capacity) :
    (fill turn inputs a state).isSome = true := by
  induction inputs generalizing a state with
  | nil => rfl
  | cons input rest ih =>
    have hwritten : (turn state input).written.toList.length ≤ 1 := by cases (turn state input).written <;> simp
    rw [List.length_cons] at hroom
    have hpush : (a.pushAll (turn state input).written.toList).isSome = true :=
      pushAll_isSome_iff.mpr (by omega)
    obtain ⟨b, hb⟩ := Option.isSome_iff_exists.mp hpush
    have hlength : b.items.length ≤ a.items.length + 1 := by
      rw [pushAll_eq_some_iff.mp hb, List.length_append]
      omega
    rw [fill, hb, Option.bind_some]
    cases (turn state input).next with
    | none => rfl
    | some next => exact ih next (by omega)

/-- A write lands outside when every turn writes, none leaves the loop, and there are more
than there is room for. -/
theorem fill_eq_none (Inv : σ → Prop)
    (hturn : ∀ state, ∀ input ∈ inputs, Inv state → ∃ item next, turn state input = ⟨some item, some next⟩ ∧ Inv next)
    (hstate : Inv state) (hfull : capacity < a.items.length + inputs.length) :
    fill turn inputs a state = none := by
  induction inputs generalizing a state with
  | nil =>
    have hfits := a.fits
    rw [List.length_nil] at hfull
    omega
  | cons input rest ih =>
    obtain ⟨item, next, hone, hinv⟩ := hturn _ input List.mem_cons_self hstate
    rw [fill, hone, Option.toList_some]
    cases hpush : a.pushAll [item] with
    | none => rfl
    | some b =>
      refine ih (fun state input hmem => hturn state input (.tail _ hmem)) hinv ?_
      rw [pushAll_eq_some_iff.mp hpush, List.length_append, List.length_singleton]
      rw [List.length_cons] at hfull
      omega

end FixedArray

end hub
