import Mathlib.Data.Set.Card
import Mathlib.Data.FinEnum

namespace hub.base

/-- The loop of `util_random_range_number` on the draws of `util_random`, with the draws that
are left. There is no result if they end before it does. -/
def drawBelow (limit : UInt32) : List UInt32 → Option (UInt32 × List UInt32)
  | [] => none
  | r :: draws => if r ≥ limit then drawBelow limit draws else some (r, draws)

def limit (range : UInt32) : UInt32 := 0xFFFFFFFF - 0xFFFFFFFF % range

def util_random_range_number (min max : UInt32) (draws : List UInt32) : Option (UInt32 × List UInt32) :=
  if min > max then some (min, draws)
  else
    let range := max - min + 1
    if range = 0 then draws.head?.map fun r => (r, draws.tail)
    else (drawBelow (limit range) draws).map fun (r, draws) => (min + r % range, draws)

def LeadsTo (min max r v : UInt32) : Prop := util_random_range_number min max [r] = some (v, [])

/-- Draws that are equally likely give results that are. -/
structure Uniform (min max : UInt32) : Prop where
  between : ∀ draws v rest, util_random_range_number min max draws = some (v, rest) → min ≤ v ∧ v ≤ max
  /-- The loop ends with the first draw that is accepted. -/
  first : ∀ rejected r rest v, (∀ d ∈ rejected, ∀ v, ¬LeadsTo min max d v) → LeadsTo min max r v →
    util_random_range_number min max (rejected ++ r :: rest) = some (v, rest)
  accepts : ∃ r v, LeadsTo min max r v
  unbiased : ∀ v w, min ≤ v → v ≤ max → min ≤ w → w ≤ max →
    { r | LeadsTo min max r v }.ncard = { r | LeadsTo min max r w }.ncard

variable {min max range r v w : UInt32} {draws : List UInt32}

theorem drawBelow_append {limit : UInt32} {rejected : List UInt32} (hrejected : ∀ d ∈ rejected, limit ≤ d) :
    drawBelow limit (rejected ++ draws) = drawBelow limit draws := by
  induction rejected with
  | nil => rfl
  | cons d rejected ih =>
    rw [List.cons_append, drawBelow, if_pos (hrejected d List.mem_cons_self)]
    exact ih fun d hd => hrejected d (List.mem_cons_of_mem _ hd)

theorem exists_limit_eq (hpos : 0 < range.toNat) : ∃ k, 0 < k ∧ (limit range).toNat = range.toNat * k := by
  refine ⟨0xFFFFFFFF / range.toNat, Nat.div_pos (Nat.le_of_lt_succ range.toNat_lt) hpos, ?_⟩
  have hmod : (0xFFFFFFFF % range : UInt32) ≤ 0xFFFFFFFF := Nat.mod_le ..
  have hdiv := Nat.div_add_mod 0xFFFFFFFF range.toNat
  rw [limit, UInt32.toNat_sub_of_le _ _ hmod, UInt32.toNat_mod]
  exact Nat.sub_eq_of_eq_add hdiv.symm

/-- `range` is the number of values, and does not wrap to zero. -/
structure IsRange (min max range : UInt32) : Prop where
  le : min.toNat ≤ max.toNat
  eq : max - min + 1 = range
  pos : 0 < range.toNat

namespace IsRange

variable (hrange : IsRange min max range)

include hrange

theorem toNat_range : range.toNat = max.toNat - min.toNat + 1 := by
  have hpos := hrange.pos
  have hmax := max.toNat_lt
  rw [← hrange.eq, UInt32.toNat_add, UInt32.toNat_sub_of_le _ _ hrange.le] at hpos ⊢
  simp only [UInt32.reduceToNat] at hpos ⊢
  omega

theorem number_eq : util_random_range_number min max draws =
    (drawBelow (limit range) draws).map fun (r, draws) => (min + r % range, draws) := by
  simp only [util_random_range_number, GT.gt, UInt32.not_lt.mpr hrange.le, hrange.eq,
    UInt32.pos_iff_ne_zero.mp hrange.pos, if_false]

theorem leadsTo_iff : LeadsTo min max r v ↔ r < limit range ∧ min + r % range = v := by
  rw [LeadsTo, hrange.number_eq, drawBelow]
  split <;> rename_i hr
  · simp [drawBelow, UInt32.not_lt.mpr hr]
  · simp [UInt32.not_le.mp hr]

theorem toNat_number (r : UInt32) : (min + r % range).toNat = min.toNat + r.toNat % range.toNat := by
  have hmod := Nat.mod_lt r.toNat hrange.pos
  have hsum := hrange.toNat_range
  have hmax := max.toNat_lt
  have hle := hrange.le
  rw [UInt32.toNat_add, UInt32.toNat_mod, Nat.mod_eq_of_lt (by omega)]

theorem shift (h : LeadsTo min max r v) (hmin : min ≤ w) (hmax : w ≤ max) :
    LeadsTo min max (r + (w - v)) w := by
  obtain ⟨k, -, hlimit⟩ := exists_limit_eq hrange.pos
  obtain ⟨hr, rfl⟩ := (hrange.leadsTo_iff).mp h
  rw [UInt32.lt_iff_toNat_lt, hlimit] at hr
  rw [UInt32.le_iff_toNat_le] at hmin hmax
  have hsum := hrange.toNat_range
  have hbound := hlimit ▸ (limit range).toNat_lt
  have hdiv := Nat.div_add_mod r.toNat range.toNat
  have hturn := Nat.mul_le_mul_left range.toNat (Nat.div_lt_of_lt_mul hr)
  rw [Nat.mul_succ] at hturn
  have hv := hrange.toNat_number r
  have hshift : (r + (w - (min + r % range))).toNat =
      range.toNat * (r.toNat / range.toNat) + (w.toNat - min.toNat) := by
    have hlt := (min + r % range).toNat_lt
    rw [UInt32.toNat_add, UInt32.toNat_sub]
    omega
  refine (hrange.leadsTo_iff).mpr ⟨?_, UInt32.toNat_inj.mp ?_⟩
  · rw [UInt32.lt_iff_toNat_lt, hlimit, hshift]
    omega
  · rw [hrange.toNat_number, hshift, Nat.mul_add_mod, Nat.mod_eq_of_lt (by omega)]
    omega

theorem ncard_leadsTo_le (hmin : min ≤ w) (hmax : w ≤ max) :
    { r | LeadsTo min max r v }.ncard ≤ { r | LeadsTo min max r w }.ncard := by
  refine Set.ncard_le_ncard_of_injOn (· + (w - v)) (fun r hr => ?_) (fun r _ r' _ heq => ?_)
  · exact hrange.shift hr hmin hmax
  · exact (UInt32.add_left_inj _).mp heq

theorem uniform : Uniform min max where
  between draws v rest h := by
    rw [hrange.number_eq] at h
    obtain ⟨⟨r, left⟩, _, heq⟩ := Option.map_eq_some_iff.mp h
    obtain ⟨rfl, rfl⟩ := Prod.mk.inj heq
    have hmod := Nat.mod_lt r.toNat hrange.pos
    have hsum := hrange.toNat_range
    have hle := hrange.le
    rw [UInt32.le_iff_toNat_le, UInt32.le_iff_toNat_le, hrange.toNat_number]
    omega
  first rejected r rest v hrejected h := by
    have hbelow : ∀ d ∈ rejected, limit range ≤ d := fun d hd => UInt32.not_lt.mp fun hlt =>
      hrejected d hd _ ((hrange.leadsTo_iff).mpr ⟨hlt, rfl⟩)
    obtain ⟨hr, rfl⟩ := (hrange.leadsTo_iff).mp h
    rw [hrange.number_eq, drawBelow_append hbelow, drawBelow, if_neg (UInt32.not_le.mpr hr)]
    rfl
  accepts := by
    obtain ⟨k, hk, hlimit⟩ := exists_limit_eq hrange.pos
    have hzero : 0 < (limit range).toNat := hlimit ▸ Nat.mul_pos hrange.pos hk
    exact ⟨0, _, (hrange.leadsTo_iff).mpr ⟨hzero, rfl⟩⟩
  unbiased v w hv hv' hw hw' :=
    Nat.le_antisymm (hrange.ncard_leadsTo_le hw hw') (hrange.ncard_leadsTo_le hv hv')

end IsRange

theorem uniform_full : Uniform 0 0xFFFFFFFF where
  between draws v rest h := ⟨UInt32.zero_le, Nat.le_of_lt_succ v.toNat_lt⟩
  first rejected r rest v hrejected h := by
    cases rejected with
    | nil =>
      cases h
      rfl
    | cons d rejected => exact absurd rfl (hrejected d List.mem_cons_self d)
  accepts := ⟨0, 0, rfl⟩
  unbiased v w _ _ _ _ := by
    have hone (v : UInt32) : { r | LeadsTo 0 0xFFFFFFFF r v } = {v} := by
      ext r
      simp [LeadsTo, util_random_range_number]
    rw [hone, hone, Set.ncard_singleton, Set.ncard_singleton]

theorem util_random_range_number_uniform (hle : min ≤ max) : Uniform min max := by
  by_cases hrange : max - min + 1 = 0
  · have hzero := congrArg UInt32.toNat hrange
    have hlt := max.toNat_lt
    rw [UInt32.toNat_add, UInt32.toNat_sub_of_le _ _ hle] at hzero
    simp only [UInt32.reduceToNat] at hzero
    obtain rfl : max = 0xFFFFFFFF := UInt32.toNat_inj.mp (by simp only [UInt32.reduceToNat]; omega)
    obtain rfl : min = 0 := UInt32.toNat_inj.mp (by simp only [UInt32.reduceToNat]; omega)
    exact uniform_full
  · exact IsRange.uniform ⟨hle, rfl, UInt32.pos_iff_ne_zero.mpr hrange⟩

theorem util_random_range_number_die : Uniform 1 6 :=
  util_random_range_number_uniform (by decide)

end hub.base
