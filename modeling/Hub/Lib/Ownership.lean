import Mathlib.Data.List.Nodup
import Mathlib.Logic.Function.Basic
import Mathlib.Tactic.Common

namespace hub

open Function

section Update

variable {α β : Type} [DecidableEq α] {f : α → β} {x y : α} {b c : β}

theorem update_cases (p : β → Prop) (h : p (update f x b y)) : (y = x ∧ p b) ∨ (y ≠ x ∧ p (f y)) := by
  by_cases hy : y = x
  · rw [hy, update_self] at h
    exact .inl ⟨hy, h⟩
  · rw [update_of_ne hy] at h
    exact .inr ⟨hy, h⟩

theorem update_eq_cases (h : update f x b y = c) : (y = x ∧ b = c) ∨ (y ≠ x ∧ f y = c) :=
  update_cases (· = c) h

theorem of_update (p : β → Prop) (hnew : ¬ p b) (h : p (update f x b y)) : y ≠ x ∧ p (f y) :=
  (update_cases p h).resolve_left fun hself => hnew hself.2

theorem eq_of_update (hnew : b ≠ c) (h : update f x b y = c) : y ≠ x ∧ f y = c :=
  of_update (· = c) hnew h

theorem update_eq_of_ne (hy : f y = c) (hyx : y ≠ x) : update f x b y = c := by
  rw [update_of_ne hyx]
  exact hy

theorem update_eq_of_eq (hy : f y = b) : update f x b y = b := by
  by_cases hyx : y = x
  · rw [hyx, update_self]
  · exact update_eq_of_ne hy hyx

theorem update_eq_of_old (hy : f y = c) (hold : f x ≠ c) : update f x b y = c := by
  refine update_eq_of_ne hy ?_
  rintro rfl
  exact hold hy

theorem update_eq_iff (hnew : b ≠ c) (hold : f x ≠ c) : update f x b y = c ↔ f y = c :=
  ⟨fun h => (eq_of_update hnew h).2, fun hy => update_eq_of_old hy hold⟩

end Update

/-- When one party changes its state, no two parties own the same as long as the new state
owns nothing that another party does. -/
theorem unique_of_update {ι α ρ : Type} [DecidableEq ι] (owns : ι → α → ρ → Prop) {state : ι → α} {x : ι} {new : α}
    (h : ∀ y z r, owns y (state y) r → owns z (state z) r → y = z)
    (hx : ∀ y r, y ≠ x → owns x new r → ¬ owns y (state y) r) (y z : ι) (r : ρ)
    (hy : owns y (update state x new y) r) (hz : owns z (update state x new z) r) : y = z := by
  by_cases hyx : y = x
  · subst hyx
    rw [update_self] at hy
    by_contra hzy
    rw [update_of_ne (Ne.symm hzy)] at hz
    exact hx z r (Ne.symm hzy) hy hz
  · rw [update_of_ne hyx] at hy
    by_cases hzx : z = x
    · subst hzx
      rw [update_self] at hz
      exact absurd hy (hx y r hyx hz)
    · rw [update_of_ne hzx] at hz
      exact h y z r hy hz

/-- The keys of the parties that are not idle stay distinct when one of them changes its
state, as long as its key differs from those of the others. -/
theorem distinct_of_update {ι α ρ : Type} [DecidableEq ι] {key : ι → ρ} {state : ι → α} {x : ι} {idle new : α}
    (h : ∀ y z, state y ≠ idle → state z ≠ idle → key y = key z → y = z)
    (hx : ∀ y, y ≠ x → state y ≠ idle → key y ≠ key x) (y z : ι) (hy : update state x new y ≠ idle)
    (hz : update state x new z ≠ idle) (hkey : key y = key z) : y = z := by
  refine unique_of_update (fun y stage r => stage ≠ idle ∧ key y = r) ?_ ?_ y z (key z) ⟨hy, hkey⟩ ⟨hz, rfl⟩
  · intro y z r hy hz
    exact h y z hy.1 hz.1 (hy.2.trans hz.2.symm)
  · intro y r hyx hnew hold
    exact hx y hyx hold.1 (hold.2.trans hnew.2.symm)

/-- The entries of `f` are those of the parties: one that has a place in `f` finds its own
value there, and where nobody has a place there is `default`. -/
structure Reflects {ι α ρ β : Type} (place : α → Option ρ) (value : ι → α → β) (default : β) (state : ι → α)
    (f : ρ → β) : Prop where
  held : ∀ x r, place (state x) = some r → f r = value x (state x)
  free : ∀ r, (∀ x, place (state x) ≠ some r) → f r = default

namespace Reflects

variable {ι α ρ β : Type} [DecidableEq ι] {place : α → Option ρ} {value : ι → α → β} {default : β} {state : ι → α}
  {f : ρ → β} {x : ι} {old new : α}

theorem keep (h : Reflects place value default state f) (hold : state x = old) (hplace : place new = place old)
    (hvalue : value x new = value x old) : Reflects place value default (update state x new) f := by
  subst hold
  have hsame : ∀ y, place (update state x new y) = place (state y) :=
    (forall_update_iff state fun y other => place other = place (state y)).mpr ⟨hplace, fun _ _ => rfl⟩
  constructor
  · intro y r hy
    rw [hsame y] at hy
    by_cases hyx : y = x
    · subst hyx
      rw [update_self, hvalue]
      exact h.held y r hy
    · rw [update_of_ne hyx]
      exact h.held y r hy
  · intro r hr
    exact h.free r fun y => hsame y ▸ hr y

/-- One party writes its value into its place, or leaves it. -/
theorem set [DecidableEq ρ] (h : Reflects place value default state f) {r : ρ} {b : β} (hold : state x = old)
    (hplace : ∀ q, place old = some q → q = r) (hothers : ∀ y, y ≠ x → place (state y) ≠ some r)
    (hnew : place new = some r ∧ b = value x new ∨ place new = none ∧ b = default) :
    Reflects place value default (update state x new) (update f r b) := by
  subst hold
  constructor
  · intro y q hy
    by_cases hyx : y = x
    · subst hyx
      rw [update_self] at hy ⊢
      rcases hnew with ⟨hr, rfl⟩ | ⟨hr, -⟩
      · obtain rfl := Option.some.inj (hr.symm.trans hy)
        exact update_self ..
      · rw [hr] at hy
        cases hy
    · rw [update_of_ne hyx] at hy ⊢
      refine update_eq_of_ne (h.held y q hy) ?_
      rintro rfl
      exact hothers y hyx hy
  · intro q hq
    by_cases hqr : q = r
    · subst hqr
      rw [update_self]
      rcases hnew with ⟨hr, -⟩ | ⟨-, hb⟩
      · exact absurd (by rw [update_self, hr]) (hq x)
      · exact hb
    · refine update_eq_of_ne (h.free q fun y hy => ?_) hqr
      have hyx : y ≠ x := by
        rintro rfl
        exact hqr (hplace q hy)
      exact hq y (by rwa [update_of_ne hyx])

end Reflects

/-- Resources that are idle or held by one party each. `live` are the resources that
exist. -/
structure Owned {ι ρ : Type} (live : ρ → Prop) (idle : List ρ) (holds : ι → Option ρ) : Prop where
  nodup : idle.Nodup
  free : ∀ r ∈ idle, ∀ i, holds i ≠ some r
  exclusive : ∀ i j r, holds i = some r → holds j = some r → i = j
  live_idle : ∀ r ∈ idle, live r
  live_held : ∀ i r, holds i = some r → live r

namespace Owned

variable {ι ρ : Type} {live : ρ → Prop} {idle : List ρ} {holds next : ι → Option ρ} {i : ι} {r : ρ}

theorem congr (h : Owned live idle holds) (hsame : ∀ j, next j = holds j) : Owned live idle next := by
  have heq : next = holds := funext hsame
  rw [heq]
  exact h

theorem ne_of_holds (h : Owned live idle holds) {j : ι} {q : ρ} (hi : holds i = some r) (hj : holds j = some q)
    (hne : j ≠ i) : q ≠ r := by
  rintro rfl
  exact hne (h.exclusive j i q hj hi)

theorem acquire (h : Owned live idle holds) {more : ρ → Prop} (hlive : ∀ q, live q → more q) (hmore : more r)
    (hidle : r ∉ idle) (hheld : ∀ j, holds j ≠ some r) (hself : next i = some r)
    (hothers : ∀ j, j ≠ i → next j = holds j) : Owned more idle next := by
  have hcases : ∀ j q, next j = some q → (j = i ∧ q = r) ∨ holds j = some q := by
    intro j q hj
    by_cases hji : j = i
    · rw [hji, hself] at hj
      exact .inl ⟨hji, (Option.some.inj hj).symm⟩
    · rw [hothers j hji] at hj
      exact .inr hj
  constructor
  · exact h.nodup
  · intro q hq j hj
    rcases hcases j q hj with ⟨-, rfl⟩ | hold
    · exact hidle hq
    · exact h.free q hq j hold
  · intro j k q hj hk
    rcases hcases j q hj with ⟨rfl, rfl⟩ | hold
    · rcases hcases k q hk with ⟨rfl, -⟩ | hold
      · rfl
      · exact absurd hold (hheld k)
    · rcases hcases k q hk with ⟨rfl, rfl⟩ | hold'
      · exact absurd hold (hheld j)
      · exact h.exclusive j k q hold hold'
  · exact fun q hq => hlive q (h.live_idle q hq)
  · intro j q hj
    rcases hcases j q hj with ⟨-, rfl⟩ | hold
    · exact hmore
    · exact hlive q (h.live_held j q hold)

theorem take {rest : List ρ} (h : Owned live (r :: rest) holds) (hself : next i = some r)
    (hothers : ∀ j, j ≠ i → next j = holds j) : Owned live rest next := by
  have hrest : Owned live rest holds :=
    ⟨h.nodup.of_cons, fun q hq => h.free q (.tail _ hq), h.exclusive, fun q hq => h.live_idle q (.tail _ hq),
      h.live_held⟩
  exact hrest.acquire (fun _ hq => hq) (h.live_idle r List.mem_cons_self) (List.nodup_cons.mp h.nodup).1
    (h.free r List.mem_cons_self) hself hothers

theorem give (h : Owned live idle holds) (hold : holds i = some r) (hself : next i = none)
    (hothers : ∀ j, j ≠ i → next j = holds j) : Owned live (idle ++ [r]) next := by
  have hkept : ∀ j q, next j = some q → j ≠ i ∧ holds j = some q := by
    intro j q hj
    have hji : j ≠ i := by
      rintro rfl
      rw [hself] at hj
      cases hj
    rw [hothers j hji] at hj
    exact ⟨hji, hj⟩
  have hmem : ∀ q, q ∈ idle ++ [r] → q ∈ idle ∨ q = r := by simp
  constructor
  · rw [List.nodup_append]
    refine ⟨h.nodup, List.nodup_singleton r, fun q hq q' hq' => ?_⟩
    rw [List.mem_singleton] at hq'
    subst hq'
    rintro rfl
    exact h.free q hq i hold
  · intro q hq j hj
    obtain ⟨hji, hj⟩ := hkept j q hj
    rcases hmem q hq with hq | rfl
    · exact h.free q hq j hj
    · exact hji (h.exclusive j i q hj hold)
  · intro j k q hj hk
    exact h.exclusive j k q (hkept j q hj).2 (hkept k q hk).2
  · intro q hq
    rcases hmem q hq with hq | rfl
    · exact h.live_idle q hq
    · exact h.live_held i q hold
  · exact fun j q hj => h.live_held j q (hkept j q hj).2

theorem perm {idle' : List ρ} (h : Owned live idle holds) (hperm : idle.Perm idle') : Owned live idle' holds where
  nodup := hperm.nodup_iff.mp h.nodup
  free r hr := h.free r (hperm.mem_iff.mpr hr)
  exclusive := h.exclusive
  live_idle r hr := h.live_idle r (hperm.mem_iff.mpr hr)
  live_held := h.live_held

theorem add (h : Owned live idle holds) {more : ρ → Prop} (hlive : ∀ q, live q → more q) (hmore : more r)
    (hnew : ¬ live r) : Owned more (r :: idle) holds := by
  constructor
  · exact List.nodup_cons.mpr ⟨fun hmem => hnew (h.live_idle r hmem), h.nodup⟩
  · intro q hq j hj
    rcases List.mem_cons.mp hq with rfl | hq
    · exact hnew (h.live_held j q hj)
    · exact h.free q hq j hj
  · exact h.exclusive
  · intro q hq
    rcases List.mem_cons.mp hq with rfl | hq
    · exact hmore
    · exact hlive q (h.live_idle q hq)
  · exact fun j q hj => hlive q (h.live_held j q hj)

end Owned

end hub
