import Hub.Base.DsaHeap
import Hub.Lib.BinaryHeap

namespace hub.dsa.Heap

open Function

variable {ν : Type}

variable (slot : Nat → ν)

def linkTo (n p : Nat) : Option ν := if 1 ≤ p ∧ p ≤ n then some (slot p) else none

theorem linkTo_of_mem {slot : Nat → ν} {n p : Nat} (hp : 1 ≤ p) (hpn : p ≤ n) : linkTo slot n p = some (slot p) :=
  if_pos ⟨hp, hpn⟩

theorem linkTo_of_lt {slot : Nat → ν} {n p : Nat} (hpn : n < p) : linkTo slot n p = none :=
  if_neg fun h => absurd h.2 (Nat.not_le_of_lt hpn)

@[simp] theorem linkTo_zero (n : Nat) : linkTo slot n 0 = none :=
  if_neg fun h => absurd h.1 (by decide)

theorem linkTo_congr {slot slot' : Nat → ν} {n p : Nat}
    (h : slot' p = slot p) : linkTo slot' n p = linkTo slot n p := by
  rw [linkTo, linkTo, h]

/-- The links are those of the complete binary tree with the nodes `slot 1` to `slot n` in
level order. -/
structure Shape (h : Heap ν) (slot : Nat → ν) (n : Nat) : Prop where
  nelts : h.nelts = n
  root : h.root = linkTo slot n 1
  parent : ∀ p, 1 ≤ p → p ≤ n → h.parent (slot p) = linkTo slot n (p / 2)
  left : ∀ p, 1 ≤ p → p ≤ n → h.left (slot p) = linkTo slot n (2 * p)
  right : ∀ p, 1 ≤ p → p ≤ n → h.right (slot p) = linkTo slot n (2 * p + 1)
  inj : ∀ p q, 1 ≤ p → p ≤ n → 1 ≤ q → q ≤ n → slot p = slot q → p = q

def Members (n : Nat) : Set ν := { x | ∃ p, 1 ≤ p ∧ p ≤ n ∧ slot p = x }

theorem mem_members {slot : Nat → ν} {n p : Nat} (hp : 1 ≤ p) (hpn : p ≤ n) : slot p ∈ Members slot n :=
  ⟨p, hp, hpn, rfl⟩

theorem members_zero (slot : Nat → ν) : Members slot 0 = ∅ := by
  ext x
  refine ⟨?_, False.elim⟩
  rintro ⟨p, hp, hpn, -⟩
  omega

section Swap

variable {slot} {n p c q : Nat}

theorem comp_swap_left : (slot ∘ Equiv.swap p c) p = slot c := congrArg slot (Equiv.swap_apply_left p c)

theorem comp_swap_right : (slot ∘ Equiv.swap p c) c = slot p := congrArg slot (Equiv.swap_apply_right p c)

theorem comp_swap_of_ne (hqp : q ≠ p) (hqc : q ≠ c) : (slot ∘ Equiv.swap p c) q = slot q :=
  congrArg slot (Equiv.swap_apply_of_ne_of_ne hqp hqc)

theorem linkTo_swap_left (slot : Nat → ν) (c : Nat) (hp : 1 ≤ p) (hpn : p ≤ n) :
    linkTo (slot ∘ Equiv.swap p c) n p = some (slot c) := by
  rw [linkTo_of_mem hp hpn, comp_swap_left]

theorem linkTo_swap_right (slot : Nat → ν) (p : Nat) (hc : 1 ≤ c) (hcn : c ≤ n) :
    linkTo (slot ∘ Equiv.swap p c) n c = some (slot p) := by
  rw [linkTo_of_mem hc hcn, comp_swap_right]

theorem linkTo_swap_of_ne (hqp : q ≠ p) (hqc : q ≠ c) : linkTo (slot ∘ Equiv.swap p c) n q = linkTo slot n q :=
  linkTo_congr (comp_swap_of_ne hqp hqc)

theorem swap_range (hp : 1 ≤ p) (hpn : p ≤ n) (hc : 1 ≤ c) (hcn : c ≤ n) (hq : 1 ≤ q) (hqn : q ≤ n) :
    1 ≤ Equiv.swap p c q ∧ Equiv.swap p c q ≤ n := by
  rw [Equiv.swap_apply_def]
  split_ifs <;> omega

theorem swap_child (side : Nat) (hside : side ≤ 1) {link : ν → Option ν} (hp : c / 2 = p) (hc : 2 ≤ c) (hcn : c ≤ n)
    (hlink : ∀ r, 1 ≤ r → r ≤ n → link (slot r) =
      if r = p then linkTo slot n (2 * c + side)
      else if r = c then (if 2 * p + side = c then some (slot p) else linkTo slot n (2 * p + side))
      else if 2 * r + side = p then some (slot c) else linkTo slot n (2 * r + side))
    (q : Nat) (hq : 1 ≤ q) (hqn : q ≤ n) :
    link ((slot ∘ Equiv.swap p c) q) = linkTo (slot ∘ Equiv.swap p c) n (2 * q + side) := by
  have hp1 : 1 ≤ p := by omega
  by_cases hqp : q = p
  · subst hqp
    rw [comp_swap_left, hlink c (by omega) hcn, if_neg (by omega), if_pos rfl]
    split
    · rename_i hbelow
      rw [hbelow, linkTo_swap_right slot q (by omega) hcn]
    · rename_i hbelow
      rw [linkTo_swap_of_ne (by omega) hbelow]
  · by_cases hqc : q = c
    · subst hqc
      rw [comp_swap_right, hlink p hp1 (by omega), if_pos rfl, linkTo_swap_of_ne (by omega) (by omega)]
    · rw [comp_swap_of_ne hqp hqc, hlink q hq hqn, if_neg hqp, if_neg hqc]
      split
      · rename_i habove
        rw [habove, linkTo_swap_left slot c hp1 (by omega)]
      · rename_i habove
        rw [linkTo_swap_of_ne habove (by omega)]

end Swap

theorem members_swap {n p c : Nat} (hp : 1 ≤ p) (hpn : p ≤ n) (hc : 1 ≤ c) (hcn : c ≤ n) :
    Members (slot ∘ Equiv.swap p c) n = Members slot n := by
  ext x
  constructor
  · rintro ⟨q, hq, hqn, rfl⟩
    obtain ⟨hlow, hhigh⟩ := swap_range hp hpn hc hcn hq hqn
    exact ⟨_, hlow, hhigh, rfl⟩
  · rintro ⟨q, hq, hqn, rfl⟩
    obtain ⟨hlow, hhigh⟩ := swap_range hp hpn hc hcn hq hqn
    refine ⟨_, hlow, hhigh, ?_⟩
    rw [Function.comp_apply, Equiv.swap_apply_self]

def SameOutside (h h' : Heap ν) (nodes : Set ν) : Prop :=
  ∀ x, x ∉ nodes → h'.left x = h.left x ∧ h'.right x = h.right x

theorem SameOutside.trans {h h' h'' : Heap ν} {nodes : Set ν} (hfirst : h.SameOutside h' nodes)
    (hsecond : h'.SameOutside h'' nodes) : h.SameOutside h'' nodes :=
  fun x hx => ⟨(hsecond x hx).1.trans (hfirst x hx).1, (hsecond x hx).2.trans (hfirst x hx).2⟩

theorem Shape.slot_eq_iff {h : Heap ν} {slot : Nat → ν} {n : Nat} (hs : h.Shape slot n) {p q : Nat} (hp : 1 ≤ p)
    (hpn : p ≤ n) (hq : 1 ≤ q) (hqn : q ≤ n) : slot p = slot q ↔ p = q :=
  ⟨hs.inj p q hp hpn hq hqn, fun heq => heq ▸ rfl⟩

theorem Shape.linkTo_eq_some_iff {h : Heap ν} {slot : Nat → ν} {n : Nat} (hs : h.Shape slot n) {p q : Nat} (hp : 1 ≤ p)
    (hpn : p ≤ n) : linkTo slot n q = some (slot p) ↔ q = p := by
  unfold linkTo
  split
  · rename_i hq
    rw [Option.some.injEq, hs.slot_eq_iff hq.1 hq.2 hp hpn]
  · rename_i hq
    simp only [reduceCtorEq, false_iff]
    intro heq
    exact hq (heq ▸ ⟨hp, hpn⟩)

variable [DecidableEq ν]

section Writes

variable (h : Heap ν) (node other : ν) (value : Option ν)

@[simp] theorem setParent_parent :
    (h.setParent node value).parent other = if other = node then value else h.parent other :=
  update_apply ..

@[simp] theorem setLeft_left : (h.setLeft node value).left other = if other = node then value else h.left other :=
  update_apply ..

@[simp] theorem setRight_right : (h.setRight node value).right other = if other = node then value else h.right other :=
  update_apply ..

@[simp] theorem setParent_left : (h.setParent node value).left = h.left := rfl
@[simp] theorem setParent_right : (h.setParent node value).right = h.right := rfl
@[simp] theorem setParent_root : (h.setParent node value).root = h.root := rfl
@[simp] theorem setParent_nelts : (h.setParent node value).nelts = h.nelts := rfl
@[simp] theorem setLeft_parent : (h.setLeft node value).parent = h.parent := rfl
@[simp] theorem setLeft_right : (h.setLeft node value).right = h.right := rfl
@[simp] theorem setLeft_root : (h.setLeft node value).root = h.root := rfl
@[simp] theorem setLeft_nelts : (h.setLeft node value).nelts = h.nelts := rfl
@[simp] theorem setRight_parent : (h.setRight node value).parent = h.parent := rfl
@[simp] theorem setRight_left : (h.setRight node value).left = h.left := rfl
@[simp] theorem setRight_root : (h.setRight node value).root = h.root := rfl
@[simp] theorem setRight_nelts : (h.setRight node value).nelts = h.nelts := rfl

variable (link : Option ν)

@[simp] theorem setParentOf_parent :
    (h.setParentOf link value).parent other = if link = some other then value else h.parent other := by
  cases link with
  | none => simp [setParentOf]
  | some node => simp [setParentOf, eq_comm]

@[simp] theorem setParentOf_left : (h.setParentOf link value).left = h.left := by cases link <;> rfl
@[simp] theorem setParentOf_right : (h.setParentOf link value).right = h.right := by cases link <;> rfl
@[simp] theorem setParentOf_root : (h.setParentOf link value).root = h.root := by cases link <;> rfl
@[simp] theorem setParentOf_nelts : (h.setParentOf link value).nelts = h.nelts := by cases link <;> rfl

end Writes

namespace Shape

variable {h : Heap ν} {slot} {n p q : Nat} (hs : h.Shape slot n)

include hs

section Relink

variable (hp : 1 ≤ p) (hpn : p ≤ n) (value : Option ν)

include hp hpn

theorem relink_eq : h.relink (linkTo slot n (p / 2)) (slot p) value =
    if p = 1 then { h with root := value }
    else if p % 2 = 0 then h.setLeft (slot (p / 2)) value
    else h.setRight (slot (p / 2)) value := by
  by_cases hroot : p = 1
  · subst hroot
    simp [relink]
  · have hhalf : 1 ≤ p / 2 := by omega
    have hhalfn : p / 2 ≤ n := by omega
    rw [linkTo_of_mem hhalf hhalfn, if_neg hroot]
    simp only [relink, hs.left _ hhalf hhalfn, hs.right _ hhalf hhalfn, hs.linkTo_eq_some_iff hp hpn]
    by_cases heven : p % 2 = 0
    · rw [if_pos (by omega), if_pos heven]
    · rw [if_neg (by omega), if_pos (by omega), if_neg heven]

theorem relink_left (hq : 1 ≤ q) (hqn : q ≤ n) : (h.relink (linkTo slot n (p / 2)) (slot p) value).left (slot q) =
    if 2 * q = p then value else linkTo slot n (2 * q) := by
  rw [hs.relink_eq hp hpn]
  split
  · rw [if_neg (by omega)]
    exact hs.left q hq hqn
  · split
    · rw [setLeft_left, hs.left q hq hqn]
      exact if_congr ((hs.slot_eq_iff hq hqn (by omega) (by omega)).trans (by omega)) rfl rfl
    · rw [setRight_left, hs.left q hq hqn, if_neg (by omega)]

theorem relink_right (hq : 1 ≤ q) (hqn : q ≤ n) : (h.relink (linkTo slot n (p / 2)) (slot p) value).right (slot q) =
    if 2 * q + 1 = p then value else linkTo slot n (2 * q + 1) := by
  rw [hs.relink_eq hp hpn]
  split
  · rw [if_neg (by omega)]
    exact hs.right q hq hqn
  · split
    · rw [setLeft_right, hs.right q hq hqn, if_neg (by omega)]
    · rw [setRight_right, hs.right q hq hqn]
      exact if_congr ((hs.slot_eq_iff hq hqn (by omega) (by omega)).trans (by omega)) rfl rfl

theorem relink_root : (h.relink (linkTo slot n (p / 2)) (slot p) value).root =
    if p = 1 then value else linkTo slot n 1 := by
  rw [hs.relink_eq hp hpn]
  split
  · rfl
  · split <;> exact hs.root

theorem relink_parent (x : ν) : (h.relink (linkTo slot n (p / 2)) (slot p) value).parent x = h.parent x := by
  rw [hs.relink_eq hp hpn]
  split
  · rfl
  · split <;> rfl

theorem relink_outside : h.SameOutside (h.relink (linkTo slot n (p / 2)) (slot p) value) (Members slot n) := by
  intro x hx
  rw [hs.relink_eq hp hpn]
  split
  · exact ⟨rfl, rfl⟩
  · have hne : x ≠ slot (p / 2) := fun heq => hx (heq ▸ mem_members (by omega) (by omega))
    split
    · exact ⟨(setLeft_left ..).trans (if_neg hne), rfl⟩
    · exact ⟨rfl, (setRight_right ..).trans (if_neg hne)⟩

theorem relink_nelts : (h.relink (linkTo slot n (p / 2)) (slot p) value).nelts = n := by
  rw [hs.relink_eq hp hpn]
  split
  · exact hs.nelts
  · split <;> exact hs.nelts

end Relink

variable {c : Nat}

omit [DecidableEq ν] in
theorem of_exchange {h' : Heap ν} (hp : c / 2 = p) (hc : 2 ≤ c) (hcn : c ≤ n) (hnelts : h'.nelts = n)
    (hroot : h'.root = if p = 1 then some (slot c) else linkTo slot n 1)
    (hparent : ∀ r, 1 ≤ r → r ≤ n → h'.parent (slot r) =
      if r = p then some (slot c) else if r = c then linkTo slot n (p / 2)
      else if r / 2 = p then some (slot c) else if r / 2 = c then some (slot p) else linkTo slot n (r / 2))
    (hleft : ∀ r, 1 ≤ r → r ≤ n → h'.left (slot r) =
      if r = p then linkTo slot n (2 * c)
      else if r = c then (if 2 * p = c then some (slot p) else linkTo slot n (2 * p))
      else if 2 * r = p then some (slot c) else linkTo slot n (2 * r))
    (hright : ∀ r, 1 ≤ r → r ≤ n → h'.right (slot r) =
      if r = p then linkTo slot n (2 * c + 1)
      else if r = c then (if 2 * p + 1 = c then some (slot p) else linkTo slot n (2 * p + 1))
      else if 2 * r + 1 = p then some (slot c) else linkTo slot n (2 * r + 1)) :
    h'.Shape (slot ∘ Equiv.swap p c) n := by
  have hp1 : 1 ≤ p := by omega
  have hpc : p < c := by omega
  have hatp := linkTo_swap_left slot c hp1 (show p ≤ n by omega)
  have hatc := linkTo_swap_right slot p (show 1 ≤ c by omega) hcn
  refine { nelts := hnelts, root := ?_, parent := ?_, left := ?_, right := ?_, inj := ?_ }
  · rw [hroot]
    split
    · rename_i hone
      rw [← hatp, hone]
    · rw [linkTo_swap_of_ne (by omega) (by omega)]
  · intro q hq hqn
    by_cases hqp : q = p
    · subst hqp
      rw [comp_swap_left, hparent c (by omega) hcn, if_neg (by omega), if_pos rfl,
        linkTo_swap_of_ne (by omega) (by omega)]
    · by_cases hqc : q = c
      · subst hqc
        rw [comp_swap_right, hparent p hp1 (by omega), if_pos rfl, hp, hatp]
      · rw [comp_swap_of_ne hqp hqc, hparent q hq hqn, if_neg hqp, if_neg hqc]
        split
        · rename_i hhalf
          rw [hhalf, hatp]
        · split
          · rename_i hhalf
            rw [hhalf, hatc]
          · rename_i hhalfp hhalfc
            rw [linkTo_swap_of_ne hhalfp hhalfc]
  · exact swap_child 0 (Nat.zero_le 1) hp hc hcn hleft
  · exact swap_child 1 (Nat.le_refl 1) hp hc hcn hright
  · intro q r hq hqn hr hrn heq
    have hqr := swap_range hp1 (by omega) (by omega) hcn hq hqn
    have hrr := swap_range hp1 (by omega) (by omega) hcn hr hrn
    exact (Equiv.swap p c).injective (hs.inj _ _ hqr.1 hqr.2 hrr.1 hrr.2 heq)

theorem heap_swap_shape (hc : 2 ≤ c) (hcn : c ≤ n) :
    ∃ h', h.heap_swap (slot (c / 2)) (slot c) = some h' ∧ h'.Shape (slot ∘ Equiv.swap (c / 2) c) n ∧
      h.SameOutside h' (Members slot n) := by
  generalize hp : c / 2 = p
  have hp1 : 1 ≤ p := by omega
  have hpn : p ≤ n := by omega
  have hparent : h.parent (slot c) = some (slot p) := by
    rw [hs.parent c (by omega) hcn, hp, linkTo_of_mem hp1 hpn]
  have hchild : h.left (slot p) = some (slot c) ∨ h.right (slot p) = some (slot c) := by
    rw [hs.left p hp1 hpn, hs.right p hp1 hpn, hs.linkTo_eq_some_iff (by omega) hcn,
      hs.linkTo_eq_some_iff (by omega) hcn]
    omega
  have hl := hs.relink_left hp1 hpn (some (slot c)) hp1 hpn
  have hr := hs.relink_right hp1 hpn (some (slot c)) hp1 hpn
  rw [if_neg (by omega)] at hl hr
  simp only [heap_swap, hparent, hchild, and_self, if_true, hs.parent p hp1 hpn, hs.left c (by omega) hcn,
    hs.right c (by omega) hcn, setParent_left, setParent_right, setParentOf_left, setParentOf_right, hl, hr,
    hs.linkTo_eq_some_iff (show 1 ≤ c by omega) hcn]
  have hc1 : 1 ≤ c := by omega
  have hpc : ¬ c = p := by omega
  refine ⟨_, rfl, hs.of_exchange hp hc hcn ?_ ?_ ?_ ?_ ?_, ?_⟩
  · split <;> simp [hs.relink_nelts hp1 hpn]
  · split <;> simp [hs.relink_root hp1 hpn]
  · intro r hr hrn
    split
    · simp only [setRight_parent, setLeft_parent, setParent_parent, setParentOf_parent, hs.relink_parent hp1 hpn,
        hs.parent r hr hrn, hs.slot_eq_iff hr hrn hp1 hpn, hs.slot_eq_iff hr hrn hc1 hcn, hs.linkTo_eq_some_iff hr hrn]
      split_ifs <;> first | rfl | (exfalso; omega)
    · simp only [setRight_parent, setLeft_parent, setParent_parent, setParentOf_parent, hs.relink_parent hp1 hpn,
        hs.parent r hr hrn, hs.slot_eq_iff hr hrn hp1 hpn, hs.slot_eq_iff hr hrn hc1 hcn, hs.linkTo_eq_some_iff hr hrn]
      split_ifs <;> first | rfl | (exfalso; omega)
  · intro r hr hrn
    split <;> simp [hs.relink_left hp1 hpn _ hr hrn, hs.slot_eq_iff hr hrn hp1 hpn, hs.slot_eq_iff hr hrn hc1 hcn]
  · intro r hr hrn
    have hodd : 2 * p + 1 = c ↔ ¬ 2 * p = c := by omega
    split <;> simp_all [hs.relink_right hp1 hpn _ hr hrn, hs.slot_eq_iff hr hrn hp1 hpn, hs.slot_eq_iff hr hrn hc1 hcn]
  · intro x hx
    have hxp : x ≠ slot p := fun heq => hx (heq ▸ mem_members hp1 hpn)
    have hxc : x ≠ slot c := fun heq => hx (heq ▸ mem_members hc1 hcn)
    have hrelink := hs.relink_outside hp1 hpn (some (slot c)) x hx
    split <;> simp [hxp, hxc, hrelink.1, hrelink.2]

end Shape

/-- The position that a path of length `d` leads to from position `p`. -/
def descend : Nat → Nat → Nat → Nat
  | p, _, 0 => p
  | p, path, d + 1 => descend (2 * p + path % 2) (path / 2) d

theorem le_descend {p path d : Nat} : p ≤ descend p path d := by
  induction d generalizing p path with
  | zero => exact Nat.le_refl p
  | succ d ih =>
    calc
      p ≤ 2 * p + path % 2 := by omega
      _ ≤ descend p path (d + 1) := ih

theorem descend_lastPath {fuel n path d : Nat} (hn : 1 ≤ n) (hfuel : n ≤ fuel) :
    descend 1 (lastPath fuel n path d).1 (lastPath fuel n path d).2 = descend n path d := by
  induction fuel generalizing n path d with
  | zero => omega
  | succ fuel ih =>
    unfold lastPath
    by_cases hmore : n ≥ 2
    · rw [if_pos hmore, ih (by omega) (by omega)]
      have hhalf : 2 * (n / 2) + (2 * path + n % 2) % 2 = n := by omega
      have hrest : (2 * path + n % 2) / 2 = path := by omega
      rw [descend, hhalf, hrest]
    · rw [if_neg hmore]
      have hone : n = 1 := by omega
      rw [hone]

omit [DecidableEq ν] in
theorem lastParent_eq {h : Heap ν} {slot : Nat → ν} {m : Nat}
    (hleft : ∀ p, 1 ≤ p → p ≤ m → h.left (slot p) = linkTo slot m (2 * p))
    (hright : ∀ p, 1 ≤ p → p ≤ m → h.right (slot p) = linkTo slot m (2 * p + 1))
    {p path d : Nat} (hp : 1 ≤ p) (hpm : p ≤ m) (hm : descend p path (d + 1) / 2 ≤ m) :
    ∃ rest, h.lastParent (d + 1) path (some (slot p)) = some (some (slot (descend p path (d + 1) / 2)), rest) ∧
      rest % 2 = descend p path (d + 1) % 2 := by
  induction d generalizing p path with
  | zero =>
    have hhalf : descend p path 1 / 2 = p := by
      simp only [descend]
      omega
    refine ⟨path, ?_, ?_⟩
    · rw [hhalf]
      rfl
    · simp only [descend]
      omega
  | succ d ih =>
    have hle : 2 * (2 * p + path % 2) ≤ descend p path (d + 1 + 1) := by
      calc
        2 * (2 * p + path % 2) ≤ 2 * (2 * p + path % 2) + path / 2 % 2 := by omega
        _ ≤ descend p path (d + 1 + 1) := le_descend
    have hnext : (if path % 2 = 1 then h.right (slot p) else h.left (slot p)) = some (slot (2 * p + path % 2)) := by
      split
      · rename_i hodd
        rw [hright p hp hpm, hodd, linkTo_of_mem (by omega) (by omega)]
      · have heven : path % 2 = 0 := by omega
        rw [hleft p hp hpm, heven, linkTo_of_mem (by omega) (by omega)]
        rfl
    obtain ⟨rest, hwalk, hrest⟩ := @ih (2 * p + path % 2) (path / 2) (by omega) (by omega) hm
    refine ⟨rest, ?_, hrest⟩
    simp only [lastParent, Option.bind_some, hnext]
    exact hwalk

namespace Shape

variable {h : Heap ν} {slot} {n : Nat}

variable {h' : Heap ν}

omit [DecidableEq ν] in
theorem lastParent_shape (hs : h.Shape slot n) {k N : Nat} (hN : 2 ≤ N) (hNn : N ≤ n + 1) :
    ∃ rest, ({ h with nelts := k } : Heap ν).lastParent (lastPath N N 0 0).2 (lastPath N N 0 0).1 h.root =
      some (some (slot (N / 2)), rest) ∧ rest % 2 = N % 2 := by
  have hpath := @descend_lastPath N N 0 0 (by omega) (Nat.le_refl N)
  simp only [descend] at hpath
  have hroot : h.root = some (slot 1) := by rw [hs.root, linkTo_of_mem (Nat.le_refl 1) (by omega)]
  generalize (lastPath N N 0 0).1 = path at hpath ⊢
  cases hd : (lastPath N N 0 0).2 with
  | zero =>
    rw [hd] at hpath
    simp only [descend] at hpath
    omega
  | succ d =>
    rw [hd] at hpath
    have hwalk := @lastParent_eq ν { h with nelts := k } slot n hs.left hs.right 1 path d (Nat.le_refl 1) (by omega)
      (by rw [hpath]; omega)
    rwa [hpath, ← hroot] at hwalk

theorem attach (hs : h.Shape slot n) {node : ν} (hnode : node ∉ Members slot n) (hleft : h.left node = none)
    (hright : h.right node = none) (hnelts : h'.nelts = n + 1)
    (hroot : h'.root = if n = 0 then some node else h.root)
    (hparent' : ∀ x, h'.parent x = if x = node then linkTo slot n ((n + 1) / 2) else h.parent x)
    (hleft' : ∀ x, h'.left x = if (n + 1) % 2 = 0 ∧ x = slot ((n + 1) / 2) then some node else h.left x)
    (hright' : ∀ x, h'.right x =
      if (n + 1) % 2 = 1 ∧ n ≠ 0 ∧ x = slot ((n + 1) / 2) then some node else h.right x) :
    h'.Shape (update slot (n + 1) node) (n + 1) := by
  have hne (q : Nat) (hq : 1 ≤ q) (hqn : q ≤ n) : slot q ≠ node := fun heq => hnode ⟨q, hq, hqn, heq⟩
  have hold (q : Nat) (hqn : q ≠ n + 1) : update slot (n + 1) node q = slot q := update_of_ne hqn _ _
  have hnew : update slot (n + 1) node (n + 1) = node := update_self ..
  have hlink (q : Nat) (hqn : q ≠ n + 1) : linkTo (update slot (n + 1) node) (n + 1) q = linkTo slot n q := by
    unfold linkTo
    by_cases hq : 1 ≤ q ∧ q ≤ n
    · rw [if_pos hq, if_pos ⟨hq.1, by omega⟩, hold q hqn]
    · rw [if_neg hq, if_neg (by omega)]
  have hlast : linkTo (update slot (n + 1) node) (n + 1) (n + 1) = some node := by
    rw [linkTo_of_mem (by omega) (Nat.le_refl _), hnew]
  refine { nelts := hnelts, root := ?_, parent := ?_, left := ?_, right := ?_, inj := ?_ }
  · rw [hroot]
    split
    · rename_i hzero
      rw [← hlast, hzero]
    · rw [hs.root, hlink 1 (by omega)]
  · intro q hq hqn
    rw [hparent', hlink (q / 2) (by omega)]
    by_cases hqlast : q = n + 1
    · rw [hqlast, hnew, if_pos rfl]
    · rw [hold q hqlast, if_neg (hne q hq (by omega)), hs.parent q hq (by omega)]
  · intro q hq hqn
    rw [hleft']
    by_cases hqlast : q = n + 1
    · have hself : ¬ ((n + 1) % 2 = 0 ∧ node = slot ((n + 1) / 2)) :=
        fun heq => hne ((n + 1) / 2) (by omega) (by omega) heq.2.symm
      rw [hqlast, hnew, if_neg hself, hleft, linkTo_of_lt (by omega)]
    · have hiff : ((n + 1) % 2 = 0 ∧ slot q = slot ((n + 1) / 2)) ↔ 2 * q = n + 1 := by
        constructor
        · rintro ⟨heven, heq⟩
          have := hs.inj q _ hq (by omega) (by omega) (by omega) heq
          omega
        · intro heq
          exact ⟨by omega, congrArg slot (by omega)⟩
      rw [hold q hqlast, hs.left q hq (by omega)]
      by_cases hself : 2 * q = n + 1
      · rw [if_pos (hiff.mpr hself), hself, hlast]
      · rw [if_neg fun h => hself (hiff.mp h), hlink _ hself]
  · intro q hq hqn
    rw [hright']
    by_cases hqlast : q = n + 1
    · have hself : ¬ ((n + 1) % 2 = 1 ∧ n ≠ 0 ∧ node = slot ((n + 1) / 2)) :=
        fun heq => hne ((n + 1) / 2) (by omega) (by omega) heq.2.2.symm
      rw [hqlast, hnew, if_neg hself, hright, linkTo_of_lt (by omega)]
    · have hiff : ((n + 1) % 2 = 1 ∧ n ≠ 0 ∧ slot q = slot ((n + 1) / 2)) ↔ 2 * q + 1 = n + 1 := by
        constructor
        · rintro ⟨hodd, hzero, heq⟩
          have := hs.inj q _ hq (by omega) (by omega) (by omega) heq
          omega
        · intro heq
          exact ⟨by omega, by omega, congrArg slot (by omega)⟩
      rw [hold q hqlast, hs.right q hq (by omega)]
      by_cases hself : 2 * q + 1 = n + 1
      · rw [if_pos (hiff.mpr hself), hself, hlast]
      · rw [if_neg fun h => hself (hiff.mp h), hlink _ hself]
  · intro q r hq hqn hr hrn heq
    by_cases hqlast : q = n + 1 <;> by_cases hrlast : r = n + 1
    · omega
    · rw [hqlast, hnew, hold r hrlast] at heq
      exact absurd heq.symm (hne r hr (by omega))
    · rw [hrlast, hnew, hold q hqlast] at heq
      exact absurd heq (hne q hq (by omega))
    · rw [hold q hqlast, hold r hrlast] at heq
      exact hs.inj q r hq (by omega) hr (by omega) heq

omit [DecidableEq ν] in
theorem of_same (hs : h.Shape slot n) (hnelts : h'.nelts = h.nelts) (hroot : h'.root = h.root)
    (hlinks : ∀ x ∈ Members slot n, h'.parent x = h.parent x ∧ h'.left x = h.left x ∧ h'.right x = h.right x) :
    h'.Shape slot n where
  nelts := hnelts.trans hs.nelts
  root := hroot.trans hs.root
  parent q hq hqn := (hlinks _ (mem_members hq hqn)).1.trans (hs.parent q hq hqn)
  left q hq hqn := (hlinks _ (mem_members hq hqn)).2.1.trans (hs.left q hq hqn)
  right q hq hqn := (hlinks _ (mem_members hq hqn)).2.2.trans (hs.right q hq hqn)
  inj := hs.inj

omit [DecidableEq ν] in
theorem last_not_mem (hs : h.Shape slot (n + 1)) : slot (n + 1) ∉ Members slot n := by
  rintro ⟨q, hq, hqn, heq⟩
  have := hs.inj q (n + 1) hq (by omega) (by omega) (Nat.le_refl _) heq
  omega

theorem detach (hs : h.Shape slot (n + 1)) (hn : 1 ≤ n) (hnelts : h'.nelts = n) (hroot : h'.root = h.root)
    (hparent : h'.parent = h.parent)
    (hleft : ∀ x, h'.left x = if (n + 1) % 2 = 0 ∧ x = slot ((n + 1) / 2) then none else h.left x)
    (hright : ∀ x, h'.right x = if (n + 1) % 2 = 1 ∧ x = slot ((n + 1) / 2) then none else h.right x) :
    h'.Shape slot n := by
  have hlink (q : Nat) (hqn : q ≠ n + 1) : linkTo slot (n + 1) q = linkTo slot n q := by
    unfold linkTo
    exact if_congr (by omega) rfl rfl
  refine { nelts := hnelts, root := ?_, parent := ?_, left := ?_, right := ?_, inj := ?_ }
  · rw [hroot, hs.root, hlink 1 (by omega)]
  · intro q hq hqn
    rw [hparent, hs.parent q hq (by omega), hlink _ (by omega)]
  · intro q hq hqn
    have hiff : ((n + 1) % 2 = 0 ∧ slot q = slot ((n + 1) / 2)) ↔ 2 * q = n + 1 := by
      rw [hs.slot_eq_iff hq (by omega) (by omega) (by omega)]
      omega
    rw [hleft, hs.left q hq (by omega)]
    by_cases hlast : 2 * q = n + 1
    · rw [if_pos (hiff.mpr hlast), linkTo_of_lt (by omega)]
    · rw [if_neg fun h => hlast (hiff.mp h), hlink _ hlast]
  · intro q hq hqn
    have hiff : ((n + 1) % 2 = 1 ∧ slot q = slot ((n + 1) / 2)) ↔ 2 * q + 1 = n + 1 := by
      rw [hs.slot_eq_iff hq (by omega) (by omega) (by omega)]
      omega
    rw [hright, hs.right q hq (by omega)]
    by_cases hlast : 2 * q + 1 = n + 1
    · rw [if_pos (hiff.mpr hlast), linkTo_of_lt (by omega)]
    · rw [if_neg fun h => hlast (hiff.mp h), hlink _ hlast]
  · intro q r hq hqn hr hrn
    exact hs.inj q r hq (by omega) hr (by omega)

variable {p : Nat}

theorem heap_replace_shape (hs : h.Shape slot n) (hp : 1 ≤ p) (hpn : p ≤ n) {node : ν} (hnode : node ∉ Members slot n) :
    (h.heap_replace (slot p) node).Shape (update slot p node) n := by
  have hne (q : Nat) (hq : 1 ≤ q) (hqn : q ≤ n) : slot q ≠ node := fun heq => hnode ⟨q, hq, hqn, heq⟩
  have hold (q : Nat) (hqp : q ≠ p) : update slot p node q = slot q := update_of_ne hqp _ _
  have hnew : update slot p node p = node := update_self ..
  have hlink (q : Nat) : linkTo (update slot p node) n q = if q = p then some node else linkTo slot n q := by
    split
    · rename_i hqp
      rw [hqp, linkTo_of_mem hp hpn, hnew]
    · rename_i hqp
      exact linkTo_congr (hold q hqp)
  have hlp : (h.relink (linkTo slot n (p / 2)) (slot p) (some node)).left (slot p) = linkTo slot n (2 * p) := by
    rw [hs.relink_left hp hpn _ hp hpn, if_neg (by omega)]
  have hrp : (h.relink (linkTo slot n (p / 2)) (slot p) (some node)).right (slot p) = linkTo slot n (2 * p + 1) := by
    rw [hs.relink_right hp hpn _ hp hpn, if_neg (by omega)]
  have hpp (q : Nat) (hq : q ≠ p) : ¬ linkTo slot n q = some (slot p) := by
    rw [hs.linkTo_eq_some_iff hp hpn]
    exact hq
  simp only [heap_replace, hs.parent p hp hpn, setParentOf_left, setParentOf_right, setParent_left, setParent_right,
    setLeft_right, hlp, hrp, setParentOf_parent, hs.relink_parent hp hpn, if_neg (hpp (2 * p) (by omega)),
    if_neg (hpp (2 * p + 1) (by omega))]
  refine { nelts := ?_, root := ?_, parent := ?_, left := ?_, right := ?_, inj := ?_ }
  · simp [hs.relink_nelts hp hpn]
  · simp only [setRight_root, setLeft_root, setParent_root, setParentOf_root, hs.relink_root hp hpn, hlink]
    exact if_congr eq_comm rfl rfl
  · intro q hq hqn
    simp only [setRight_parent, setLeft_parent, setParent_parent, setParentOf_parent, hs.relink_parent hp hpn]
    by_cases hqp : q = p
    · rw [hqp, hnew, if_pos rfl, hlink, if_neg (by omega)]
    · rw [hold q hqp, if_neg (hne q hq hqn), hs.parent q hq hqn, hlink]
      simp only [hs.linkTo_eq_some_iff hq hqn]
      split_ifs <;> first | rfl | (exfalso; omega)
  · intro q hq hqn
    simp only [setRight_left, setLeft_left, setParent_left, setParentOf_left]
    by_cases hqp : q = p
    · rw [hqp, hnew, if_pos rfl, hlink, if_neg (by omega)]
    · rw [hold q hqp, if_neg (hne q hq hqn), hs.relink_left hp hpn _ hq hqn, hlink]
  · intro q hq hqn
    simp only [setRight_right, setLeft_right, setParent_right, setParentOf_right]
    by_cases hqp : q = p
    · rw [hqp, hnew, if_pos rfl, hlink, if_neg (by omega)]
    · rw [hold q hqp, if_neg (hne q hq hqn), hs.relink_right hp hpn _ hq hqn, hlink]
  · intro q r hq hqn hr hrn heq
    by_cases hqp : q = p <;> by_cases hrp : r = p
    · rw [hqp, hrp]
    · rw [hqp, hnew, hold r hrp] at heq
      exact absurd heq.symm (hne r hr hrn)
    · rw [hrp, hnew, hold q hqp] at heq
      exact absurd heq (hne q hq hqn)
    · rw [hold q hqp, hold r hrp] at heq
      exact hs.inj q r hq hqn hr hrn heq

end Shape

end hub.dsa.Heap
