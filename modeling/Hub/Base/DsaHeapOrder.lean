import Hub.Base.DsaHeapShape
import Mathlib.Data.Set.Insert

namespace hub.dsa.Heap

open Function

variable {ν K : Type} [DecidableEq ν] [LinearOrder K] {compare : ν → ν → Option Bool} {key : ν → K}

/-- On the given nodes `compare` is the strict order of their keys. -/
def Compares (compare : ν → ν → Option Bool) (key : ν → K) (nodes : Set ν) : Prop :=
  ∀ a b, a ∈ nodes → b ∈ nodes → compare a b = some (decide (key a < key b))

/-- The heap has exactly these nodes, and no key is below the one of its parent. -/
def Sorted (h : Heap ν) (key : ν → K) (nodes : Set ν) : Prop :=
  ∃ slot n, h.Shape slot n ∧ Members slot n = nodes ∧ Heaped (key ∘ slot) n

variable {h : Heap ν} {slot : Nat → ν} {n p : Nat}

theorem siftUp_sorted {fuel : Nat} (hs : h.Shape slot n) (hcompare : Compares compare key (Members slot n)) (hp : 1 ≤ p)
    (hpn : p ≤ n) (hfuel : p ≤ fuel) (hhole : HoleUp (key ∘ slot) n p) :
    ∃ h', siftUp compare fuel h (slot p) = some h' ∧ h'.Sorted key (Members slot n) ∧
      h.SameOutside h' (Members slot n) := by
  induction fuel generalizing h slot p with
  | zero => omega
  | succ fuel ih =>
    by_cases hroot : p = 1
    · have hparent : h.parent (slot p) = none := by rw [hs.parent p hp hpn, hroot]; rfl
      refine ⟨h, ?_, ⟨slot, n, hs, rfl, hhole.heaped fun h2 => ?_⟩, fun _ _ => ⟨rfl, rfl⟩⟩
      · simp only [siftUp, hparent]
      · omega
    · have hparent : h.parent (slot p) = some (slot (p / 2)) := by
        rw [hs.parent p hp hpn, linkTo_of_mem (by omega) (by omega)]
      have hless := hcompare (slot p) (slot (p / 2)) (mem_members hp hpn) (mem_members (by omega) (by omega))
      by_cases hlow : key (slot p) < key (slot (p / 2))
      · obtain ⟨h₁, hswap, hs₁, hout₁⟩ := hs.heap_swap_shape (c := p) (by omega) hpn
        have hmembers := members_swap slot (n := n) (p := p / 2) (c := p) (by omega) (by omega) hp hpn
        have hnode : (slot ∘ Equiv.swap (p / 2) p) (p / 2) = slot p := congrArg slot (Equiv.swap_apply_left _ _)
        obtain ⟨h', hsift, hsorted, hout⟩ := ih hs₁ (hmembers.symm ▸ hcompare) (by omega) (by omega) (by omega)
          (hhole.up (by omega) hpn hlow)
        rw [hnode] at hsift
        rw [hmembers] at hsorted hout
        refine ⟨h', ?_, hsorted, hout₁.trans hout⟩
        simp only [siftUp, hparent, hless, Option.bind_some, hlow, decide_true, if_true, hswap, hsift]
      · refine ⟨h, ?_, ⟨slot, n, hs, rfl, hhole.heaped fun _ => le_of_not_gt hlow⟩, fun _ _ => ⟨rfl, rfl⟩⟩
        simp only [siftUp, hparent, hless, Option.bind_some, hlow, decide_false, Bool.false_eq_true, if_false]

omit [DecidableEq ν] in
theorem earlier_eq (hs : h.Shape slot n) (hcompare : Compares compare key (Members slot n)) (hp : 1 ≤ p) (hpn : p ≤ n) :
    ∃ e, ((earlier compare (slot p) (h.left (slot p))).bind fun est => earlier compare est (h.right (slot p))) =
        some (slot e) ∧ 1 ≤ e ∧ e ≤ n ∧ (e = p ∨ e / 2 = p) ∧ key (slot e) ≤ key (slot p) ∧
      ∀ q, q ≤ n → q / 2 = p → key (slot e) ≤ key (slot q) := by
  -- one comparison, with whatever is the earliest so far
  have hchoose (b c : Nat) (hb : 1 ≤ b) (hbn : b ≤ n) (hc : 1 ≤ c) :
      ∃ e, earlier compare (slot b) (linkTo slot n c) = some (slot e) ∧ 1 ≤ e ∧ e ≤ n ∧ (e = b ∨ e = c) ∧
        key (slot e) ≤ key (slot b) ∧ (c ≤ n → key (slot e) ≤ key (slot c)) := by
    by_cases hcn : c ≤ n
    · have hless := hcompare (slot b) (slot c) (mem_members hb hbn) (mem_members hc hcn)
      rw [linkTo_of_mem hc hcn]
      simp only [earlier, hless, Option.map_some]
      by_cases hlow : key (slot b) < key (slot c)
      · exact ⟨b, by simp [hlow], hb, hbn, .inl rfl, le_rfl, fun _ => hlow.le⟩
      · exact ⟨c, by simp [hlow], hc, hcn, .inr rfl, le_of_not_gt hlow, fun _ => le_rfl⟩
    · rw [linkTo_of_lt (by omega)]
      exact ⟨b, rfl, hb, hbn, .inl rfl, le_rfl, fun hle => absurd hle hcn⟩
  obtain ⟨b, hfirst, hb, hbn, hbp, hbkey, hbleft⟩ := hchoose p (2 * p) hp hpn (by omega)
  obtain ⟨e, hsecond, he, hen, hep, hekey, heright⟩ := hchoose b (2 * p + 1) hb hbn (by omega)
  refine ⟨e, ?_, he, hen, by omega, hekey.trans hbkey, ?_⟩
  · rw [hs.left p hp hpn, hfirst, Option.bind_some, hs.right p hp hpn, hsecond]
  · intro q hqn hqp
    by_cases heven : q = 2 * p
    · subst heven
      exact hekey.trans (hbleft hqn)
    · have hodd : q = 2 * p + 1 := by omega
      subst hodd
      exact heright hqn

theorem siftDown_hole {fuel : Nat} (hs : h.Shape slot n) (hcompare : Compares compare key (Members slot n)) (hp : 1 ≤ p)
    (hpn : p ≤ n) (hfuel : n + 1 ≤ p + fuel) (hhole : Hole (key ∘ slot) n p) :
    ∃ h' slot' q, siftDown compare fuel h (slot p) = some h' ∧ h'.Shape slot' n ∧ Members slot' n = Members slot n ∧
      1 ≤ q ∧ q ≤ n ∧ slot' q = slot p ∧ HoleUp (key ∘ slot') n q ∧ h.SameOutside h' (Members slot n) := by
  induction fuel generalizing h slot p with
  | zero => omega
  | succ fuel ih =>
    obtain ⟨e, hest, he, hen, hep, hekey, hemin⟩ := earlier_eq hs hcompare hp hpn
    have hsift : siftDown compare (fuel + 1) h (slot p) =
        if slot e = slot p then some h
        else (h.heap_swap (slot p) (slot e)).bind fun h => siftDown compare fuel h (slot p) := by
      obtain ⟨b, hb, hbe⟩ := Option.bind_eq_some_iff.mp hest
      simp only [siftDown, hb, hbe, Option.bind_some]
    rcases hep with rfl | hchild
    · refine ⟨h, slot, e, ?_, hs, rfl, hp, hpn, rfl, { hhole with below := hemin }, fun _ _ => ⟨rfl, rfl⟩⟩
      rw [hsift, if_pos rfl]
    · obtain ⟨h₁, hswap, hs₁, hout₁⟩ := hs.heap_swap_shape (c := e) (by omega) hen
      rw [hchild] at hswap hs₁
      have hmembers := members_swap slot hp hpn he hen
      have hnode : (slot ∘ Equiv.swap p e) e = slot p := congrArg slot (Equiv.swap_apply_right _ _)
      have hne : slot e ≠ slot p := by
        rw [ne_eq, hs.slot_eq_iff he hen hp hpn]
        omega
      obtain ⟨h', slot', q, hrest, hs', hmembers', hq, hqn, hslot, hhole', hout⟩ :=
        ih hs₁ (hmembers.symm ▸ hcompare) he hen (by omega) (hhole.down hp hchild hen hemin)
      rw [hnode] at hrest hslot
      rw [hmembers] at hmembers' hout
      refine ⟨h', slot', q, ?_, hs', hmembers', hq, hqn, hslot, hhole', hout₁.trans hout⟩
      rw [hsift, if_neg hne, hswap, Option.bind_some, hrest]

variable {nodes : Set ν} {node : ν}

omit [DecidableEq ν] in
theorem members_append (slot : Nat → ν) (n : Nat) (node : ν) :
    Members (update slot (n + 1) node) (n + 1) = insert node (Members slot n) := by
  ext x
  constructor
  · rintro ⟨q, hq, hqn, rfl⟩
    by_cases hlast : q = n + 1
    · rw [hlast, update_self]
      exact Set.mem_insert node _
    · rw [update_of_ne hlast]
      exact Set.mem_insert_of_mem _ (mem_members hq (by omega))
  · rintro (rfl | ⟨q, hq, hqn, rfl⟩)
    · exact ⟨n + 1, by omega, Nat.le_refl _, update_self ..⟩
    · exact ⟨q, hq, by omega, update_of_ne (by omega) _ _⟩

theorem heap_insert_sorted (hsorted : h.Sorted key nodes) (hnode : node ∉ nodes) (hleft : h.left node = none)
    (hright : h.right node = none) (hcompare : Compares compare key (insert node nodes)) :
    ∃ h', h.heap_insert compare node = some h' ∧ h'.Sorted key (insert node nodes) := by
  obtain ⟨slot, n, hs, rfl, hheaped⟩ := hsorted
  -- the node is linked at the first free position, and then moves up
  have hlinked {h₁ : Heap ν} (hs₁ : h₁.Shape (update slot (n + 1) node) (n + 1)) :
      ∃ h', siftUp compare (h₁.nelts + 1) h₁ node = some h' ∧ h'.Sorted key (insert node (Members slot n)) := by
    rw [← members_append] at hcompare ⊢
    have hhole : HoleUp (key ∘ update slot (n + 1) node) (n + 1) (n + 1) :=
      (hheaped.congr fun q hq hqn => congrArg key (update_of_ne (by omega) _ _)).append
    have hfuel : n + 1 ≤ h₁.nelts + 1 := by rw [hs₁.nelts]; omega
    obtain ⟨h', hsift, hsorted, -⟩ := siftUp_sorted hs₁ hcompare (by omega) (Nat.le_refl _) hfuel hhole
    rw [update_self] at hsift
    exact ⟨h', hsift, hsorted⟩
  by_cases hempty : n = 0
  · subst hempty
    have hroot : h.root = none := hs.root
    have hinsert : h.heap_insert compare node =
        siftUp compare 2 { h.setParent node none with nelts := 1, root := some node } node := by
      simp only [heap_insert, hs.nelts, hroot]
      rfl
    rw [hinsert]
    refine hlinked (hs.attach hnode hleft hright rfl rfl ?_ ?_ ?_)
    · intro x
      exact setParent_parent ..
    · intro x
      rw [if_neg (by omega)]
      rfl
    · intro x
      rw [if_neg (by omega)]
      rfl
  · obtain ⟨rest, hwalk, hrest⟩ := hs.lastParent_shape (k := n + 1) (N := n + 1) (by omega) (Nat.le_refl _)
    simp only [heap_insert, hs.nelts, hwalk, Option.bind_some, hrest]
    refine hlinked (hs.attach hnode hleft hright ?_ ?_ ?_ ?_ ?_)
    · split <;> rfl
    · rw [if_neg hempty]
      split <;> rfl
    · intro x
      rw [linkTo_of_mem (by omega) (by omega)]
      split <;> exact setParent_parent ..
    · intro x
      by_cases hodd : (n + 1) % 2 = 1
      · rw [if_pos hodd, if_neg (by omega)]
        rfl
      · have heven : (n + 1) % 2 = 0 := by omega
        rw [if_neg hodd]
        simp [heven]
    · intro x
      by_cases hodd : (n + 1) % 2 = 1
      · rw [if_pos hodd]
        simp [hodd, hempty]
      · rw [if_neg hodd, if_neg (by omega)]
        rfl

def Unlinked (h : Heap ν) (node : ν) : Prop := h.left node = none ∧ h.right node = none

theorem cleared_shape (hs : h.Shape slot n) (hnode : node ∉ Members slot n) :
    (((h.setParent node none).setLeft node none).setRight node none).Shape slot n := by
  refine hs.of_same rfl rfl fun x hx => ?_
  have hne : x ≠ node := fun heq => hnode (heq ▸ hx)
  simp [hne]

theorem cleared_unlinked (h : Heap ν) (node : ν) :
    (((h.setParent node none).setLeft node none).setRight node none).Unlinked node := by
  simp [Unlinked]

omit [DecidableEq ν] in
theorem Unlinked.of_same {h' : Heap ν} (hout : h.SameOutside h' nodes) (hnode : node ∉ nodes) (hun : h.Unlinked node) :
    h'.Unlinked node :=
  ⟨(hout node hnode).1.trans hun.1, (hout node hnode).2.trans hun.2⟩

theorem sift_unlinked (compare : ν → ν → Option Bool) {fuel : Nat} (hun : h.Unlinked node)
    (hparent : h.parent node = none) :
    ((siftDown compare (fuel + 1) h node).bind fun h => siftUp compare (h.nelts + 1) h node) = some h := by
  simp [siftDown, hun.1, hun.2, earlier, siftUp, hparent]

omit [DecidableEq ν] in
theorem members_replace (hs : h.Shape slot (n + 1)) (hp : 1 ≤ p) (hpn : p ≤ n) :
    Members (update slot p (slot (n + 1))) n = Members slot (n + 1) \ {slot p} := by
  ext x
  constructor
  · rintro ⟨q, hq, hqn, rfl⟩
    by_cases hqp : q = p
    · rw [hqp, update_self]
      refine ⟨mem_members (by omega) (Nat.le_refl _), fun heq => ?_⟩
      have := hs.inj (n + 1) p (by omega) (Nat.le_refl _) hp (by omega) heq
      omega
    · rw [update_of_ne hqp]
      refine ⟨mem_members hq (by omega), fun heq => ?_⟩
      exact hqp (hs.inj q p hq (by omega) hp (by omega) heq)
  · rintro ⟨⟨q, hq, hqn, rfl⟩, hne⟩
    have hqp : q ≠ p := fun heq => hne (heq ▸ rfl)
    by_cases hlast : q = n + 1
    · exact ⟨p, hp, hpn, by rw [hlast, update_self]⟩
    · exact ⟨q, hq, by omega, update_of_ne hqp _ _⟩

omit [DecidableEq ν] in
theorem members_last (hs : h.Shape slot (n + 1)) : Members slot n = Members slot (n + 1) \ {slot (n + 1)} := by
  ext x
  constructor
  · rintro ⟨q, hq, hqn, rfl⟩
    refine ⟨mem_members hq (by omega), fun heq => ?_⟩
    have := hs.inj q (n + 1) hq (by omega) (by omega) (Nat.le_refl _) heq
    omega
  · rintro ⟨⟨q, hq, hqn, rfl⟩, hne⟩
    have hlast : q ≠ n + 1 := fun heq => hne (heq ▸ rfl)
    exact mem_members hq (by omega)

theorem replaced_sorted {h₁ : Heap ν} (hs₁ : h₁.Shape slot n) (hs : h.Shape slot (n + 1)) (hp : 1 ≤ p) (hpn : p ≤ n)
    (hhole : Hole (key ∘ slot) (n + 1) p) (hcompare : Compares compare key (Members slot (n + 1) \ {slot p})) :
    ∃ h', (let h₂ := h₁.heap_replace (slot p) (slot (n + 1))
        let h₂ := ((h₂.setParent (slot p) none).setLeft (slot p) none).setRight (slot p) none
        (siftDown compare (h₂.nelts + 1) h₂ (slot (n + 1))).bind fun h =>
          siftUp compare (h.nelts + 1) h (slot (n + 1))) =
          some h' ∧ h'.Sorted key (Members slot (n + 1) \ {slot p}) ∧ h'.Unlinked (slot p) := by
  have hmembers := members_replace hs hp hpn
  have hnode : slot p ∉ Members (update slot p (slot (n + 1))) n := by
    rw [hmembers]
    exact fun hmem => hmem.2 rfl
  rw [← hmembers] at hcompare ⊢
  have hs₂ := cleared_shape (hs₁.heap_replace_shape hp hpn hs.last_not_mem) hnode
  have hun₂ := cleared_unlinked (h₁.heap_replace (slot p) (slot (n + 1))) (slot p)
  dsimp only
  generalize ((h₁.heap_replace (slot p) (slot (n + 1))).setParent (slot p) none).setLeft
    (slot p) none = h₂ at hs₂ hun₂ ⊢
  have hhole₂ : Hole (key ∘ update slot p (slot (n + 1))) n p :=
    hhole.shrink.of_agree fun q _ _ hqp => congrArg key (update_of_ne hqp _ _)
  have hfuel : n + 1 ≤ p + ((h₂.setRight (slot p) none).nelts + 1) := by rw [hs₂.nelts]; omega
  obtain ⟨h₃, slot₃, q, hdown, hs₃, hmembers₃, hq, hqn, hslot, hhole₃, hout₃⟩ :=
    siftDown_hole hs₂ hcompare hp hpn hfuel hhole₂
  have hfuel₃ : q ≤ h₃.nelts + 1 := by rw [hs₃.nelts]; omega
  obtain ⟨h', hup, hsorted, hout⟩ := siftUp_sorted hs₃ (hmembers₃.symm ▸ hcompare) hq hqn hfuel₃ hhole₃
  rw [update_self] at hdown hslot
  rw [hslot] at hup
  rw [hmembers₃] at hsorted hout
  refine ⟨h', ?_, hsorted, (hun₂.of_same hout₃ hnode).of_same hout hnode⟩
  rw [hdown, Option.bind_some, hup]

theorem replace_self_shape (hs : h.Shape slot n) (hnode : node ∉ Members slot n) (hun : h.Unlinked node)
    (hp : 1 ≤ p) (hpn : p ≤ n) (hparent : h.parent node = some (slot p)) : (h.heap_replace node node).Shape slot n := by
  have hnot (q : Nat) : linkTo slot n q ≠ some node := by
    unfold linkTo
    split
    · rename_i hq
      exact fun heq => hnode ⟨q, hq.1, hq.2, Option.some.inj heq⟩
    · exact fun heq => by cases heq
  have hrelink : h.relink (some (slot p)) node (some node) = h := by
    simp only [relink, hs.left p hp hpn, hs.right p hp hpn, hnot, if_false]
  refine hs.of_same ?_ ?_ ?_
  · simp [heap_replace, hparent, hrelink]
  · simp [heap_replace, hparent, hrelink]
  · intro x hx
    have hne : x ≠ node := fun heq => hnode (heq ▸ hx)
    simp [heap_replace, hparent, hrelink, hun.1, hun.2, hne]

theorem heap_remove_sorted (hs : h.Shape slot n) (hp : 1 ≤ p) (hpn : p ≤ n) (hhole : Hole (key ∘ slot) n p)
    (hcompare : Compares compare key (Members slot n \ {slot p})) :
    ∃ h', h.heap_remove compare (some (slot p)) = some h' ∧ h'.Sorted key (Members slot n \ {slot p}) ∧
      h'.Unlinked (slot p) := by
  obtain ⟨m, rfl⟩ : ∃ m, n = m + 1 := ⟨n - 1, by omega⟩
  by_cases hsingle : m = 0
  · -- the only node is the root
    subst hsingle
    have hone : p = 1 := by omega
    subst hone
    have hroot : h.root = some (slot 1) := hs.root.trans (linkTo_of_mem (Nat.le_refl 1) (Nat.le_refl 1))
    have hleft : h.left (slot 1) = none := (hs.left 1 (Nat.le_refl 1) (Nat.le_refl 1)).trans (linkTo_of_lt (by omega))
    have hright : h.right (slot 1) = none :=
      (hs.right 1 (Nat.le_refl 1) (Nat.le_refl 1)).trans (linkTo_of_lt (by omega))
    refine ⟨{ h.setLeft (slot 1) none with nelts := 0, root := none }, ?_, ⟨slot, 0, ?_, members_last hs, ?_⟩, ?_, ?_⟩
    · simp [heap_remove, hs.nelts, hroot, lastPath, lastParent, hleft, setLeft]
    · refine ⟨rfl, rfl, ?_, ?_, ?_, ?_⟩ <;> (intros; omega)
    · intro q hq hqn
      omega
    · simp
    · exact hright
  · obtain ⟨rest, hwalk, hrest⟩ := hs.lastParent_shape (k := m) (N := m + 1) (by omega) (by omega)
    have hlast : (if (m + 1) % 2 = 1 then h.right (slot ((m + 1) / 2)) else h.left (slot ((m + 1) / 2))) =
        some (slot (m + 1)) := by
      split
      · rw [hs.right _ (by omega) (by omega), hs.linkTo_eq_some_iff (by omega) (Nat.le_refl _)]
        omega
      · rw [hs.left _ (by omega) (by omega), hs.linkTo_eq_some_iff (by omega) (Nat.le_refl _)]
        omega
    simp only [heap_remove, Nat.add_one_ne_zero, if_false, hs.nelts, Nat.add_sub_cancel, hwalk, Option.bind_some,
      hrest, hlast]
    generalize hdetached : (if (m + 1) % 2 = 1 then
      ({ h with nelts := m } : Heap ν).setRight (slot ((m + 1) / 2)) none
      else ({ h with nelts := m } : Heap ν).setLeft (slot ((m + 1) / 2)) none) = h₁
    have hs₁ : h₁.Shape slot m := by
      refine hs.detach (by omega) ?_ ?_ ?_ ?_ ?_
      · rw [← hdetached]
        split <;> rfl
      · rw [← hdetached]
        split <;> rfl
      · rw [← hdetached]
        split <;> rfl
      · intro x
        rw [← hdetached]
        by_cases hodd : (m + 1) % 2 = 1
        · rw [if_pos hodd, if_neg (by omega)]
          rfl
        · have heven : (m + 1) % 2 = 0 := by omega
          rw [if_neg hodd]
          simp [heven]
      · intro x
        rw [← hdetached]
        by_cases hodd : (m + 1) % 2 = 1
        · rw [if_pos hodd]
          simp [hodd]
        · rw [if_neg hodd, if_neg (by omega)]
          rfl
    by_cases hpm : p ≤ m
    · exact replaced_sorted hs₁ hs hp hpm hhole hcompare
    · -- the removed node is the last one itself
      have hpl : p = m + 1 := by omega
      subst hpl
      have hne : slot (m + 1) ≠ slot ((m + 1) / 2) := by
        rw [ne_eq, hs.slot_eq_iff (by omega) (Nat.le_refl _) (by omega) (by omega)]
        omega
      have hun : h₁.Unlinked (slot (m + 1)) := by
        have hleft := hs.left (m + 1) (by omega) (Nat.le_refl _)
        have hright := hs.right (m + 1) (by omega) (Nat.le_refl _)
        rw [linkTo_of_lt (by omega)] at hleft hright
        rw [← hdetached]
        split <;> simp [Unlinked, hleft, hright, hne]
      have hparent : h₁.parent (slot (m + 1)) = some (slot ((m + 1) / 2)) := by
        have hparent := hs.parent (m + 1) (by omega) (Nat.le_refl _)
        rw [linkTo_of_mem (by omega) (by omega)] at hparent
        rw [← hdetached]
        split <;> exact hparent
      have hs₂ := replace_self_shape hs₁ hs.last_not_mem hun (by omega) (by omega) hparent
      rw [sift_unlinked compare (cleared_unlinked _ _) (by simp)]
      refine ⟨_, rfl, ⟨slot, m, cleared_shape hs₂ hs.last_not_mem, members_last hs, hhole.heaped_of_last⟩, ?_⟩
      exact cleared_unlinked _ _

namespace Sorted

variable {key' : ν → K}

omit [DecidableEq ν] in
theorem of_empty [Nonempty ν] (hroot : h.root = none) (hnelts : h.nelts = 0) : h.Sorted key ∅ := by
  refine ⟨fun _ => Classical.arbitrary ν, 0, ⟨hnelts, hroot, ?_, ?_, ?_, ?_⟩, members_zero _, fun q hq hqn => by omega⟩
  all_goals
    intros
    omega

omit [DecidableEq ν] in
theorem congr (hsorted : h.Sorted key nodes) (hagree : ∀ x ∈ nodes, key' x = key x) : h.Sorted key' nodes := by
  obtain ⟨slot, n, hs, rfl, hheaped⟩ := hsorted
  exact ⟨slot, n, hs, rfl, hheaped.congr fun q hq hqn => hagree _ (mem_members hq hqn)⟩

theorem cleared (hsorted : h.Sorted key nodes) (hnode : node ∉ nodes) :
    (((h.setParent node none).setLeft node none).setRight node none).Sorted key nodes := by
  obtain ⟨slot, n, hs, rfl, hheaped⟩ := hsorted
  exact ⟨slot, n, cleared_shape hs hnode, rfl, hheaped⟩

theorem remove (hsorted : h.Sorted key nodes) (hnode : node ∈ nodes)
    (hagree : ∀ x ∈ nodes, x ≠ node → key' x = key x) (hcompare : Compares compare key' (nodes \ {node})) :
    ∃ h', h.heap_remove compare (some node) = some h' ∧ h'.Sorted key' (nodes \ {node}) ∧ h'.Unlinked node := by
  obtain ⟨slot, n, hs, rfl, hheaped⟩ := hsorted
  obtain ⟨p, hp, hpn, rfl⟩ := hnode
  refine heap_remove_sorted hs hp hpn ((hheaped.hole p).of_agree fun q hq hqn hqp => ?_) hcompare
  exact hagree _ (mem_members hq hqn) fun heq => hqp (hs.inj q p hq hqn hp hpn heq)

omit [DecidableEq ν] in
theorem root_mem (hsorted : h.Sorted key nodes) {root : ν} (hroot : h.root = some root) : root ∈ nodes := by
  obtain ⟨slot, n, hs, rfl, -⟩ := hsorted
  rw [hs.root] at hroot
  unfold linkTo at hroot
  split at hroot
  · rename_i hn
    cases hroot
    exact mem_members hn.1 hn.2
  · cases hroot

omit [DecidableEq ν] in
theorem root_le (hsorted : h.Sorted key nodes) {root : ν} (hroot : h.root = some root) (hnode : node ∈ nodes) :
    key root ≤ key node := by
  obtain ⟨slot, n, hs, rfl, hheaped⟩ := hsorted
  obtain ⟨p, hp, hpn, rfl⟩ := hnode
  rw [hs.root, linkTo_of_mem (Nat.le_refl 1) (by omega)] at hroot
  cases hroot
  exact hheaped.root_le hp hpn

end Sorted

end hub.dsa.Heap
