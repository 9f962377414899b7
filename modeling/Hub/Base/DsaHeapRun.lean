import Hub.Base.DsaHeapOrder
import Hub.Lib.Run
import Mathlib.Algebra.Group.Nat.Defs
import Mathlib.Order.Antisymmetrization

namespace hub.dsa.Heap

theorem exists_rank {α : Type} (before : α → α → Prop) [IsStrictWeakOrder α before] :
    ∃ (K : Type) (_ : LinearOrder K) (rank : α → K), ∀ a b, rank a < rank b ↔ before a b := by
  classical
  let _ : Preorder α := {
    le a b := ¬before b a
    lt := before
    le_refl := irrefl_of before
    le_trans a b c hab hbc hca := by
      by_cases hba : before a b
      · exact hbc (trans_of before hca hba)
      by_cases hcb : before b c
      · exact hab (trans_of before hcb hca)
      exact (IsStrictWeakOrder.incomp_trans a b c ⟨hba, hab⟩ ⟨hcb, hbc⟩).2 hca
    lt_iff_le_not_ge a b := ⟨fun h => ⟨asymm_of before h, not_not.mpr h⟩, fun h => not_not.mp h.2⟩ }
  have : @Std.Total α (· ≤ ·) := ⟨fun a b => not_and_or.mp fun h => asymm_of before h.1 h.2⟩
  exact ⟨Antisymmetrization α (· ≤ ·), inferInstance, toAntisymmetrization (· ≤ ·), fun a b => Iff.rfl⟩

variable {ν : Type} [DecidableEq ν]

inductive Call (ν : Type) where
  | insert (node : ν)
  | remove (node : ν)
  | dequeue

def call (before : ν → ν → Bool) (h : Heap ν) : Call ν → Option (Heap ν)
  | .insert node => h.heap_insert (fun a b => some (before a b)) node
  | .remove node => h.heap_remove (fun a b => some (before a b)) (some node)
  | .dequeue => h.heap_dequeue fun a b => some (before a b)

def nodesAfter (h : Heap ν) (nodes : Set ν) : Call ν → Set ν
  | .insert node => insert node nodes
  | .remove node => nodes \ {node}
  | .dequeue => nodes \ {node | h.root = some node}

def Allowed (h : Heap ν) (nodes : Set ν) : Call ν → Prop
  | .insert node => node ∉ nodes ∧ h.left node = none ∧ h.right node = none ∧ h.nelts + 1 < 2 ^ 31
  | .remove node => node ∈ nodes
  | .dequeue => nodes.Nonempty

/-- The heap after calls of its functions, with the nodes inserted and not removed. The links
of nodes that are not in the heap are their owner's. -/
inductive Reached (before : ν → ν → Bool) : Heap ν → Set ν → Prop where
  | init {h : Heap ν} (hroot : h.root = none) (hnelts : h.nelts = 0) : Reached before h ∅
  | call {h h' : Heap ν} {nodes : Set ν} {c : Call ν} (hreached : Reached before h nodes)
      (hallowed : h.Allowed nodes c) (hcall : h.call before c = some h') : Reached before h' (h.nodesAfter nodes c)
  | outside {h h' : Heap ν} {nodes : Set ν} (hreached : Reached before h nodes) (hnelts : h'.nelts = h.nelts)
      (hroot : h'.root = h.root)
      (hlinks : ∀ x ∈ nodes, h'.parent x = h.parent x ∧ h'.left x = h.left x ∧ h'.right x = h.right x) :
      Reached before h' nodes

/-- The heap is the complete binary tree of its nodes, with the first of them at its root. -/
structure Correct (before : ν → ν → Bool) (h : Heap ν) (nodes : Set ν) : Prop where
  complete : ∃ slot, h.Shape slot h.nelts ∧ Members slot h.nelts = nodes
  ordered : ∀ child ∈ nodes, ∀ parent, h.parent child = some parent → ¬before child parent
  empty : h.root = none ↔ nodes = ∅
  first : ∀ root, h.root = some root → root ∈ nodes ∧ ∀ x ∈ nodes, ¬before x root

section Sorted

variable {K : Type} [LinearOrder K] {key : ν → K} {before : ν → ν → Bool} {h : Heap ν} {nodes : Set ν} {c : Call ν}

omit [DecidableEq ν] in
theorem Sorted.root_none_iff (hsorted : h.Sorted key nodes) : h.root = none ↔ nodes = ∅ := by
  obtain ⟨slot, n, hs, rfl, -⟩ := hsorted
  rw [hs.root]
  cases n with
  | zero => exact iff_of_true rfl (members_zero slot)
  | succ n =>
    have hmem : slot 1 ∈ Members slot (n + 1) := mem_members (Nat.le_refl 1) (by omega)
    rw [linkTo_of_mem (Nat.le_refl 1) (by omega)]
    exact iff_of_false (Option.some_ne_none _) (Set.nonempty_of_mem hmem).ne_empty

variable (hkey : ∀ a b, key a < key b ↔ before a b)

include hkey

omit [DecidableEq ν] in
theorem compares_key (nodes : Set ν) : Compares (fun a b => some (before a b)) key nodes := by
  intro a b _ _
  simp only [hkey, Bool.decide_eq_true]

theorem Sorted.call (hsorted : h.Sorted key nodes) (hallowed : h.Allowed nodes c) :
    ∃ h', h.call before c = some h' ∧ h'.Sorted key (h.nodesAfter nodes c) := by
  have hremove {node : ν} (hnode : node ∈ nodes) := hsorted.remove hnode (fun _ _ _ => rfl) (compares_key hkey _)
  cases c with
  | insert node => exact heap_insert_sorted hsorted hallowed.1 hallowed.2.1 hallowed.2.2.1 (compares_key hkey _)
  | remove node =>
    obtain ⟨h', hcall, hsorted', -⟩ := hremove hallowed
    exact ⟨h', hcall, hsorted'⟩
  | dequeue =>
    obtain ⟨root, hroot⟩ := Option.ne_none_iff_exists'.mp (hsorted.root_none_iff.not.mpr hallowed.ne_empty)
    obtain ⟨h', hcall, hsorted', -⟩ := hremove (hsorted.root_mem hroot)
    have hnodes : h.nodesAfter nodes .dequeue = nodes \ {root} := by
      simp [nodesAfter, hroot]
    rw [hnodes, Heap.call, heap_dequeue, hroot]
    exact ⟨h', hcall, hsorted'⟩

omit [DecidableEq ν] in
theorem Sorted.correct (hsorted : h.Sorted key nodes) : h.Correct before nodes where
  complete := by
    obtain ⟨slot, n, hs, hnodes, -⟩ := hsorted
    exact ⟨slot, hs.nelts ▸ hs, hs.nelts ▸ hnodes⟩
  ordered := by
    obtain ⟨slot, n, hs, rfl, hheaped⟩ := hsorted
    rintro _ ⟨p, hp, hpn, rfl⟩ parent hparent
    rw [hs.parent p hp hpn, linkTo] at hparent
    split at hparent
    · cases hparent
      rw [← hkey]
      exact not_lt_of_ge (hheaped p (by omega) hpn)
    · cases hparent
  empty := hsorted.root_none_iff
  first root hroot := by
    refine ⟨hsorted.root_mem hroot, fun x hx => ?_⟩
    rw [← hkey]
    exact not_lt_of_ge (hsorted.root_le hroot hx)

theorem Reached.sorted [Nonempty ν] (hreached : Reached before h nodes) : h.Sorted key nodes := by
  induction hreached with
  | init hroot hnelts => exact .of_empty hroot hnelts
  | call _ hallowed hcall ih =>
    obtain ⟨h', hcall', hsorted⟩ := ih.call hkey hallowed
    obtain rfl := Option.some.inj (hcall'.symm.trans hcall)
    exact hsorted
  | outside _ hnelts hroot hlinks ih =>
    obtain ⟨slot, n, hs, rfl, hheaped⟩ := ih
    exact ⟨slot, n, hs.of_same hnelts hroot hlinks, rfl, hheaped⟩

end Sorted

/-- Every call that is allowed succeeds, and the heap is correct after any sequence of them. -/
theorem heap_correct [Nonempty ν] {before : ν → ν → Bool} [IsStrictWeakOrder ν fun a b => before a b] {h : Heap ν}
    {nodes : Set ν} (hreached : Reached before h nodes) :
    h.Correct before nodes ∧ ∀ c, h.Allowed nodes c → ∃ h', h.call before c = some h' := by
  obtain ⟨K, _, key, hkey⟩ := exists_rank fun a b => before a b = true
  have hsorted := hreached.sorted hkey
  refine ⟨hsorted.correct hkey, fun c hallowed => ?_⟩
  obtain ⟨h', hcall, -⟩ := hsorted.call hkey hallowed
  exact ⟨h', hcall⟩

def below (a b : Nat) : Bool := a < b

instance : IsStrictWeakOrder Nat fun a b => below a b where
  irrefl := by simp [below]
  trans := by grind [below]
  incomp_trans := by grind [below]

/-- Whether a call is allowed by an owner who lists the nodes inserted and not removed. -/
def allows (h : Heap ν) (listed : List ν) : Call ν → Bool
  | .insert node => node ∉ listed ∧ h.left node = none ∧ h.right node = none ∧ h.nelts + 1 < 2 ^ 31
  | .remove node => node ∈ listed
  | .dequeue => listed ≠ []

def listAfter (h : Heap ν) (listed : List ν) : Call ν → List ν
  | .insert node => node :: listed
  | .remove node => listed.filter (· ≠ node)
  | .dequeue => listed.filter (h.root ≠ some ·)

def ownerCall (before : ν → ν → Bool) (owned : Heap ν × List ν) (c : Call ν) : Option (Heap ν × List ν) :=
  if owned.1.allows owned.2 c then (owned.1.call before c).map (·, owned.1.listAfter owned.2 c) else none

theorem allowed_of_allows {h : Heap ν} {listed : List ν} {c : Call ν} (hallows : h.allows listed c) :
    h.Allowed {x | x ∈ listed} c := by
  cases c with
  | insert node | remove node =>
    have hlisted := of_decide_eq_true hallows
    exact hlisted
  | dequeue => exact List.exists_mem_of_ne_nil _ (of_decide_eq_true hallows)

theorem mem_listAfter (h : Heap ν) (listed : List ν) (c : Call ν) :
    {x | x ∈ h.listAfter listed c} = h.nodesAfter {x | x ∈ listed} c := by
  ext x
  cases c with
  | insert node | remove node | dequeue => simp [listAfter, nodesAfter]

theorem Reached.ownerRun {before : ν → ν → Bool} {owned owned' : Heap ν × List ν} {calls : List (Call ν)}
    (hreached : Reached before owned.1 {x | x ∈ owned.2}) (hrun : run (ownerCall before) owned calls = some owned') :
    Reached before owned'.1 {x | x ∈ owned'.2} := by
  induction calls generalizing owned with
  | nil =>
    cases hrun
    exact hreached
  | cons c calls ih =>
    obtain ⟨next, hnext, hrest⟩ := run_cons_eq_some.mp hrun
    obtain ⟨hallows, hmap⟩ := Option.ite_none_right_eq_some.mp hnext
    obtain ⟨h', hcall, rfl⟩ := Option.map_eq_some_iff.mp hmap
    refine ih ?_ hrest
    rw [mem_listAfter]
    exact hreached.call (allowed_of_allows hallows) hcall

/-- Five nodes are inserted; the second of them in order, which lies between the root and
two children, is removed, and the root is dequeued. -/
theorem heap_correct_of_five : ∃ h,
    run (ownerCall below) (heap_init, [])
      [.insert 5, .insert 3, .insert 4, .insert 1, .insert 2, .remove 2, .dequeue] = some (h, [4, 3, 5]) ∧
    h.root = some 3 ∧ h.left 3 = some 5 ∧ h.right 3 = some 4 ∧ h.nelts = 3 ∧
    h.Correct below {x | x ∈ [4, 3, 5]} := by
  have hruns : ∃ h, run (ownerCall below) (heap_init, [])
      [.insert 5, .insert 3, .insert 4, .insert 1, .insert 2, .remove 2, .dequeue] = some (h, [4, 3, 5]) ∧
      h.root = some 3 ∧ h.left 3 = some 5 ∧ h.right 3 = some 4 ∧ h.nelts = 3 := ⟨_, rfl, rfl, rfl, rfl, rfl⟩
  obtain ⟨h, hrun, hroot, hleft, hright, hnelts⟩ := hruns
  have hempty : Reached below heap_init {x | x ∈ ([] : List Nat)} := by
    rw [show {x | x ∈ ([] : List Nat)} = ∅ by simp]
    exact .init rfl rfl
  exact ⟨h, hrun, hroot, hleft, hright, hnelts, (heap_correct (hempty.ownerRun hrun)).1⟩

end hub.dsa.Heap
