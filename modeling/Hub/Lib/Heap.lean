import Mathlib.Logic.Basic
import Mathlib.Tactic.Common

namespace hub

/-- The identity of a heap object of kind `τ`. Two shared pointers are equal
exactly when they hold the same address. -/
@[ext] structure Ptr (τ : Type) where
  addr : Nat

instance {τ : Type} : DecidableEq (Ptr τ) := fun p q =>
  decidable_of_iff (p.addr = q.addr) ⟨Ptr.ext, fun heq => congrArg Ptr.addr heq⟩

/-- Objects reachable through shared pointers. Addresses are handed out in
order and never reused, so a pointer keeps naming the object it was created
for. -/
structure Heap (τ α : Type) where
  next : Nat
  cell : Nat → α

namespace Heap

variable {τ α : Type}

def empty [Inhabited α] : Heap τ α := { next := 0, cell := fun _ => default }

def get (h : Heap τ α) (p : Ptr τ) : α := h.cell p.addr

def set (h : Heap τ α) (p : Ptr τ) (value : α) : Heap τ α :=
  { h with cell := fun addr => if addr = p.addr then value else h.cell addr }

def fresh (h : Heap τ α) : Ptr τ := ⟨h.next⟩

def alloc (h : Heap τ α) (value : α) : Heap τ α :=
  { next := h.next + 1, cell := fun addr => if addr = h.next then value else h.cell addr }

def Live (h : Heap τ α) (p : Ptr τ) : Prop := p.addr < h.next

section

variable (h : Heap τ α)

@[simp] theorem get_set_self (p : Ptr τ) (value : α) : (h.set p value).get p = value := by
  simp [get, set]

theorem get_set_ne {p q : Ptr τ} (value : α) (hne : q ≠ p) :
    (h.set p value).get q = h.get q := by
  have haddr : q.addr ≠ p.addr := fun heq => hne (Ptr.ext heq)
  simp [get, set, haddr]

theorem get_set (p q : Ptr τ) (value : α) :
    (h.set p value).get q = if q = p then value else h.get q := by
  by_cases hq : q = p
  · subst hq
    simp
  · simp [get_set_ne h value hq, hq]

theorem map_get_set {β : Type} (f : α → β) {p : Ptr τ} {value : α} (hkept : f value = f (h.get p)) (q : Ptr τ) :
    f ((h.set p value).get q) = f (h.get q) := by
  rw [get_set]
  split
  · rename_i hq
    rw [hkept, hq]
  · rfl

@[simp] theorem set_get (p : Ptr τ) : h.set p (h.get p) = h := by
  have hcell : (fun addr => if addr = p.addr then h.cell p.addr else h.cell addr) = h.cell := by
    funext addr
    split
    · rename_i haddr
      rw [haddr]
    · rfl
  simp only [set, get, hcell]

@[simp] theorem get_alloc_fresh (value : α) : (h.alloc value).get h.fresh = value := by
  simp [get, alloc, fresh]

theorem get_alloc_ne {p : Ptr τ} (value : α) (hne : p ≠ h.fresh) :
    (h.alloc value).get p = h.get p := by
  have haddr : p.addr ≠ h.next := fun heq => hne (Ptr.ext heq)
  simp [get, alloc, haddr]

end

theorem ne_fresh {h : Heap τ α} {p : Ptr τ} (hlive : h.Live p) : p ≠ h.fresh := by
  intro heq
  subst heq
  exact Nat.lt_irrefl _ hlive

@[simp] theorem live_set {h : Heap τ α} {p q : Ptr τ} {value : α} : (h.set p value).Live q ↔ h.Live q :=
  Iff.rfl

theorem Live.alloc {h : Heap τ α} {p : Ptr τ} (hlive : h.Live p) (value : α) : (h.alloc value).Live p :=
  Nat.lt_succ_of_lt hlive

theorem Live.of_alloc {h : Heap τ α} {p : Ptr τ} {value : α} (hlive : (h.alloc value).Live p) (hne : p ≠ h.fresh) :
    h.Live p := by
  have haddr : p.addr ≠ h.next := fun heq => hne (Ptr.ext heq)
  have hlt : p.addr < h.next + 1 := hlive
  change p.addr < h.next
  omega

theorem live_alloc_fresh (h : Heap τ α) (value : α) : (h.alloc value).Live h.fresh :=
  Nat.lt_succ_self _

end Heap

end hub
