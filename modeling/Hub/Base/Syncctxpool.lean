import Hub.Lib.Heap
import Hub.Lib.Ownership

namespace hub

open Heap

/-- `syncctx_t`. `data` and `len` name the call `ι` whose buffer and length they point to.
`mutex` is the thread `τ` that has locked it, and `signalled` says that the condition was
signalled since the last wait on it began. -/
structure Syncctx (ι τ : Type) where
  data : Option ι
  len : Option ι
  result : Int
  mutex : Option τ
  signalled : Bool

inductive SyncctxRef where

abbrev SyncctxPtr : Type := Ptr SyncctxRef

namespace Syncctx

variable {ι τ : Type}

def syncctx_create : Syncctx ι τ where
  data := none
  len := none
  result := -1
  mutex := none
  signalled := false

instance : Inhabited (Syncctx ι τ) := ⟨syncctx_create⟩

def reset (ctx : Syncctx ι τ) : Syncctx ι τ := { ctx with data := none, len := none, result := -1 }

end Syncctx

abbrev Syncctxs (ι τ : Type) : Type := Heap SyncctxRef (Syncctx ι τ)

/-- `syncctxpool_t`: the list of idle contexts, and the two counters. -/
structure Syncctxpool where
  head : List SyncctxPtr
  capacity : Nat
  size : Nat

namespace Syncctxpool

variable {ι τ : Type}

def syncctxpool_create : Nat → Syncctxs ι τ × Syncctxpool
  | 0 => (.empty, ⟨[], 0, 0⟩)
  | count + 1 =>
    let (contexts, pool) := syncctxpool_create count
    (contexts.alloc .syncctx_create, ⟨contexts.fresh :: pool.head, pool.capacity + 1, pool.size + 1⟩)

/-- A context that is made counts as idle from then on, though it is not in the list. There
is no result when the first entry of an empty list is taken. -/
def syncctxpool_borrow (contexts : Syncctxs ι τ) (pool : Syncctxpool) :
    Option (SyncctxPtr × Syncctxs ι τ × Syncctxpool) :=
  if pool.size > 0 then
    match pool.head with
    | ctx :: rest => some (ctx, contexts, { pool with head := rest, size := pool.size - 1 })
    | [] => none
  else
    some (contexts.fresh, contexts.alloc .syncctx_create,
      { pool with capacity := pool.capacity + 1, size := pool.size + 1 })

def syncctxpool_return (pool : Syncctxpool) (ctx : SyncctxPtr) : Syncctxpool :=
  { pool with head := ctx :: pool.head, size := pool.size + 1 }

theorem create_owned {κ : Type} (count : Nat) :
    Owned (syncctxpool_create (ι := ι) (τ := τ) count).1.Live
      (syncctxpool_create (ι := ι) (τ := τ) count).2.head fun _ : κ => none := by
  induction count with
  | zero => exact ⟨List.nodup_nil, by simp [syncctxpool_create], by simp,
      by simp [syncctxpool_create], by simp⟩
  | succ count ih =>
    exact ih.add (fun _ hlive => hlive.alloc _) (live_alloc_fresh _ _) fun hlive => ne_fresh hlive rfl

theorem create_get (count : Nat) (ctx : SyncctxPtr) :
    (syncctxpool_create (ι := ι) (τ := τ) count).1.get ctx = .syncctx_create := by
  induction count with
  | zero => rfl
  | succ count ih =>
    by_cases hctx : ctx = (syncctxpool_create (ι := ι) (τ := τ) count).1.fresh
    · subst hctx
      simp only [syncctxpool_create, get_alloc_fresh]
    · simp only [syncctxpool_create, get_alloc_ne _ _ hctx]
      exact ih

theorem borrow_spec {κ : Type} {holds after : κ → Option SyncctxPtr} {x : κ} {ctx : SyncctxPtr}
    {contexts contexts' : Syncctxs ι τ} {pool pool' : Syncctxpool} (h : Owned contexts.Live pool.head holds)
    (hborrow : syncctxpool_borrow contexts pool = some (ctx, contexts', pool')) (hself : after x = some ctx)
    (hothers : ∀ y, y ≠ x → after y = holds y) :
    (∀ other, other ≠ ctx → contexts'.get other = contexts.get other) ∧ (∀ y, holds y ≠ some ctx) ∧
      Owned contexts'.Live pool'.head after := by
  rw [syncctxpool_borrow] at hborrow
  split at hborrow
  · split at hborrow
    · rename_i first rest hhead
      cases hborrow
      rw [hhead] at h
      exact ⟨fun _ _ => rfl, h.free ctx List.mem_cons_self, h.take hself hothers⟩
    · cases hborrow
  · cases hborrow
    have hnew : ¬ contexts.Live contexts.fresh := fun hlive => ne_fresh hlive rfl
    have hheld : ∀ y, holds y ≠ some contexts.fresh := fun y hy => hnew (h.live_held y _ hy)
    refine ⟨fun other hne => get_alloc_ne _ _ hne, hheld, ?_⟩
    exact h.acquire (fun _ hlive => hlive.alloc _) (live_alloc_fresh _ _)
      (fun hmem => hnew (h.live_idle _ hmem)) hheld hself hothers

end Syncctxpool

end hub
