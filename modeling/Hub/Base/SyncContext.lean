import Hub.Lib.Heap

namespace hub

/-- `SyncContext<T>`: the data, the result and the flag that a waiting thread looks
at. -/
structure SyncContext (α : Type) where
  data : α
  result : Int
  ready : Bool

namespace SyncContext

variable {α : Type}

def Reset [Inhabited α] : SyncContext α where
  data := default
  result := -1
  ready := false

def SetResult (ctx : SyncContext α) (res : Int) : SyncContext α := { ctx with result := res, ready := true }

def ETIMEDOUT : Int := 110

/-- The result of `Wait`, or `none` as long as the thread stays in it. `timeout` says
that the time is over; a thread that waits with `timeout_ms = 0` has no time to run
out. -/
def Wait (ctx : SyncContext α) (timeout_ms : UInt32) (timeout : Bool) : Option Int :=
  if ctx.ready then some ctx.result
  else if timeout ∧ timeout_ms ≠ 0 then some (-ETIMEDOUT)
  else none

theorem ready_of_wait {ctx : SyncContext α} {timeout_ms : UInt32} {timeout : Bool}
    (hwait : ctx.Wait timeout_ms timeout = some 0) : ctx.ready = true ∧ ctx.result = 0 := by
  unfold Wait at hwait
  split at hwait
  · rename_i hready
    exact ⟨hready, Option.some.inj hwait⟩
  · split at hwait
    · exact absurd (Option.some.inj hwait) (by decide)
    · cases hwait

end SyncContext

instance {α : Type} [Inhabited α] : Inhabited (SyncContext α) := ⟨.Reset⟩

/-- `ObjectPool<T>`: the idle objects, and how many objects there are and may be. -/
structure ObjectPool (τ : Type) where
  objects_ : List (Ptr τ)
  _object_num : Nat
  _max_num : Nat

namespace ObjectPool

variable {τ : Type}

def Return (pool : ObjectPool τ) (object : Ptr τ) : ObjectPool τ :=
  { pool with objects_ := pool.objects_ ++ [object] }

end ObjectPool

/-- Where a thread stands in `ObjectPool::Borrow`: before `TryBorrow`, before its own
critical section, in `TFactory::create`, and in `wait_for`. -/
inductive Borrowing where
  | trying
  | deciding
  | creating
  | parked
deriving DecidableEq

end hub
