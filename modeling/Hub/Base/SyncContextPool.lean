import Hub.Base.ObjectPool

namespace hub

/-- A call of `ObjectPool::Borrow` that nothing interrupts: it returns, with `none` for a null
pointer, or it waits on `cond_`. -/
inductive BorrowOutcome (τ : Type) where
  | returns (object : Option (Ptr τ)) (pool : ObjectPool τ)
  | waits (pool : ObjectPool τ)

/-- `created` is what `TFactory::create` returns. -/
def ObjectPool.Borrow {τ : Type} (timeout : UInt64) (created : Option (Ptr τ)) (pool : ObjectPool τ) :
    BorrowOutcome τ :=
  match pool.TryBorrow with
  | some (object, pool) => .returns (some object) pool
  | none =>
    if pool._object_num < pool._max_num then
      match created with
      | some object => .returns (some object) pool.countUp
      | none => .returns none pool.countUp.countDown
    else if 0 < timeout then .waits pool
    else .returns none pool

namespace SyncContextPool

variable {τ : Type}

variable (timeout : UInt64) (created : Option (Ptr τ))

/-- `SyncContextPool::TryBorrow`, with no result for `nullptr`: the context that the first
call finds is dropped, and the constructor of the guard borrows another one. -/
def TryBorrow (created : Option (Ptr τ)) (pool_ : ObjectPool τ) : Option (BorrowOutcome τ) :=
  pool_.TryBorrow.map fun found => found.2.Borrow timeout created

def release (ctx : Option (Ptr τ)) (pool_ : ObjectPool τ) : ObjectPool τ :=
  match ctx with
  | some ctx => pool_.Return ctx
  | none => pool_

def FreeCount (pool_ : ObjectPool τ) : Nat := pool_.IdleNum

def UsedCount (pool_ : ObjectPool τ) : Nat := pool_.BorrowNum

/-- The call takes one context, which its guard gives back, or returns null if none is idle. -/
structure TakesOne (timeout : UInt64) (created : Option (Ptr τ)) (pool_ : ObjectPool τ) : Prop where
  refused : TryBorrow timeout created pool_ = none ↔ pool_.objects_ = []
  lends : ∀ outcome, TryBorrow timeout created pool_ = some outcome →
    ∃ ctx pool, outcome = .returns (some ctx) pool ∧ FreeCount pool + 1 = FreeCount pool_ ∧
      FreeCount (release (some ctx) pool) = FreeCount pool_ ∧ UsedCount (release (some ctx) pool) = UsedCount pool_

theorem tryBorrow_eq_none {timeout : UInt64} {created : Option (Ptr τ)} {pool_ : ObjectPool τ} :
    TryBorrow timeout created pool_ = none ↔ pool_.objects_ = [] := by
  rw [TryBorrow, Option.map_eq_none_iff, ObjectPool.tryBorrow_eq_none]

/-- `TryBorrow` takes one context and gives it back exactly if it returns null: whenever a
context is idle, that context is lost. -/
theorem tryBorrow_takesOne_iff (pool_ : ObjectPool τ) :
    TakesOne timeout created pool_ ↔ pool_.objects_ = [] := by
  refine ⟨fun h => ?_, fun hempty => ⟨tryBorrow_eq_none, fun outcome hsome => ?_⟩⟩
  · cases hobjects : pool_.objects_ with
    | nil => rfl
    | cons object rest =>
      have hcall : TryBorrow timeout created pool_ =
          some (ObjectPool.Borrow timeout created { pool_ with objects_ := rest }) := by
        simp only [TryBorrow, ObjectPool.TryBorrow, hobjects, Option.map_some]
      obtain ⟨ctx, pool, hreturns, hfree, _, hused⟩ := h.lends _ hcall
      exfalso
      cases rest with
      | nil =>
        -- With no context left, the guard's one is new.
        have hnew : pool = ObjectPool.countUp { pool_ with objects_ := [] } := by
          simp only [ObjectPool.Borrow, ObjectPool.TryBorrow] at hreturns
          split at hreturns
          · split at hreturns
            · cases hreturns
              rfl
            · cases hreturns
          · split at hreturns <;> cases hreturns
        subst hnew
        simp only [UsedCount, release, ObjectPool.BorrowNum, ObjectPool.IdleNum, ObjectPool.Return, ObjectPool.countUp,
          range64, sizeUp, hobjects, List.nil_append, List.length_singleton] at hused
        omega
      | cons second rest =>
        -- With two contexts idle, two leave the pool.
        cases hreturns
        simp only [FreeCount, ObjectPool.IdleNum, hobjects, List.length_cons] at hfree
        omega
  · cases (tryBorrow_eq_none.mpr hempty).symm.trans hsome

/-- Of two idle contexts one is lost, and with a single one the call waits. -/
theorem tryBorrow_loses_context :
    TryBorrow 5 none ⟨[⟨0⟩, ⟨1⟩], 2, 2⟩ = some (.returns (some (⟨1⟩ : Ptr Unit)) ⟨[], 2, 2⟩) ∧
      FreeCount (release (some (⟨1⟩ : Ptr Unit)) ⟨[], 2, 2⟩) = 1 ∧
      TryBorrow 5 none ⟨[(⟨0⟩ : Ptr Unit)], 1, 1⟩ = some (.waits ⟨[], 1, 1⟩) :=
  ⟨rfl, rfl, rfl⟩

end SyncContextPool

end hub
