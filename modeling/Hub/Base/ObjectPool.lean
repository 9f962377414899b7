import Hub.Base.SyncContext
import Hub.Lib.Run
import Hub.Lib.Words

namespace hub

def sizeUp (n : Nat) : Nat := (n + 1) % range64

def sizeDown (n : Nat) : Nat := if n = 0 then range64 - 1 else n - 1

theorem sizeUp_of_lt {n m : Nat} (hlt : n < m) (hm : m < range64) : sizeUp n = n + 1 :=
  Nat.mod_eq_of_lt (by omega)

theorem sizeDown_of_pos {n : Nat} (hpos : 0 < n) : sizeDown n = n - 1 := if_neg (Nat.ne_of_gt hpos)

namespace ObjectPool

variable {τ : Type}

variable (pool : ObjectPool τ)

def countUp : ObjectPool τ := { pool with _object_num := sizeUp pool._object_num }

def countDown : ObjectPool τ := { pool with _object_num := sizeDown pool._object_num }

def IdleNum : Nat := pool.objects_.length

/-- The difference of two `size_t`. -/
def BorrowNum : Nat :=
  (pool._object_num + (range64 - pool.IdleNum % range64)) % range64

/-- The critical section of `TryBorrow`, with no result for a null pointer. -/
def TryBorrow : Option (Ptr τ × ObjectPool τ) :=
  match pool.objects_ with
  | [] => none
  | object :: rest => some (object, { pool with objects_ := rest })

def Add (object : Ptr τ) : Option (ObjectPool τ) :=
  if pool._max_num ≤ pool._object_num then none else some (pool.Return object).countUp

def Remove (object : Ptr τ) : Option (ObjectPool τ) :=
  if object ∈ pool.objects_ then some { pool with objects_ := pool.objects_.erase object }.countDown else none

def Clear : ObjectPool τ := { pool with objects_ := [], _object_num := 0 }

/-- The constructor. `creates` is what `TFactory::create` returns each time. -/
def init (init_num max_num : UInt64) (creates : Nat → Option (Ptr τ)) : ObjectPool τ :=
  let objects := (List.range init_num.toNat).filterMap creates
  { objects_ := objects, _object_num := objects.length, _max_num := max_num.toNat }

theorem tryBorrow_eq_none {pool : ObjectPool τ} : pool.TryBorrow = none ↔ pool.objects_ = [] := by
  unfold TryBorrow
  split
  · rename_i hobjects
    exact iff_of_true rfl hobjects
  · rename_i hobjects
    rw [hobjects]
    exact iff_of_false (Option.some_ne_none _) (List.cons_ne_nil _ _)

end ObjectPool

namespace hpp

/-- A pool with the objects that are lent. The threads at one place of `Borrow` do not differ,
so the state counts them. -/
structure Borrowers (τ : Type) where
  pool : ObjectPool τ
  lent : List (Ptr τ)
  /-- Threads whose `TryBorrow` found nothing. -/
  deciding : Nat
  /-- Threads in `TFactory::create`, without the mutex. -/
  creating : Nat
  /-- Threads in `wait_for`: blocked, woken, and those whose time is over. -/
  blocked : Nat
  woken : Nat
  expired : Nat
  /-- The calls of `Borrow` that have returned a null pointer. -/
  nulls : Nat

inductive PoolEvent (τ : Type) where
  | TryBorrow
  | Borrow
  | proceed
  /-- `TFactory::create` returns, and the thread gets the mutex back. -/
  | created (object : Ptr τ)
  | create_fails
  | expire
  | spurious
  /-- A thread that was woken gets the mutex back. `late` says that its time is over by then. -/
  | resume (late : Bool)
  | give_up
  | Return (object : Ptr τ)
  | Add (object : Ptr τ)
  | Remove (object : Ptr τ)
  | Clear

namespace Borrowers

variable {τ : Type}

def init (init_num max_num : UInt64) (creates : Nat → Option (Ptr τ)) : Borrowers τ where
  pool := .init init_num max_num creates
  lent := []
  deciding := 0
  creating := 0
  blocked := 0
  woken := 0
  expired := 0
  nulls := 0

/-- A thread takes the first idle object, if there is one. -/
def takeOr (s otherwise : Borrowers τ) : Borrowers τ :=
  match s.pool.TryBorrow with
  | some (object, pool) => { s with pool := pool, lent := object :: s.lent }
  | none => otherwise

def notify_one (s : Borrowers τ) : Borrowers τ :=
  { s with blocked := s.blocked - 1, woken := if s.blocked = 0 then s.woken else s.woken + 1 }

theorem takeOr_cases (s otherwise : Borrowers τ) :
    (s.pool.objects_ = [] ∧ s.takeOr otherwise = otherwise) ∨
      ∃ object rest, s.pool.objects_ = object :: rest ∧
        s.takeOr otherwise = { s with pool := { s.pool with objects_ := rest }, lent := object :: s.lent } := by
  unfold takeOr ObjectPool.TryBorrow
  cases hobjects : s.pool.objects_ with
  | nil => exact .inl ⟨rfl, rfl⟩
  | cons object rest => exact .inr ⟨object, rest, rfl, rfl⟩

/-- One event in a pool with the given `_timeout`. Only objects that are lent are returned. -/
def step (timeout : UInt64) (s : Borrowers τ) : PoolEvent τ → Option (Borrowers τ)
  | .TryBorrow => some (s.takeOr s)
  | .Borrow => some (s.takeOr { s with deciding := s.deciding + 1 })
  | .proceed =>
    if 0 < s.deciding then
      if s.pool._object_num < s.pool._max_num then
        some { s with pool := s.pool.countUp, deciding := s.deciding - 1, creating := s.creating + 1 }
      else if 0 < timeout then some { s with deciding := s.deciding - 1, blocked := s.blocked + 1 }
      else some { s with deciding := s.deciding - 1, nulls := s.nulls + 1 }
    else none
  | .created object =>
    if 0 < s.creating then some { s with lent := object :: s.lent, creating := s.creating - 1 } else none
  | .create_fails =>
    if 0 < s.creating then
      some { s with pool := s.pool.countDown, creating := s.creating - 1, nulls := s.nulls + 1 }
    else none
  | .expire => if 0 < s.blocked then some { s with blocked := s.blocked - 1, expired := s.expired + 1 } else none
  | .spurious => if 0 < s.blocked then some { s with blocked := s.blocked - 1, woken := s.woken + 1 } else none
  | .resume late =>
    if 0 < s.woken then
      if late then some { s with woken := s.woken - 1, nulls := s.nulls + 1 }
      else some (takeOr { s with woken := s.woken - 1 } { s with woken := s.woken - 1, nulls := s.nulls + 1 })
    else none
  | .give_up => if 0 < s.expired then some { s with expired := s.expired - 1, nulls := s.nulls + 1 } else none
  | .Return object =>
    if object ∈ s.lent then
      some { s.notify_one with pool := s.pool.Return object, lent := s.lent.erase object }
    else none
  | .Add object =>
    match s.pool.Add object with
    | some pool => some { s.notify_one with pool := pool }
    | none => some s
  | .Remove object =>
    match s.pool.Remove object with
    | some pool => some { s with pool := pool }
    | none => some s
  | .Clear => some { s with pool := s.pool.Clear }

end Borrowers

end hpp

end hub
