import Hub.Base.ObjectPool

namespace hub.hpp

namespace PoolEvent

variable {τ : Type}

/-- The steps of `Borrow`, `TryBorrow` and `Return`, with a factory that never fails. -/
def Lends : PoolEvent τ → Prop
  | .create_fails | .Add _ | .Remove _ | .Clear => False
  | _ => True

def returns : PoolEvent τ → Bool
  | .Return _ => true
  | _ => false

def looks : PoolEvent τ → Bool
  | .TryBorrow | .Borrow | .resume false => true
  | _ => false

def timesOut : PoolEvent τ → Bool
  | .resume true | .give_up => true
  | _ => false

end PoolEvent

namespace Borrowers

variable {τ : Type}

/-- A `Borrow` that the step makes return null leaves no object idle. -/
def NullWhenEmpty (timeout : UInt64) (s : Borrowers τ) (event : PoolEvent τ) : Prop :=
  ∀ next, s.step timeout event = some next → next.nulls ≠ s.nulls → next.pool.objects_ = []

/-- Threads have looked for an object as often as objects were given back, in every stretch
up to now, and since the start as often as there were objects. -/
def TakenUp (objects : Nat) (before : List (PoolEvent τ)) : Prop :=
  objects + before.countP PoolEvent.returns ≤ before.countP PoolEvent.looks ∧
    ∀ n < before.length, (before.drop n).countP PoolEvent.returns ≤ (before.drop n).countP PoolEvent.looks

/-- Wherever a wait ends with the status `timeout`, what was given back has been taken up. -/
def TimesOutTakenUp (timeout : UInt64) (s : Borrowers τ) (events : List (PoolEvent τ)) : Prop :=
  ∀ n < events.length, (events[n]?).any PoolEvent.timesOut → (run (step timeout) s (events.take (n + 1))).isSome →
    TakenUp s.pool.IdleNum (events.take n)

instance (objects : Nat) (before : List (PoolEvent τ)) : Decidable (TakenUp objects before) :=
  inferInstanceAs (Decidable (_ ∧ _))

instance (timeout : UInt64) (s : Borrowers τ) (events : List (PoolEvent τ)) :
    Decidable (TimesOutTakenUp timeout s events) :=
  inferInstanceAs (Decidable (∀ n < events.length, _))

variable {timeout : UInt64} {s next otherwise : Borrowers τ} {event : PoolEvent τ}

theorem takeOr_null (hpool : otherwise.pool = s.pool) (hnull : (s.takeOr otherwise).nulls ≠ s.nulls) :
    (s.takeOr otherwise).pool.objects_ = [] := by
  obtain ⟨hnone, heq⟩ | ⟨object, rest, -, heq⟩ := s.takeOr_cases otherwise
  · rw [heq, hpool, hnone]
  · rw [heq] at hnull
    exact absurd rfl hnull

theorem nullWhenEmpty_iff (htimeout : 0 < timeout) (hlends : event.Lends) :
    NullWhenEmpty timeout s event ↔
      (event.timesOut → (s.step timeout event).isSome → TakenUp s.pool.IdleNum ([] : List (PoolEvent τ))) := by
  have hempty : TakenUp s.pool.IdleNum ([] : List (PoolEvent τ)) ↔ s.pool.objects_ = [] := by
    simp [TakenUp, ObjectPool.IdleNum]
  rw [hempty]
  cases event with
  | TryBorrow | Borrow =>
    refine iff_of_true (fun next hstep hnull => ?_) (fun h => by cases h)
    cases hstep
    exact takeOr_null rfl hnull
  | proceed =>
    refine iff_of_true (fun next hstep hnull => ?_) (fun h => by cases h)
    obtain ⟨-, hstep⟩ := Option.ite_none_right_eq_some.mp hstep
    rw [if_pos htimeout] at hstep
    split at hstep
    all_goals
      cases hstep
      exact absurd rfl hnull
  | created | expire | spurious | Return =>
    refine iff_of_true (fun next hstep hnull => ?_) (fun h => by cases h)
    obtain ⟨-, hnext⟩ := Option.ite_none_right_eq_some.mp hstep
    cases hnext
    exact absurd rfl hnull
  | resume late =>
    cases late with
    | false =>
      refine iff_of_true (fun next hstep hnull => ?_) (fun h => by cases h)
      obtain ⟨-, hnext⟩ := Option.ite_none_right_eq_some.mp hstep
      cases hnext
      exact takeOr_null rfl hnull
    | true =>
      by_cases hwoken : 0 < s.woken
      · simp [NullWhenEmpty, step, hwoken, PoolEvent.timesOut]
      · simp [NullWhenEmpty, step, hwoken]
  | give_up =>
    by_cases hexpired : 0 < s.expired
    · simp [NullWhenEmpty, step, hexpired, PoolEvent.timesOut]
    · simp [NullWhenEmpty, step, hexpired]
  | _ => exact hlends.elim

theorem takeOr_idle (hpool : otherwise.pool = s.pool) : (s.takeOr otherwise).pool.IdleNum = s.pool.IdleNum - 1 := by
  obtain ⟨hnone, heq⟩ | ⟨object, rest, hobjects, heq⟩ := s.takeOr_cases otherwise
  · rw [heq, hpool, ObjectPool.IdleNum, hnone]
    rfl
  · rw [heq, ObjectPool.IdleNum, ObjectPool.IdleNum, hobjects]
    rfl

theorem step_idle (hlends : event.Lends) (hstep : s.step timeout event = some next) :
    next.pool.IdleNum =
      if event.returns then s.pool.IdleNum + 1 else if event.looks then s.pool.IdleNum - 1 else s.pool.IdleNum := by
  cases event with
  | TryBorrow | Borrow =>
    cases hstep
    exact takeOr_idle rfl
  | proceed =>
    obtain ⟨-, hstep⟩ := Option.ite_none_right_eq_some.mp hstep
    split at hstep
    · cases hstep
      rfl
    · split at hstep
      all_goals
        cases hstep
        rfl
  | resume late =>
    obtain ⟨-, hstep⟩ := Option.ite_none_right_eq_some.mp hstep
    cases late with
    | false =>
      cases hstep
      exact takeOr_idle rfl
    | true =>
      cases hstep
      rfl
  | Return object =>
    obtain ⟨-, hnext⟩ := Option.ite_none_right_eq_some.mp hstep
    cases hnext
    exact List.length_append
  | created | expire | spurious | give_up =>
    obtain ⟨-, hnext⟩ := Option.ite_none_right_eq_some.mp hstep
    cases hnext
    rfl
  | _ => exact hlends.elim

theorem takenUp_cons (objects : Nat) (before : List (PoolEvent τ)) :
    TakenUp objects (event :: before) ↔
      TakenUp (if event.returns then objects + 1 else if event.looks then objects - 1 else objects) before := by
  have hlast (h : ∀ n < before.length, (before.drop n).countP PoolEvent.returns ≤
      (before.drop n).countP PoolEvent.looks) :
      before.countP PoolEvent.returns ≤ before.countP PoolEvent.looks := by
    cases before with
    | nil => exact Nat.le_refl 0
    | cons first rest => exact h 0 (Nat.succ_pos _)
  have hboth : ¬(event.returns = true ∧ event.looks = true) := by
    cases event with
    | Return => simp [PoolEvent.looks]
    | _ => simp [PoolEvent.returns]
  simp only [TakenUp, List.length_cons, Nat.forall_lt_succ_left, List.drop_zero, List.drop_succ_cons, List.countP_cons]
  constructor
  · rintro ⟨htotal, -, hrest⟩
    refine ⟨?_, hrest⟩
    have := hlast hrest
    grind
  · rintro ⟨htotal, hrest⟩
    have := hlast hrest
    refine ⟨?_, ?_, hrest⟩ <;> grind

theorem timesOutTakenUp_cons (hlends : event.Lends) (events : List (PoolEvent τ)) :
    TimesOutTakenUp timeout s (event :: events) ↔
      (event.timesOut → (s.step timeout event).isSome → TakenUp s.pool.IdleNum ([] : List (PoolEvent τ))) ∧
        ∀ next, s.step timeout event = some next → TimesOutTakenUp timeout next events := by
  simp only [TimesOutTakenUp, List.length_cons, Nat.forall_lt_succ_left, List.getElem?_cons_zero, Option.any_some,
    List.take_zero, List.getElem?_cons_succ, List.take_succ_cons, run]
  cases hstep : s.step timeout event with
  | none => simp
  | some next =>
    have hidle := step_idle hlends hstep
    simp only [Option.bind_some, Option.isSome_some, Option.some.injEq, forall_eq', takenUp_cons, ← hidle]

/-- Two threads wait for an object that is lent. One waits in vain; the other gets the object
when it is given back. -/
def twoWaiters : List (PoolEvent Unit) :=
  [.TryBorrow, .Borrow, .proceed, .Borrow, .proceed, .expire, .give_up, .Return ⟨0⟩, .resume false]

end Borrowers

end hub.hpp
