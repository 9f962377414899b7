import Hub.Lib.Run

namespace hub.hpp

variable {T : Type}

/-- `BoundedQueue` before `Quit`, with the producers inside `Push` and what the last bulk
removal gave its caller. All notifications are made under the mutex. -/
structure BoundedQueue (T : Type) where
  deque_ : List T
  /-- Producers blocked on `cond_notFull_`. -/
  blocked : Nat
  /-- Producers that were woken and have not tested the predicate again. -/
  woken : Nat
  handed : List T

inductive QueueCall (T : Type) where
  | Push (val : T)
  /-- A woken producer tests the predicate again. -/
  | resume (val : T)
  | tryPush (val : T)
  /-- `Pop` or `tryPop`. -/
  | Pop
  /-- `PopAll`, `PopAllTimeout` or `tryPopAll` with the caller's deque. -/
  | PopAll (val : List T)
  | Clear
  | spurious

namespace BoundedQueue

def init : BoundedQueue T where
  deque_ := []
  blocked := 0
  woken := 0
  handed := []

variable (capacity : Nat) (s : BoundedQueue T)

def notify_one : BoundedQueue T :=
  { s with blocked := s.blocked - 1, woken := s.woken + min 1 s.blocked }

def tryPush (capacity : Nat) (val : T) : BoundedQueue T :=
  if s.deque_.length < capacity then { s with deque_ := s.deque_ ++ [val] } else s

def Push (capacity : Nat) (val : T) : BoundedQueue T :=
  if s.deque_.length < capacity then { s with deque_ := s.deque_ ++ [val] } else { s with blocked := s.blocked + 1 }

def Pop : BoundedQueue T :=
  match s.deque_ with
  | [] => s
  | _ :: rest => notify_one { s with deque_ := rest }

def PopAll (val : List T) : BoundedQueue T :=
  if s.deque_.isEmpty then s else notify_one { s with deque_ := val, handed := s.deque_ }

def Clear : BoundedQueue T :=
  notify_one { s with deque_ := [] }

def step (s : BoundedQueue T) : QueueCall T → Option (BoundedQueue T)
  | .Push val => some (s.Push capacity val)
  | .resume val => if 0 < s.woken then some (Push { s with woken := s.woken - 1 } capacity val) else none
  | .tryPush val => some (s.tryPush capacity val)
  | .Pop => some s.Pop
  | .PopAll val => some (s.PopAll val)
  | .Clear => some s.Clear
  | .spurious => if 0 < s.blocked then some { s with blocked := s.blocked - 1, woken := s.woken + 1 } else none

/-- A producer is blocked although there is room and no woken producer is on its way. -/
def Stuck (s : BoundedQueue T) : Prop :=
  0 < s.blocked ∧ s.deque_.length < capacity ∧ s.woken = 0

/-- What the queue promises of a critical section. -/
def Promise (s : BoundedQueue T) (call : QueueCall T) : Prop :=
  ∀ next, s.step capacity call = some next → next.deque_.length ≤ capacity ∧ ¬next.Stuck capacity ∧
    ∀ val, call = .PopAll val → s.deque_ ≠ [] → next.handed = s.deque_ ∧ next.deque_ = []

/-- A bulk removal that removes anything is given an empty deque, and one notification is
enough for the places that it frees. -/
def Harmless (s : BoundedQueue T) : QueueCall T → Prop
  | .PopAll val => s.deque_ ≠ [] → val = [] ∧ (s.blocked ≤ 1 ∨ capacity ≤ s.woken + 1)
  | .Clear => s.blocked ≤ 1 ∨ capacity ≤ s.woken + 1
  | _ => True

instance [DecidableEq T] : ∀ call, Decidable (s.Harmless capacity call)
  | .PopAll _ => inferInstanceAs (Decidable (_ → _))
  | .Clear => inferInstanceAs (Decidable (_ ∨ _))
  | .Push _ | .resume _ | .tryPush _ | .Pop | .spurious => .isTrue trivial

/-- The free places are covered by woken producers while another one is blocked. -/
structure Covered (capacity : Nat) (s : BoundedQueue T) : Prop where
  bounded : s.deque_.length ≤ capacity
  covered : s.blocked = 0 ∨ capacity ≤ s.deque_.length + s.woken

variable {capacity} {s} {next : BoundedQueue T} {call : QueueCall T}

theorem Covered.not_stuck (h : s.Covered capacity) : ¬s.Stuck capacity := by
  rintro ⟨hblocked, hroom, hwoken⟩
  rcases h.covered with hnone | hcovered <;> omega

theorem Covered.Push (hbounded : s.deque_.length ≤ capacity)
    (hcovered : s.blocked = 0 ∨ capacity ≤ s.deque_.length + s.woken + 1) (val : T) :
    (s.Push capacity val).Covered capacity := by
  unfold BoundedQueue.Push
  split
  · refine ⟨?_, ?_⟩ <;> simp only [List.length_append, List.length_singleton] <;> omega
  · exact ⟨hbounded, .inr (by dsimp only; omega)⟩

theorem Covered.notify_one (hbounded : s.deque_.length ≤ capacity)
    (hcovered : s.blocked ≤ 1 ∨ capacity ≤ s.deque_.length + s.woken + 1) :
    s.notify_one.Covered capacity := by
  refine ⟨hbounded, ?_⟩
  simp only [BoundedQueue.notify_one]
  omega

theorem Covered.step (h : s.Covered capacity) (hcall : s.Harmless capacity call)
    (hstep : s.step capacity call = some next) : next.Covered capacity := by
  obtain ⟨hbounded, hcovered⟩ := h
  cases call with
  | Push val =>
    cases hstep
    exact .Push hbounded (by omega) val
  | resume val =>
    obtain ⟨hwoken, hnext⟩ := Option.ite_none_right_eq_some.mp hstep
    cases hnext
    refine .Push ?_ ?_ val <;> dsimp only <;> omega
  | tryPush val =>
    cases hstep
    unfold tryPush
    split
    · refine ⟨?_, ?_⟩ <;> simp only [List.length_append, List.length_singleton] <;> omega
    · exact ⟨hbounded, hcovered⟩
  | Pop =>
    cases hstep
    unfold Pop
    split
    · exact ⟨hbounded, hcovered⟩
    · rename_i hdeque
      rw [hdeque, List.length_cons] at hbounded hcovered
      exact .notify_one (by dsimp only; omega) (by dsimp only; omega)
  | PopAll val =>
    cases hstep
    unfold PopAll
    split
    · exact ⟨hbounded, hcovered⟩
    · rename_i hdeque
      obtain ⟨rfl, hone⟩ := hcall (by simpa using hdeque)
      exact .notify_one (Nat.zero_le _) (by simpa using hone)
  | Clear =>
    cases hstep
    exact .notify_one (Nat.zero_le _) (by simpa [Harmless] using hcall)
  | spurious =>
    obtain ⟨hblocked, hnext⟩ := Option.ite_none_right_eq_some.mp hstep
    cases hnext
    exact ⟨hbounded, by dsimp only; omega⟩

theorem Covered.promise (h : s.Covered capacity) (hcall : s.Harmless capacity call) : s.Promise capacity call := by
  intro next hstep
  have hnext := h.step hcall hstep
  refine ⟨hnext.bounded, hnext.not_stuck, ?_⟩
  rintro val rfl hdeque
  cases hstep
  rw [PopAll, if_neg (by simpa using hdeque)]
  exact ⟨rfl, (hcall hdeque).1⟩

/-- The queue keeps its promise as long as every bulk removal that removes anything is given an
empty deque and finds at most one producer blocked, or all places but one covered by woken
producers. -/
theorem bound_and_moving {calls : List (QueueCall T)}
    (hharmless : Meets (step capacity) (Harmless capacity) init calls) :
    Meets (step capacity) (Promise capacity) init calls := by
  refine hharmless.of_invariant (Covered capacity) ?_ ?_ ⟨Nat.zero_le _, .inl rfl⟩
  · exact fun _ _ _ h hcall hstep => h.step hcall hstep
  · exact fun _ _ h hcall => h.promise hcall

theorem producer_moves :
    Meets (step 2) (Promise 2) (init : BoundedQueue Nat) [.Push 1, .Push 2, .Push 3, .PopAll [], .resume 3] :=
  bound_and_moving (by decide)

/-- The items of a caller's deque exceed the capacity. Of two producers blocked on a full
queue, `PopAll` wakes one, and the other stays blocked beside a free place. -/
theorem popAll_breaks :
    (run (step 1) init [.Push 1, .PopAll [2, 3]]).map (·.deque_) = some [2, 3] ∧
      ∃ s, run (step 2) init [.Push 1, .Push 2, .Push 3, .Push 4, .PopAll [], .resume 3] = some s ∧ s.Stuck 2 :=
  ⟨rfl, _, rfl, by decide, by decide, rfl⟩

end BoundedQueue

end hub.hpp
