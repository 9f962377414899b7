import Hub.Lib.Inevitable
import Mathlib.Tactic.Common

namespace hub.threadpool

inductive CreateStage where
  | creating
  | uninit
  | store
  /-- Joins the workers, frees the table and the pool and returns `NULL`. -/
  | join
  | returned (null : Bool)

/-- `fix_threadpool_create` with the workers that it has started, by their place in
`fix_threadworker`. No task is added, so that a worker which finds the queue waits there. -/
structure Creation where
  stage : CreateStage
  created_success_thread : Nat
  is_run : Bool
  /-- The queue is the first of the three that is freed. -/
  tasks : Bool
  looping : Nat
  popping : Nat
  waiting : Nat
  /-- Workers in `sleep`, after `THREADQUEUE_RET_ERR_ARG`. -/
  sleeping : Nat
  returned : Nat

inductive CreateEvent where
  | creator
  | load
  | pop
  | wake

namespace Creation

def init : Creation := ⟨.creating, 0, true, true, 0, 0, 0, 0, 0⟩

variable (thread_capacity k : Nat) (s : Creation)

/-- A step of `fix_threadpool_create` when `pthread_create` fails for thread `k`. -/
def creator : Option Creation :=
  match s.stage with
  | .creating =>
    if s.created_success_thread = thread_capacity then some { s with stage := .returned false }
    else if s.created_success_thread = k then some { s with stage := .uninit }
    else some { s with created_success_thread := s.created_success_thread + 1, looping := s.looping + 1 }
  | .uninit => some { s with stage := .store, tasks := false }
  | .store => some { s with stage := .join, is_run := false }
  | .join => if s.returned = s.created_success_thread then some { s with stage := .returned true } else none
  | .returned _ => none

def step : CreateEvent → Option Creation
  | .creator => s.creator thread_capacity k
  | .load =>
    if 0 < s.looping then
      if s.is_run then some { s with looping := s.looping - 1, popping := s.popping + 1 }
      else some { s with looping := s.looping - 1, returned := s.returned + 1 }
    else none
  | .pop =>
    if 0 < s.popping then
      if s.tasks then some { s with popping := s.popping - 1, waiting := s.waiting + 1 }
      else some { s with popping := s.popping - 1, sleeping := s.sleeping + 1 }
    else none
  | .wake => if 0 < s.sleeping then some { s with sleeping := s.sleeping - 1, looping := s.looping + 1 } else none

/-- The call returns `NULL`, and frees nothing before the workers have returned. -/
def CleansUp : Prop :=
  Inevitable (step thread_capacity k) (· ≠ .creator) (· = .creator) (·.stage = .returned true) init ∧
    ∀ events s, run (step thread_capacity k) init events = some s →
      s.tasks = true ∨ s.returned = s.created_success_thread

def Idle : Prop := s.created_success_thread = 0 ∧ s.looping = 0 ∧ s.popping = 0 ∧ s.sleeping = 0 ∧ s.returned = 0

def rank : Nat :=
  match s.stage with
  | .creating => 4
  | .uninit => 3
  | .store => 2
  | .join => 1
  | .returned _ => 0

variable {thread_capacity k s} {next : Creation} {event : CreateEvent}

namespace Idle

variable (h : s.Idle)

include h

theorem eq_creator (hnext : s.step thread_capacity k event = some next) : event = .creator := by
  obtain ⟨-, hlooping, hpopping, hsleeping, -⟩ := h
  cases event with
  | creator => rfl
  | load => simp [step, hlooping] at hnext
  | pop => simp [step, hpopping] at hnext
  | wake => simp [step, hsleeping] at hnext

theorem creator (hcapacity : 0 < thread_capacity) (hrank : s.rank ≠ 0) :
    ∃ next, s.creator thread_capacity 0 = some next ∧ next.Idle ∧ next.rank < s.rank ∧
      (next.rank = 0 → next.stage = .returned true) := by
  unfold Creation.creator
  cases hstage : s.stage with
  | creating =>
    rw [if_neg (h.1 ▸ Nat.ne_of_lt hcapacity), if_pos h.1]
    exact ⟨_, rfl, h, by simp [rank, hstage]⟩
  | join =>
    rw [if_pos (h.2.2.2.2.trans h.1.symm)]
    exact ⟨_, rfl, h, by simp [rank, hstage]⟩
  | returned null => simp [rank, hstage] at hrank
  | _ => exact ⟨_, rfl, h, by simp [rank, hstage]⟩

end Idle

theorem cleansUp_zero (hcapacity : 0 < thread_capacity) : CleansUp thread_capacity 0 := by
  have hinit : init.Idle := ⟨rfl, rfl, rfl, rfl, rfl⟩
  refine ⟨.of_rank (fun s => s.Idle ∧ s.rank ≠ 0) rank ?_ ?_ ?_ ⟨hinit, by decide⟩, ?_⟩
  · intro s event next hs hevent hnext
    exact absurd (hs.1.eq_creator hnext) hevent
  · rintro s ⟨hidle, hrank⟩
    obtain ⟨next, hnext, -⟩ := hidle.creator hcapacity hrank
    exact ⟨.creator, rfl, Option.isSome_of_eq_some hnext⟩
  · rintro s event next ⟨hidle, hrank⟩ - hstep
    obtain ⟨next, hnext, hidle', hlt, hreturned⟩ := hidle.creator hcapacity hrank
    cases hidle.eq_creator hstep
    cases hnext.symm.trans hstep
    by_cases hend : next.rank = 0
    · exact .inl (hreturned hend)
    · exact .inr ⟨⟨hidle', hend⟩, hlt⟩
  · intro events s hrun
    have hidle : s.Idle := by
      refine run_invariant Idle (fun s event next hs hstep => ?_) hinit hrun
      cases hs.eq_creator hstep
      by_cases hrank : s.rank = 0
      · cases hstage : s.stage <;> simp_all [rank, step, creator]
      · obtain ⟨next, hnext, hidle, -⟩ := hs.creator hcapacity hrank
        cases hnext.symm.trans hstep
        exact hidle
    exact .inr (hidle.2.2.2.2.trans hidle.1.symm)

theorem run_creator {j : Nat} (hj : j ≤ k) (hk : k < thread_capacity) :
    run (step thread_capacity k) init (List.replicate j .creator) =
      some { init with created_success_thread := j, looping := j } := by
  induction j with
  | zero => rfl
  | succ j ih =>
    rw [List.replicate_succ', run_append_eq_some]
    refine ⟨_, ih (by omega), ?_⟩
    have hmore : ¬j = thread_capacity := by omega
    have hsuccess : ¬j = k := by omega
    simp [run, step, creator, init, hmore, hsuccess]

/-- A failed creation cleans up if and only if no worker has been started. Otherwise the
queue is freed while the workers still use it. -/
theorem fix_threadpool_create_cleansUp_iff (thread_capacity : Nat) (k : Fin thread_capacity) :
    CleansUp thread_capacity k ↔ k.val = 0 := by
  refine ⟨fun h => ?_, fun hk => ?_⟩
  · have hrun : run (step thread_capacity k) init (List.replicate k .creator ++ [.creator, .creator]) =
        some { init with stage := .store, created_success_thread := k, tasks := false, looping := k } := by
      refine run_append_eq_some.mpr ⟨_, run_creator (Nat.le_refl _) k.isLt, ?_⟩
      simp [run, step, creator, init, Nat.ne_of_lt k.isLt]
    obtain htasks | hreturned := h.2 _ _ hrun
    · cases htasks
    · exact hreturned.symm
  · rw [hk]
    exact cleansUp_zero (Nat.zero_lt_of_lt k.isLt)

/-- The one worker waits on the queue when it is freed. It never returns, and the creator
waits for it. -/
theorem fix_threadpool_create_stuck :
    ∃ s, run (step 2 1) init [.creator, .load, .pop, .creator, .creator, .creator] = some s ∧
      s.waiting = 1 ∧ s.tasks = false ∧ ∀ event, s.step 2 1 event = none := by
  refine ⟨_, rfl, rfl, rfl, fun event => ?_⟩
  cases event <;> rfl

end Creation

end hub.threadpool
