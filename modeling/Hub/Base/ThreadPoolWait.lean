import Hub.Base.ThreadPool

namespace hub.hpp

/-- A pool with a thread in `wait`, which takes no mutex. The two counters of its test are read
in either order. -/
structure WaitedPool where
  pool : ThreadPool
  empty : Bool
  idle : Option Int
  cur : Option Int
  returned : Bool

inductive WaitEvent where
  | pool (event : PoolStep)
  | tasks
  | idle
  | cur
  | compare
  | yield
deriving DecidableEq

namespace WaitedPool

def init (min_threads max_threads start_threads : Nat) : WaitedPool where
  pool := .init min_threads max_threads start_threads
  empty := false
  idle := none
  cur := none
  returned := false

def step (s : WaitedPool) : WaitEvent → Option WaitedPool
  | .pool event => (s.pool.step event).map fun pool => { s with pool := pool }
  | .tasks => if s.empty = false then some { s with empty := decide (s.pool.tasks = 0) } else none
  | .idle => if s.empty = true ∧ s.idle = none then some { s with idle := some s.pool.idle_thread_num } else none
  | .cur => if s.empty = true ∧ s.cur = none then some { s with cur := some s.pool.cur_thread_num } else none
  | .compare => if s.idle.isSome ∧ s.idle = s.cur then some { s with returned := true } else none
  | .yield =>
    if s.idle.isSome ∧ s.cur.isSome ∧ s.idle ≠ s.cur ∧ s.returned = false then
      some { s with empty := false, idle := none, cur := none }
    else none

/-- In a turn that finds no task, none is committed and the number of threads stays as it is,
with no worker between the two decrements of `delThread`. -/
def Undisturbed (s : WaitedPool) (event : WaitEvent) : Prop :=
  (event = .tasks → s.pool.tasks = 0 → s.pool.uncounting = 0) ∧
    (s.empty = true → event ∉ [.pool .push, .pool .count_cur, .pool .uncount_cur])

instance (s : WaitedPool) (event : WaitEvent) : Decidable (s.Undisturbed event) :=
  inferInstanceAs (Decidable (_ ∧ _))

/-- What the call has read is true as far as it matters. -/
structure Inv (s : WaitedPool) : Prop where
  accounted : s.pool.Accounted
  settled : s.empty = true → s.pool.tasks = 0 ∧ s.pool.uncounting = 0
  idle_le : ∀ n, s.idle = some n → s.empty = true ∧ n + s.pool.running ≤ s.pool.cur_thread_num
  cur_eq : ∀ n, s.cur = some n → s.empty = true ∧ n = s.pool.cur_thread_num
  finished : s.returned = true → s.empty = true ∧ s.pool.running = 0

theorem pool_settles {s next : ThreadPool} {event : PoolStep} (h : s.Accounted) (hidle : s.tasks = 0 ∧ s.uncounting = 0)
    (hevent : event ∉ [.push, .count_cur, .uncount_cur]) (hstep : s.step event = some next) :
    (next.tasks = 0 ∧ next.uncounting = 0) ∧ next.cur_thread_num = s.cur_thread_num ∧ next.running ≤ s.running := by
  have htaking := h.taking_le
  cases event with
  | commit | commit_idle =>
    cases hstep
    exact ⟨hidle, rfl, Nat.le_refl _⟩
  | push | count_cur | uncount_cur => simp at hevent
  | _ =>
    obtain ⟨hguard, hnext⟩ := Option.ite_none_right_eq_some.mp hstep
    cases hnext
    dsimp only
    omega

variable {s next : WaitedPool} {event : WaitEvent}

theorem step_inv (h : s.Inv) (hcond : s.Undisturbed event) (hstep : s.step event = some next) : next.Inv := by
  cases event with
  | pool event =>
    obtain ⟨pool, hpool, rfl⟩ := Option.map_eq_some_iff.mp hstep
    have hsettles (hempty : s.empty = true) :=
      pool_settles h.accounted (h.settled hempty) (fun hmem => hcond.2 hempty (List.mem_map_of_mem hmem)) hpool
    refine ⟨ThreadPool.step_accounted h.accounted hpool, fun hempty => (hsettles hempty).1,
      fun n hn => ?_, fun n hn => ?_, fun hreturned => ?_⟩
    · obtain ⟨hempty, hle⟩ := h.idle_le n hn
      obtain ⟨-, hcur, hrunning⟩ := hsettles hempty
      exact ⟨hempty, by dsimp only; omega⟩
    · obtain ⟨hempty, heq⟩ := h.cur_eq n hn
      exact ⟨hempty, by rw [(hsettles hempty).2.1]; exact heq⟩
    · obtain ⟨hempty, hnone⟩ := h.finished hreturned
      exact ⟨hempty, Nat.le_zero.mp (hnone ▸ (hsettles hempty).2.2)⟩
  | tasks =>
    obtain ⟨hempty, hnext⟩ := Option.ite_none_right_eq_some.mp hstep
    cases hnext
    refine { h with settled := fun hfound => ?_, idle_le := ?_, cur_eq := ?_, finished := ?_ }
    · have htasks : s.pool.tasks = 0 := of_decide_eq_true hfound
      exact ⟨htasks, hcond.1 rfl htasks⟩
    · exact fun n hn => absurd (h.idle_le n hn).1 (by simp [hempty])
    · exact fun n hn => absurd (h.cur_eq n hn).1 (by simp [hempty])
    · exact fun hreturned => absurd (h.finished hreturned).1 (by simp [hempty])
  | idle =>
    obtain ⟨⟨hempty, -⟩, hnext⟩ := Option.ite_none_right_eq_some.mp hstep
    cases hnext
    refine { h with idle_le := fun n hn => ⟨hempty, ?_⟩ }
    cases hn
    have hcount := h.accounted.idle_eq
    obtain ⟨-, huncounting⟩ := h.settled hempty
    dsimp only
    omega
  | cur =>
    obtain ⟨⟨hempty, -⟩, hnext⟩ := Option.ite_none_right_eq_some.mp hstep
    cases hnext
    exact { h with cur_eq := fun n hn => ⟨hempty, (Option.some.inj hn).symm⟩ }
  | compare =>
    obtain ⟨⟨hread, hsame⟩, hnext⟩ := Option.ite_none_right_eq_some.mp hstep
    cases hnext
    obtain ⟨idle, hidle⟩ := Option.isSome_iff_exists.mp hread
    obtain ⟨hempty, hle⟩ := h.idle_le idle hidle
    obtain ⟨-, hcur⟩ := h.cur_eq idle (hsame.symm.trans hidle)
    refine { h with finished := fun _ => ⟨hempty, ?_⟩ }
    dsimp only
    omega
  | yield =>
    obtain ⟨⟨-, -, -, hreturned⟩, hnext⟩ := Option.ite_none_right_eq_some.mp hstep
    cases hnext
    exact ⟨h.accounted, Bool.noConfusion, by simp, by simp, by simp [hreturned]⟩

/-- When the number of threads is steady in every turn that finds no task, `wait` returns only
when all tasks have finished. -/
theorem wait_finished {min_threads max_threads start_threads : Nat} {events : List WaitEvent}
    (hundisturbed : Meets step Undisturbed (init min_threads max_threads start_threads) events)
    (hrun : run step (init min_threads max_threads start_threads) events = some s) (hreturned : s.returned = true) :
    s.pool.tasks = 0 ∧ s.pool.taking = 0 ∧ s.pool.running = 0 := by
  have hinit : (init min_threads max_threads start_threads).Inv :=
    ⟨ThreadPool.init_accounted .., Bool.noConfusion, by simp [init], by simp [init], Bool.noConfusion⟩
  have h := run_invariant_of_meets Inv (fun _ _ _ h hcond hstep => step_inv h hcond hstep) hinit hundisturbed hrun
  obtain ⟨hempty, hrunning⟩ := h.finished hreturned
  obtain ⟨htasks, -⟩ := h.settled hempty
  exact ⟨htasks, Nat.le_zero.mp (htasks ▸ h.accounted.taking_le), hrunning⟩

/-- The call waits for two tasks that two workers run; in its second turn one of them still
runs. -/
def twoTasks : List WaitEvent :=
  [.pool .commit_idle, .pool .push, .pool .commit_idle, .pool .push, .pool .take, .pool .pop, .tasks, .pool .take,
    .pool .pop, .pool .finish, .pool .rest, .tasks, .idle, .cur, .yield, .pool .finish,
    .pool .rest, .tasks, .cur, .idle, .compare]

theorem two_tasks_finished :
    ∃ s, run step (init 1 2 2) twoTasks = some s ∧ s.returned = true ∧
      s.pool.tasks = 0 ∧ s.pool.taking = 0 ∧ s.pool.running = 0 :=
  ⟨_, rfl, rfl, @wait_finished _ 1 2 2 twoTasks (by decide) rfl rfl⟩

/-- A worker runs a task while the other one of two retires. -/
theorem wait_returns_early :
    (run step (init 1 2 2) [.pool .commit_idle, .pool .push, .pool .take, .pool .pop, .pool .retire,
        .pool .uncount_cur, .tasks, .idle, .cur, .compare]).map
      (fun s => (s.returned, s.pool.running)) = some (true, 1) := rfl

end WaitedPool

end hub.hpp
