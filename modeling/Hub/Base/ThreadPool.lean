import Hub.Lib.Run

namespace hub.hpp

/-- A started `ThreadPool`, with the number of threads at each place of the code; those
between two steps of a critical section hold its mutex. `idle_thread_num` is negative where
the `size_t` wraps around. -/
structure ThreadPool where
  min_thread_num : Nat
  max_thread_num : Nat
  cur_thread_num : Nat
  idle_thread_num : Int
  tasks : Nat
  /-- Calls of `commit` that found too few idle threads. -/
  wanting : Nat
  /-- Those that found `cur_thread_num < max_thread_num` as well, in `commit` and in
  `createThread`. -/
  calling : Nat
  creating : Nat
  /-- Those in `addThread`, before and after `++cur_thread_num`. -/
  adding : Nat
  counting : Nat
  /-- Those that have only their task to add. -/
  pushing : Nat
  waiting : Nat
  /-- Workers that take a task, run it, and have run it. -/
  taking : Nat
  running : Nat
  ran : Nat
  /-- Workers in `delThread`, before and after `--cur_thread_num`, and behind it. -/
  retiring : Nat
  uncounting : Nat
  leaving : Nat

inductive PoolStep where
  | commit
  | commit_idle
  | test_max
  | test_max_full
  | createThread
  | createThread_full
  | spawn
  | count_cur
  | count_idle
  | push
  | take
  | pop
  | finish
  | rest
  | retire
  | uncount_cur
  | uncount_idle
  | leave
deriving DecidableEq

namespace ThreadPool

def init (min_threads max_threads start_threads : Nat) : ThreadPool where
  min_thread_num := min_threads
  max_thread_num := max_threads
  cur_thread_num := min (max start_threads min_threads) max_threads
  idle_thread_num := (min (max start_threads min_threads) max_threads : Nat)
  tasks := 0
  wanting := 0
  calling := 0
  creating := 0
  adding := 0
  counting := 0
  pushing := 0
  waiting := min (max start_threads min_threads) max_threads
  taking := 0
  running := 0
  ran := 0
  retiring := 0
  uncounting := 0
  leaving := 0

variable (s : ThreadPool)

def TaskFree : Prop := s.taking + s.retiring + s.uncounting = 0

def ThreadFree : Prop := s.counting + s.uncounting = 0

instance : Decidable s.TaskFree := inferInstanceAs (Decidable (_ = 0))

instance : Decidable s.ThreadFree := inferInstanceAs (Decidable (_ = 0))

/-- One atomic operation or critical section. `commit` reads the size of `tasks` without the
mutex, so both outcomes of its comparison are possible. -/
def step : PoolStep → Option ThreadPool
  | .commit => some { s with wanting := s.wanting + 1 }
  | .commit_idle => some { s with pushing := s.pushing + 1 }
  | .test_max =>
    if 0 < s.wanting ∧ s.cur_thread_num < s.max_thread_num then
      some { s with wanting := s.wanting - 1, calling := s.calling + 1 }
    else none
  | .test_max_full =>
    if 0 < s.wanting ∧ s.max_thread_num ≤ s.cur_thread_num then
      some { s with wanting := s.wanting - 1, pushing := s.pushing + 1 }
    else none
  | .createThread =>
    if 0 < s.calling ∧ s.cur_thread_num < s.max_thread_num then
      some { s with calling := s.calling - 1, creating := s.creating + 1 }
    else none
  | .createThread_full =>
    if 0 < s.calling ∧ s.max_thread_num ≤ s.cur_thread_num then
      some { s with calling := s.calling - 1, pushing := s.pushing + 1 }
    else none
  | .spawn =>
    if 0 < s.creating then
      some { s with creating := s.creating - 1, adding := s.adding + 1, waiting := s.waiting + 1 }
    else none
  | .count_cur =>
    if 0 < s.adding ∧ s.ThreadFree then
      some { s with
        adding := s.adding - 1
        counting := s.counting + 1
        cur_thread_num := s.cur_thread_num + 1 }
    else none
  | .count_idle =>
    if 0 < s.counting then
      some { s with
        counting := s.counting - 1
        pushing := s.pushing + 1
        idle_thread_num := s.idle_thread_num + 1 }
    else none
  | .push =>
    if 0 < s.pushing ∧ s.TaskFree then some { s with pushing := s.pushing - 1, tasks := s.tasks + 1 } else none
  | .take =>
    if 0 < s.waiting ∧ s.TaskFree ∧ 0 < s.tasks then
      some { s with
        waiting := s.waiting - 1
        taking := s.taking + 1
        idle_thread_num := s.idle_thread_num - 1 }
    else none
  | .pop =>
    if 0 < s.taking then
      some { s with taking := s.taking - 1, running := s.running + 1, tasks := s.tasks - 1 }
    else none
  | .finish => if 0 < s.running then some { s with running := s.running - 1, ran := s.ran + 1 } else none
  | .rest =>
    if 0 < s.ran then
      some { s with ran := s.ran - 1, waiting := s.waiting + 1, idle_thread_num := s.idle_thread_num + 1 }
    else none
  | .retire =>
    if 0 < s.waiting ∧ s.TaskFree ∧ s.tasks = 0 ∧ s.min_thread_num < s.cur_thread_num then
      some { s with waiting := s.waiting - 1, retiring := s.retiring + 1 }
    else none
  | .uncount_cur =>
    if 0 < s.retiring ∧ s.ThreadFree then
      some { s with
        retiring := s.retiring - 1
        uncounting := s.uncounting + 1
        cur_thread_num := s.cur_thread_num - 1 }
    else none
  | .uncount_idle =>
    if 0 < s.uncounting then
      some { s with
        uncounting := s.uncounting - 1
        leaving := s.leaving + 1
        idle_thread_num := s.idle_thread_num - 1 }
    else none
  | .leave => if 0 < s.leaving then some { s with leaving := s.leaving - 1 } else none

def live : Nat :=
  s.waiting + s.taking + s.running + s.ran + s.retiring + s.uncounting + s.leaving

/-- How the counters stand to the threads, in every state of a started pool. -/
structure Accounted (s : ThreadPool) : Prop where
  live_eq : s.live = s.cur_thread_num + s.adding + s.uncounting + s.leaving
  idle_eq : s.idle_thread_num + s.counting + s.taking + s.running + s.ran = s.cur_thread_num + s.uncounting
  retiring_le : s.retiring ≤ s.cur_thread_num
  taking_le : s.taking ≤ s.tasks

/-- A worker that retires leaves enough others. -/
def AboveMin : Prop := s.min_thread_num + s.retiring ≤ s.cur_thread_num

variable {s} {next : ThreadPool} {event : PoolStep}

theorem init_accounted (min_threads max_threads start_threads : Nat) :
    (init min_threads max_threads start_threads).Accounted where
  live_eq := by simp [init, live]
  idle_eq := by simp [init]
  retiring_le := Nat.zero_le _
  taking_le := Nat.le_refl _

theorem step_accounted (h : s.Accounted) (hstep : s.step event = some next) : next.Accounted := by
  obtain ⟨hlive, hidle, hretiring, htaking⟩ := h
  cases event with
  | commit | commit_idle =>
    cases hstep
    exact ⟨hlive, hidle, hretiring, htaking⟩
  | _ =>
    obtain ⟨hguard, hnext⟩ := Option.ite_none_right_eq_some.mp hstep
    cases hnext
    simp only [live, TaskFree, ThreadFree] at hlive hguard
    constructor
    all_goals
      simp only [live]
      omega

theorem step_aboveMin (habove : s.AboveMin) (hstep : s.step event = some next) : next.AboveMin := by
  unfold AboveMin at habove ⊢
  cases event with
  | commit | commit_idle =>
    cases hstep
    exact habove
  | _ =>
    obtain ⟨hguard, hnext⟩ := Option.ite_none_right_eq_some.mp hstep
    cases hnext
    simp only [TaskFree] at hguard ⊢
    omega

/-- The maximum is kept, also if the calls that have passed the test start their threads now. -/
def WithinMax (s : ThreadPool) : Prop :=
  ∀ threads next, run step s (List.replicate threads .spawn) = some next → next.live ≤ next.max_thread_num

/-- A call passes the test of `createThread` while fewer threads than there are places free are
between that test and `++cur_thread_num`, or between `--cur_thread_num` and their return. -/
def TestsAlone (s : ThreadPool) (event : PoolStep) : Prop :=
  event = .createThread → 0 < s.calling → s.cur_thread_num < s.max_thread_num →
    s.creating + s.adding + s.uncounting + s.leaving < s.max_thread_num - s.cur_thread_num

instance (s : ThreadPool) (event : PoolStep) : Decidable (s.TestsAlone event) :=
  inferInstanceAs (Decidable (_ → _ → _ → _))

theorem withinMax_iff : s.WithinMax ↔ s.live + s.creating ≤ s.max_thread_num := by
  constructor
  · intro h
    generalize hcreating : s.creating = threads at *
    induction threads generalizing s with
    | zero => exact h 0 s rfl
    | succ threads ih =>
      have hspawn : s.step .spawn = some _ := if_pos (hcreating ▸ Nat.succ_pos threads)
      have hrest := ih (fun more next hrun => h (more + 1) next (run_cons_eq_some.mpr ⟨_, hspawn, hrun⟩))
        (by simp [hcreating])
      simp only [live] at hrest ⊢
      omega
  · intro h threads next hrun
    induction threads generalizing s with
    | zero =>
      cases hrun
      omega
    | succ threads ih =>
      obtain ⟨spawned, hspawn, hrest⟩ := run_cons_eq_some.mp hrun
      obtain ⟨hcreating, hnext⟩ := Option.ite_none_right_eq_some.mp hspawn
      cases hnext
      refine ih ?_ hrest
      simp only [live] at h ⊢
      omega

theorem step_within_iff (h : s.Accounted) (hwithin : s.WithinMax) (hstep : s.step event = some next) :
    next.WithinMax ↔ s.TestsAlone event := by
  have hlive := h.live_eq
  rw [withinMax_iff] at hwithin ⊢
  cases event with
  | commit | commit_idle =>
    cases hstep
    exact iff_of_true hwithin PoolStep.noConfusion
  | createThread =>
    obtain ⟨hguard, hnext⟩ := Option.ite_none_right_eq_some.mp hstep
    cases hnext
    simp only [TestsAlone, live, hguard, true_implies] at hlive ⊢
    omega
  | _ =>
    obtain ⟨hguard, hnext⟩ := Option.ite_none_right_eq_some.mp hstep
    cases hnext
    refine iff_of_true ?_ PoolStep.noConfusion
    simp only [live] at hwithin ⊢
    omega

/-- The threads of a started pool never fall below the minimum, and they stay within the
maximum exactly if no test overlaps with too many threads that come and go. -/
theorem thread_limits_iff {min_threads max_threads : Nat} (hmin : min_threads ≤ max_threads) (start_threads : Nat)
    (steps : List PoolStep) :
    Throughout step (fun s => s.min_thread_num ≤ s.live) (init min_threads max_threads start_threads) steps ∧
      (Throughout step WithinMax (init min_threads max_threads start_threads) steps ↔
        Meets step TestsAlone (init min_threads max_threads start_threads) steps) := by
  have hinit := init_accounted min_threads max_threads start_threads
  constructor
  · refine throughout_of_invariant (fun s => s.Accounted ∧ s.AboveMin) ?_ ?_ _ ⟨hinit, ?_⟩
    · exact fun _ _ _ h hstep => ⟨step_accounted h.1 hstep, step_aboveMin h.2 hstep⟩
    · rintro s ⟨h, habove⟩
      have hlive := h.live_eq
      unfold AboveMin at habove
      omega
    · simp only [AboveMin, init]
      omega
  · apply throughout_iff_meets fun s _ => Accounted s
    · exact fun _ _ _ _ h hstep => step_accounted h hstep
    · rintro s event hnone rfl hcalling hroom
      simp [step, hcalling, hroom] at hnone
    · exact fun _ _ _ _ h hwithin hstep => step_within_iff h hwithin hstep
    · exact hinit
    · rw [withinMax_iff]
      simp only [init, live]
      omega

/-- A call of `commit` adds the second thread of two. The thread runs the task and retires, and
the next call adds another one. -/
def commitTwice : List PoolStep :=
  [.commit, .test_max, .createThread, .spawn, .count_cur, .count_idle, .push, .take, .pop, .finish, .rest, .retire,
    .uncount_cur, .uncount_idle, .leave, .commit, .test_max, .createThread, .spawn, .count_cur, .count_idle, .push]

theorem commit_within_limits :
    (run step (init 1 2 0) commitTwice).map (fun s => (s.live, s.tasks)) = some (2, 1) ∧
    Throughout step WithinMax (init 1 2 0) commitTwice :=
  ⟨rfl, (thread_limits_iff (by decide) 0 _).2.mpr (by decide)⟩

/-- Two calls of `commit` test the limit before one of them has counted its thread. -/
theorem commits_exceed_max :
    (run step (init 1 2 0) [.commit, .commit, .test_max, .test_max, .createThread, .createThread, .spawn, .spawn]).map
      (fun s => (s.live, s.max_thread_num)) = some (3, 2) := rfl

end ThreadPool

end hub.hpp
