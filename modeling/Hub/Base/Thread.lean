import Hub.Lib.Inevitable
import Hub.Lib.Words
import Mathlib.Tactic.Common

namespace hub.thread

inductive Status where
  | STOP
  | RUNNING
  | PAUSE
deriving DecidableEq

inductive SleepPolicy where
  | YIELD
  | SLEEP_FOR
  | SLEEP_UNTIL
  | NO_SLEEP
deriving DecidableEq

inductive WorkerStage where
  | absent
  | preparing
  | changing (stat : Status)
  | storing (stat : Status)
  | testing
  /-- It tests the condition of the inner loop. -/
  | pausing
  | tasking
  | sleeping
  | finishing
  | ended
deriving DecidableEq

def WorkerStage.Early : WorkerStage → Prop
  | preparing => True
  | changing stat | storing stat => stat ≠ .STOP
  | _ => False

def WorkerStage.Runs : WorkerStage → Prop
  | testing | pausing | tasking | sleeping => True
  | _ => False

/-- How many steps the worker takes at most to its end once it is stopped. -/
def WorkerStage.rank : WorkerStage → Nat
  | absent | ended => 0
  | finishing => 1
  | storing _ => 2
  | changing _ => 3
  | testing => 4
  | sleeping => 5
  | tasking => 6
  | pausing => 7
  | preparing => 0

inductive ControllerStage where
  | idle
  | changing (stat : Status)
  | storing (stat : Status)
  | joining
deriving DecidableEq

structure Thread where
  status : Status
  status_changed : Bool
  dotask_cnt : Nat
  sleep_policy : SleepPolicy
  worker : WorkerStage
  controller : ControllerStage

inductive ThreadEvent where
  -- the controlling thread calls
  | start
  | pause
  | resume
  | stop
  | control
  /-- The next step of the worker, with the result of `doPrepare`. -/
  | work (prepared : Bool)

namespace Thread

/-- The constructor, for an object whose policy was set before it is used. -/
def init (sleep_policy : SleepPolicy) : Thread where
  status := .STOP
  status_changed := false
  dotask_cnt := 0
  sleep_policy := sleep_policy
  worker := .absent
  controller := .idle

variable (s : Thread)

/-- A step of `setStatus` or of the end of `stop`. `join` returns when the worker has ended. -/
def control : Option Thread :=
  match s.controller with
  | .idle => none
  | .changing stat => some { s with status_changed := true, controller := .storing stat }
  | .storing stat => some { s with status := stat, controller := if stat = .STOP then .joining else .idle }
  | .joining =>
    match s.worker with
    -- The thread is not joinable.
    | .absent => some { s with controller := .idle }
    | .ended => some { s with worker := .absent, controller := .idle }
    | _ => none

def work (prepared : Bool) : Option Thread :=
  match s.worker with
  | .absent | .ended => none
  | .preparing => some { s with worker := if prepared then .changing .RUNNING else .ended }
  | .changing stat => some { s with status_changed := true, worker := .storing stat }
  | .storing stat => some { s with status := stat, worker := if stat = .STOP then .finishing else .testing }
  | .testing => some { s with worker := if s.status ≠ .STOP then .pausing else .changing .STOP }
  | .pausing => some { s with worker := if s.status = .PAUSE then .pausing else .tasking }
  | .tasking => some { s with dotask_cnt := (s.dotask_cnt + 1) % range64, worker := .sleeping }
  | .sleeping =>
    some { s with
      status_changed := if s.sleep_policy = .SLEEP_UNTIL then false else s.status_changed
      worker := .testing }
  | .finishing => some { s with worker := .ended }

def step : ThreadEvent → Option Thread
  | .start =>
    if s.controller = .idle ∧ s.worker = .absent then
      some { s with worker := if s.status = .STOP then .preparing else .absent }
    else none
  | .pause =>
    if s.controller = .idle then
      some { s with controller := if s.status = .RUNNING then .changing .PAUSE else .idle }
    else none
  | .resume =>
    if s.controller = .idle then
      some { s with controller := if s.status = .PAUSE then .changing .RUNNING else .idle }
    else none
  | .stop =>
    if s.controller = .idle then
      some { s with controller := if s.status ≠ .STOP then .changing .STOP else .joining }
    else none
  | .control => s.control
  | .work prepared => s.work prepared

def Returned : Prop := s.controller = .idle

/-- Every run of the worker ends the wait in `join`. Each of its steps is taken, so
`doPrepare`, `doTask` and `doFinish` return. -/
def Ends : Prop := Inevitable step (fun _ => False) (fun _ => True) Returned s

/-- `stop` returns: its stores never wait, and its `join` ends. -/
structure Stops (s : Thread) : Prop where
  stores : s.controller ≠ .idle → s.controller ≠ .joining → (s.step .control).isSome
  joins : s.controller = .joining → s.Ends

/-- `stop` does not read the status between `start` and the store of `RUNNING`. -/
def StopsRunning : ThreadEvent → Prop
  | .stop => s.controller = .idle → ¬ s.worker.Early
  | _ => True

/-- Until the worker has stored `RUNNING`, the status is that of a stopped thread, and the
controlling thread has not seen another one. -/
def Unseen : Prop :=
  s.worker.Early → s.status = .STOP ∧ (s.controller = .idle ∨ s.controller = .joining)

variable {s} {next : Thread} {prepared : Bool}

/-- All that a step of the worker can do. -/
inductive Works (s : Thread) (prepared : Bool) : Thread → Prop where
  | prepares (hstage : s.worker = .preparing) :
    Works s prepared { s with worker := if prepared then .changing .RUNNING else .ended }
  | changes {stat : Status} (hstage : s.worker = .changing stat) :
    Works s prepared { s with status_changed := true, worker := .storing stat }
  | stores {stat : Status} (hstage : s.worker = .storing stat) :
    Works s prepared { s with status := stat, worker := if stat = .STOP then .finishing else .testing }
  | goesOn (hstage : s.worker = .testing) (hstatus : s.status ≠ .STOP) : Works s prepared { s with worker := .pausing }
  | leaves (hstage : s.worker = .testing) (hstatus : s.status = .STOP) :
      Works s prepared { s with worker := .changing .STOP }
  | spins (hstage : s.worker = .pausing) (hstatus : s.status = .PAUSE) : Works s prepared { s with worker := .pausing }
  | passes (hstage : s.worker = .pausing) (hstatus : s.status ≠ .PAUSE) : Works s prepared { s with worker := .tasking }
  | tasks (hstage : s.worker = .tasking) :
    Works s prepared { s with dotask_cnt := (s.dotask_cnt + 1) % range64, worker := .sleeping }
  | sleeps {status_changed : Bool} (hstage : s.worker = .sleeping) :
    Works s prepared { s with status_changed := status_changed, worker := .testing }
  | finishes (hstage : s.worker = .finishing) : Works s prepared { s with worker := .ended }

theorem work_works (hstep : s.work prepared = some next) : Works s prepared next := by
  unfold work at hstep
  split at hstep
  · cases hstep
  · cases hstep
  · cases hstep
    exact .prepares ‹_›
  · cases hstep
    exact .changes ‹_›
  · cases hstep
    exact .stores ‹_›
  · cases hstep
    split
    · exact .goesOn ‹_› ‹_›
    · exact .leaves ‹_› (Decidable.not_not.mp ‹_›)
  · cases hstep
    split
    · exact .spins ‹_› ‹_›
    · exact .passes ‹_› ‹_›
  · cases hstep
    exact .tasks ‹_›
  · cases hstep
    exact .sleeps ‹_›
  · cases hstep
    exact .finishes ‹_›

theorem Works.early (h : Works s prepared next) (hearly : next.worker.Early) :
    s.worker.Early ∧ next.status = s.status ∧ next.controller = s.controller := by
  cases h with
  | prepares hstage =>
    rw [hstage]
    exact ⟨trivial, rfl, rfl⟩
  | changes hstage =>
    rw [hstage]
    exact ⟨hearly, rfl, rfl⟩
  | @stores stat hstage => cases stat <;> exact hearly.elim
  | leaves => exact absurd rfl hearly
  | _ => exact hearly.elim

theorem control_cases (hstep : s.control = some next) :
    (∃ stat, s.controller = .changing stat ∧ next = { s with status_changed := true, controller := .storing stat }) ∨
    (∃ stat, s.controller = .storing stat ∧
      next = { s with status := stat, controller := if stat = .STOP then .joining else .idle }) ∨
    (s.controller = .joining ∧ (s.worker = .absent ∨ s.worker = .ended) ∧
      next = { s with worker := .absent, controller := .idle }) := by
  unfold control at hstep
  cases hstage : s.controller with
  | idle => simp [hstage] at hstep
  | changing stat =>
    simp only [hstage, Option.some.injEq] at hstep
    exact .inl ⟨stat, rfl, hstep.symm⟩
  | storing stat =>
    simp only [hstage, Option.some.injEq] at hstep
    exact .inr (.inl ⟨stat, rfl, hstep.symm⟩)
  | joining =>
    cases hworker : s.worker with
    | absent =>
      simp only [hstage, hworker, Option.some.injEq] at hstep
      exact .inr (.inr ⟨rfl, .inl rfl, hstep.symm⟩)
    | ended =>
      simp only [hstage, hworker, Option.some.injEq] at hstep
      exact .inr (.inr ⟨rfl, .inr rfl, hstep.symm⟩)
    | _ => simp [hstage, hworker] at hstep

variable {event : ThreadEvent}

theorem Unseen.step (h : Unseen s) (hstep : s.step event = some next) : Unseen next := by
  intro hearly
  cases event with
  | start =>
    obtain ⟨⟨hidle, hworker⟩, hnext⟩ := Option.ite_none_right_eq_some.mp hstep
    cases hnext
    dsimp only at hearly ⊢
    split at hearly
    · rename_i hstatus
      exact ⟨hstatus, .inl hidle⟩
    · exact hearly.elim
  | pause | resume | stop =>
    obtain ⟨hidle, hnext⟩ := Option.ite_none_right_eq_some.mp hstep
    cases hnext
    obtain ⟨hstatus, -⟩ := h hearly
    simp [hstatus]
  | control =>
    obtain ⟨stat, hstage, rfl⟩ | ⟨stat, hstage, rfl⟩ | ⟨_, _, rfl⟩ := control_cases hstep
    · obtain ⟨_, hidle | hjoining⟩ := h hearly
      · cases hstage.symm.trans hidle
      · cases hstage.symm.trans hjoining
    · obtain ⟨_, hidle | hjoining⟩ := h hearly
      · cases hstage.symm.trans hidle
      · cases hstage.symm.trans hjoining
    · exact hearly.elim
  | work prepared =>
    obtain ⟨hbefore, hstatus, hcontroller⟩ := (work_works hstep).early hearly
    rw [hstatus, hcontroller]
    exact h hbefore

/-- `join` waits for a worker that has seen, or will see, that it is stopped. -/
structure Leaving (s : Thread) : Prop where
  joining : s.controller = .joining
  stopped : s.status = .STOP
  late : ¬ s.worker.Early

theorem work_isSome (hworker : s.worker ≠ .absent) (hended : s.worker ≠ .ended) : (s.work true).isSome := by
  unfold work
  cases hstage : s.worker with
  | absent => exact absurd hstage hworker
  | ended => exact absurd hstage hended
  | _ => rfl

theorem Leaving.enabled (h : Leaving s) : ∃ event, True ∧ (s.step event).isSome := by
  by_cases hdone : s.worker = .absent ∨ s.worker = .ended
  · refine ⟨.control, trivial, ?_⟩
    obtain hworker | hworker := hdone <;> simp [step, control, h.joining, hworker]
  · rw [not_or] at hdone
    exact ⟨.work true, trivial, work_isSome hdone.1 hdone.2⟩

theorem Leaving.work (h : Leaving s) (hworks : Works s prepared next) :
    Leaving next ∧ next.worker.rank < s.worker.rank := by
  obtain ⟨hjoining, hstopped, hlate⟩ := h
  cases hworks with
  | prepares hstage => exact absurd (by rw [hstage]; trivial) hlate
  | changes hstage =>
    rw [hstage] at hlate ⊢
    exact ⟨⟨hjoining, hstopped, hlate⟩, Nat.lt_succ_self 2⟩
  | stores hstage =>
    rw [hstage] at hlate ⊢
    cases Decidable.not_not.mp hlate
    exact ⟨⟨hjoining, rfl, id⟩, Nat.lt_succ_self 1⟩
  | goesOn _ hstatus => exact absurd hstopped hstatus
  | spins _ hstatus => cases hstopped.symm.trans hstatus
  | leaves hstage =>
    rw [hstage]
    exact ⟨⟨hjoining, hstopped, fun hearly => hearly rfl⟩, Nat.lt_succ_self 3⟩
  | passes hstage | tasks hstage | sleeps hstage | finishes hstage =>
    rw [hstage]
    exact ⟨⟨hjoining, hstopped, id⟩, Nat.lt_succ_self _⟩

theorem Leaving.step (h : Leaving s) (hstep : s.step event = some next) :
    Returned next ∨ (Leaving next ∧ next.worker.rank < s.worker.rank) := by
  have hbusy : ¬ s.controller = .idle := by
    rw [h.joining]
    exact ControllerStage.noConfusion
  cases event with
  | start => exact absurd (Option.ite_none_right_eq_some.mp hstep).1.1 hbusy
  | pause | resume | stop => exact absurd (Option.ite_none_right_eq_some.mp hstep).1 hbusy
  | control =>
    obtain ⟨_, hstage, _⟩ | ⟨_, hstage, _⟩ | ⟨_, _, rfl⟩ := control_cases hstep
    · cases h.joining.symm.trans hstage
    · cases h.joining.symm.trans hstage
    · exact .inl rfl
  | work prepared => exact .inr (h.work (work_works hstep))

theorem Leaving.ends (h : Leaving s) : s.Ends := by
  refine Inevitable.of_rank Leaving (fun s => s.worker.rank) ?_ (fun s h => h.enabled) ?_ h
  · intro s event next _ hnone _
    exact hnone.elim
  · intro s event next h _ hstep
    exact h.step hstep

/-- `join` waits for a worker that has not been told to stop. -/
structure Lost (s : Thread) : Prop where
  joining : s.controller = .joining
  unaware : s.worker.Early ∨ (s.status ≠ .STOP ∧ s.worker.Runs)

theorem Lost.work (h : Lost s) (hworks : Works s true next) : Lost next := by
  obtain ⟨hjoining, hunaware⟩ := h
  cases hworks with
  | prepares hstage => exact ⟨hjoining, .inl Status.noConfusion⟩
  | changes hstage =>
    rw [hstage] at hunaware
    obtain hearly | ⟨_, hruns⟩ := hunaware
    · exact ⟨hjoining, .inl hearly⟩
    · exact hruns.elim
  | stores hstage =>
    rw [hstage] at hunaware
    obtain hearly | ⟨_, hruns⟩ := hunaware
    · refine ⟨hjoining, .inr ⟨hearly, ?_⟩⟩
      rw [if_neg hearly]
      trivial
    · exact hruns.elim
  | leaves hstage hstatus =>
    rw [hstage] at hunaware
    obtain hearly | ⟨hne, _⟩ := hunaware
    · exact hearly.elim
    · exact absurd hstatus hne
  | finishes hstage =>
    rw [hstage] at hunaware
    obtain hearly | ⟨_, hruns⟩ := hunaware
    · exact hearly.elim
    · exact hruns.elim
  | goesOn hstage | spins hstage | passes hstage | tasks hstage | sleeps hstage =>
    rw [hstage] at hunaware
    obtain hearly | ⟨hne, _⟩ := hunaware
    · exact hearly.elim
    · exact ⟨hjoining, .inr ⟨hne, trivial⟩⟩

theorem Lost.not_ends (h : Lost s) : ¬ s.Ends := by
  refine Inevitable.not_of_trap Lost (fun s h hreturned => ?_) (fun s h => ?_) h
  · cases h.joining.symm.trans hreturned
  · have hactive : s.worker ≠ .absent ∧ s.worker ≠ .ended := by
      constructor
      all_goals
        intro hstage
        have hunaware := h.unaware
        rw [hstage] at hunaware
        obtain hearly | ⟨_, hruns⟩ := hunaware
        · exact hearly
        · exact hruns
    obtain ⟨next, hstep⟩ := Option.isSome_iff_exists.mp (work_isSome hactive.1 hactive.2)
    exact ⟨.work true, next, id, hstep, h.work (work_works hstep)⟩

theorem stops_iff : Stops s ↔ (s.controller = .joining → s.Ends) := by
  refine ⟨fun h => h.joins, fun h => ⟨fun hidle hjoining => ?_, h⟩⟩
  rw [step, control]
  cases hstage : s.controller with
  | idle => exact absurd hstage hidle
  | joining => exact absurd hstage hjoining
  | changing | storing => rfl

theorem Stops.step (h : Stops s) (hunseen : Unseen s) (hstep : s.step event = some next) (hevent : event ≠ .stop) :
    Stops next := by
  refine stops_iff.mpr fun hjoining => ?_
  by_cases hbefore : s.controller = .joining
  · refine (h.joins hbefore).of_system (fun hreturned => ?_) id hstep
    cases hbefore.symm.trans hreturned
  · cases event with
    | stop => exact absurd rfl hevent
    | start =>
      obtain ⟨⟨hidle, _⟩, hnext⟩ := Option.ite_none_right_eq_some.mp hstep
      cases hnext
      exact absurd hjoining hbefore
    | pause | resume =>
      obtain ⟨_, hnext⟩ := Option.ite_none_right_eq_some.mp hstep
      cases hnext
      split at hjoining <;> cases hjoining
    | control =>
      obtain ⟨_, _, rfl⟩ | ⟨stat, hstage, rfl⟩ | ⟨_, _, rfl⟩ := control_cases hstep
      · cases hjoining
      · -- The worker is past its store of `RUNNING` when `stop` has stored `STOP`.
        have hstop : stat = .STOP := by
          by_contra hne
          dsimp only at hjoining
          rw [if_neg hne] at hjoining
          cases hjoining
        refine Leaving.ends ⟨hjoining, hstop, fun hearly => ?_⟩
        obtain ⟨_, hidle | hjoining⟩ := hunseen hearly
        · cases hstage.symm.trans hidle
        · cases hstage.symm.trans hjoining
      · cases hjoining
    | work prepared =>
      refine absurd ?_ hbefore
      cases work_works hstep <;> exact hjoining

theorem stop_stops_iff (hunseen : Unseen s) (hstep : s.step .stop = some next) : Stops next ↔ ¬ s.worker.Early := by
  obtain ⟨hidle, hnext⟩ := Option.ite_none_right_eq_some.mp hstep
  cases hnext
  rw [stops_iff]
  constructor
  · intro hends hearly
    obtain ⟨hstatus, _⟩ := hunseen hearly
    have hjoining : (if s.status ≠ .STOP then ControllerStage.changing .STOP else .joining) = .joining :=
      if_neg (fun hne => hne hstatus)
    have hlost : Lost { s with controller := if s.status ≠ .STOP then .changing .STOP else .joining } :=
      ⟨hjoining, .inl hearly⟩
    exact hlost.not_ends (hends hjoining)
  · intro hlate hjoining
    refine Leaving.ends ⟨hjoining, ?_, hlate⟩
    by_contra hne
    rw [if_pos hne] at hjoining
    cases hjoining

/-- Every `stop` of a run returns exactly when none of them tests the status between `start`
and the worker's store of `RUNNING`. -/
theorem stop_returns_iff (policy : SleepPolicy) (events : List ThreadEvent) :
    Throughout step Stops (init policy) events ↔ Meets step StopsRunning (init policy) events := by
  apply throughout_iff_meets fun s _ => Unseen s
  · intro s event _ next h hstep
    exact h.step hstep
  · intro s event hstuck
    cases event with
    | stop =>
      intro hidle
      rw [step, if_pos hidle] at hstuck
      cases hstuck
    | _ => trivial
  · intro s event _ next h hstops hstep
    cases event with
    | stop =>
      rw [stop_stops_iff h hstep]
      exact ⟨fun hlate _ => hlate, fun hlate => hlate (Option.ite_none_right_eq_some.mp hstep).1⟩
    | _ => exact iff_of_true (hstops.step h hstep ThreadEvent.noConfusion) trivial
  · exact fun h => h.elim
  · refine stops_iff.mpr fun hjoining => ?_
    cases hjoining

/-- `stop` comes while the worker is in `doPrepare`. It finds `STOP`, and waits for a worker
that then stores `RUNNING` and works for ever. -/
theorem stop_before_running_never_returns :
    ∃ s, run step (init .YIELD) [.start, .stop, .work true, .work true, .work true] = some s ∧
      s.controller = .joining ∧ s.status = .RUNNING ∧ ¬ s.Ends := by
  refine ⟨_, rfl, rfl, rfl, ?_⟩
  apply Lost.not_ends
  exact ⟨rfl, .inr ⟨Status.noConfusion, trivial⟩⟩

end Thread

end hub.thread
