import Hub.Base.TimerClusterInvariant
import Hub.Base.UnboundedQueue
import Hub.Lib.Run

namespace hub.threadqueue

open timercluster (Timespec util_time_mono_after nanoseconds_after)

inductive LoopStage where
  | starting
  | waiting
  | returned (outcome : Outcome)
deriving DecidableEq

/-- A call with a wait loop, and the queue that it shares. `deadlines` are those passed to
`pthread_cond_timedwait`, newest first, and `first` is the time of the first wait. -/
structure WaitLoop (Q : Type) where
  queue : Q
  stage : LoopStage
  clock : Timespec
  first : Option Timespec
  deadlines : List Timespec

/-- `S` are the critical sections of the queue, and `α` what a section of the call depends on
besides the queue. -/
inductive LoopEvent (S α : Type) where
  | other (s : S)
  /-- A critical section of the call, after a wait that has returned `ret` unless it is the
  first one. `now` is what `util_time_mono_after` reads if the call waits. -/
  | turn (choice : α) (ret : Int) (now : Timespec)

namespace WaitLoop

section Loop

variable {Q S α : Type} (step : Q → S → Option (Q × Outcome)) (critical : Option Int → α → S) (timeout : UInt32)

def init (queue : Q) (clock : Timespec) : WaitLoop Q where
  queue := queue
  stage := .starting
  clock := clock
  first := none
  deadlines := []

variable (l : WaitLoop Q)

/-- The end of a critical section of the call. Each timed wait has a deadline of its own. -/
def finish (now : Timespec) : Q × Outcome → WaitLoop Q
  | (queue, .waits) =>
    if timeout = 0 then { l with queue := queue, stage := .waiting, clock := now }
    else
      { queue := queue
        stage := .waiting
        clock := now
        first := l.first.or (some now)
        deadlines := util_time_mono_after now timeout :: l.deadlines }
  | (queue, outcome) => { l with queue := queue, stage := .returned outcome, clock := now }

/-- One event. The clock does not go back, and a call that has returned has no more
sections. -/
def next : LoopEvent S α → Option (WaitLoop Q)
  | .other s => (step l.queue s).map fun result => { l with queue := result.1 }
  | .turn choice ret now =>
    if l.clock.nanoseconds ≤ now.nanoseconds then
      match l.stage with
      | .starting => (step l.queue (critical none choice)).map (l.finish timeout now)
      | .waiting => (step l.queue (critical (some ret) choice)).map (l.finish timeout now)
      | .returned _ => none
    else none

/-- No deadline is later than the time of the first wait plus the timeout. -/
def Bounded : Prop :=
  ∀ first, l.first = some first → ∀ deadline ∈ l.deadlines,
    deadline.nanoseconds ≤ first.nanoseconds + timeout.toNat * 1000000

/-- The call does not begin another wait after its first one, unless no time has passed. -/
def Prompt : LoopEvent S α → Prop
  | .other _ => True
  | .turn choice ret now => ∀ first after, l.first = some first →
      next step critical timeout l (.turn choice ret now) = some after → after.stage = .waiting →
      now.nanoseconds ≤ first.nanoseconds

/-- Only timed waits are recorded, and not before they happen. -/
structure Recorded (l : WaitLoop Q) : Prop where
  timed : ∀ first, l.first = some first → timeout ≠ 0
  past : ∀ first, l.first = some first → first.nanoseconds ≤ l.clock.nanoseconds
  started : l.first = none → l.deadlines = []

variable {step critical timeout} {l} {after : WaitLoop Q} {choice : α} {ret : Int} {now : Timespec}

theorem finish_cases (timeout : UInt32) (l : WaitLoop Q) (now : Timespec) (result : Q × Outcome) :
    (timeout ≠ 0 ∧ (l.finish timeout now result).stage = .waiting ∧
      (l.finish timeout now result).first = l.first.or (some now) ∧
      (l.finish timeout now result).deadlines = util_time_mono_after now timeout :: l.deadlines) ∨
    (((l.finish timeout now result).stage = .waiting → timeout = 0) ∧
      (l.finish timeout now result).first = l.first ∧ (l.finish timeout now result).deadlines = l.deadlines) := by
  obtain ⟨queue, outcome⟩ := result
  cases outcome with
  | waits =>
    by_cases htimeout : timeout = 0
    · rw [finish, if_pos htimeout]
      exact .inr ⟨fun _ => htimeout, rfl, rfl⟩
    · rw [finish, if_neg htimeout]
      exact .inl ⟨htimeout, rfl, rfl, rfl⟩
  | returns | pops | stops =>
    refine .inr ⟨fun hstage => ?_, rfl, rfl⟩
    cases hstage

theorem finish_clock (timeout : UInt32) (l : WaitLoop Q) (now : Timespec) (result : Q × Outcome) :
    (l.finish timeout now result).clock = now := by
  obtain ⟨queue, outcome⟩ := result
  cases outcome with
  | waits =>
    simp only [finish]
    split <;> rfl
  | returns | pops | stops => rfl

theorem next_turn_cases (hnext : next step critical timeout l (.turn choice ret now) = some after) :
    l.clock.nanoseconds ≤ now.nanoseconds ∧ ∃ result, after = l.finish timeout now result := by
  obtain ⟨hclock, hnext⟩ := Option.ite_none_right_eq_some.mp hnext
  refine ⟨hclock, ?_⟩
  split at hnext
  · obtain ⟨result, -, hresult⟩ := Option.map_eq_some_iff.mp hnext
    exact ⟨result, hresult.symm⟩
  · obtain ⟨result, -, hresult⟩ := Option.map_eq_some_iff.mp hnext
    exact ⟨result, hresult.symm⟩
  · cases hnext

theorem next_other_cases {s : S} (hnext : next step critical timeout l (.other s : LoopEvent S α) = some after) :
    ∃ queue, after = { l with queue := queue } := by
  obtain ⟨result, -, hresult⟩ := Option.map_eq_some_iff.mp hnext
  exact ⟨result.1, hresult.symm⟩

theorem Recorded.next {event : LoopEvent S α} (h : Recorded timeout l)
    (hnext : WaitLoop.next step critical timeout l event = some after) : Recorded timeout after := by
  cases event with
  | other s =>
    obtain ⟨queue, rfl⟩ := next_other_cases hnext
    exact ⟨h.timed, h.past, h.started⟩
  | turn choice ret now =>
    obtain ⟨hclock, result, rfl⟩ := next_turn_cases hnext
    have hnow := finish_clock timeout l now result
    obtain ⟨htimeout, -, hfirst, hdeadlines⟩ | ⟨-, hfirst, hdeadlines⟩ := finish_cases timeout l now result
    · refine ⟨fun _ _ => htimeout, fun first hsome => ?_, fun hnone => ?_⟩
      · rw [hnow]
        rw [hfirst] at hsome
        cases hl : l.first with
        | none =>
          rw [hl] at hsome
          cases hsome
          exact Int.le_refl _
        | some start =>
          rw [hl] at hsome
          cases hsome
          exact (h.past first hl).trans hclock
      · rw [hfirst] at hnone
        cases hl : l.first with
        | none | some start =>
          rw [hl] at hnone
          cases hnone
    · refine ⟨fun first hsome => h.timed first (hfirst.symm.trans hsome), fun first hsome => ?_, fun hnone => ?_⟩
      · rw [hnow]
        exact (h.past first (hfirst.symm.trans hsome)).trans hclock
      · rw [hdeadlines]
        exact h.started (hfirst.symm.trans hnone)

theorem bounded_next_iff {event : LoopEvent S α} (h : Recorded timeout l) (hbounded : Bounded timeout l)
    (hnext : WaitLoop.next step critical timeout l event = some after) :
    Bounded timeout after ↔ Prompt step critical timeout l event := by
  cases event with
  | other s =>
    obtain ⟨queue, rfl⟩ := next_other_cases hnext
    exact iff_of_true hbounded trivial
  | turn choice ret now =>
    have hprompt : Prompt step critical timeout l (.turn choice ret now) ↔
        ∀ first, l.first = some first → after.stage = .waiting → now.nanoseconds ≤ first.nanoseconds := by
      constructor
      · exact fun hp first hfirst hwaiting => hp first after hfirst hnext hwaiting
      · intro hp first other hfirst hother hwaiting
        cases hnext.symm.trans hother
        exact hp first hfirst hwaiting
    rw [hprompt]
    obtain ⟨hclock, result, rfl⟩ := next_turn_cases hnext
    obtain ⟨htimeout, hstage, hfirst, hdeadlines⟩ | ⟨hstage, hfirst, hdeadlines⟩ :=
      finish_cases timeout l now result
    · have hlast := nanoseconds_after now timeout
      simp only [Bounded, hfirst, hdeadlines, hstage, List.mem_cons, forall_const, forall_eq_or_imp]
      cases hl : l.first with
      | none =>
        rw [h.started hl]
        refine iff_of_true (fun first hsome => ⟨?_, fun deadline hmem => ?_⟩) fun first hsome => ?_
        · cases hsome
          omega
        · cases hmem
        · cases hsome
      | some start =>
        have hold := hbounded start hl
        simp only [Option.some_or, Option.some.injEq, forall_eq']
        constructor
        · intro hnew
          have := hnew.1
          omega
        · intro hle
          refine ⟨by omega, hold⟩
    · refine iff_of_true ?_ fun first hsome hwaiting => absurd (hstage hwaiting) (h.timed first hsome)
      rw [Bounded, hfirst, hdeadlines]
      exact hbounded

theorem bounded_iff_prompt (step : Q → S → Option (Q × Outcome)) (critical : Option Int → α → S) (timeout : UInt32)
    (queue : Q) (clock : Timespec) (events : List (LoopEvent S α)) :
    Throughout (WaitLoop.next step critical timeout) (Bounded timeout) (WaitLoop.init queue clock) events ↔
      Meets (WaitLoop.next step critical timeout) (Prompt step critical timeout)
        (WaitLoop.init queue clock) events := by
  apply throughout_iff_meets fun l _ => Recorded timeout l
  · exact fun l event _ after h hnext => h.next hnext
  · intro l event hstuck
    cases event with
    | other s => trivial
    | turn choice ret now =>
      intro first after _ hnext
      cases hstuck.symm.trans hnext
  · exact fun l event _ after h hbounded hnext => bounded_next_iff h hbounded hnext
  · refine ⟨fun first hfirst => ?_, fun first hfirst => ?_, fun _ => rfl⟩
    · cases hfirst
    · cases hfirst
  · intro first hfirst
    cases hfirst

end Loop

def pushBlock (data : List UInt8) (timeout : UInt32) (wait : Option Int) (calloc : ExternCalloc) : Section :=
  .push_block data timeout wait calloc

def popBlock (buffer : PopBuffer) (timeout : UInt32) (wait : Option Int) (_ : Unit) : Section :=
  .pop_block buffer timeout wait

def unboundedPopBlock (buffer : PopBuffer) (timeout : UInt32) (wait : Option Int) (_ : Unit) : UnboundedSection :=
  .pop_block buffer timeout wait

/-- The deadlines of a call stay within its timeout exactly when it does not wait again after
time has passed. -/
theorem timed_waits_bounded_iff (timeout : UInt32) (clock : Timespec) :
    (∀ (q : Queue) (data : List UInt8) (events : List (LoopEvent Section ExternCalloc)),
      Throughout (WaitLoop.next Queue.step (pushBlock data timeout) timeout) (Bounded timeout) (init q clock) events ↔
        Meets (WaitLoop.next Queue.step (pushBlock data timeout) timeout)
          (Prompt Queue.step (pushBlock data timeout) timeout) (init q clock) events) ∧
    (∀ (q : Queue) (buffer : PopBuffer) (events : List (LoopEvent Section Unit)),
      Throughout (WaitLoop.next Queue.step (popBlock buffer timeout) timeout) (Bounded timeout) (init q clock) events ↔
        Meets (WaitLoop.next Queue.step (popBlock buffer timeout) timeout)
          (Prompt Queue.step (popBlock buffer timeout) timeout) (init q clock) events) ∧
    ∀ (q : UnboundedQueue) (buffer : PopBuffer) (events : List (LoopEvent UnboundedSection Unit)),
      Throughout (WaitLoop.next UnboundedQueue.step (unboundedPopBlock buffer timeout) timeout) (Bounded timeout)
          (init q clock) events ↔
        Meets (WaitLoop.next UnboundedQueue.step (unboundedPopBlock buffer timeout) timeout)
          (Prompt UnboundedQueue.step (unboundedPopBlock buffer timeout) timeout) (init q clock) events := by
  refine ⟨fun q data events => ?_, fun q buffer events => ?_, fun q buffer events => ?_⟩
  · exact bounded_iff_prompt Queue.step (pushBlock data timeout) timeout q clock events
  · exact bounded_iff_prompt Queue.step (popBlock buffer timeout) timeout q clock events
  · exact bounded_iff_prompt UnboundedQueue.step (unboundedPopBlock buffer timeout) timeout q clock events

def atStart : Timespec := ⟨0, 0, by decide⟩

def halfSecondLater : Timespec := ⟨0, 500000000, by decide⟩

def oneByte : PopBuffer := ⟨[0], 1, Nat.le_refl 1⟩

/-- With a timeout of one second, a call that wakes up without a reason after half a second
waits until one and a half seconds after its first wait. -/
theorem spurious_wakeup_moves_deadline :
    (∃ q l, threadboundedqueue_create 1 1 true = some q ∧
      run (WaitLoop.next Queue.step (pushBlock [7] 1000) 1000) (init q atStart)
        [.other (.push_nonblock [1] (.above false)), .turn (.above false) 0 atStart,
          .turn (.above false) 0 halfSecondLater] = some l ∧
      l.deadlines.map Timespec.nanoseconds = [1500000000, 1000000000]) ∧
    (∃ q l, threadboundedqueue_create 1 1 true = some q ∧
      run (WaitLoop.next Queue.step (popBlock oneByte 1000) 1000) (init q atStart)
        [.turn () 0 atStart, .turn () 0 halfSecondLater] = some l ∧
      l.deadlines.map Timespec.nanoseconds = [1500000000, 1000000000]) ∧
    ∃ l, run (WaitLoop.next UnboundedQueue.step (unboundedPopBlock oneByte 1000) 1000)
        (init UnboundedQueue.threadunboundedqueue_create atStart)
        [.turn () 0 atStart, .turn () 0 halfSecondLater] = some l ∧
      l.deadlines.map Timespec.nanoseconds = [1500000000, 1000000000] :=
  ⟨⟨_, _, rfl, rfl, rfl⟩, ⟨_, _, rfl, rfl, rfl⟩, _, rfl, rfl⟩

end WaitLoop

end hub.threadqueue
