import Hub.Base.TimerCluster

namespace hub.timercluster

/-- A one-shot `timerfd`. Times are nanoseconds. -/
structure TimerFd where
  /-- When it will fire. -/
  armed : Option Int
  /-- It has fired since it was last set or read. -/
  unread : Bool
  /-- When it was last set. -/
  setAt : Int

/-- `timerfd_settime` with the relative time `it_value`, its seconds and nanoseconds. It also
forgets an expiration that was not read. -/
def TimerFd.timerfd_settime (now : Int) (it_value : Int × Int) : TimerFd where
  armed := if it_value = (0, 0) then none else some (now + it_value.1 * 1000000000 + it_value.2)
  unread := false
  setAt := now

/-- The relative timeout that `timerfd_set_next_timeout` computes. -/
def relative_timeout (now expire_time : Timespec) : Int × Int :=
  let tv_sec := expire_time.tv_sec - now.tv_sec
  let tv_nsec := expire_time.tv_nsec - now.tv_nsec
  if tv_nsec < 0 then (tv_sec - 1, tv_nsec + 1000000000) else (tv_sec, tv_nsec)

/-- The value that `timerfd_set_next_timeout` passes to `timerfd_settime`. -/
def next_timeout {κ υ : Type} (c : Cluster κ υ) (now : Timespec) : Option (Int × Int) :=
  match c.heap.root with
  | none => some (0, 0)
  | some root =>
    (c.timers.lookup root).map fun top =>
      if ¬ time_less_than now top.expire_time then (0, 1) else relative_timeout now top.expire_time

/-- Where `timercluster_v2_thread_func` stands. -/
inductive ThreadStage where
  /-- It is about to block in `epoll_wait`, or blocked there. -/
  | polling
  /-- It goes through the events: `timer` and `event` say which descriptors are still to be
  read. -/
  | acking (timer event : Bool)
  | checking
  | processing
  | setting
  | ended
deriving DecidableEq

/-- `timercluster_v2_t`. The eventfd is its counter, and `clock` is the monotonic clock. -/
structure ClusterV2 (κ υ : Type) where
  cluster : Cluster κ υ
  timer_fd : TimerFd
  event_fd : Nat
  clock : Timespec
  /-- An operation holds the lock: it has changed the timers and is about to raise the
  eventfd. -/
  raising : Bool
  thread : ThreadStage

inductive Operation (κ υ : Type) where
  | timer_add (id : UInt32) (type : TimerType) (interval : UInt32) (cb : Option κ) (userdata : υ)
      (calloc : Calloc TimerRef (TimerNode κ υ))
  | timer_del (id : UInt32)
  | timer_reset (id : UInt32) (new_interval : UInt32)

/-- Up to the eventfd, the critical sections of `timercluster_v2_t` are those of
`timercluster_t`. -/
def Operation.critical {κ υ : Type} (now : Timespec) : Operation κ υ → Event κ υ
  | .timer_add id type interval cb userdata calloc => .timer_add id type interval cb userdata calloc now
  | .timer_del id => .timer_del id
  | .timer_reset id new_interval => .timer_reset id new_interval now

/-- An operation that has changed the timers calls `timercluster_v2_wakeup`. -/
def Outcome.raises {κ υ : Type} : Outcome κ υ → Bool
  | .adds _ => true
  | .returns ok => ok
  | .waits | .ends | .fires _ => false

inductive EventV2 (κ υ : Type) where
  /-- An operation gets the lock. It unlocks it again unless it has changed the timers. -/
  | operation (op : Operation κ υ)
  | raise
  /-- The first critical section of `timercluster_v2_destroy`. -/
  | destroy
  | wakeup
  | tick (now : Timespec)
  | expire
  /-- `epoll_wait` returns with the given descriptors. -/
  | epoll_wait (timer event : Bool)
  | read_timer
  | clear_event
  | check
  /-- A critical section of the loop over the expired timers. `later` is read when a cyclic
  timer starts again. -/
  | process (later : Timespec)
  | set_next_timeout

namespace ClusterV2

variable {κ υ : Type}

def init (clock : Timespec) : ClusterV2 κ υ where
  cluster := .timercluster_init
  timer_fd := ⟨none, false, 0⟩
  event_fd := 0
  clock := clock
  raising := false
  thread := .polling

def acking (timer event : Bool) : ThreadStage := if timer ∨ event then .acking timer event else .checking

/-- One event. There is no next state for an event that cannot happen: the lock is taken,
the thread is elsewhere, a descriptor is not ready, or the clock would go back. -/
def step (s : ClusterV2 κ υ) : EventV2 κ υ → Option (ClusterV2 κ υ)
  | .operation op =>
    if s.raising then none
    else (s.cluster.step (op.critical s.clock)).map fun (cluster, outcome) =>
      { s with cluster := cluster, raising := outcome.raises }
  | .raise => if s.raising then some { s with event_fd := s.event_fd + 1, raising := false } else none
  | .destroy => if s.raising then none else some { s with cluster := { s.cluster with running := false } }
  | .wakeup => if s.cluster.running then none else some { s with event_fd := s.event_fd + 1 }
  | .tick now => if s.clock.nanoseconds ≤ now.nanoseconds then some { s with clock := now } else none
  | .expire =>
    match s.timer_fd.armed with
    | some time =>
      if time ≤ s.clock.nanoseconds then some { s with timer_fd := { s.timer_fd with armed := none, unread := true } }
      else none
    | none => none
  | .epoll_wait timer event =>
    if s.thread = .polling ∧ (timer ∨ event) ∧ (timer → s.timer_fd.unread) ∧ (event → 0 < s.event_fd) then
      some { s with thread := .acking timer event }
    else none
  | .read_timer =>
    match s.thread with
    | .acking true event =>
        some { s with timer_fd := { s.timer_fd with unread := false }, thread := acking false event }
    | _ => none
  | .clear_event =>
    match s.thread with
    | .acking timer true => some { s with event_fd := 0, thread := acking timer false }
    | _ => none
  | .check =>
    if s.thread = .checking ∧ s.raising = false then
      some { s with thread := if s.cluster.running then .processing else .ended }
    else none
  | .process later =>
    if s.thread = .processing ∧ s.raising = false ∧ s.clock.nanoseconds ≤ later.nanoseconds then
      (s.cluster.step (.thread_turn s.clock later)).map fun (cluster, outcome) =>
        { s with
          cluster := cluster
          clock := later
          thread := match outcome with
            | .fires _ => .processing
            | _ => .setting }
    else none
  | .set_next_timeout =>
    if s.thread = .setting ∧ s.raising = false then
      if s.cluster.running then
        (next_timeout s.cluster s.clock).map fun it_value =>
          { s with timer_fd := .timerfd_settime s.clock.nanoseconds it_value, thread := .polling }
      else some { s with thread := .polling }
    else none

end ClusterV2

end hub.timercluster
