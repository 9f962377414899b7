import Hub.Base.DsaHeap
import Hub.Lib.Calloc

namespace hub.timercluster

@[ext] structure Timespec where
  tv_sec : Int
  tv_nsec : Int
  normalized : 0 ≤ tv_nsec ∧ tv_nsec < 1000000000

def Timespec.nanoseconds (t : Timespec) : Int := t.tv_sec * 1000000000 + t.tv_nsec

def time_less_than (a b : Timespec) : Bool :=
  decide (a.tv_sec < b.tv_sec) || (decide (a.tv_sec = b.tv_sec) && decide (a.tv_nsec < b.tv_nsec))

/-- `util_time_mono_after` at a clock reading `now`. -/
def util_time_mono_after (now : Timespec) (ms : UInt32) : Timespec :=
  let tv_sec := now.tv_sec + (ms.toNat / 1000 : Nat)
  let tv_nsec := now.tv_nsec + (ms.toNat % 1000 * 1000000 : Nat)
  if h : tv_nsec ≥ 1000000000 then
    { tv_sec := tv_sec + 1
      tv_nsec := tv_nsec - 1000000000
      normalized := by
        have := now.normalized
        omega }
  else
    { tv_sec := tv_sec
      tv_nsec := tv_nsec
      normalized := by
        have := now.normalized
        omega }

inductive TimerType where
  | SINGLE
  | CYCLE
deriving DecidableEq

/-- `timernode_t` without its links. `κ` are the callbacks and `υ` the user data. -/
structure TimerNode (κ υ : Type) where
  timer_id : UInt32
  timer_type : TimerType
  timer_interval : UInt32
  expire_time : Timespec
  callback : Option κ
  userdata : υ

inductive TimerRef where

abbrev TimerPtr : Type := Ptr TimerRef

/-- `timercluster_t` with the allocated timer nodes. `dsa/rbtree` is a map from timer ids to
nodes. -/
structure Cluster (κ υ : Type) where
  heap : dsa.Heap TimerPtr
  rb : UnorderedMap UInt32 TimerPtr
  running : Bool
  timers : Memory TimerRef (TimerNode κ υ)

inductive Outcome (κ υ : Type) where
  /-- `timercluster_timer_add` returns `true`. -/
  | adds (id : UInt32)
  | returns (ok : Bool)
  | waits
  | ends
  /-- The thread unlocks the cluster and calls the callback of the timer. -/
  | fires (top : TimerNode κ υ)

/-- The critical sections, with the clock readings that they take. -/
inductive Event (κ υ : Type) where
  | timer_add (id : UInt32) (type : TimerType) (interval : UInt32) (cb : Option κ) (userdata : υ)
      (calloc : Calloc TimerRef (TimerNode κ υ)) (now : Timespec)
  | timer_del (id : UInt32)
  | timer_reset (id : UInt32) (new_interval : UInt32) (now : Timespec)
  /-- One turn of the loop of the thread: `now` is compared with the expiry, `later` is read
  when a cyclic timer starts again. -/
  | thread_turn (now later : Timespec)
  /-- The first critical section of `timercluster_destroy`. -/
  | destroy

variable {κ υ : Type}

/-- `compare_timer`, which has no result for a node that is not allocated. -/
def compare_timer (timers : Memory TimerRef (TimerNode κ υ)) (a b : TimerPtr) : Option Bool :=
  (timers.lookup a).bind fun ta =>
    (timers.lookup b).map fun tb =>
      decide (ta.expire_time.tv_sec < tb.expire_time.tv_sec) ||
        (decide (ta.expire_time.tv_sec = tb.expire_time.tv_sec) &&
          decide (ta.expire_time.tv_nsec < tb.expire_time.tv_nsec))

/-- `rbtree_insert`, which fails when the id is taken. -/
def rbtree_insert (rb : UnorderedMap UInt32 TimerPtr) (id : UInt32) (entry : TimerPtr) :
    Option (UnorderedMap UInt32 TimerPtr) :=
  if (rb.lookup id).isSome then none else some (AList.insert id entry rb)

namespace Cluster

def timercluster_init : Cluster κ υ where
  heap := .heap_init
  rb := ∅
  running := true
  timers := ∅

variable (c : Cluster κ υ)

def timercluster_timer_add (id : UInt32) (type : TimerType) (interval : UInt32) (cb : Option κ)
    (userdata : υ) (calloc : Calloc TimerRef (TimerNode κ υ)) (now : Timespec) :
    Option (Cluster κ υ × Outcome κ υ) :=
  if ¬ c.running then some (c, .returns false)
  else
    match c.rb.lookup id with
    | some _ => some (c, .returns false)
    | none =>
      if calloc.fails then some (c, .returns false)
      else
        let tnode := calloc.pick c.timers
        let timers := AList.insert tnode
          { timer_id := id
            timer_type := type
            timer_interval := interval
            expire_time := util_time_mono_after now interval
            callback := cb
            userdata := userdata } c.timers
        -- `calloc` clears the links of the node
        let heap := ((c.heap.setParent tnode none).setLeft tnode none).setRight tnode none
        match rbtree_insert c.rb id tnode with
        | none => (Memory.free timers tnode).map fun timers => ({ c with timers := timers }, .returns false)
        | some rb =>
          (heap.heap_insert (compare_timer timers) tnode).map fun heap =>
            ({ c with heap := heap, rb := rb, timers := timers }, .adds id)

def timercluster_timer_del (id : UInt32) : Option (Cluster κ υ × Outcome κ υ) :=
  if ¬ c.running then some (c, .returns false)
  else
    match c.rb.lookup id with
    | none => some (c, .returns false)
    | some tnode =>
      (c.timers.lookup tnode).bind fun node =>
        (c.heap.heap_remove (compare_timer c.timers) (some tnode)).bind fun heap =>
          (Memory.free c.timers tnode).map fun timers =>
            ({ c with heap := heap, rb := c.rb.erase node.timer_id, timers := timers }, .returns true)

/-- The key of the node changes before it is removed from the heap. -/
def timercluster_timer_reset (id new_interval : UInt32) (now : Timespec) :
    Option (Cluster κ υ × Outcome κ υ) :=
  if ¬ c.running then some (c, .returns false)
  else
    match c.rb.lookup id with
    | none => some (c, .returns false)
    | some tnode =>
      (c.timers.lookup tnode).bind fun node =>
        let timers := AList.insert tnode
          { node with timer_interval := new_interval, expire_time := util_time_mono_after now new_interval } c.timers
        (c.heap.heap_remove (compare_timer timers) (some tnode)).bind fun heap =>
          (heap.heap_insert (compare_timer timers) tnode).map fun heap =>
            ({ c with heap := heap, timers := timers }, .returns true)

def timercluster_thread_turn (now later : Timespec) : Option (Cluster κ υ × Outcome κ υ) :=
  if ¬ c.running then some (c, .ends)
  else
    match c.heap.root with
    | none => some (c, .waits)
    | some root =>
      (c.timers.lookup root).bind fun top =>
        if time_less_than now top.expire_time then some (c, .waits)
        else
          (c.heap.heap_dequeue (compare_timer c.timers)).bind fun heap =>
            match top.timer_type with
            | .CYCLE =>
              let timers := AList.insert root
                { top with expire_time := util_time_mono_after later top.timer_interval } c.timers
              (heap.heap_insert (compare_timer timers) root).map fun heap =>
                ({ c with heap := heap, timers := timers }, .fires top)
            | .SINGLE =>
              (Memory.free c.timers root).map fun timers =>
                ({ c with heap := heap, rb := c.rb.erase top.timer_id, timers := timers }, .fires top)

/-- One critical section. There is no next state where the code has no defined
behaviour. -/
def step : Event κ υ → Option (Cluster κ υ × Outcome κ υ)
  | .timer_add id type interval cb userdata calloc now =>
    c.timercluster_timer_add id type interval cb userdata calloc now
  | .timer_del id => c.timercluster_timer_del id
  | .timer_reset id new_interval now => c.timercluster_timer_reset id new_interval now
  | .thread_turn now later => c.timercluster_thread_turn now later
  | .destroy => some ({ c with running := false }, .returns true)

end Cluster

end hub.timercluster
