import Hub.Lib.Calloc
import Hub.Lib.Words

namespace hub.threadqueue

/-- `THREADQUEUE_RET_*`. -/
inductive Ret where
  | SUCCESS
  | ERR_ARG
  | ERR_MEM
  | ERR_LEN
  | ERR_NO_MSG
  | ERR_FULL
  | ERR_TIMEOUT
  | ERR_STOP
  | ERR_OTHER
deriving DecidableEq

/-- `memcpy`, which has no defined outcome when it leaves one of the two buffers. -/
def memcpy (dest source : List UInt8) (len : Nat) : Option (List UInt8) :=
  if len ≤ source.length ∧ len ≤ dest.length then some (source.take len ++ dest.drop len) else none

inductive ExternRef where

abbrev Address : Type := Ptr ExternRef

abbrev Externs : Type := Memory ExternRef (List UInt8)

abbrev ExternCalloc : Type := Calloc ExternRef (List UInt8)

/-- `threadboundedqueue_node_t`. -/
structure Node where
  is_extern : Bool
  len : Nat
  p_extern : Option Address
  data : List UInt8
deriving DecidableEq

/-- `threadboundedqueue_t` with the extern buffers of the process. -/
structure Queue where
  is_run : Bool
  nodes : List Node
  node_size : Nat
  capacity : Nat
  count : Nat
  head : Nat
  tail : Nat
  externs : Externs

def SIZE_MAX : Nat := range64 - 1

/-- `sizeof(threadboundedqueue_node_t)`. -/
def nodeHeader : Nat := 24

/-- There is no queue when an allocation fails, or when the size of a node wraps around:
then the loop over the nodes writes behind the allocated memory. -/
def threadboundedqueue_create (node_num node_size : Nat) (allocates : Bool) : Option Queue :=
  let node_total_size := (nodeHeader + node_size) % (SIZE_MAX + 1)
  if allocates ∧ nodeHeader ≤ node_total_size then
    some {
      is_run := true
      nodes := List.replicate node_num
        { is_extern := false, len := 0, p_extern := none, data := List.replicate node_size 0 }
      node_size := node_size
      capacity := node_num
      count := 0
      head := 0
      tail := 0
      externs := ∅ }
  else none

/-- The buffer of a node that is used again is freed. -/
def Node.recycle (node : Node) (externs : Externs) : Option (Node × Externs) :=
  match node.is_extern, node.p_extern with
  | true, some address => (externs.free address).map fun externs =>
      ({ node with p_extern := none, is_extern := false }, externs)
  | _, _ => some (node, externs)

/-- The bytes of a node go to the caller's buffer, and its extern buffer is freed. -/
def Node.unload (node : Node) (externs : Externs) (data : List UInt8) : Option (List UInt8 × Node × Externs) :=
  match node.is_extern, node.p_extern with
  | true, some address =>
    (externs.lookup address).bind fun contents =>
      (memcpy data contents node.len).bind fun data =>
        (externs.free address).map fun externs =>
          (data, { node with p_extern := none, is_extern := false }, externs)
  | _, _ => (memcpy data node.data node.len).map fun data => (data, node, externs)

/-- The buffer and the length that a caller of `pop` passes. The length may not exceed the
buffer. -/
structure PopBuffer where
  data : List UInt8
  len : Nat
  fits : len ≤ data.length

def ETIMEDOUT : Int := 110

/-- One critical section of a call. `wait` is what the wait before it has returned, and
`none` in the first section. -/
inductive Section where
  | push_block (data : List UInt8) (timeout : UInt32) (wait : Option Int) (calloc : ExternCalloc)
  | push_nonblock (data : List UInt8) (calloc : ExternCalloc)
  | pop_block (buffer : PopBuffer) (timeout : UInt32) (wait : Option Int)
  | pop_nonblock (buffer : PopBuffer)
  | stop

/-- How a critical section ends: the call waits, it returns, it returns `SUCCESS` with the
caller's buffer and length, or `stop` returns its flag. -/
inductive Outcome where
  | waits
  | returns (ret : Ret)
  | pops (data : List UInt8) (len : Nat)
  | stops (first : Bool)
deriving DecidableEq

/-- What a failed wait makes of the call. -/
def waitError (timeout : UInt32) (wait : Option Int) : Option Ret :=
  match wait with
  | none => none
  | some ret =>
    if ret = 0 then none
    else if timeout ≠ 0 ∧ ret = ETIMEDOUT then some .ERR_TIMEOUT
    else some .ERR_OTHER

theorem waitError_ne_success {timeout : UInt32} {wait : Option Int} {ret : Ret}
    (hwait : waitError timeout wait = some ret) : ret ≠ .SUCCESS := by
  unfold waitError at hwait
  split at hwait
  · cases hwait
  · split at hwait
    · cases hwait
    · split at hwait
      · cases hwait
        decide
      · cases hwait
        decide

namespace Queue

variable (q : Queue)

/-- The common end of the two functions that push. -/
def push (data : List UInt8) (calloc : ExternCalloc) : Option (Queue × Outcome) :=
  q.nodes[q.head]?.bind fun node =>
    (node.recycle q.externs).bind fun (node, externs) =>
      if data.length > q.node_size then
        if calloc.fails then
          some ({ q with nodes := q.nodes.set q.head { node with p_extern := none }, externs := externs },
            .returns .ERR_MEM)
        else
          (memcpy (List.replicate data.length 0) data data.length).map fun contents =>
            ({ q with
                nodes := q.nodes.set q.head
                  { node with p_extern := some (calloc.pick externs), is_extern := true, len := data.length }
                externs := AList.insert (calloc.pick externs) contents externs
                head := (q.head + 1) % q.capacity
                count := q.count + 1 },
              .returns .SUCCESS)
      else
        (memcpy node.data data data.length).map fun contents =>
          ({ q with
              nodes := q.nodes.set q.head { node with data := contents, len := data.length }
              externs := externs
              head := (q.head + 1) % q.capacity
              count := q.count + 1 },
            .returns .SUCCESS)

def threadboundedqueue_push_block (data : List UInt8) (timeout : UInt32) (wait : Option Int)
    (calloc : ExternCalloc) : Option (Queue × Outcome) :=
  if data.length = 0 then some (q, .returns .ERR_ARG)
  else
    match waitError timeout wait with
    | some ret => some (q, .returns ret)
    | none =>
      if q.is_run ∧ q.count ≥ q.capacity then some (q, .waits)
      else if ¬ q.is_run then some (q, .returns .ERR_STOP)
      else q.push data calloc

def threadboundedqueue_push_nonblock (data : List UInt8) (calloc : ExternCalloc) : Option
    (Queue × Outcome) :=
  if data.length = 0 then some (q, .returns .ERR_ARG)
  else if ¬ q.is_run then some (q, .returns .ERR_STOP)
  else if q.count ≥ q.capacity then some (q, .returns .ERR_FULL)
  else q.push data calloc

/-- The common end of the two functions that pop. -/
def pop (buffer : PopBuffer) : Option (Queue × Outcome) :=
  q.nodes[q.tail]?.bind fun node =>
    if node.len > buffer.len then some (q, .returns .ERR_LEN)
    else
      (node.unload q.externs buffer.data).map fun (data, node, externs) =>
        ({ q with
            nodes := q.nodes.set q.tail { node with len := 0 }
            externs := externs
            tail := (q.tail + 1) % q.capacity
            count := q.count - 1 },
          .pops data node.len)

def threadboundedqueue_pop_block (buffer : PopBuffer) (timeout : UInt32) (wait : Option Int) :
    Option (Queue × Outcome) :=
  match waitError timeout wait with
  | some ret => some (q, .returns ret)
  | none =>
    if q.is_run ∧ q.count = 0 then some (q, .waits)
    else if ¬ q.is_run then some (q, .returns .ERR_STOP)
    else q.pop buffer

def threadboundedqueue_pop_nonblock (buffer : PopBuffer) : Option (Queue × Outcome) :=
  if ¬ q.is_run then some (q, .returns .ERR_STOP)
  else if q.count = 0 then some (q, .returns .ERR_NO_MSG)
  else q.pop buffer

def threadboundedqueue_stop : Queue × Outcome :=
  if ¬ q.is_run then (q, .stops false) else ({ q with is_run := false }, .stops true)

/-- One critical section. There is no next state where the code has no defined
behaviour. -/
def step : Section → Option (Queue × Outcome)
  | .push_block data timeout wait calloc => q.threadboundedqueue_push_block data timeout wait calloc
  | .push_nonblock data calloc => q.threadboundedqueue_push_nonblock data calloc
  | .pop_block buffer timeout wait => q.threadboundedqueue_pop_block buffer timeout wait
  | .pop_nonblock buffer => q.threadboundedqueue_pop_nonblock buffer
  | .stop => some q.threadboundedqueue_stop

end Queue

end hub.threadqueue
