import Hub.Base.ThreadQueue

namespace hub.threadqueue

/-- `threadunboundedqueue_node_t` without its links. -/
structure UnboundedNode where
  len : Nat
  data : List UInt8
deriving DecidableEq

inductive NodeRef where

abbrev NodePtr : Type := Ptr NodeRef

/-- The nodes that were allocated and not freed. -/
abbrev UnboundedNodes : Type := Memory NodeRef UnboundedNode

abbrev NodeCalloc : Type := Calloc NodeRef UnboundedNode

/-- `threadunboundedqueue_t` with the nodes of the process. -/
structure UnboundedQueue where
  is_run : Bool
  queue : List NodePtr
  size : Nat
  nodes : UnboundedNodes

/-- One critical section of a call. `push` allocates its node before it locks the mutex. -/
inductive UnboundedSection where
  | push (data : List UInt8) (calloc : NodeCalloc)
  | pop_block (buffer : PopBuffer) (timeout : UInt32) (wait : Option Int)
  | pop_nonblock (buffer : PopBuffer)
  | stop

namespace UnboundedQueue

def threadunboundedqueue_create : UnboundedQueue where
  is_run := true
  queue := []
  size := 0
  nodes := ∅

variable (q : UnboundedQueue)

/-- A push that finds the queue stopped returns without freeing its node. -/
def threadunboundedqueue_push (data : List UInt8) (calloc : NodeCalloc) :
    Option (UnboundedQueue × Outcome) :=
  if data.length = 0 then some (q, .returns .ERR_ARG)
  else if calloc.fails then some (q, .returns .ERR_MEM)
  else
    let node := calloc.pick q.nodes
    (memcpy (List.replicate data.length 0) data data.length).map fun contents =>
      let nodes := AList.insert node { len := data.length, data := contents } q.nodes
      if ¬ q.is_run then ({ q with nodes := nodes }, .returns .ERR_STOP)
      else ({ q with queue := q.queue ++ [node], size := q.size + 1, nodes := nodes }, .returns .SUCCESS)

/-- The common end of the two functions that pop. There is no result for an empty list: the
code would read through `NULL`. -/
def pop (buffer : PopBuffer) : Option (UnboundedQueue × Outcome) :=
  match q.queue with
  | [] => none
  | first :: rest =>
    (q.nodes.lookup first).bind fun node =>
      if node.len > buffer.len then some (q, .returns .ERR_LEN)
      else
        (memcpy buffer.data node.data node.len).bind fun data =>
          (Memory.free q.nodes first).map fun nodes =>
            ({ q with queue := rest, size := q.size - 1, nodes := nodes }, .pops data node.len)

def threadunboundedqueue_pop_block (buffer : PopBuffer) (timeout : UInt32) (wait : Option Int) :
    Option (UnboundedQueue × Outcome) :=
  match waitError timeout wait with
  | some ret => some (q, .returns ret)
  | none =>
    if q.is_run ∧ q.size = 0 then some (q, .waits)
    else if ¬ q.is_run then some (q, .returns .ERR_STOP)
    else q.pop buffer

def threadunboundedqueue_pop_nonblock (buffer : PopBuffer) : Option (UnboundedQueue × Outcome) :=
  if ¬ q.is_run then some (q, .returns .ERR_STOP)
  else if q.size = 0 then some (q, .returns .ERR_NO_MSG)
  else q.pop buffer

def threadunboundedqueue_stop : UnboundedQueue × Outcome :=
  if ¬ q.is_run then (q, .stops false) else ({ q with is_run := false }, .stops true)

/-- The loop of `threadunboundedqueue_uninit`, which writes to each node before it frees it. -/
def freeAll : List NodePtr → UnboundedNodes → Option UnboundedNodes
  | [], nodes => some nodes
  | first :: rest, nodes =>
    (nodes.lookup first).bind fun node =>
      (Memory.free (AList.insert first { node with len := 0 } nodes) first).bind (freeAll rest)

/-- The nodes that are still allocated after `threadunboundedqueue_uninit`. -/
def threadunboundedqueue_uninit : Option UnboundedNodes := freeAll q.queue q.nodes

/-- One critical section. There is no next state where the code has no defined
behaviour. -/
def step : UnboundedSection → Option (UnboundedQueue × Outcome)
  | .push data calloc => q.threadunboundedqueue_push data calloc
  | .pop_block buffer timeout wait => q.threadunboundedqueue_pop_block buffer timeout wait
  | .pop_nonblock buffer => q.threadunboundedqueue_pop_nonblock buffer
  | .stop => some q.threadunboundedqueue_stop

def after (s : UnboundedSection) : Option UnboundedQueue := (q.step s).map Prod.fst

end UnboundedQueue

end hub.threadqueue
