import Hub.Base.SyncContext
import Hub.Lib.Run
import Hub.Lib.UnorderedMap
import Mathlib.Logic.Function.Basic

namespace hub.soa

/-- `st_local_msg_header`. -/
structure MsgHeader where
  client_id : UInt32
  msg_seqid : UInt32
  msg_type : UInt32
  service_id : UInt32
  msg_len : UInt32
deriving DecidableEq

/-- `ipc_hv_soa_sync_context`, with the bytes of `data` by their position. -/
structure SyncMessage where
  header : MsgHeader
  data : Nat → UInt8

instance : Inhabited SyncMessage := ⟨⟨⟨0, 0, 0, 0, 0⟩, fun _ => 0⟩⟩

def memcpy (dest src : Nat → UInt8) (len : Nat) : Nat → UInt8 := fun k => if k < len then src k else dest k

/-- What the caller's pointers for the response and its length point to; `none` is a
null pointer. -/
structure RespBuffer where
  data : Option (Nat → UInt8)
  len : Option UInt32

inductive ContextRef where

/-- The `std::shared_ptr` of a pooled context. -/
abbrev ContextPtr : Type := Ptr ContextRef

/-- The arguments of a synchronous call, as far as it uses them after the request is
encoded. -/
structure SyncArgs where
  client_id : UInt32
  msg_seqid : UInt32
  msg_type : UInt32
  service_id : UInt32
  msg_len : UInt32
  resp : RespBuffer
  timeout_ms : UInt32

def IPC_HV_SOA_RET_SUCCESS : Int := 0
def IPC_HV_SOA_RET_FAIL : Int := -1
def IPC_HV_SOA_RET_TIMEOUT : Int := -8

def E_IPC_HV_SOA_MSG_TYPE_METHOD_RESPONSE_SYNC : UInt32 := 3

def IPC_HV_SOA_COND_STATE_INIT : Int := -1
def IPC_HV_SOA_COND_STATE_SUCCESS : Int := 0
def IPC_HV_SOA_COND_STATE_CONNECTED : Int := 1
def IPC_HV_SOA_COND_STATE_DISCONNECTED : Int := 2

structure Outcome where
  ret : Int
  resp : RespBuffer

inductive Phase where
  | reset
  | fill
  | insert
  | send
  | wait
  | check (wait_result : Int)
  | erase (out : Outcome)
  | undo
  | cancel
  | release (out : Outcome)
  | give (out : Outcome)

inductive Stage where
  | idle
  | borrowing (at_ : Borrowing)
  | holding (ctx : ContextPtr) (phase : Phase)
  | returned (out : Outcome)

/-- A call. `sent` says that its request was written. -/
structure SyncCall where
  args : SyncArgs
  stage : Stage
  sent : Bool

/-- Where the handling of a response frame `φ` stands: before the frame arrives,
before the context is written, before `SetResult`, and after it. A frame for which
nobody waits is dropped. -/
inductive Completion (φ : Type) where
  | idle
  | found (frame : φ) (ctx : ContextPtr)
  | wrote (frame : φ) (ctx : ContextPtr)
  | finished (frame : φ)
  | missed (frame : φ)

/-- What tells `send_msg_to_daemon_sync` with `on_recv_daemon` from
`send_msg_to_process_sync` with `ipc_hv_soa_inn_sync_complete`. -/
structure Protocol (φ : Type) where
  /-- `on_recv_daemon` keeps the entry and holds `pending_requests_mutex` until it has
  set the result; `ipc_hv_soa_inn_sync_complete` erases the entry and then gives the
  mutex up. -/
  daemon : Bool
  msg_seqid : φ → UInt32
  /-- The data of a context before its request is sent. -/
  init : SyncArgs → SyncMessage
  /-- The data after a response was written over it. -/
  write : φ → SyncMessage → SyncMessage
  /-- The caller's buffers after the response was copied. -/
  deliver : SyncMessage → RespBuffer → RespBuffer

/-- The synchronous calls `ι` to one peer and the completions `κ` of its responses.
`lock` is the completion that holds `pending_requests_mutex` between two steps. -/
structure SyncState (ι κ φ : Type) where
  contexts : Heap ContextRef (SyncContext SyncMessage)
  sync_pool : ObjectPool ContextRef
  pending_requests : UnorderedMap UInt32 ContextPtr
  lock : Option κ
  calls : ι → SyncCall
  completions : κ → Completion φ

inductive SyncEvent (ι κ φ : Type) where
  | enter (i : ι) (args : SyncArgs)
  /-- The call returns before it borrows a context: it gets no connection, or its
  request cannot be encoded. -/
  | abandon (i : ι) (ret : Int)
  | advance (i : ι)
  | refuse (i : ι)
  | expire (i : ι)
  | receive (k : κ) (frame : φ)
  | complete (k : κ)
  | clear
  | disconnect

namespace SyncState

variable {ι κ φ : Type}

/-- The pool starts with one context and may have eight. -/
def init : SyncState ι κ φ where
  contexts := Heap.empty.alloc default
  sync_pool := { objects_ := [⟨0⟩], _object_num := 1, _max_num := 8 }
  pending_requests := ∅
  lock := none
  calls := fun _ => ⟨⟨0, 0, 0, 0, 0, ⟨none, none⟩, 0⟩, .idle, false⟩
  completions := fun _ => .idle

variable (s : SyncState ι κ φ)

def context (ctx : ContextPtr) : SyncContext SyncMessage := s.contexts.get ctx

def setContext (ctx : ContextPtr) (value : SyncContext SyncMessage) : SyncState ι κ φ :=
  { s with contexts := s.contexts.set ctx value }

def msg_seqid (i : ι) : UInt32 := (s.calls i).args.msg_seqid

section

variable [DecidableEq ι]

variable (proto : Protocol φ) (s : SyncState ι κ φ)

def setCall (i : ι) (call : SyncCall) : SyncState ι κ φ :=
  { s with calls := Function.update s.calls i call }

def setStage (i : ι) (stage : Stage) : SyncState ι κ φ :=
  s.setCall i { s.calls i with stage := stage }

def refused (i : ι) : SyncState ι κ φ :=
  s.setStage i (.returned ⟨IPC_HV_SOA_RET_FAIL, (s.calls i).args.resp⟩)

/-- The call takes the first idle context, or goes on to `otherwise`. -/
def takeOr (i : ι) (otherwise : SyncState ι κ φ) : SyncState ι κ φ :=
  match s.sync_pool.objects_ with
  | ctx :: rest => { s with sync_pool := { s.sync_pool with objects_ := rest } }.setStage i (.holding ctx .reset)
  | [] => otherwise

/-- `ObjectPool::Borrow`, one critical section at a time. A thread in `wait_for` may
wake up at any time and does not wait again. -/
def Borrow (i : ι) : Borrowing → SyncState ι κ φ
  | .trying => s.takeOr i (s.setStage i (.borrowing .deciding))
  | .deciding =>
    if s.sync_pool._object_num < s.sync_pool._max_num then
      { s with sync_pool := { s.sync_pool with _object_num := s.sync_pool._object_num + 1 } }.setStage i
        (.borrowing .creating)
    else s.setStage i (.borrowing .parked)
  | .creating => { s with contexts := s.contexts.alloc default }.setStage i (.holding s.contexts.fresh .reset)
  | .parked => s.takeOr i (s.refused i)

/-- What the call makes of the result of `Wait` and of the data in its context. -/
def outcome (args : SyncArgs) (wait_result : Int) (data : SyncMessage) : Outcome :=
  if wait_result < 0 then ⟨IPC_HV_SOA_RET_TIMEOUT, args.resp⟩
  else if wait_result ≠ IPC_HV_SOA_COND_STATE_SUCCESS then ⟨IPC_HV_SOA_RET_FAIL, args.resp⟩
  else if data.header.service_id ≠ args.service_id then ⟨IPC_HV_SOA_RET_FAIL, args.resp⟩
  else ⟨IPC_HV_SOA_RET_SUCCESS, proto.deliver data args.resp⟩

/-- The next step of a call that holds a context. `timeout` says that the time of its
wait is over. -/
def work (i : ι) (ctx : ContextPtr) (timeout : Bool) :
    Phase → Option (SyncState ι κ φ)
  | .reset => some ((s.setContext ctx .Reset).setStage i (.holding ctx .fill))
  | .fill =>
    let old := s.context ctx
    let result := if proto.daemon then old.result else IPC_HV_SOA_COND_STATE_INIT
    some ((s.setContext ctx { old with data := proto.init (s.calls i).args, result := result }).setStage i
      (.holding ctx .insert))
  | .insert =>
    if s.lock.isSome then none
    else some ({ s with pending_requests := s.pending_requests.insertNew (s.msg_seqid i) ctx }.setStage i
      (.holding ctx .send))
  | .send => some (s.setCall i { s.calls i with stage := .holding ctx .wait, sent := true })
  | .wait =>
    ((s.context ctx).Wait (s.calls i).args.timeout_ms timeout).map fun wait_result =>
      s.setStage i (.holding ctx (.check wait_result))
  | .check wait_result =>
    some (s.setStage i (.holding ctx (.erase (outcome proto (s.calls i).args wait_result (s.context ctx).data))))
  | .erase out =>
    if s.lock.isSome then none
    else some ({ s with pending_requests := s.pending_requests.erase (s.msg_seqid i) }.setStage i
      (.holding ctx (.release out)))
  | .undo =>
    if s.lock.isSome then none
    else some ({ s with pending_requests := s.pending_requests.erase (s.msg_seqid i) }.setStage i
      (.holding ctx .cancel))
  | .cancel =>
    some ((s.setContext ctx ((s.context ctx).SetResult IPC_HV_SOA_COND_STATE_INIT)).setStage i
      (.holding ctx (.release ⟨IPC_HV_SOA_RET_FAIL, (s.calls i).args.resp⟩)))
  | .release out => some ((s.setContext ctx .Reset).setStage i (.holding ctx (.give out)))
  | .give out => some ({ s with sync_pool := s.sync_pool.Return ctx }.setStage i (.returned out))

def advance (i : ι) : Option (SyncState ι κ φ) :=
  match (s.calls i).stage with
  | .borrowing at_ => some (s.Borrow i at_)
  | .holding ctx phase => work proto s i ctx false phase
  | .idle | .returned _ => none

/-- `send_msg_to_process_sync` erases its entry; `send_msg_to_daemon_sync` also sets
the result. -/
def refuse (i : ι) : Option (SyncState ι κ φ) :=
  match (s.calls i).stage with
  | .holding ctx .send =>
    if proto.daemon then some (s.setStage i (.holding ctx .undo))
    else some (s.setStage i (.holding ctx (.erase ⟨IPC_HV_SOA_RET_FAIL, (s.calls i).args.resp⟩)))
  | _ => none

def expire (i : ι) : Option (SyncState ι κ φ) :=
  match (s.calls i).stage with
  | .borrowing .parked => some (s.refused i)
  | .holding ctx .wait => work proto s i ctx true .wait
  | _ => none

def enter (i : ι) (args : SyncArgs) : Option (SyncState ι κ φ) :=
  match (s.calls i).stage with
  | .idle => some (s.setCall i ⟨args, .borrowing .trying, false⟩)
  | _ => none

def abandon (i : ι) (ret : Int) : Option (SyncState ι κ φ) :=
  match (s.calls i).stage with
  | .borrowing .trying =>
    if proto.daemon ∨ ret = IPC_HV_SOA_RET_SUCCESS then none
    else some (s.setStage i (.returned ⟨ret, (s.calls i).args.resp⟩))
  | _ => none

end

section

variable [DecidableEq κ]

def setCompletion (s : SyncState ι κ φ) (k : κ) (completion : Completion φ) : SyncState ι κ φ :=
  { s with completions := Function.update s.completions k completion }

/-- The frame arrives, and its entry is looked up under `pending_requests_mutex`. -/
def receive (proto : Protocol φ) (s : SyncState ι κ φ) (k : κ) (frame : φ) : Option (SyncState ι κ φ) :=
  match s.completions k, s.lock with
  | .idle, none =>
    match s.pending_requests.lookup (proto.msg_seqid frame) with
    | none => some (s.setCompletion k (.missed frame))
    | some ctx =>
      if proto.daemon then some ({ s with lock := some k }.setCompletion k (.found frame ctx))
      else some ({ s with pending_requests := s.pending_requests.erase (proto.msg_seqid frame) }.setCompletion k
        (.found frame ctx))
  | _, _ => none

/-- The context is written, and then its result is set. -/
def complete (proto : Protocol φ) (s : SyncState ι κ φ) (k : κ) : Option (SyncState ι κ φ) :=
  match s.completions k with
  | .found frame ctx =>
    let old := s.context ctx
    some ((s.setContext ctx { old with data := proto.write frame old.data }).setCompletion k (.wrote frame ctx))
  | .wrote frame ctx =>
    some ({ s.setContext ctx ((s.context ctx).SetResult IPC_HV_SOA_COND_STATE_SUCCESS) with lock := none }.setCompletion
      k (.finished frame))
  | .idle | .finished _ | .missed _ => none

end

def clear : Option (SyncState ι κ φ) :=
  if s.lock.isSome then none else some { s with pending_requests := ∅ }

def wake (contexts : Heap ContextRef (SyncContext SyncMessage)) (ctx : ContextPtr) :
    Heap ContextRef (SyncContext SyncMessage) :=
  contexts.set ctx ((contexts.get ctx).SetResult IPC_HV_SOA_COND_STATE_DISCONNECTED)

/-- Every pending request is woken; the entries of the process's own map stay. -/
def disconnect : Option (SyncState ι κ φ) :=
  if s.lock.isSome then none
  else some { s with contexts := (s.pending_requests.entries.map Sigma.snd).foldl wake s.contexts }

def step [DecidableEq ι] [DecidableEq κ] (proto : Protocol φ) (s : SyncState ι κ φ) :
    SyncEvent ι κ φ → Option (SyncState ι κ φ)
  | .enter i args => s.enter i args
  | .abandon i ret => s.abandon proto i ret
  | .advance i => s.advance proto i
  | .refuse i => s.refuse proto i
  | .expire i => s.expire proto i
  | .receive k frame => s.receive proto k frame
  | .complete k => s.complete proto k
  | .clear => s.clear
  | .disconnect => s.disconnect

end SyncState

end hub.soa
