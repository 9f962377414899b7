import Hub.Base.Syncctxpool

namespace hub.ipc_hv

/-- A call of `ipc_hv_send_sync`: its thread, whether `resp_data` is not `NULL`, and the
value of `*resp_len`. -/
structure HvCall (τ : Type) where
  thread : τ
  resp_data : Bool
  resp_len : Nat

inductive SyncStage where
  | idle
  | borrowed (ctx : SyncctxPtr)
  | sent (ctx : SyncctxPtr)
  | waiting (ctx : SyncctxPtr)
  /-- The wait has timed out, and the call does not have the mutex back yet. -/
  | expired (ctx : SyncctxPtr)
  /-- The call has left its loop after the timeout, with the mutex. -/
  | late (ctx : SyncctxPtr)
  | finishing (ctx : SyncctxPtr) (ret : Int)
  | returned (ret : Int)
deriving DecidableEq

def SyncStage.context : SyncStage → Option SyncctxPtr
  | .borrowed ctx | .sent ctx | .waiting ctx | .expired ctx | .late ctx | .finishing ctx _ => some ctx
  | .idle | .returned _ => none

def SyncStage.pending : SyncStage → Bool
  | .sent _ | .waiting _ => true
  | .idle | .borrowed _ | .expired _ | .late _ | .finishing _ _ | .returned _ => false

def SyncStage.leaves : SyncStage → Option (SyncctxPtr × Int)
  | .finishing ctx ret => some (ctx, ret)
  | .late ctx => some (ctx, -8)
  | _ => none

/-- The calls `ι` of `ipc_hv_send_sync` by threads `τ`. `requests` are those not answered
yet, each with the `ctx` of its message; `buffers` and `lens` are what was written for the
callers, and `answers` the replies that came in time. -/
structure SyncCalls (ι τ : Type) where
  contexts : Syncctxs ι τ
  pool : Syncctxpool
  calls : ι → SyncStage
  threads : τ → Bool
  requests : ι → Option SyncctxPtr
  buffers : ι → List UInt8
  lens : ι → Nat
  answers : ι → Option (List UInt8)
  undefined : Bool

inductive SyncEvent (ι : Type) where
  | borrow (x : ι)
  /-- The call returns -1 without a context: `ipc_hv` is not initialized, `resp_len` is
  `NULL`, or no context can be made. -/
  | refuse (x : ι)
  | send (x : ι) (ok : Bool)
  /-- `hmutex_lock` and the start of the wait, which unlocks the mutex again. -/
  | lock (x : ι)
  | wake (x : ι)
  | timeout (x : ι)
  | relock (x : ι)
  | giveBack (x : ι)
  /-- `on_recv_async` handles the `SYNC_REP` to `x` with the given data. -/
  | handle (x : ι) (msg_data : List UInt8)
  /-- The connection of the request is closed without a reply. -/
  | drop (x : ι)

namespace SyncCalls

variable {ι τ : Type}

def init (call : ι → HvCall τ) (init_count : Nat) : SyncCalls ι τ where
  contexts := (Syncctxpool.syncctxpool_create init_count).1
  pool := (Syncctxpool.syncctxpool_create (ι := ι) (τ := τ) init_count).2
  calls _ := .idle
  threads _ := false
  requests _ := none
  buffers _ := []
  lens x := (call x).resp_len
  answers _ := none
  undefined := false

variable [DecidableEq ι] [DecidableEq τ]

variable (s : SyncCalls ι τ)

def move (x : ι) (stage : SyncStage) (ctx : SyncctxPtr) (value : Syncctx ι τ) : SyncCalls ι τ :=
  { s with calls := Function.update s.calls x stage, contexts := s.contexts.set ctx value }

/-- The copy that `on_recv_async` makes through the pointers of the context. -/
def copyReply (ctx : Syncctx ι τ) (msg_data : List UInt8) : SyncCalls ι τ :=
  match ctx.data, ctx.len with
  | some buffer, some len =>
    if msg_data ≠ [] then
      let copy_len := if msg_data.length < s.lens len then msg_data.length else s.lens len
      { s with
        buffers := Function.update s.buffers buffer (msg_data.take copy_len ++ (s.buffers buffer).drop copy_len)
        lens := Function.update s.lens len copy_len }
    else s
  | _, _ => s

/-- The branch of `on_recv_async` for a `SYNC_REP`, all of it under the mutex. -/
def on_recv_async (ctx : SyncctxPtr) (msg_data : List UInt8) : SyncCalls ι τ :=
  { s.copyReply (s.contexts.get ctx) msg_data with
    contexts := s.contexts.set ctx { s.contexts.get ctx with result := 0, signalled := true } }

def answered (x : ι) (ctx : SyncctxPtr) (msg_data : List UInt8) : SyncCalls ι τ :=
  { s.on_recv_async ctx msg_data with
    requests := Function.update s.requests x none
    answers := if (s.calls x).pending then Function.update s.answers x (some msg_data) else s.answers }

/-- One event. There is no next state for an event that cannot happen. -/
def step (call : ι → HvCall τ) (s : SyncCalls ι τ) : SyncEvent ι → Option (SyncCalls ι τ)
  | .borrow x =>
    if s.calls x = .idle ∧ s.threads (call x).thread = false then
      match Syncctxpool.syncctxpool_borrow s.contexts s.pool with
      | none => some { s with undefined := true }
      | some (ctx, contexts, pool) =>
        some { s with
          contexts := contexts.set ctx { contexts.get ctx with
            data := if (call x).resp_data then some x else none
            len := some x
            result := -1 }
          pool := pool
          calls := Function.update s.calls x (.borrowed ctx)
          threads := Function.update s.threads (call x).thread true }
    else none
  | .refuse x =>
    if s.calls x = .idle ∧ s.threads (call x).thread = false then
      some { s with calls := Function.update s.calls x (.returned (-1)) }
    else none
  | .send x ok =>
    match s.calls x with
    | .borrowed ctx =>
      if ok then
        some { s.move x (.sent ctx) ctx (s.contexts.get ctx) with
          requests := Function.update s.requests x (some ctx) }
      else some (s.move x (.finishing ctx (-1)) ctx (s.contexts.get ctx))
    | _ => none
  | .lock x =>
    match s.calls x with
    | .sent ctx =>
      -- a thread that already has the mutex gets an error from it and goes on
      if (s.contexts.get ctx).mutex = none ∨ (s.contexts.get ctx).mutex = some (call x).thread then
        some (s.move x (.waiting ctx) ctx { s.contexts.get ctx with mutex := none, signalled := false })
      else none
    | _ => none
  | .wake x =>
    match s.calls x with
    | .waiting ctx =>
      if (s.contexts.get ctx).signalled ∧ (s.contexts.get ctx).mutex = none then
        some (s.move x (.finishing ctx (s.contexts.get ctx).result) ctx (s.contexts.get ctx))
      else none
    | _ => none
  | .timeout x =>
    match s.calls x with
    | .waiting ctx =>
      if (s.contexts.get ctx).signalled = false then
        some (s.move x (.expired ctx) ctx (s.contexts.get ctx))
      else none
    | _ => none
  | .relock x =>
    match s.calls x with
    | .expired ctx =>
      -- the call leaves the loop before it would unlock the mutex
      if (s.contexts.get ctx).mutex = none then
        some (s.move x (.late ctx) ctx { s.contexts.get ctx with mutex := some (call x).thread })
      else none
    | _ => none
  | .giveBack x =>
    match (s.calls x).leaves with
    | some (ctx, ret) =>
      some { s.move x (.returned ret) ctx (s.contexts.get ctx).reset with
        pool := s.pool.syncctxpool_return ctx
        threads := Function.update s.threads (call x).thread false }
    | none => none
  | .handle x msg_data =>
    match s.requests x with
    | some ctx =>
      if (s.contexts.get ctx).mutex = none then
        some (s.answered x ctx msg_data)
      else none
    | none => none
  | .drop x =>
    if s.requests x = none then none else some { s with requests := Function.update s.requests x none }

end SyncCalls

end hub.ipc_hv
