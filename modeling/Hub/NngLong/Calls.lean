import Hub.NngLong.MessagePair
import Hub.NngLong.Slots

namespace hub.nng_long

/-- Where a call of `ipc_nng_long_send_notify`, `_sync` or `_stream` stands. -/
inductive CallStage where
  | idle
  | given (slot : Slot)
  | sending (slot : Slot)
  /-- It holds the mutex of the slot, at the condition of its loop. -/
  | testing (slot : Slot) (ret : CallRet)
  | waiting (slot : Slot)
  | returned (ret : CallRet)
deriving DecidableEq

def CallStage.slot : CallStage → Option Slot
  | .given slot | .sending slot | .testing slot _ | .waiting slot => some slot
  | .idle | .returned _ => none

def CallStage.filled : CallStage → Option Slot
  | .sending slot | .testing slot _ | .waiting slot => some slot
  | .idle | .given _ | .returned _ => none

theorem CallStage.slot_of_filled {stage : CallStage} {slot : Slot} (hfilled : stage.filled = some slot) :
    stage.slot = some slot := by
  cases stage with
  | sending | testing | waiting => exact hfilled
  | idle | given | returned => cases hfilled

def CallStage.tests : CallStage → Option Slot
  | .testing slot _ => some slot
  | _ => none

def CallStage.requested : CallStage → Bool
  | .idle | .given _ => false
  | .sending _ | .testing _ _ | .waiting _ | .returned _ => true

/-- Where a run of `server_cb_recv` stands that handles the reply to a call. It compares
the slots without a lock, and locks the one that matches. -/
inductive ReplyWork (ι : Type) where
  | idle
  | scanning (call : ι) (reply : Reply) (i : Nat)
  | matched (call : ι) (reply : Reply) (slot : Slot)

def ReplyWork.target {ι : Type} : ReplyWork ι → Option Slot
  | .matched _ _ slot => some slot
  | .idle | .scanning _ _ _ => none

/-- The waiting calls `ι` of one module and the works `κ` that handle replies. `buffers` and
`lengths` are what was stored for the callers, and `handled` the replies that were written.
-/
structure Calls (ι κ : Type) where
  msg_pair : Slot → MessagePair ι
  mtx : Slot → Option ι
  calls : ι → CallStage
  works : κ → ReplyWork ι
  buffers : ι → Option (List UInt8)
  lengths : ι → Option Nat
  handled : List (ι × Reply)

inductive CallEvent (ι κ : Type) where
  | take (x : ι) (slot : Slot)
  /-- `nng_mtx_lock` and the assignments to the slot. -/
  | fill (x : ι) (clock : UInt64)
  /-- `nng_sendmsg` returns, and `expire` is set. -/
  | send (x : ι) (ret : Int) (clock : UInt64)
  /-- The condition of the loop, and then `nng_cv_until` or the end of the call. -/
  | test (x : ι)
  | wake (x : ι) (cv_ret : Int)
  /-- A work receives a reply to call `x`. -/
  | recv (k : κ) (x : ι) (reply : Reply)
  | compare (k : κ)
  | write (k : κ)

namespace Calls

variable {ι κ : Type}

def init : Calls ι κ where
  msg_pair _ := .init
  mtx _ := none
  calls _ := .idle
  works _ := .idle
  buffers _ := none
  lengths _ := none
  handled := []

variable [DecidableEq ι] [DecidableEq κ]

def move (s : Calls ι κ) (x : ι) (stage : CallStage) (slot : Slot) (pair : MessagePair ι) (owner : Option ι) :
    Calls ι κ :=
  { s with
    calls := Function.update s.calls x stage
    msg_pair := Function.update s.msg_pair slot pair
    mtx := Function.update s.mtx slot owner }

def setWork (s : Calls ι κ) (k : κ) (work : ReplyWork ι) : Calls ι κ :=
  { s with works := Function.update s.works k work }

/-- The next turn of the loop of `server_cb_recv` over the slots. -/
def compareSlot (s : Calls ι κ) (x : ι) (reply : Reply) (i : Nat) : ReplyWork ι :=
  if hi : i < 8 then
    if (s.msg_pair ⟨i, hi⟩).event_id = reply.event_id then .matched x reply ⟨i, hi⟩ else .scanning x reply (i + 1)
  else .idle

def store (buffers : ι → Option (List UInt8)) : Option (ι × List UInt8) → ι → Option (List UInt8)
  | none => buffers
  | some (x, bytes) => Function.update buffers x (some bytes)

/-- One event. There is no next state for an event that cannot happen. -/
def step (request : ι → SendCall) (s : Calls ι κ) : CallEvent ι κ → Option (Calls ι κ)
  | .take x slot =>
    if s.calls x = .idle then some (s.move x (.given slot) slot (s.msg_pair slot) (s.mtx slot)) else none
  | .fill x clock =>
    match s.calls x with
    | .given slot =>
      if s.mtx slot = none then
        some (s.move x (.sending slot) slot ((s.msg_pair slot).fill x (request x) clock) (some x))
      else none
    | _ => none
  | .send x ret clock =>
    match s.calls x with
    | .sending slot =>
      some (s.move x (.testing slot (.sendmsg ret)) slot ((s.msg_pair slot).sent (request x) clock) (s.mtx slot))
    | _ => none
  | .test x =>
    match s.calls x with
    | .testing slot ret =>
      if (s.msg_pair slot).Waits then some (s.move x (.waiting slot) slot (s.msg_pair slot) none)
      else some (s.move x (.returned ret) slot (s.msg_pair slot).release none)
    | _ => none
  | .wake x cv_ret =>
    match s.calls x with
    | .waiting slot =>
      if s.mtx slot = none then
        some { s.move x (.testing slot ((s.msg_pair slot).awaited cv_ret)) slot (s.msg_pair slot) (some x) with
          lengths :=
            if cv_ret = 0 ∧ (request x).out_len then
              Function.update s.lengths x (some (s.msg_pair slot).out_data_size)
            else s.lengths }
      else none
    | _ => none
  | .recv k x reply =>
    match s.works k with
    | .idle =>
      if (s.calls x).requested ∧ reply.event_id = (request x).event_id then
        some (s.setWork k (.scanning x reply 0))
      else none
    | _ => none
  | .compare k =>
    match s.works k with
    | .scanning x reply i => some (s.setWork k (s.compareSlot x reply i))
    | _ => none
  | .write k =>
    match s.works k with
    | .matched x reply slot =>
      if s.mtx slot = none then
        some { s.setWork k .idle with
          msg_pair := Function.update s.msg_pair slot ((s.msg_pair slot).rep reply)
          buffers := store s.buffers ((s.msg_pair slot).copied reply)
          handled := (x, reply) :: s.handled }
      else none
    | _ => none

end Calls

end hub.nng_long
