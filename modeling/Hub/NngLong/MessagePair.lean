import Hub.Lib.Words
import Hub.NngLong.Types

namespace hub.nng_long

def D_IPC_NNG_LONG_WAIT_TIMEOUT : UInt64 := 1500

def NNG_ETIMEDOUT : Int := 5

/-- What the four functions that wait for an answer differ in. An event id is never 0,
the mark of an idle slot. -/
structure SendCall where
  event_id : UInt64
  timeout : UInt64
  /-- `msg_pair->expire` is already set before the message is sent. -/
  presets : Bool
  /-- `sync_resp_data` is not `NULL`. -/
  out_data : Bool
  out_data_size : Nat
  /-- `sync_resp_data_len` is not `NULL`. -/
  out_len : Bool
  event_id_ne : event_id ≠ 0

theorem event_id_ne_zero {protocol : UInt64} {src_id dest_id : UInt32} (msg_id : UInt32) (index : UInt16)
    (hprotocol : protocol = D_IPC_NNG_LONG_PROTOCOL_SYNC ∨ protocol = D_IPC_NNG_LONG_PROTOCOL_ASYNC ∨
      protocol = D_IPC_NNG_LONG_PROTOCOL_STREAM)
    (hsrc : src_id ≤ E_IPC_NNG_LONG_MODULE_ID_MAX) (hdest : dest_id ≤ E_IPC_NNG_LONG_MODULE_ID_MAX) :
    D_IPC_NNG_LONG_GENERATION_EVENT_ID protocol src_id dest_id msg_id index ≠ 0 := by
  have hsrc_le : src_id.toNat ≤ 3 := UInt32.le_iff_toNat_le.mp hsrc
  have hdest_le : dest_id.toNat ≤ 3 := UInt32.le_iff_toNat_le.mp hdest
  have hmsg := msg_id.toNat_lt
  have hindex := index.toNat_lt
  intro hzero
  have hnat := congrArg UInt64.toNat hzero
  rcases hprotocol with rfl | rfl | rfl
  · simp [D_IPC_NNG_LONG_GENERATION_EVENT_ID, D_IPC_NNG_LONG_PROTOCOL_SYNC, Nat.shiftLeft_eq] at hnat
    omega
  · simp [D_IPC_NNG_LONG_GENERATION_EVENT_ID, D_IPC_NNG_LONG_PROTOCOL_ASYNC, Nat.shiftLeft_eq] at hnat
    omega
  · simp [D_IPC_NNG_LONG_GENERATION_EVENT_ID, D_IPC_NNG_LONG_PROTOCOL_STREAM, Nat.shiftLeft_eq] at hnat
    omega

theorem le_max_of_valid {module_id : UInt32} (hvalid : D_IPC_NNG_LONG_CHECK_MODULE_ID_INVALID module_id = false) :
    module_id ≤ E_IPC_NNG_LONG_MODULE_ID_MAX := by
  simp only [D_IPC_NNG_LONG_CHECK_MODULE_ID_INVALID, Bool.or_eq_false_iff, decide_eq_false_iff_not] at hvalid
  rw [UInt32.le_iff_toNat_le]
  have hlt := hvalid.2
  rw [ge_iff_le, UInt32.le_iff_toNat_le] at hlt
  omega

/-- The module ids of a call that has passed its checks, with what else goes into its
event id. -/
structure SendArgs where
  src_id : UInt32
  dest_id : UInt32
  msg_id : UInt32
  index : UInt16
  src_valid : D_IPC_NNG_LONG_CHECK_MODULE_ID_INVALID src_id = false
  dest_valid : D_IPC_NNG_LONG_CHECK_MODULE_ID_INVALID dest_id = false

/-- When two calls have one event id. A message id of more than 16 bits reaches into the
destination. -/
theorem event_id_eq_iff (p q : UInt64) (a b : SendArgs) :
    D_IPC_NNG_LONG_GENERATION_EVENT_ID p a.src_id a.dest_id a.msg_id a.index =
        D_IPC_NNG_LONG_GENERATION_EVENT_ID q b.src_id b.dest_id b.msg_id b.index ↔
      p.toNat % 16 = q.toNat % 16 ∧ a.index = b.index ∧
        a.src_id.toNat * 2 ^ 32 + a.dest_id.toNat * 2 ^ 16 + a.msg_id.toNat =
          b.src_id.toNat * 2 ^ 32 + b.dest_id.toNat * 2 ^ 16 + b.msg_id.toNat := by
  have hbound : ∀ c : SendArgs, c.src_id.toNat ≤ 3 ∧ c.dest_id.toNat ≤ 3 := fun c =>
    ⟨UInt32.le_iff_toNat_le.mp (le_max_of_valid c.src_valid), UInt32.le_iff_toNat_le.mp (le_max_of_valid c.dest_valid)⟩
  have ha := hbound a
  have hb := hbound b
  have := a.msg_id.toNat_lt
  have := b.msg_id.toNat_lt
  have := a.index.toNat_lt
  have := b.index.toNat_lt
  simp only [D_IPC_NNG_LONG_GENERATION_EVENT_ID, ← UInt64.toNat_inj, ← UInt16.toNat_inj, UInt64.toNat_add,
    UInt64.toNat_shiftLeft, UInt32.toNat_toUInt64, UInt16.toNat_toUInt64, Nat.shiftLeft_eq, UInt64.reduceToNat,
    Nat.reduceMod]
  omega

def SendArgs.toSecond (index : UInt16) : SendArgs := ⟨1, 2, 3, index, rfl, rfl⟩

namespace SendCall

def send_notify (args : SendArgs) : SendCall where
  event_id :=
    D_IPC_NNG_LONG_GENERATION_EVENT_ID D_IPC_NNG_LONG_PROTOCOL_SYNC args.src_id args.dest_id args.msg_id args.index
  timeout := D_IPC_NNG_LONG_WAIT_TIMEOUT
  presets := true
  out_data := false
  out_data_size := 0
  out_len := false
  event_id_ne := event_id_ne_zero _ _ (.inl rfl) (le_max_of_valid args.src_valid) (le_max_of_valid args.dest_valid)

def send_sync (args : SendArgs) (sync_resp_data sync_resp_data_len : Bool) (sync_resp_data_max_len : Nat)
    (timeout : UInt64) : SendCall where
  event_id :=
    D_IPC_NNG_LONG_GENERATION_EVENT_ID D_IPC_NNG_LONG_PROTOCOL_SYNC args.src_id args.dest_id args.msg_id args.index
  timeout := timeout
  presets := true
  out_data := sync_resp_data
  out_data_size := sync_resp_data_max_len
  out_len := sync_resp_data_len
  event_id_ne := event_id_ne_zero _ _ (.inl rfl) (le_max_of_valid args.src_valid) (le_max_of_valid args.dest_valid)

def send_stream (args : SendArgs) (timeout : UInt64) : SendCall where
  event_id :=
    D_IPC_NNG_LONG_GENERATION_EVENT_ID D_IPC_NNG_LONG_PROTOCOL_STREAM args.src_id args.dest_id args.msg_id args.index
  timeout := timeout
  presets := false
  out_data := false
  out_data_size := 0
  out_len := false
  event_id_ne := event_id_ne_zero _ _ (.inr (.inr rfl)) (le_max_of_valid args.src_valid)
    (le_max_of_valid args.dest_valid)

/-- `ipc_nng_long_send_multicast`, which has no single destination. -/
def send_multicast (src_id msg_id : UInt32) (index : UInt16)
    (src_valid : D_IPC_NNG_LONG_CHECK_MODULE_ID_INVALID src_id = false) (timeout : UInt64) : SendCall where
  event_id :=
    D_IPC_NNG_LONG_GENERATION_EVENT_ID D_IPC_NNG_LONG_PROTOCOL_STREAM src_id E_IPC_NNG_LONG_MODULE_ID_MAX msg_id index
  timeout := timeout
  presets := false
  out_data := false
  out_data_size := 0
  out_len := false
  event_id_ne := event_id_ne_zero _ _ (.inr (.inr rfl)) (le_max_of_valid src_valid) (by decide)

end SendCall

/-- A `REP`, `STREAM_REP` or `MULT_REP`, as far as the slot is concerned. `data` is what
follows the header. -/
structure Reply where
  event_id : UInt64
  result : Int
  recv_len : Nat
  data : RawMemory

/-- The value of `ret` in a call, with where it was taken from: `nng_sendmsg`, a wait
that ran into its deadline, `msg_pair->ret`, or a wait that failed. -/
inductive CallRet where
  | sendmsg (ret : Int)
  | timedout
  | stored (ret : Int)
  | failed (ret : Int)
deriving DecidableEq

def CallRet.value : CallRet → Int
  | .sendmsg ret | .stored ret | .failed ret => ret
  | .timedout => -8

/-- `ipc_nng_long_message_pair_t` without its mutex, condition variable and timer. `out_data`
names the call whose buffer it points to. -/
structure MessagePair (ι : Type) where
  is_used : Bool
  event_id : UInt64
  cond_true : Bool
  expire : UInt64
  out_data_size : Nat
  out_data : Option ι
  ret : Int

namespace MessagePair

variable {ι : Type}

def init : MessagePair ι where
  is_used := false
  event_id := 0
  cond_true := false
  expire := 0
  out_data_size := 0
  out_data := none
  ret := 0

variable (pair : MessagePair ι)

/-- The assignments of call `x` before it builds its message; `clock` is the reading of
`nng_clock` behind `expire`. -/
def fill (x : ι) (call : SendCall) (clock : UInt64) : MessagePair ι where
  is_used := true
  event_id := call.event_id
  cond_true := false
  expire := if call.presets then clock + call.timeout else pair.expire
  out_data_size := call.out_data_size
  out_data := if call.out_data then some x else none
  ret := -1

/-- `msg_pair->expire = expire_used`. The sum wraps around. -/
def sent (call : SendCall) (clock : UInt64) : MessagePair ι :=
  { pair with expire := clock + call.timeout }

def Waits : Prop := pair.cond_true = false ∧ pair.expire ≠ 0

instance : Decidable pair.Waits := inferInstanceAs (Decidable (_ ∧ _))

/-- What `ret` becomes after `nng_cv_until` has returned. -/
def awaited (cv_ret : Int) : CallRet :=
  if cv_ret = NNG_ETIMEDOUT then .timedout
  else if cv_ret = 0 then .stored pair.ret
  else .failed cv_ret

def release : MessagePair ι :=
  { pair with is_used := false, event_id := 0, expire := 0, cond_true := false }

/-- What `server_cb_recv` writes to the slot that a reply has matched. -/
def rep (reply : Reply) : MessagePair ι :=
  { pair with ret := reply.result, cond_true := true }

/-- The `memcpy` of `server_cb_recv`: the buffer and the bytes. -/
def copied (reply : Reply) : Option (ι × List UInt8) :=
  if reply.result = 0 ∧ pair.out_data_size ≠ 0 ∧ pair.out_data_size ≥ reply.recv_len then
    pair.out_data.map fun x => (x, reply.data.read pair.out_data_size)
  else none

@[simp] theorem not_waits_rep (reply : Reply) : ¬(pair.rep reply).Waits :=
  fun hwaits => Bool.noConfusion hwaits.1

end MessagePair

end hub.nng_long
