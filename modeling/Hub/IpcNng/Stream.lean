import Mathlib.Data.List.Basic

namespace hub.ipc_nng

/-- `ipc_nng_msg_type_e`. -/
inductive MsgType where
  | INVALID
  | NOTIFY
  | SYNC
  | ASYNC
  | BROADCAST
  | STREAM
  | HEARTBEAT

/-- `ipc_nng_msg_baseinfo_t`. -/
structure MsgBaseinfo where
  src_id : UInt32
  dest_id : UInt32
  msg_type : MsgType
  msg_id : UInt32
  send_len : Nat
  recv_len : Nat

/-- The handlers of `ipc_nng_register_info_t` that `server_rep_cb` calls. The response handler
fills the body of the reply, byte by byte. -/
structure RegisterInfo where
  notify_handler : Bool
  response_handler : Option (MsgBaseinfo → List UInt8 → Nat → UInt8)
  stream_handler : Bool

/-- A call of a handler, with the data that it gets. -/
inductive HandlerCall where
  | notify (msg_baseinfo : MsgBaseinfo) (data : List UInt8)
  | response (msg_baseinfo : MsgBaseinfo) (data : List UInt8)
  | stream (msg_baseinfo : MsgBaseinfo) (data : List UInt8)

def D_IPC_NNG_STREAM_RESULT : List UInt8 := [0x02, 0x00, 0xFE, 0x5A]

def INT32_MAX : List UInt8 := [0xFF, 0xFF, 0xFF, 0x7F]

/-- `server_rep_cb` on a message with its header: the handlers that it calls, and its reply.
`nng_msg_alloc` clears the body. -/
def server_rep_cb (reg_info : RegisterInfo) (msg_baseinfo : MsgBaseinfo) (data : List UInt8) :
    List HandlerCall × List UInt8 :=
  match msg_baseinfo.msg_type, reg_info.response_handler with
  | .SYNC, some handler | .ASYNC, some handler =>
    ([.response msg_baseinfo data], (List.range msg_baseinfo.recv_len).map (handler msg_baseinfo data))
  | .NOTIFY, _ => if reg_info.notify_handler then ([.notify msg_baseinfo data], []) else ([], [])
  | .STREAM, _ =>
    if reg_info.stream_handler then
      ([.stream msg_baseinfo data], List.replicate msg_baseinfo.recv_len 0 ++ D_IPC_NNG_STREAM_RESULT)
    else ([], [])
  | _, _ => ([], [])

/-- What `stream_ret` holds after the reply. A longer reply leaves it as it was. -/
def streamRet (reply : List UInt8) : List UInt8 :=
  if reply.length ≤ INT32_MAX.length then reply ++ INT32_MAX.drop reply.length else INT32_MAX

variable (reg_info : RegisterInfo) (src_id dest_id msg_id : UInt32) (stream_data : List UInt8)

def streamBaseinfo : MsgBaseinfo where
  src_id := src_id
  dest_id := dest_id
  msg_type := .SYNC
  msg_id := msg_id
  send_len := stream_data.length
  recv_len := INT32_MAX.length

/-- `ipc_nng_send_stream` when the message and the reply arrive: the handlers that the
destination calls, and the result. -/
def ipc_nng_send_stream : List HandlerCall × Int :=
  let (calls, reply) := server_rep_cb reg_info (streamBaseinfo src_id dest_id msg_id stream_data) stream_data
  (calls, if streamRet reply = [0, 0, 0, 0] then 0 else -2)

/-- The stream handler is called with the data, no other handler is, and the sender gets 0. -/
def StreamDelivered : Prop :=
  ∃ msg_baseinfo, ipc_nng_send_stream reg_info src_id dest_id msg_id stream_data =
    ([.stream msg_baseinfo stream_data], 0)

/-- A stream goes to the response handler, as a synchronous request, and never to the stream
handler. Without a response handler the sender gets -2. -/
theorem ipc_nng_send_stream_calls :
    ((ipc_nng_send_stream reg_info src_id dest_id msg_id stream_data).1 = reg_info.response_handler.toList.map fun _ =>
      .response (streamBaseinfo src_id dest_id msg_id stream_data) stream_data) ∧
    (reg_info.response_handler = none → (ipc_nng_send_stream reg_info src_id dest_id msg_id stream_data).2 = -2) ∧
    ¬ StreamDelivered reg_info src_id dest_id msg_id stream_data := by
  cases hhandler : reg_info.response_handler with
  | none =>
    have hsend : ipc_nng_send_stream reg_info src_id dest_id msg_id stream_data = ([], -2) := by
      simp [ipc_nng_send_stream, server_rep_cb, streamBaseinfo, hhandler, streamRet, INT32_MAX]
    refine ⟨congrArg Prod.fst hsend, fun _ => congrArg Prod.snd hsend, ?_⟩
    rintro ⟨msg_baseinfo, hdelivered⟩
    cases hsend.symm.trans hdelivered
  | some handler =>
    have hcalls : (ipc_nng_send_stream reg_info src_id dest_id msg_id stream_data).1 =
        [.response (streamBaseinfo src_id dest_id msg_id stream_data) stream_data] := by
      simp [ipc_nng_send_stream, server_rep_cb, streamBaseinfo, hhandler]
    refine ⟨hcalls, fun hnone => ?_, ?_⟩
    · cases hnone
    · rintro ⟨msg_baseinfo, hdelivered⟩
      cases hcalls.symm.trans (congrArg Prod.fst hdelivered)

/-- A module that only has a stream handler does not get the stream. -/
theorem stream_handler_not_called : ipc_nng_send_stream ⟨false, none, true⟩ 1 2 3 [7] = ([], -2) := by
  rfl

end hub.ipc_nng
