import Hub.Autolib.ServiceMap
import Hub.Soa.Library

namespace hub.autolib

open local_registry soa

variable {F : Type}

def isLocalResponse (msg_type : UInt32) : Bool :=
  msg_type == LOCAL_MSG_TYPE_METHOD_RESPONSE_SYNC || msg_type == LOCAL_MSG_TYPE_METHOD_RESPONSE_ASYNC

def isSoaResponse (msg_type : UInt32) : Bool :=
  msg_type == E_IPC_HV_SOA_MSG_TYPE_METHOD_RESPONSE_SYNC || msg_type == E_IPC_HV_SOA_MSG_TYPE_METHOD_RESPONSE_ASYNC

variable (pb_decode : PbDecode F)

/-- `LocalRegistry::onMessage` up to its switch. -/
def onMessage_receive (gst_autolib_servicemap : ServiceMaps F) (inbuf : List UInt8) : Received :=
  receive isLocalResponse pb_decode gst_autolib_servicemap inbuf

/-- `on_recv_daemon` up to its switch. -/
def on_recv_daemon_receive (gst_autolib_servicemap : ServiceMaps F) (buf : List UInt8) :
    Received :=
  receive isLocalResponse pb_decode gst_autolib_servicemap buf

/-- `on_recv_process` up to the choice between the queue and the waiting call. -/
def on_recv_process_receive (gst_autolib_servicemap : ServiceMaps F) (buf : List UInt8) :
    Received :=
  receive isSoaResponse pb_decode gst_autolib_servicemap buf

/-- The functions that take frames from a socket. -/
inductive FrameHandler where
  | onMessage
  | on_recv_daemon
  | on_recv_process

def FrameHandler.receive (gst_autolib_servicemap : ServiceMaps F) (buf : List UInt8) :
    FrameHandler → Received
  | .onMessage => onMessage_receive pb_decode gst_autolib_servicemap buf
  | .on_recv_daemon => on_recv_daemon_receive pb_decode gst_autolib_servicemap buf
  | .on_recv_process => on_recv_process_receive pb_decode gst_autolib_servicemap buf

/-- The three handlers stay inside the tables exactly for the frames whose service id is
in them; nothing else about the frame matters once it is complete. -/
theorem handlers_stay_inside_iff (handler : FrameHandler) (pb_decode : PbDecode F)
    (gst_autolib_servicemap : ServiceMaps F) (buf : List UInt8) :
    handler.receive pb_decode gst_autolib_servicemap buf ≠ .outside ↔
      (LengthChecked buf → InTables gst_autolib_servicemap (recv_msg_header buf).service_id) := by
  have hreceive : ∀ response, receive response pb_decode gst_autolib_servicemap buf ≠ .outside ↔
      (LengthChecked buf → InTables gst_autolib_servicemap (recv_msg_header buf).service_id) := by
    intro response
    rw [Ne, receive_eq_outside_iff, not_and, not_not]
  cases handler with
  | onMessage | on_recv_daemon => exact hreceive isLocalResponse
  | on_recv_process => exact hreceive isSoaResponse

def oneService : ServiceMaps Unit := [some ⟨[⟨1, none, 0, none, 0⟩]⟩]

def emptyNotification (service_id : UInt32) : List UInt8 := headerBytes ⟨7, 1, 1, service_id, 0⟩

/-- The message ids 0 and 2 and the module id 1 are looked up outside the tables. -/
theorem handlers_read_outside :
    LengthChecked (emptyNotification 0) ∧ LengthChecked (emptyNotification 2) ∧
      LengthChecked (emptyNotification 65537) ∧
      ∀ handler : FrameHandler,
        handler.receive (fun _ _ => none) oneService (emptyNotification 0) = .outside ∧
        handler.receive (fun _ _ => none) oneService (emptyNotification 2) = .outside ∧
        handler.receive (fun _ _ => none) oneService (emptyNotification 65537) = .outside := by
  refine ⟨by decide, by decide, by decide, fun handler => ?_⟩
  cases handler with
  | onMessage | on_recv_daemon | on_recv_process => exact ⟨rfl, rfl, rfl⟩

end hub.autolib
