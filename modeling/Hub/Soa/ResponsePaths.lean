import Hub.Autolib.Dispatch
import Hub.Soa.Delivery

namespace hub.soa

open local_registry autolib SyncState

/-- Where `on_recv_process` takes a decoded frame: into the queue of `process_msg_handler`,
or to the call that waits for it. -/
inductive Taken where
  | queued (process_sync_context : SyncMessage)
  | completed (frame : SyncComplete)

/-- The end of `on_recv_process`. The queued message has the size of the decoded struct as
its length; the waiting call gets the length of the encoded body. -/
def takeDecoded (recv_msg_header : StLocalMsgHeader) (fields_size : UInt32) (pstruct : RawMemory) : Taken :=
  if recv_msg_header.msg_type ≠ E_IPC_HV_SOA_MSG_TYPE_METHOD_RESPONSE_SYNC then
    .queued
      { header :=
          { client_id := recv_msg_header.client_id
            msg_seqid := recv_msg_header.msg_seqid
            msg_type := recv_msg_header.msg_type
            service_id := recv_msg_header.service_id
            msg_len := if 0 < recv_msg_header.msg_len then fields_size else 0 }
        data := if 0 < recv_msg_header.msg_len then memcpy (fun _ => 0) pstruct fields_size.toNat else fun _ => 0 }
  else
    .completed
      { service_id := recv_msg_header.service_id
        msg_type := recv_msg_header.msg_type
        msg_seqid := recv_msg_header.msg_seqid
        method_resp_data := some pstruct
        method_resp_data_len := recv_msg_header.msg_len }

def on_recv_process {F : Type} (pb_decode : PbDecode F) (gst_autolib_servicemap : ServiceMaps F) (buf : List UInt8) :
    Option Taken :=
  match on_recv_process_receive pb_decode gst_autolib_servicemap buf with
  | .received recv_msg_header fields_size pstruct => some (takeDecoded recv_msg_header fields_size pstruct)
  | .rejected | .outside => none

theorem takeDecoded_queued {φ : Type} (lib : Library φ) {recv_msg_header : StLocalMsgHeader} {fields_size : UInt32}
    {pstruct : RawMemory} {message : SyncMessage}
    (htaken : takeDecoded recv_msg_header fields_size pstruct = .queued message) :
    (lib.on_recv_process message).msg_handler_queue = lib.msg_handler_queue ++ [message] := by
  unfold takeDecoded at htaken
  split at htaken
  · rename_i htype
    cases htaken
    rw [Library.on_recv_process, if_pos htype]
  · cases htaken

/-- The values of the output type of a service: how they are encoded, what their structs
hold, and that the decoder yields the struct of an encoded value. -/
structure OutType {F : Type} (V : Type) (pb_decode : PbDecode F) (pitem : ServiceMapItem F) where
  encode : V → List UInt8
  struct : V → RawMemory
  has_fields : pitem.out_size ≠ 0
  fits_frame : ∀ v, (encode v).length < 4294967296
  decodes : ∀ v, pb_decode pitem.out_fields (encode v) = some (struct v)

/-- The outcome of a synchronous call and the message for an asynchronous callback carry
the same `size` bytes of the decoded struct. -/
structure SameResponse (out : Outcome) (message : SyncMessage) (pstruct : RawMemory) (size : UInt32) : Prop where
  success : out.ret = IPC_HV_SOA_RET_SUCCESS
  len : out.resp.len = some message.header.msg_len
  data : ∃ data, out.resp.data = some data ∧ ∀ k < message.header.msg_len.toNat, data k = message.data k
  whole : message.header.msg_len = size
  decoded : ∀ k < size.toNat, message.data k = pstruct k

namespace OutType

variable {F V : Type} {pb_decode : PbDecode F} {gst_autolib_servicemap : ServiceMaps F} {pitem : ServiceMapItem F}
  (type : OutType V pb_decode pitem) (v : V)

def decoded : RawMemory := if (type.encode v).length = 0 then fun _ => 0 else type.struct v

def completion (service_id msg_seqid : UInt32) : SyncComplete where
  service_id := service_id
  msg_type := E_IPC_HV_SOA_MSG_TYPE_METHOD_RESPONSE_SYNC
  msg_seqid := msg_seqid
  method_resp_data := some (type.decoded v)
  method_resp_data_len := UInt32.ofNat (type.encode v).length

def queued (client_id service_id msg_seqid : UInt32) : SyncMessage where
  header :=
    { client_id := client_id
      msg_seqid := msg_seqid
      msg_type := E_IPC_HV_SOA_MSG_TYPE_METHOD_RESPONSE_ASYNC
      service_id := service_id
      msg_len := if 0 < UInt32.ofNat (type.encode v).length then pitem.out_size else 0 }
  data :=
    if 0 < UInt32.ofNat (type.encode v).length then memcpy (fun _ => 0) (type.decoded v) pitem.out_size.toNat
    else fun _ => 0

theorem toNat_length : (UInt32.ofNat (type.encode v).length).toNat = (type.encode v).length :=
  UInt32.toNat_ofNat_of_lt' (type.fits_frame v)

variable {v} in
theorem length_pos (hbody : (type.encode v).length ≠ 0) : 0 < UInt32.ofNat (type.encode v).length := by
  rw [UInt32.lt_iff_toNat_lt, toNat_length]
  exact Nat.pos_of_ne_zero hbody

section

variable {client_id msg_seqid msg_type service_id : UInt32} (hserves : Serves gst_autolib_servicemap service_id pitem)
include hserves

theorem received (hresponse : isSoaResponse msg_type = true) :
    on_recv_process_receive pb_decode gst_autolib_servicemap
      (frameBytes client_id msg_seqid msg_type service_id (type.encode v)) =
      .received ⟨client_id, msg_seqid, msg_type, service_id, UInt32.ofNat (type.encode v).length⟩ pitem.out_size
        (type.decoded v) := by
  obtain ⟨pmap, hmodule, hitem⟩ := hserves
  have hfields : fieldsOf isSoaResponse pitem msg_type = (pitem.out_fields, pitem.out_size) := by
    rw [fieldsOf, if_pos hresponse]
  have hheader : recv_msg_header (frameBytes client_id msg_seqid msg_type service_id (type.encode v)) = _ :=
    recv_msg_header_append ..
  have hbody : (frameBytes client_id msg_seqid msg_type service_id (type.encode v)).drop
      LOCAL_REGISTRY_MSG_HEADER_SIZE = type.encode v := List.drop_left' (length_headerBytes _)
  rw [on_recv_process_receive, receive_of_lengthChecked _ _ _ (lengthChecked_frameBytes ..), hbody, hheader]
  simp only [hmodule, hitem]
  rw [hfields, decodeBody, decoded]
  by_cases hempty : (type.encode v).length = 0
  · rw [if_pos hempty, hempty]
    rfl
  · rw [if_neg hempty, if_pos (type.length_pos hempty), if_neg type.has_fields, toNat_length, List.take_length,
      type.decodes]

end

variable (client_id service_id msg_seqid : UInt32)

theorem queued_of_empty (hempty : (type.encode v).length = 0) :
    (type.queued v client_id service_id msg_seqid).header.msg_len = 0 := by
  rw [queued, hempty]
  rfl

theorem queued_of_body (hbody : (type.encode v).length ≠ 0) :
    (type.queued v client_id service_id msg_seqid).header.msg_len = pitem.out_size ∧
      ∀ k < pitem.out_size.toNat, (type.queued v client_id service_id msg_seqid).data k = type.struct v k := by
  refine ⟨if_pos (type.length_pos hbody), fun k hk => ?_⟩
  simp only [queued, if_pos (type.length_pos hbody), memcpy, if_pos hk, decoded, if_neg hbody]

theorem sameResponse_iff {data : Nat → UInt8}
    (hdata : ∀ k < (UInt32.ofNat (type.encode v).length).toNat, data k = type.decoded v k) :
    SameResponse ⟨IPC_HV_SOA_RET_SUCCESS, some data, some (UInt32.ofNat (type.encode v).length)⟩
        (type.queued v client_id service_id msg_seqid) (type.struct v)
        (if (type.encode v).length = 0 then 0 else pitem.out_size) ↔
      (type.encode v).length = 0 ∨ (type.encode v).length = pitem.out_size.toNat := by
  by_cases hempty : (type.encode v).length = 0
  · have hmsg_len := type.queued_of_empty v client_id service_id msg_seqid hempty
    simp only [hempty, true_or, iff_true, if_true]
    refine ⟨rfl, by rw [hmsg_len]; rfl, ⟨data, rfl, ?_⟩, hmsg_len, ?_⟩
    · rw [hmsg_len]
      exact fun k hk => absurd hk (Nat.not_lt_zero k)
    · exact fun k hk => absurd hk (Nat.not_lt_zero k)
  · obtain ⟨hmsg_len, hqueued⟩ := type.queued_of_body v client_id service_id msg_seqid hempty
    simp only [hempty, false_or, if_false]
    constructor
    · intro hsame
      have hlen := Option.some.inj (hsame.len.trans (congrArg some hmsg_len))
      rw [← toNat_length, hlen]
    · intro hsize
      have hlen : UInt32.ofNat (type.encode v).length = pitem.out_size := by rw [hsize, UInt32.ofNat_toNat]
      refine ⟨rfl, by rw [hmsg_len, hlen], ⟨data, rfl, fun k hk => ?_⟩, hmsg_len, hqueued⟩
      rw [hmsg_len] at hk
      rw [hqueued k hk, hdata k (by rw [hlen]; exact hk), decoded, if_neg hempty]

end OutType

theorem outcome_of_completed {own : UInt32} {args : SyncArgs} {frame : SyncComplete} {method_resp_data : Nat → UInt8}
    {len : UInt32} {pstruct : RawMemory} (ctx : SyncMessage) (hservice : frame.service_id = args.service_id)
    (hresp : args.resp = ⟨some method_resp_data, some len⟩) (hpstruct : frame.method_resp_data = some pstruct)
    (hroom : frame.method_resp_data_len ≤ len) :
    ∃ data, outcome (processProtocol own) args IPC_HV_SOA_COND_STATE_SUCCESS (frame.write own ctx) =
        ⟨IPC_HV_SOA_RET_SUCCESS, some data, some frame.method_resp_data_len⟩ ∧
      ∀ k < frame.method_resp_data_len.toNat, data k = pstruct k := by
  have hdelivers : outcome (processProtocol own) args IPC_HV_SOA_COND_STATE_SUCCESS (frame.write own ctx) =
      ⟨IPC_HV_SOA_RET_SUCCESS, deliver_process (frame.write own ctx) args.resp⟩ := by
    have hsame : (frame.write own ctx).header.service_id = args.service_id := hservice
    rw [outcome, if_neg (by decide), if_neg (by decide), if_neg (not_not.mpr hsame)]
    rfl
  refine ⟨memcpy method_resp_data (frame.write own ctx).data frame.method_resp_data_len.toNat, ?_, fun k hk => ?_⟩
  · rw [hdelivers, hresp]
    simp only [deliver_process, SyncComplete.write, Option.map_some, UInt32.not_lt.mpr hroom, if_false]
  · have hpos : 0 < frame.method_resp_data_len := by
      rw [UInt32.lt_iff_toNat_lt]
      exact Nat.zero_lt_of_lt hk
    simp only [memcpy, SyncComplete.write, hpstruct, if_pos hpos, if_pos hk]

/-- A synchronous and an asynchronous caller get the same response exactly when its
encoding is as long as its struct, or empty. -/
theorem response_paths_agree_iff {F V ι κ φ : Type} [DecidableEq ι] [DecidableEq κ] {pb_decode : PbDecode F}
    {gst_autolib_servicemap : ServiceMaps F} {service_id : UInt32} {pitem : ServiceMapItem F}
    (hserves : Serves gst_autolib_servicemap service_id pitem) (type : OutType V pb_decode pitem) (v : V)
    (client_id own : UInt32) {msg_seqid : UInt32} {s : SyncState ι κ SyncComplete} {i : ι} {k : κ} {ctx : ContextPtr}
    (hawaiting : s.Awaiting i k ctx msg_seqid) (hservice : (s.calls i).args.service_id = service_id)
    {method_resp_data : Nat → UInt8} {len : UInt32} (hresp : (s.calls i).args.resp = ⟨some method_resp_data, some len⟩)
    (hroom : (type.encode v).length ≤ len.toNat) {lib : Library φ} {it : Service}
    (hknown : lib.g_client.find_service service_id = some it) {async_cb : φ}
    (hasync_cb : lib.service_async_handler service_id = some async_cb) :
    ∃ frame s' out message,
      on_recv_process pb_decode gst_autolib_servicemap (frameBytes client_id msg_seqid
        E_IPC_HV_SOA_MSG_TYPE_METHOD_RESPONSE_SYNC service_id (type.encode v)) = some (.completed frame) ∧
      run (SyncState.step (processProtocol own)) s (SyncState.answering i k frame) = some s' ∧
      (s'.calls i).stage = .holding ctx (.erase out) ∧
      on_recv_process pb_decode gst_autolib_servicemap (frameBytes client_id msg_seqid
        E_IPC_HV_SOA_MSG_TYPE_METHOD_RESPONSE_ASYNC service_id (type.encode v)) = some (.queued message) ∧
      lib.messageInvocations message = [.async_response async_cb message] ∧
      (SameResponse out message (type.struct v) (if (type.encode v).length = 0 then 0 else pitem.out_size) ↔
        (type.encode v).length = 0 ∨ (type.encode v).length = pitem.out_size.toNat) := by
  have hinvoked : lib.messageInvocations (type.queued v client_id service_id msg_seqid) =
      [.async_response async_cb (type.queued v client_id service_id msg_seqid)] := by
    simp only [Library.messageInvocations, OutType.queued, hknown, hasync_cb]
    rfl
  have hanswered : s.Awaiting i k ctx ((processProtocol own).msg_seqid (type.completion v service_id msg_seqid)) :=
    hawaiting
  obtain ⟨s', hrun, hstage⟩ := hanswered.answered
  have hfits : (type.completion v service_id msg_seqid).method_resp_data_len ≤ len := by
    rw [UInt32.le_iff_toNat_le]
    exact (type.toNat_length v).trans_le hroom
  obtain ⟨data, hout, hdata⟩ := @outcome_of_completed own _ _ _ _ _ (s.context ctx).data hservice.symm hresp rfl hfits
  refine ⟨_, s', _, _, ?_, hrun, hstage, ?_, hinvoked, ?_⟩
  · rw [on_recv_process, type.received v hserves rfl]
    rfl
  · rw [on_recv_process, type.received v hserves rfl]
    rfl
  have hsame := type.sameResponse_iff v client_id service_id msg_seqid hdata
  change SameResponse (outcome (processProtocol own) (s.calls i).args IPC_HV_SOA_COND_STATE_SUCCESS
    ((type.completion v service_id msg_seqid).write own (s.context ctx).data)) _ _ _ ↔ _
  rw [hout]
  exact hsame

/-- A module with seven services, all with an output struct of four bytes. -/
def sevenServices : ServiceMaps Unit := [some ⟨List.replicate 7 ⟨7, none, 0, some (), 4⟩⟩]

/-- The number that a varint encodes: seven bits a byte, and a set high bit in all bytes
but the last. -/
def varint : List UInt8 → Option Nat
  | [] => none
  | [byte] => if byte < 128 then some byte.toNat else none
  | byte :: bytes => if byte < 128 then none else (varint bytes).map (byte.toNat % 128 + 128 * ·)

def uint32Struct (n : Nat) : RawMemory := fun k => if k < 4 then UInt8.ofNat (n / 256 ^ k) else 0

/-- The decoder of such a message, whose field has the number 1: the tag 8 and a varint. -/
def decodeUint32 : PbDecode Unit := fun _ bytes =>
  match bytes with
  | 8 :: digits => (varint digits).map uint32Struct
  | _ => none

/-- The type of the messages with the value `n`, encoded as `body`. -/
def uint32Message (body : List UInt8) (n : Nat) (hbody : body.length < 4294967296)
    (hdecodes : decodeUint32 (some ()) body = some (uint32Struct n)) :
    OutType Unit decodeUint32 ⟨7, none, 0, some (), 4⟩ where
  encode _ := body
  struct _ := uint32Struct n
  has_fields := by decide
  fits_frame _ := hbody
  decodes _ := hdecodes

def callSent : List (SyncEvent Unit Unit SyncComplete) := .enter () (callWith 1) :: advances () 5

def callbackLibrary : Library Unit := ((Library.init 1 1 [] 1).save_service 7 1 1 none (some ()) none).2

/-- The value 16384 has an encoding as long as its struct. -/
theorem response_paths_agree_on_full_length : ∃ s frame s' out message,
    run (SyncState.step (processProtocol 9)) SyncState.init callSent = some s ∧
    on_recv_process decodeUint32 sevenServices
      (frameBytes 2 1 E_IPC_HV_SOA_MSG_TYPE_METHOD_RESPONSE_SYNC 7 [8, 128, 128, 1]) = some (.completed frame) ∧
    run (SyncState.step (processProtocol 9)) s (SyncState.answering () () frame) = some s' ∧
    (s'.calls ()).stage.decided = some out ∧
    on_recv_process decodeUint32 sevenServices
      (frameBytes 2 1 E_IPC_HV_SOA_MSG_TYPE_METHOD_RESPONSE_ASYNC 7 [8, 128, 128, 1]) = some (.queued message) ∧
    (List.range 4).map (uint32Struct 16384) = [0, 64, 0, 0] ∧ SameResponse out message (uint32Struct 16384) 4 := by
  have hruns : ∃ s ctx, run (step (processProtocol 9)) init callSent = some s ∧
      s.Awaiting () () ctx 1 ∧ (s.calls ()).args.service_id = 7 ∧ (s.calls ()).args.resp = ⟨some fun _ => 0, some 4⟩ :=
    ⟨_, _, rfl, ⟨rfl, rfl, rfl, rfl⟩, rfl, rfl⟩
  obtain ⟨s, ctx, hrun, hawaiting, hservice, hresp⟩ := hruns
  have hserves : Serves sevenServices 7 ⟨7, none, 0, some (), 4⟩ := ⟨_, rfl, rfl⟩
  obtain ⟨frame, s', out, message, hsync, hrun', hstage, hasync, -, hiff⟩ := response_paths_agree_iff hserves
    (uint32Message [8, 128, 128, 1] 16384 (by decide) rfl) () 2 9 hawaiting hservice hresp (by decide)
    (rfl : callbackLibrary.g_client.find_service 7 = some _) (rfl : callbackLibrary.service_async_handler 7 = some ())
  exact ⟨s, frame, s', out, message, hrun, hsync, hrun', by rw [hstage]; rfl, hasync, rfl, hiff.mpr (.inr rfl)⟩

/-- The value 5 has an encoding of two bytes: the synchronous caller gets two bytes of
the struct, the callback all four. -/
theorem response_paths_differ : ∃ s frame s' out message,
    run (SyncState.step (processProtocol 9)) SyncState.init callSent = some s ∧
    on_recv_process decodeUint32 sevenServices
      (frameBytes 2 1 E_IPC_HV_SOA_MSG_TYPE_METHOD_RESPONSE_SYNC 7 [8, 5]) = some (.completed frame) ∧
    run (SyncState.step (processProtocol 9)) s (SyncState.answering () () frame) = some s' ∧
    (s'.calls ()).stage.decided = some out ∧ out.ret = IPC_HV_SOA_RET_SUCCESS ∧ out.resp.len = some 2 ∧
    out.resp.data.map (fun data => (data 0, data 1)) = some (5, 0) ∧
    on_recv_process decodeUint32 sevenServices
      (frameBytes 2 1 E_IPC_HV_SOA_MSG_TYPE_METHOD_RESPONSE_ASYNC 7 [8, 5]) = some (.queued message) ∧
    message.header.msg_len = 4 ∧ (List.range 4).map message.data = [5, 0, 0, 0] :=
  ⟨_, _, _, _, _, rfl, rfl, rfl, rfl, rfl, rfl, rfl, rfl, rfl, rfl⟩

end hub.soa
