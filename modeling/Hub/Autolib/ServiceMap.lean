import Hub.Lib.FixedArray
import Hub.Lib.Words
import Hub.LocalRegistry.Types

namespace hub.autolib

open local_registry

/-- `st_autolib_servicemap_item`. A message descriptor is of type `F` and may be null. -/
structure ServiceMapItem (F : Type) where
  service_id : UInt32
  in_fields : Option F
  in_size : UInt32
  out_fields : Option F
  out_size : UInt32

/-- `st_autolib_servicemap`. The generator writes the number of the items into
`items_size`, which nobody reads. -/
structure ServiceMap (F : Type) where
  items : List (ServiceMapItem F)

/-- `gst_autolib_servicemap`. A module id that no module has stands for a null pointer up
to the largest id, and nothing stands behind that. -/
abbrev ServiceMaps (F : Type) : Type := List (Option (ServiceMap F))

/-- `pb_decode` into a zeroed struct: the memory of the struct, unless the bytes are not
a message of that type. -/
abbrev PbDecode (F : Type) : Type := Option F → List UInt8 → Option RawMemory

def LOCAL_REGISTRY_MSG_HEADER_SIZE : Nat := 20

def LOCAL_MSG_TYPE_METHOD_RESPONSE_SYNC : UInt32 := 3
def LOCAL_MSG_TYPE_METHOD_RESPONSE_ASYNC : UInt32 := 5

/-- `(st_local_msg_header *)buf`. -/
def recv_msg_header (buf : List UInt8) : StLocalMsgHeader where
  client_id := readWord buf 0
  msg_seqid := readWord buf 1
  msg_type := readWord buf 2
  service_id := readWord buf 3
  msg_len := readWord buf 4

/-- The bytes that the sender copies from its header into the buffer. -/
def headerBytes (header : StLocalMsgHeader) : List UInt8 :=
  wordBytes [header.client_id, header.msg_seqid, header.msg_type, header.service_id, header.msg_len]

theorem recv_msg_header_append (header : StLocalMsgHeader) (body : List UInt8) :
    recv_msg_header (headerBytes header ++ body) = header := by
  simp only [recv_msg_header, headerBytes]
  rw [readWord_wordBytes rfl, readWord_wordBytes rfl, readWord_wordBytes rfl, readWord_wordBytes rfl,
    readWord_wordBytes rfl]

theorem length_headerBytes (header : StLocalMsgHeader) :
    (headerBytes header).length = LOCAL_REGISTRY_MSG_HEADER_SIZE := length_wordBytes _

def module_id (service_id : UInt32) : Nat := (service_id >>> 16).toNat

def msg_id (service_id : UInt32) : Nat := (service_id &&& 0xFFFF).toNat

inductive Received where
  | rejected
  /-- A table was read at an index that it does not have. -/
  | outside
  | received (recv_msg_header : StLocalMsgHeader) (fields_size : UInt32) (pstruct : RawMemory)

/-- The complete frames: the header is there and its `msg_len` is the length of the rest. -/
def LengthChecked (buf : List UInt8) : Prop :=
  LOCAL_REGISTRY_MSG_HEADER_SIZE ≤ buf.length ∧
    UInt32.ofNat buf.length - UInt32.ofNat LOCAL_REGISTRY_MSG_HEADER_SIZE = (recv_msg_header buf).msg_len

instance (buf : List UInt8) : Decidable (LengthChecked buf) := inferInstanceAs (Decidable (_ ∧ _))

section Receive

variable {F : Type}

variable {buf : List UInt8} (response : UInt32 → Bool) (pb_decode : PbDecode F)
  (gst_autolib_servicemap : ServiceMaps F)

/-- The descriptor and the size by which the body is decoded. -/
def fieldsOf (response : UInt32 → Bool) (pitem : ServiceMapItem F) (msg_type : UInt32) : Option F × UInt32 :=
  if response msg_type then (pitem.out_fields, pitem.out_size) else (pitem.in_fields, pitem.in_size)

def decodeBody (pb_decode : PbDecode F) (recv_msg_header : StLocalMsgHeader) (fields : Option F) (fields_size : UInt32)
    (body : List UInt8) : Received :=
  if 0 < recv_msg_header.msg_len then
    if fields_size = 0 then .rejected
    else
      match pb_decode fields (body.take recv_msg_header.msg_len.toNat) with
      | none => .rejected
      | some pstruct => .received recv_msg_header fields_size pstruct
  else .received recv_msg_header fields_size fun _ => 0

/-- The first part of the three handlers, from a frame to the decoded struct. `response`
tells the types of messages that carry the output of a service. -/
def receive (response : UInt32 → Bool) (pb_decode : PbDecode F) (gst_autolib_servicemap : ServiceMaps F)
    (buf : List UInt8) : Received :=
  if buf.length < LOCAL_REGISTRY_MSG_HEADER_SIZE then .rejected
  else
    let recv_msg_header := recv_msg_header buf
    if UInt32.ofNat buf.length - UInt32.ofNat LOCAL_REGISTRY_MSG_HEADER_SIZE ≠ recv_msg_header.msg_len then .rejected
    else
      match elementAt gst_autolib_servicemap (module_id recv_msg_header.service_id) with
      | none => .outside
      | some none => .rejected
      | some (some pmap) =>
        -- the address of an element is never null, so the check of it finds nothing
        match elementAt pmap.items ((msg_id recv_msg_header.service_id : Int) - 1) with
        | none => .outside
        | some pitem =>
          let fields := fieldsOf response pitem recv_msg_header.msg_type
          decodeBody pb_decode recv_msg_header fields.1 fields.2 (buf.drop LOCAL_REGISTRY_MSG_HEADER_SIZE)

/-- The service ids for which the tables have an answer: the module id is one of the
table's, and the message id is one of the module's if there is such a module. -/
def InTables (gst_autolib_servicemap : ServiceMaps F) (service_id : UInt32) : Prop :=
  module_id service_id < gst_autolib_servicemap.length ∧
    ∀ pmap, gst_autolib_servicemap[module_id service_id]? = some (some pmap) →
      1 ≤ msg_id service_id ∧ msg_id service_id ≤ pmap.items.length

theorem decodeBody_ne_outside (header : StLocalMsgHeader) (fields : Option F) (fields_size : UInt32)
    (body : List UInt8) : decodeBody pb_decode header fields fields_size body ≠ .outside := by
  unfold decodeBody
  split
  · split
    · exact Received.noConfusion
    · split
      · exact Received.noConfusion
      · exact Received.noConfusion
  · exact Received.noConfusion

theorem receive_of_lengthChecked (hlength : LengthChecked buf) :
    receive response pb_decode gst_autolib_servicemap buf =
      match gst_autolib_servicemap[module_id (recv_msg_header buf).service_id]? with
      | none => .outside
      | some none => .rejected
      | some (some pmap) =>
        match elementAt pmap.items ((msg_id (recv_msg_header buf).service_id : Int) - 1) with
        | none => .outside
        | some pitem =>
          decodeBody pb_decode (recv_msg_header buf) (fieldsOf response pitem (recv_msg_header buf).msg_type).1
            (fieldsOf response pitem (recv_msg_header buf).msg_type).2 (buf.drop LOCAL_REGISTRY_MSG_HEADER_SIZE) := by
  rw [receive, if_neg (Nat.not_lt.mpr hlength.1), if_neg (not_not.mpr hlength.2), elementAt_ofNat]

theorem receive_of_not_lengthChecked (hlength : ¬LengthChecked buf) :
    receive response pb_decode gst_autolib_servicemap buf = .rejected := by
  unfold receive
  split
  · rfl
  · rename_i hheader
    exact if_pos fun hlen => hlength ⟨Nat.not_lt.mp hheader, hlen⟩

theorem receive_eq_outside_iff (buf : List UInt8) :
    receive response pb_decode gst_autolib_servicemap buf = .outside ↔
      LengthChecked buf ∧ ¬InTables gst_autolib_servicemap (recv_msg_header buf).service_id := by
  by_cases hlength : LengthChecked buf
  · rw [receive_of_lengthChecked response pb_decode gst_autolib_servicemap hlength]
    simp only [hlength, true_and, InTables]
    cases hmodule : gst_autolib_servicemap[module_id (recv_msg_header buf).service_id]? with
    | none =>
      rw [List.getElem?_eq_none_iff] at hmodule
      simp only [true_iff]
      omega
    | some entry =>
      obtain ⟨hin, -⟩ := List.getElem?_eq_some_iff.mp hmodule
      cases entry with
      | none => simp [hin]
      | some pmap =>
        have hitem := @elementAt_eq_none_iff _ pmap.items ((msg_id (recv_msg_header buf).service_id : Int) - 1)
        cases hread : elementAt pmap.items ((msg_id (recv_msg_header buf).service_id : Int) - 1) with
        | none =>
          have hout := hitem.mp hread
          simp only [hread, true_iff, hin, true_and, Option.some.injEq, forall_eq']
          omega
        | some pitem =>
          have hinside := mt hitem.mpr (hread ▸ Option.some_ne_none pitem)
          simp only [hread, decodeBody_ne_outside, false_iff, hin, true_and, Option.some.injEq, forall_eq']
          omega
  · rw [receive_of_not_lengthChecked response pb_decode gst_autolib_servicemap hlength]
    simp [hlength]

def Serves (gst_autolib_servicemap : ServiceMaps F) (service_id : UInt32) (pitem : ServiceMapItem F) : Prop :=
  ∃ pmap, gst_autolib_servicemap[module_id service_id]? = some (some pmap) ∧
    elementAt pmap.items ((msg_id service_id : Int) - 1) = some pitem

variable (client_id msg_seqid msg_type service_id : UInt32)

/-- A frame with its body, as `send_msg_to_process` writes it. -/
def frameBytes (body : List UInt8) : List UInt8 :=
  headerBytes ⟨client_id, msg_seqid, msg_type, service_id, UInt32.ofNat body.length⟩ ++ body

theorem lengthChecked_frameBytes (body : List UInt8) :
    LengthChecked (frameBytes client_id msg_seqid msg_type service_id body) := by
  have hlength : (frameBytes client_id msg_seqid msg_type service_id body).length =
      LOCAL_REGISTRY_MSG_HEADER_SIZE + body.length := by
    rw [frameBytes, List.length_append, length_headerBytes]
  refine ⟨by rw [hlength]; exact Nat.le_add_right _ _, ?_⟩
  rw [hlength, UInt32.ofNat_add, frameBytes, recv_msg_header_append]
  rw [UInt32.add_comm]
  exact UInt32.add_sub_cancel ..

end Receive

end hub.autolib
