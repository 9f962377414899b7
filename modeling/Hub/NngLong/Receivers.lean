import Hub.NngLong.MessagePair
import Hub.NngLong.Multicast

namespace hub.nng_long

def D_IPC_NNG_LONG_SOCKET_ADDRESS_LEN_MAX : Nat := 256

/-- The sockets that receive with `nng_socket_recv`: two of the daemon, two of a client. -/
inductive Receiver where
  | sock_rep
  | sock_pair
  | server
  | sock_sub

inductive Delivery where
  /-- `nng_aio_result` is an error; `closed` for the three after which a pair socket of the
  daemon does not receive again. -/
  | failed (closed : Bool)
  | absent
  | short
  | msg (recv_msg : Msg)

/-- `ipc_nng_long_map_item_t`: which handlers were registered, and the slots. -/
structure MapItem where
  response_handler : Bool
  stream_handler : Bool
  async_handler : Bool
  msg_pair : List (MessagePair Unit)

/-- A run of a receive callback: what it finds, the modules of the process at that time, and
whether `calloc` has the memory that it asks for. -/
structure Arrival where
  delivery : Delivery
  g_ipc_clients_map : UInt32 → Option MapItem
  calloc : Bool

inductive Received where
  /-- `nng_socket_recv` is called again; `handled` if the message was past the checks. -/
  | again (handled : Bool)
  | silent
  /-- Something outside of an object, or through a null pointer, is read, written or called. -/
  | undefined
deriving DecidableEq

namespace Receiver

def tested (defined : Bool) : Received := if defined then .again true else .undefined

/-- `reg_item->address` after the `memcpy`, where that stays inside of both objects. -/
def address (recv_msg : Msg) : Option (List UInt8) :=
  if recv_msg.baseinfo.send_len ≤ recv_msg.data.length ∧
      recv_msg.baseinfo.send_len ≤ D_IPC_NNG_LONG_SOCKET_ADDRESS_LEN_MAX then
    some (recv_msg.data.take recv_msg.baseinfo.send_len ++
      List.replicate (D_IPC_NNG_LONG_SOCKET_ADDRESS_LEN_MAX - recv_msg.baseinfo.send_len) 0)
  else none

/-- How `rep_sock_recv_cb` ends. The address is used as a string. -/
def repEnds : Delivery → Received
  | .failed _ | .absent | .short => .silent
  | .msg recv_msg =>
    if recv_msg.baseinfo.msg_type = .CONN then tested ((address recv_msg).any (·.contains 0)) else .again true

/-- The loop over `module_array` from index `i` on, with the turns that `num` leaves: whether
it stays inside of the array. -/
def loopInside (dest : McastDest) : Nat → Nat → Bool
  | 0, _ => true
  | turns + 1, i =>
    match dest.module_array.toList[i]? with
    | none => false
    | some module_id => D_IPC_NNG_LONG_CHECK_MODULE_ID_INVALID module_id || loopInside dest turns (i + 1)

def pairEnds : Delivery → Received
  | .failed closed => if closed then .silent else .again false
  | .absent | .short => .again false
  | .msg recv_msg =>
    if recv_msg.baseinfo.tag ≠ D_IPC_NNG_LONG_MSG_TAG then .again false
    else if recv_msg.baseinfo.msg_type = .MULT_REQ then
      let mcast_dest := McastDest.ofBytes recv_msg.data
      tested (McastDest.sizeof ≤ recv_msg.data.length && loopInside mcast_dest mcast_dest.num.toNat 0)
    else .again true

/-- Whether what `server_cb_recv` does with a message for a module is defined. The handlers are
called without a test, the first of them also when there is no memory for its response. -/
def itemDefined (item : MapItem) (calloc : Bool) (recv_msg : Msg) : Bool :=
  match recv_msg.baseinfo.msg_type with
  | .REQ | .ASYNC_REQ => item.response_handler && (recv_msg.baseinfo.recv_len = 0 || calloc)
  | .STREAM_REQ | .MULT_REQ => item.stream_handler
  | .REP | .STREAM_REP | .MULT_REP =>
    match item.msg_pair.find? (·.event_id = recv_msg.baseinfo.event_id) with
    | none => true
    | some pair =>
      -- `out_data_size` bytes are copied, not those that came
      recv_msg.baseinfo.result ≠ 0 || pair.out_data_size < recv_msg.baseinfo.recv_len || pair.out_data.isNone ||
        pair.out_data_size ≤ recv_msg.data.length
  | .ASYNC_REP => item.async_handler || (item.msg_pair.find? (·.event_id = recv_msg.baseinfo.event_id)).isNone
  | _ => true

/-- The module whose item `server_cb_recv` looks up: that of a request is the receiver. -/
def lookedUp (recv_msg : Msg) : UInt32 :=
  match recv_msg.baseinfo.msg_type with
  | .REQ | .ASYNC_REQ | .STREAM_REQ | .MULT_REQ => recv_msg.baseinfo.dest_id
  | _ => recv_msg.baseinfo.src_id

def serverEnds (arrival : Arrival) : Received :=
  match arrival.delivery with
  | .failed _ => .silent
  | .absent | .short => .again false
  | .msg recv_msg =>
    if recv_msg.baseinfo.tag ≠ D_IPC_NNG_LONG_MSG_TAG then .again false
    else tested ((arrival.g_ipc_clients_map (lookedUp recv_msg)).all (itemDefined · arrival.calloc recv_msg))

/-- How `sub_sock_recv_cb` ends. It tests the handlers. -/
def subEnds : Delivery → Received
  | .failed _ | .absent | .short => .silent
  | .msg recv_msg => if recv_msg.baseinfo.tag = D_IPC_NNG_LONG_MSG_TAG then .again true else .silent

def callback (receiver : Receiver) (arrival : Arrival) : Received :=
  match receiver with
  | sock_rep => repEnds arrival.delivery
  | sock_pair => pairEnds arrival.delivery
  | server => serverEnds arrival
  | sock_sub => subEnds arrival.delivery

/-- Whether a receive is pending, and the messages that were handled. -/
structure Inbox where
  pending : Bool
  handled : List Msg

variable (receiver : Receiver) (arrivals : List Arrival)

def due (arrival : Arrival) : List Msg :=
  match receiver.callback arrival, arrival.delivery with
  | .again true, .msg recv_msg => [recv_msg]
  | _, _ => []

/-- A message arrives. While no receive is pending nobody takes it, and nothing is known of a
process after undefined behaviour. -/
def arrive (s : Inbox) (arrival : Arrival) : Inbox :=
  if s.pending then
    match receiver.callback arrival with
    | .again _ => ⟨true, s.handled ++ receiver.due arrival⟩
    | .silent | .undefined => ⟨false, s.handled⟩
  else s

/-- A receive is still pending after the messages, and all that had to be handled were. -/
def StaysOpen : Prop := arrivals.foldl receiver.arrive ⟨true, []⟩ = ⟨true, arrivals.flatMap receiver.due⟩

/-- What a callback has to find to receive again. -/
def Tolerates (arrival : Arrival) : Prop :=
  match receiver with
  | sock_rep => ∃ recv_msg, arrival.delivery = .msg recv_msg ∧
      (recv_msg.baseinfo.msg_type = .CONN → recv_msg.baseinfo.send_len ≤ recv_msg.data.length ∧
        (recv_msg.baseinfo.send_len < 256 ∨
          recv_msg.baseinfo.send_len = 256 ∧ 0 ∈ recv_msg.data.take recv_msg.baseinfo.send_len))
  | sock_pair => arrival.delivery ≠ .failed true ∧
      ∀ recv_msg, arrival.delivery = .msg recv_msg → recv_msg.baseinfo.tag = D_IPC_NNG_LONG_MSG_TAG →
        recv_msg.baseinfo.msg_type = .MULT_REQ → 16 ≤ recv_msg.data.length ∧
          ((McastDest.ofBytes recv_msg.data).num ≤ 3 ∨
            ∃ module_id ∈ (McastDest.ofBytes recv_msg.data).module_array.toList,
              D_IPC_NNG_LONG_CHECK_MODULE_ID_INVALID module_id)
  | server => (∀ closed, arrival.delivery ≠ .failed closed) ∧
      ∀ recv_msg item, arrival.delivery = .msg recv_msg → recv_msg.baseinfo.tag = D_IPC_NNG_LONG_MSG_TAG →
        arrival.g_ipc_clients_map (lookedUp recv_msg) = some item →
        itemDefined item arrival.calloc recv_msg
  | sock_sub => ∃ recv_msg, arrival.delivery = .msg recv_msg ∧ recv_msg.baseinfo.tag = D_IPC_NNG_LONG_MSG_TAG

theorem tested_eq_again {defined : Bool} : (∃ handled, tested defined = .again handled) ↔ defined = true := by
  cases defined <;> simp [tested]

theorem address_terminated_iff {recv_msg : Msg} :
    (address recv_msg).any (·.contains 0) = true ↔
      recv_msg.baseinfo.send_len ≤ recv_msg.data.length ∧
        (recv_msg.baseinfo.send_len < 256 ∨
          recv_msg.baseinfo.send_len = 256 ∧ 0 ∈ recv_msg.data.take recv_msg.baseinfo.send_len) := by
  unfold address
  split
  · rename_i hfits
    simp only [D_IPC_NNG_LONG_SOCKET_ADDRESS_LEN_MAX] at hfits ⊢
    simp only [Option.any_some, List.contains_eq_mem, List.mem_append, List.mem_replicate, decide_eq_true_eq]
    by_cases hmem : 0 ∈ recv_msg.data.take recv_msg.baseinfo.send_len
    · simp only [hmem, true_or, and_true, true_iff]
      omega
    · simp only [hmem, false_or, and_false, or_false, and_true]
      omega
  · rename_i hfits
    simp only [D_IPC_NNG_LONG_SOCKET_ADDRESS_LEN_MAX] at hfits
    simp only [Option.any_none, Bool.false_eq_true, false_iff]
    omega

theorem loopInside_iff (dest : McastDest) (turns i : Nat) (hi : i ≤ 3) :
    loopInside dest turns i = true ↔ i + turns ≤ 3 ∨
      ∃ module_id ∈ dest.module_array.toList.drop i, D_IPC_NNG_LONG_CHECK_MODULE_ID_INVALID module_id = true := by
  have hlength : dest.module_array.toList.length = 3 := Vector.length_toList
  induction turns generalizing i with
  | zero => simp [loopInside, hi]
  | succ turns ih =>
    rw [loopInside]
    by_cases hlt : i < 3
    · have hinside : i < dest.module_array.toList.length := by omega
      have hrest := ih (i + 1) hlt
      rw [show i + 1 + turns = i + (turns + 1) by omega] at hrest
      rw [List.getElem?_eq_getElem hinside, List.drop_eq_getElem_cons hinside, List.exists_mem_cons_iff]
      simp only [Bool.or_eq_true, hrest]
      tauto
    · have hnone : dest.module_array.toList[i]? = none := List.getElem?_eq_none (by omega)
      rw [hnone, List.drop_eq_nil_of_le (by omega)]
      simp
      omega

variable {receiver}

theorem again_iff {arrival : Arrival} :
    (∃ handled, receiver.callback arrival = .again handled) ↔ receiver.Tolerates arrival := by
  obtain ⟨delivery, clients, calloc⟩ := arrival
  cases receiver with
  | sock_rep =>
    cases delivery with
    | failed | absent | short => simp [callback, repEnds, Tolerates]
    | msg recv_msg =>
      simp only [callback, repEnds, Tolerates, Delivery.msg.injEq, exists_eq_left']
      split
      · rename_i hconn
        rw [tested_eq_again, address_terminated_iff]
        simp only [hconn, true_implies]
      · rename_i hconn
        simp [hconn]
  | sock_pair =>
    cases delivery with
    | failed closed => cases closed <;> simp [callback, pairEnds, Tolerates]
    | absent | short => simp [callback, pairEnds, Tolerates]
    | msg recv_msg =>
      simp only [callback, pairEnds, Tolerates, Delivery.msg.injEq, forall_eq']
      by_cases htag : recv_msg.baseinfo.tag = D_IPC_NNG_LONG_MSG_TAG
      · by_cases hmult : recv_msg.baseinfo.msg_type = .MULT_REQ
        · simp only [htag, hmult, ne_eq, not_true_eq_false, if_false, if_true, true_implies, tested_eq_again,
            Bool.and_eq_true, decide_eq_true_eq, loopInside_iff _ _ 0 (Nat.zero_le 3), List.drop_zero, Nat.zero_add,
            UInt32.le_iff_toNat_le]
          simp [McastDest.sizeof]
        · simp [htag, hmult]
      · simp [htag]
  | server =>
    cases delivery with
    | failed | absent | short => simp [callback, serverEnds, Tolerates]
    | msg recv_msg =>
      simp only [callback, serverEnds, Tolerates, Delivery.msg.injEq]
      by_cases htag : recv_msg.baseinfo.tag = D_IPC_NNG_LONG_MSG_TAG
      · simp only [htag, ne_eq, not_true_eq_false, if_false, tested_eq_again, Option.all_eq_true]
        refine ⟨fun h => ⟨by simp, ?_⟩, fun h item hitem => h.2 recv_msg item rfl htag hitem⟩
        rintro _ item rfl - hitem
        exact h item hitem
      · rw [if_pos htag]
        refine iff_of_true ⟨false, rfl⟩ ⟨by simp, ?_⟩
        rintro _ item rfl htag'
        exact absurd htag' htag
  | sock_sub =>
    cases delivery with
    | failed | absent | short => simp [callback, subEnds, Tolerates]
    | msg recv_msg =>
      simp only [callback, subEnds, Tolerates, Delivery.msg.injEq, exists_eq_left']
      split <;> simp [*]

theorem foldl_closed {s : Inbox} (hs : s.pending = false) : arrivals.foldl receiver.arrive s = s := by
  induction arrivals with
  | nil => rfl
  | cons arrival arrivals ih => rw [List.foldl_cons, arrive, if_neg (by rw [hs]; decide), ih]

theorem foldl_arrive_iff (handled : List Msg) :
    arrivals.foldl receiver.arrive ⟨true, handled⟩ = ⟨true, handled ++ arrivals.flatMap receiver.due⟩ ↔
      ∀ arrival ∈ arrivals, receiver.Tolerates arrival := by
  induction arrivals generalizing handled with
  | nil => simp
  | cons arrival arrivals ih =>
    rw [List.foldl_cons, arrive, if_pos rfl, List.flatMap_cons, ← List.append_assoc, List.forall_mem_cons, ← again_iff]
    cases hends : receiver.callback arrival with
    | again done => simp only [ih, Received.again.injEq, exists_eq', true_and]
    | silent | undefined =>
      rw [foldl_closed arrivals rfl]
      simp

def atDaemon (delivery : Delivery) : Arrival := ⟨delivery, fun _ => none, true⟩

end Receiver

end hub.nng_long
