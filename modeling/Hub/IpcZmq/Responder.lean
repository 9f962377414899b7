import Hub.Lib.Run
import Hub.Lib.Words
import Mathlib.Data.List.Basic

namespace hub.ipc_zmq

inductive MsgType where
  | SYNC
  | ASYNC
  | NOTIFY
  | STREAM
  | other
deriving DecidableEq

/-- `ipc_zmq_msg_type_e`, as far as `response_worker` tells its values apart. -/
def MsgType.ofCode : Nat → MsgType
  | 1 => .NOTIFY
  | 2 => .SYNC
  | 3 => .ASYNC
  | 5 => .STREAM
  | _ => .other

/-- What `response_worker` reads of `ipc_zmq_msg_baseinfo_t`. -/
structure MsgBaseinfo where
  msg_type : MsgType
  recv_len : Nat

structure RegInfo where
  response_handler : Bool
  notify_handler : Bool
  stream_handler : Bool

abbrev Frame : Type := List UInt8

def sizeofMsgBaseinfo : Nat := 32

/-- What the `memcpy` of a header frame makes of the structure, which is zero before. -/
def MsgBaseinfo.ofFrame (header : Frame) : MsgBaseinfo where
  msg_type := .ofCode (leValue ((header.drop 8).take 4))
  recv_len := leValue ((header.drop 24).take 8)

/-- A REP socket, with the requests that it has answered and the frames that were given to
a handler. -/
structure Rep where
  queue : List (List Frame)
  /-- The request that is being received, with its frames that are left. -/
  current : Option (List Frame × List Frame)
  answered : List (List Frame)
  handled : List (Frame × Frame)

namespace Rep

variable (s : Rep)

/-- `zmq_msg_recv`. It fails while a reply is owed. -/
def recv : Option (Frame × Rep) :=
  match s.current, s.queue with
  | some (request, frame :: rest), _ => some (frame, { s with current := some (request, rest) })
  | none, (frame :: rest) :: queue => some (frame, { s with queue := queue, current := some (frame :: rest, rest) })
  | _, _ => none

def more : Bool :=
  match s.current with
  | some (_, _ :: _) => true
  | _ => false

/-- `zmq_msg_send`. It fails unless all frames of a request have been received. -/
def send : Rep :=
  match s.current with
  | some (request, []) => { s with current := none, answered := s.answered ++ [request] }
  | _ => s

/-- Receives the frames that are left, and sends an empty reply. -/
def error_receive_handle : Rep := send { s with current := s.current.map fun (request, _) => (request, []) }

def handle (header payload : Frame) : Rep := { s with handled := s.handled ++ [(header, payload)] }

end Rep

-- The results hold for every layout of the structure: `decode` and `sizeofBaseinfo` stand
-- for `MsgBaseinfo.ofFrame` and `sizeofMsgBaseinfo`.
variable (decode : Frame → MsgBaseinfo) (sizeofBaseinfo : Nat) (reg_info : RegInfo)

/-- `response_worker` with the outcome of its `calloc`. There is no result when the header
frame does not fit in the structure. -/
def response_worker (s : Rep) (calloc : Bool) : Option Rep :=
  match s.recv with
  | none => some s.error_receive_handle
  | some (header, s) =>
    if sizeofBaseinfo < header.length then none
    else
      -- the function goes on after an error
      let s := if s.more then s else s.error_receive_handle
      match s.recv with
      | none => some s.error_receive_handle
      | some (payload, s) =>
        let msg_baseinfo := decode header
        if reg_info.response_handler ∧ (msg_baseinfo.msg_type = .SYNC ∨ msg_baseinfo.msg_type = .ASYNC) then
          if msg_baseinfo.recv_len ≠ 0 ∧ calloc = false then some s else some (s.handle header payload).send
        else if reg_info.notify_handler ∧ msg_baseinfo.msg_type = .NOTIFY then some (s.handle header payload).send
        else if reg_info.stream_handler ∧ msg_baseinfo.msg_type = .STREAM then some (s.send.handle header payload)
        else some s.send

/-- The socket is ready for the next request, the requests before it have each been answered
once, and the handlers were given frames of one request. -/
structure InStep (requests : List (List Frame)) (s : Rep) : Prop where
  ready : s.current = none
  answered : s.answered ++ s.queue = requests
  handled : ∀ header payload, (header, payload) ∈ s.handled → ∃ rest, header :: payload :: rest ∈ requests

def WellFormed (request : List Frame) : Prop :=
  ∃ header payload, request = [header, payload] ∧ header.length ≤ sizeofBaseinfo

variable {decode sizeofBaseinfo reg_info} {requests : List (List Frame)} {s : Rep}

namespace InStep

variable (h : InStep requests s)

include h

theorem answer {header payload : Frame} {queue : List (List Frame)}
    (hqueue : s.queue = [header, payload] :: queue) {handled : List (Frame × Frame)}
    (hhandled : handled = s.handled ∨ handled = s.handled ++ [(header, payload)]) :
    InStep requests ⟨queue, none, s.answered ++ [[header, payload]], handled⟩ := by
  have hanswered := h.answered
  rw [hqueue] at hanswered
  refine ⟨rfl, by simpa using hanswered, fun first second hmem => ?_⟩
  obtain rfl | rfl := hhandled
  · exact h.handled first second hmem
  · rcases List.mem_append.mp hmem with hold | hnew
    · exact h.handled first second hold
    · cases List.mem_singleton.mp hnew
      exact ⟨[], hanswered ▸ by simp⟩

variable (hframes : ∀ request ∈ requests, WellFormed sizeofBaseinfo request)

include hframes

theorem next (hqueue : s.queue ≠ []) :
    ∃ next, response_worker decode sizeofBaseinfo reg_info s true = some next ∧ InStep requests next ∧
      next.queue.length + 1 = s.queue.length := by
  obtain ⟨request, queue, hcons⟩ := List.exists_cons_of_ne_nil hqueue
  have hmem : request ∈ requests := by
    rw [← h.answered, hcons]
    simp
  obtain ⟨header, payload, rfl, hsize⟩ := hframes request hmem
  have hkept := h.answer hcons (.inl rfl)
  have hhandled := h.answer hcons (.inr rfl)
  simp only [response_worker, Rep.recv, Rep.more, h.ready, hcons, Nat.not_lt.mpr hsize, if_false, if_true,
    Rep.handle, Rep.send, Bool.true_eq_false, and_false]
  split
  · exact ⟨_, rfl, hhandled, rfl⟩
  split
  · exact ⟨_, rfl, hhandled, rfl⟩
  split
  · exact ⟨_, rfl, hhandled, rfl⟩
  · exact ⟨_, rfl, hkept, rfl⟩

theorem of_run {n : Nat} (hn : n ≤ s.queue.length) :
    ∃ last, run (response_worker decode sizeofBaseinfo reg_info) s (List.replicate n true) = some last ∧
      InStep requests last ∧ last.queue.length + n = s.queue.length := by
  induction n generalizing s with
  | zero => exact ⟨s, rfl, h, rfl⟩
  | succ n ih =>
    obtain ⟨next, hnext, hinStep, hlength⟩ := h.next hframes (List.ne_nil_of_length_pos (Nat.zero_lt_of_lt hn))
    obtain ⟨last, hlast, hinStep, hlength'⟩ := ih hinStep (by omega)
    exact ⟨last, run_cons_eq_some.mpr ⟨next, hnext, hlast⟩, hinStep, by omega⟩

end InStep

/-- The responder stays in step, with one request answered in each call, if every request has
a header that fits and one frame of payload, and no `calloc` fails. -/
theorem response_worker_inStep (requests : List (List Frame))
    (hframes : ∀ request ∈ requests, WellFormed sizeofBaseinfo request) (n : Nat) (hn : n ≤ requests.length) :
    ∃ s, run (response_worker decode sizeofBaseinfo reg_info) ⟨requests, none, [], []⟩
      (List.replicate n true) = some s ∧
      InStep requests s ∧ s.queue.length + n = requests.length := by
  have hinit : InStep requests ⟨requests, none, [], []⟩ := ⟨rfl, rfl, fun _ _ hmem => by cases hmem⟩
  exact hinit.of_run hframes hn

def headerOf (msg_type recv_len : Nat) : Frame :=
  leBytes 8 0 ++ leBytes 8 msg_type ++ leBytes 8 0 ++ leBytes 8 recv_len

theorem length_headerOf (msg_type recv_len : Nat) : (headerOf msg_type recv_len).length = 32 := by
  simp [headerOf]

def threeRequests : List (List Frame) := [[headerOf 1 0, [7]], [headerOf 2 4, [8]], [headerOf 5 0, [9]]]

/-- There is no handler for the stream message, which is answered all the same. -/
theorem response_worker_three_requests :
    (run (response_worker .ofFrame sizeofMsgBaseinfo ⟨true, true, false⟩) ⟨threeRequests, none, [], []⟩
        [true, true, true]).map Rep.handled = some [(headerOf 1 0, [7]), (headerOf 2 4, [8])] ∧
      ∃ s, run (response_worker .ofFrame sizeofMsgBaseinfo ⟨true, true, false⟩) ⟨threeRequests, none, [], []⟩
          [true, true, true] = some s ∧ InStep threeRequests s ∧ s.queue.length + 3 = 3 := by
  refine ⟨rfl, response_worker_inStep threeRequests (fun request hmem => ?_) 3 (Nat.le_refl 3)⟩
  simp only [threeRequests, List.mem_cons, List.not_mem_nil, or_false] at hmem
  obtain rfl | rfl | rfl := hmem
  all_goals exact ⟨_, _, rfl, Nat.le_of_eq (length_headerOf _ _)⟩

/-- The request after one that has only a header frame: the handler is given the two headers,
and the socket is left in the middle of the second request. -/
theorem response_worker_out_of_step :
    response_worker .ofFrame sizeofMsgBaseinfo ⟨false, true, false⟩
        ⟨[[headerOf 1 0], [headerOf 2 4, [8]]], none, [], []⟩ true =
      some ⟨[], some ([headerOf 2 4, [8]], [[8]]), [[headerOf 1 0]], [(headerOf 1 0, headerOf 2 4)]⟩ := by
  rfl

end hub.ipc_zmq
