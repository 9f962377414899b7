import Hub.Soa.LibrarySteps

namespace hub.soa

open local_registry Library

variable {φ : Type}

/-- A call of `ipc_hv_soa_method_async` that was not refused. `sent` says that its request
was written. -/
structure AsyncRequest (φ : Type) where
  service_id : UInt32
  provider : UInt32
  msg_seqid : UInt32
  async_cb : Option φ
  sent : Bool

/-- The header of the response, which `ipc_hv_soa_method_complete` of the provider sends. -/
def AsyncRequest.response (request : AsyncRequest φ) (msg_len : UInt32) (data : Nat → UInt8) : SyncMessage where
  header :=
    { client_id := request.provider
      msg_seqid := request.msg_seqid
      msg_type := E_IPC_HV_SOA_MSG_TYPE_METHOD_RESPONSE_ASYNC
      service_id := request.service_id
      msg_len := msg_len }
  data := data

/-- A process with its asynchronous requests and the responses that have arrived, each
with the request that it answers. The first `handled` responses have been through
`process_msg_handler`. -/
structure AsyncState (φ : Type) where
  lib : Library φ
  requests : List (AsyncRequest φ)
  received : List (Nat × SyncMessage)
  handled : Nat

inductive AsyncEvent (φ : Type) where
  | request (service_id : UInt32) (async_cb : Option φ) (replies : Replies) (sent : Bool)
  | respond (n : Nat) (msg_len : UInt32) (data : Nat → UInt8)
  | handle
  | other (event : LibraryEvent φ)

def SyncMessage.IsAsyncResponse (message : SyncMessage) : Prop :=
  message.header.msg_type = E_IPC_HV_SOA_MSG_TYPE_METHOD_RESPONSE_ASYNC

instance : DecidablePred SyncMessage.IsAsyncResponse :=
  fun message => inferInstanceAs (Decidable (message.header.msg_type = _))

/-- The daemon answers for the service that it is asked about. -/
def Replies.Answers (replies : Replies) (service_id : UInt32) : Prop :=
  ∀ resp ∈ replies.get_service, resp.service.service_id = service_id

instance (replies : Replies) (service_id : UInt32) : Decidable (replies.Answers service_id) :=
  inferInstanceAs (Decidable (∀ resp ∈ replies.get_service, resp.service.service_id = service_id))

/-- The events that are neither asynchronous requests nor their responses. -/
def LibraryEvent.IsOther : LibraryEvent φ → Prop
  | .method_async .. => False
  | .recv_process message => ¬ message.IsAsyncResponse
  | .handle => False
  | _ => True

instance : DecidablePred (LibraryEvent.IsOther (φ := φ))
  | .method_async .. => .isFalse id
  | .recv_process message => inferInstanceAs (Decidable (¬ message.IsAsyncResponse))
  | .handle => .isFalse id
  | .call .. | .method_notify .. | .method_sync .. | .draw _ | .connect _ | .accept .. | .recv_daemon _
  | .self_status _ | .close => .isTrue trivial

namespace AsyncState

def init (lib : Library φ) : AsyncState φ where
  lib := lib
  requests := []
  received := []
  handled := 0

/-- One event. The provider responds to requests that were sent, in any order. -/
def step (s : AsyncState φ) : AsyncEvent φ → Option (AsyncState φ)
  | .request service_id async_cb replies sent =>
    if replies.Answers service_id then
      match s.lib.method_async service_id async_cb replies with
      | (none, lib) => some { s with lib := lib }
      | (some (provider, msg_seqid), lib) =>
        some
          { s with
            lib := lib
            requests := s.requests ++ [⟨service_id, provider.client_id, msg_seqid, async_cb, sent⟩] }
    else none
  | .respond n msg_len data =>
    match s.requests[n]? with
    | none => none
    | some request =>
      if request.sent then
        some
          { s with
            lib := s.lib.on_recv_process (request.response msg_len data)
            received := s.received ++ [(n, request.response msg_len data)] }
      else none
  | .handle =>
    s.lib.process_msg_handler.map fun lib =>
      { s with
        lib := lib
        handled := if ∃ message ∈ s.lib.msg_handler_queue.head?, message.IsAsyncResponse
          then s.handled + 1 else s.handled }
  | .other event => if event.IsOther then (s.lib.step event).map fun lib => { s with lib := lib } else none

def own (requests : List (AsyncRequest φ)) (response : Nat × SyncMessage) : Option (φ × SyncMessage) :=
  (requests[response.1]?.bind AsyncRequest.async_cb).map fun async_cb => (async_cb, response.2)

end AsyncState

/-- The function that was called for a response, with the response. -/
def Invocation.delivery : Invocation φ → Option (φ × SyncMessage)
  | .async_response async_cb message => some (async_cb, message)
  | _ => none

namespace AsyncState

/-- Every response that has been handled was delivered once, to the function that was
passed with its own request, unless that is null. -/
def DeliversOwn (s : AsyncState φ) : Prop :=
  s.lib.invoked.filterMap Invocation.delivery = (s.received.take s.handled).filterMap (own s.requests)

def lastOn (requests : List (AsyncRequest φ)) (service_id : UInt32) : Option (AsyncRequest φ) :=
  requests.reverse.find? fun request => request.service_id = service_id

/-- When a response is handled, the last request for its service has passed the same
function as the request that it answers. -/
def LastPassedOwn (s : AsyncState φ) : AsyncEvent φ → Prop
  | .handle =>
    ∀ message ∈ s.lib.msg_handler_queue.head?, message.IsAsyncResponse →
      ∀ n answered last, s.received[s.handled]? = some (n, message) → s.requests[n]? = some answered →
        lastOn s.requests answered.service_id = some last → last.async_cb = answered.async_cb
  | _ => True

/-- What all runs keep: the function of a service is that of the last request, and the
responses that wait in the queue are those that are not handled yet. -/
structure Sound (s : AsyncState φ) : Prop where
  filed : s.lib.Filed
  handler : ∀ service_id, s.lib.service_async_handler service_id =
    (lastOn s.requests service_id).bind AsyncRequest.async_cb
  answers : ∀ response ∈ s.received, ∃ answered, s.requests[response.1]? = some answered ∧
    response.2.header.service_id = answered.service_id
  handled_le : s.handled ≤ s.received.length
  queued : (s.received.drop s.handled).map Prod.snd = s.lib.msg_handler_queue.filter (·.IsAsyncResponse)

end AsyncState

namespace Library

variable {lib next : Library φ}

theorem daemonInvocations_delivery (payload : Payload) :
    (lib.daemonInvocations payload).filterMap Invocation.delivery = [] := by
  rw [List.filterMap_eq_nil_iff]
  intro invocation hmem
  unfold daemonInvocations at hmem
  split at hmem
  · split at hmem
    · split at hmem
      · cases List.mem_singleton.mp hmem
        rfl
      · cases hmem
    · cases hmem
  · split at hmem
    · split at hmem
      · obtain ⟨_, _, rfl⟩ := List.mem_map.mp hmem
        rfl
      · cases hmem
    · cases hmem
  · cases hmem

theorem messageInvocations_delivery (hfiled : lib.Filed) (message : SyncMessage) :
    (lib.messageInvocations message).filterMap Invocation.delivery =
      if message.IsAsyncResponse then
        ((lib.service_async_handler message.header.service_id).map fun async_cb => (async_cb, message)).toList
      else [] := by
  unfold messageInvocations
  cases hfind : lib.g_client.find_service message.header.service_id with
  | none =>
    rw [(hfiled.bare _ hfind).2]
    simp
  | some it =>
    dsimp only
    split
    · rename_i hrequest
      have hresponse : ¬ message.IsAsyncResponse := by
        intro hresponse
        rw [SyncMessage.IsAsyncResponse] at hresponse
        rw [hresponse] at hrequest
        exact absurd hrequest (by decide)
      rw [if_neg hresponse]
      cases lib.service_handler message.header.service_id <;> rfl
    · split
      · rename_i _ hresponse
        rw [if_pos (show message.IsAsyncResponse from hresponse)]
        cases lib.service_async_handler message.header.service_id <;> rfl
      · rename_i _ hresponse
        rw [if_neg (show ¬ message.IsAsyncResponse from hresponse)]
        split
        · cases lib.service_handler message.header.service_id <;> rfl
        · rfl

theorem asyncAfter_method_async {service_id : UInt32} {async_cb : Option φ} {replies : Replies} (hfiled : lib.Filed)
    (hanswers : replies.Answers service_id) :
    lib.asyncAfter (.method_async service_id async_cb replies) =
      if (lib.method_async service_id async_cb replies).1.isSome then
        Function.update lib.service_async_handler service_id async_cb
      else lib.service_async_handler := by
  rw [method_async, asyncAfter]
  rcases lib.method_request_cases service_id replies (fun it lib => lib.setAsyncHandler it.service_id async_cb) with
    ⟨hnone, hrefused⟩ | ⟨it, next, provider, hget, hprovider, hrequest⟩
  · rw [hrefused, Option.isSome_none, if_neg Bool.false_ne_true]
    split
    · rename_i it _ hget
      rw [hnone it (by rw [hget]; rfl), Option.isSome_none, if_neg Bool.false_ne_true]
    · rfl
  · have hid : it.service_id = service_id := by
      rcases (get_service_find hfiled hget).2 with hid | ⟨resp, hresp, hid⟩
      · exact hid
      · exact hid.trans (hanswers resp hresp)
    rw [hrequest, Option.isSome_some, if_pos rfl, hget]
    dsimp only
    rw [hprovider, Option.isSome_some, if_pos rfl, hid]

end Library

namespace AsyncState

section Steps

variable {s next : AsyncState φ}

theorem lastOn_append (requests : List (AsyncRequest φ)) (request : AsyncRequest φ) (service_id : UInt32) :
    lastOn (requests ++ [request]) service_id =
      if request.service_id = service_id then some request else lastOn requests service_id := by
  simp only [lastOn, List.reverse_append, List.reverse_singleton, List.singleton_append, List.find?_cons]
  split <;> simp_all

variable {lib : Library φ} {message : SyncMessage} {service_id : UInt32} {async_cb : Option φ}
  {replies : Replies} {sent : Bool}

theorem deliveries_eq_iff {async_cb other : Option φ} :
    (async_cb.map fun async_cb => (async_cb, message)).toList = (other.map fun async_cb => (async_cb, message)).toList ↔
      async_cb = other := by
  cases async_cb <;> cases other <;> simp

theorem Sound.deliversOwn_iff (h : s.Sound) (more : List (AsyncRequest φ))
    (hrequests : next.requests = s.requests ++ more)
    (hreceived : next.received.take next.handled = s.received.take s.handled)
    (hinvoked : next.lib.invoked.filterMap Invocation.delivery = s.lib.invoked.filterMap Invocation.delivery) :
    next.DeliversOwn ↔ s.DeliversOwn := by
  have hown : (s.received.take s.handled).filterMap (own next.requests) =
      (s.received.take s.handled).filterMap (own s.requests) := by
    refine List.filterMap_congr fun response hmem => ?_
    rw [hrequests]
    obtain ⟨answered, hanswered, _⟩ := h.answers response ((List.mem_of_mem_take hmem))
    have hlt := (List.getElem?_eq_some_iff.mp hanswered).1
    rw [own, own, List.getElem?_append_left hlt]
  rw [DeliversOwn, DeliversOwn, hreceived, hinvoked, hown]

theorem step_request (hstep : s.step (.request service_id async_cb replies sent) = some next) :
    replies.Answers service_id ∧ next.lib = (s.lib.method_async service_id async_cb replies).2 ∧
      next.received = s.received ∧ next.handled = s.handled ∧
      next.requests = s.requests ++ ((s.lib.method_async service_id async_cb replies).1.map fun request =>
        ⟨service_id, request.1.client_id, request.2, async_cb, sent⟩).toList := by
  obtain ⟨hanswers, hnext⟩ := Option.ite_none_right_eq_some.mp hstep
  refine ⟨hanswers, ?_⟩
  rcases hrequest : s.lib.method_async service_id async_cb replies with ⟨_ | ⟨provider, msg_seqid⟩, lib⟩
  · rw [hrequest] at hnext
    cases hnext
    exact ⟨rfl, rfl, rfl, (List.append_nil _).symm⟩
  · rw [hrequest] at hnext
    cases hnext
    exact ⟨rfl, rfl, rfl, rfl⟩

theorem Sound.request (h : s.Sound) (hstep : s.step (.request service_id async_cb replies sent) = some next) :
    next.Sound ∧ (next.DeliversOwn ↔ s.DeliversOwn) := by
  obtain ⟨hanswers, hlib, hreceived, hhandled, hrequests⟩ := step_request hstep
  have hhandles := s.lib.method_async_handles service_id async_cb replies h.filed
  have hasync := hhandles.service_async_handler
  rw [asyncAfter_method_async h.filed hanswers] at hasync
  rw [← hlib] at hhandles hasync
  refine ⟨⟨hhandles.filed, ?_, ?_, ?_, ?_⟩, h.deliversOwn_iff _ hrequests ?_ ?_⟩
  · intro other
    rw [hasync, hrequests]
    cases (s.lib.method_async service_id async_cb replies).1 with
    | none =>
      rw [Option.map_none, Option.toList_none, List.append_nil, Option.isSome_none, if_neg Bool.false_ne_true]
      exact h.handler other
    | some request =>
      rw [Option.map_some, Option.toList_some, lastOn_append, Option.isSome_some, if_pos rfl]
      by_cases hother : other = service_id
      · rw [hother, Function.update_self, if_pos rfl, Option.bind_some]
      · rw [Function.update_of_ne hother, if_neg (Ne.symm hother)]
        exact h.handler other
  · intro response hmem
    rw [hreceived] at hmem
    obtain ⟨answered, hanswered, hid⟩ := h.answers response hmem
    have hlt := (List.getElem?_eq_some_iff.mp hanswered).1
    exact ⟨answered, by rw [hrequests, List.getElem?_append_left hlt, hanswered], hid⟩
  · rw [hhandled, hreceived]
    exact h.handled_le
  · rw [hhandled, hreceived, hhandles.queue]
    exact h.queued
  · rw [hreceived, hhandled]
  · rw [hhandles.invoked, show s.lib.invocations _ = [] from rfl, List.append_nil]

variable {n : Nat}

theorem Sound.respond {msg_len : UInt32} {data : Nat → UInt8} (h : s.Sound)
    (hstep : s.step (.respond n msg_len data) = some next) : next.Sound ∧ (next.DeliversOwn ↔ s.DeliversOwn) := by
  simp only [AsyncState.step] at hstep
  cases hanswered : s.requests[n]? with
  | none => simp [hanswered] at hstep
  | some answered =>
    rw [hanswered] at hstep
    obtain ⟨_, hnext⟩ := Option.ite_none_right_eq_some.mp hstep
    cases hnext
    have hhandles := s.lib.recv_process_handles (answered.response msg_len data) h.filed
    refine ⟨⟨hhandles.filed, ?_, ?_, ?_, ?_⟩, h.deliversOwn_iff [] (List.append_nil _).symm ?_ ?_⟩
    · intro other
      rw [hhandles.service_async_handler]
      exact h.handler other
    · intro response hmem
      rcases List.mem_append.mp hmem with hold | hnew
      · exact h.answers response hold
      · cases List.mem_singleton.mp hnew
        exact ⟨answered, hanswered, rfl⟩
    · rw [List.length_append]
      exact Nat.le_add_right_of_le h.handled_le
    · have hasync : (answered.response msg_len data).header.msg_type ≠
          E_IPC_HV_SOA_MSG_TYPE_METHOD_RESPONSE_SYNC := by
        show E_IPC_HV_SOA_MSG_TYPE_METHOD_RESPONSE_ASYNC ≠ _
        decide
      rw [hhandles.queue, queueAfter, if_pos hasync, List.drop_append_of_le_length h.handled_le,
        List.map_append, h.queued, List.filter_append]
      rfl
    · exact List.take_append_of_le_length h.handled_le
    · rw [hhandles.invoked, show s.lib.invocations _ = [] from rfl, List.append_nil]

variable {event : LibraryEvent φ}

theorem invocations_other (hother : event.IsOther) :
    (lib.invocations event).filterMap Invocation.delivery = [] := by
  cases event with
  | recv_daemon payload => exact lib.daemonInvocations_delivery payload
  | handle => exact hother.elim
  | _ => rfl

theorem queueAfter_other (hother : event.IsOther) :
    (lib.queueAfter event).filter (·.IsAsyncResponse) = lib.msg_handler_queue.filter (·.IsAsyncResponse) := by
  cases event with
  | recv_process message =>
    rw [queueAfter]
    split
    · rw [List.filter_append,
        List.filter_cons_of_neg (by simpa [LibraryEvent.IsOther] using hother), List.filter_nil,
        List.append_nil]
    · rfl
  | handle => exact hother.elim
  | _ => rfl

theorem asyncAfter_other (hother : event.IsOther) :
    lib.asyncAfter event = lib.service_async_handler := by
  cases event with
  | method_async _ _ _ => exact hother.elim
  | _ => rfl

theorem Sound.other (h : s.Sound) (hstep : s.step (.other event) = some next) :
    next.Sound ∧ (next.DeliversOwn ↔ s.DeliversOwn) := by
  obtain ⟨hother, hnext⟩ := Option.ite_none_right_eq_some.mp hstep
  obtain ⟨lib, hlib, rfl⟩ := Option.map_eq_some_iff.mp hnext
  have hhandles := step_handles h.filed hlib
  refine ⟨⟨hhandles.filed, ?_, h.answers, h.handled_le, ?_⟩, h.deliversOwn_iff [] (List.append_nil _).symm rfl ?_⟩
  · intro service_id
    rw [hhandles.service_async_handler, asyncAfter_other hother]
    exact h.handler service_id
  · rw [hhandles.queue, queueAfter_other hother]
    exact h.queued
  · rw [hhandles.invoked, List.filterMap_append, invocations_other hother, List.append_nil]

theorem step_handle (hstep : s.step .handle = some next) :
    ∃ message rest, s.lib.msg_handler_queue = message :: rest ∧ s.lib.step .handle = some next.lib ∧
      next.requests = s.requests ∧ next.received = s.received ∧
      next.handled = if message.IsAsyncResponse then s.handled + 1 else s.handled := by
  obtain ⟨lib, hlib, rfl⟩ := Option.map_eq_some_iff.mp hstep
  cases hqueue : s.lib.msg_handler_queue with
  | nil => simp [process_msg_handler, hqueue] at hlib
  | cons message rest =>
    refine ⟨message, rest, rfl, hlib, rfl, rfl, ?_⟩
    simp

theorem Sound.next_response {rest : List SyncMessage} (h : s.Sound)
    (hqueue : s.lib.msg_handler_queue = message :: rest) (hresponse : message.IsAsyncResponse) :
    ∃ n, s.received[s.handled]? = some (n, message) := by
  have hqueued := h.queued
  rw [hqueue, List.filter_cons_of_pos (by simpa using hresponse)] at hqueued
  have hhead : (s.received.drop s.handled).head?.map Prod.snd = some message := by
    rw [← List.head?_map, hqueued, List.head?_cons]
  rw [List.head?_drop] at hhead
  obtain ⟨⟨n, _⟩, hreceived, rfl⟩ := Option.map_eq_some_iff.mp hhead
  exact ⟨n, hreceived⟩

theorem Sound.handle (h : s.Sound) (hstep : s.step .handle = some next) : next.Sound := by
  obtain ⟨message, rest, hqueue, hlib, hrequests, hreceived, hhandled⟩ := step_handle hstep
  have hhandles := step_handles h.filed hlib
  refine ⟨hhandles.filed, ?_, ?_, ?_, ?_⟩
  · intro service_id
    rw [hhandles.service_async_handler, hrequests]
    exact h.handler service_id
  · rw [hreceived, hrequests]
    exact h.answers
  · rw [hhandled, hreceived]
    split
    · rename_i hresponse
      obtain ⟨n, hn⟩ := h.next_response hqueue hresponse
      exact (List.getElem?_eq_some_iff.mp hn).1
    · exact h.handled_le
  · have hqueued := h.queued
    rw [hqueue] at hqueued
    rw [hhandles.queue, queueAfter, hqueue, List.tail_cons, hreceived, hhandled]
    split
    · rename_i hresponse
      rw [List.filter_cons_of_pos (by simpa using hresponse)] at hqueued
      rw [← List.tail_drop, List.map_tail, hqueued, List.tail_cons]
    · rename_i hresponse
      rw [List.filter_cons_of_neg (by simpa using hresponse)] at hqueued
      exact hqueued

theorem Sound.deliversOwn_handle_iff (h : s.Sound) (hown : s.DeliversOwn) (hstep : s.step .handle = some next) :
    next.DeliversOwn ↔ s.LastPassedOwn .handle := by
  obtain ⟨message, rest, hqueue, hlib, hrequests, hreceived, hhandled⟩ := step_handle hstep
  have hinvoked := (step_handles h.filed hlib).invoked
  have hdelivered : next.lib.invoked.filterMap Invocation.delivery = s.lib.invoked.filterMap Invocation.delivery ++
      (s.lib.messageInvocations message).filterMap Invocation.delivery := by
    rw [hinvoked, List.filterMap_append, invocations, hqueue]
    rfl
  rw [messageInvocations_delivery h.filed] at hdelivered
  by_cases hresponse : message.IsAsyncResponse
  · obtain ⟨n, hn⟩ := h.next_response hqueue hresponse
    obtain ⟨answered, hanswered, hid⟩ := h.answers _ (List.mem_of_getElem? hn)
    obtain ⟨last, hlast⟩ : ∃ last, lastOn s.requests answered.service_id = some last := by
      rw [← Option.isSome_iff_exists, lastOn, List.find?_isSome]
      exact ⟨answered, List.mem_reverse.mpr (List.mem_of_getElem? hanswered), by simp⟩
    have hslot : s.lib.service_async_handler message.header.service_id = last.async_cb := by
      rw [h.handler, hid, hlast, Option.bind_some]
    have hexpected : (next.received.take next.handled).filterMap (own next.requests) =
        (s.received.take s.handled).filterMap (own s.requests) ++
          (answered.async_cb.map fun async_cb => (async_cb, message)).toList := by
      rw [hreceived, hhandled, if_pos hresponse, hrequests, List.take_add_one, hn, Option.toList_some,
        List.filterMap_append]
      simp only [List.filterMap_cons, List.filterMap_nil, own, hanswered, Option.bind_some]
      cases answered.async_cb <;> rfl
    rw [DeliversOwn, hdelivered, hexpected, if_pos hresponse, hslot, hown, List.append_cancel_left_eq,
      deliveries_eq_iff]
    constructor
    · intro hsame head hhead _ m other found hm hother hfound
      rw [hqueue, List.head?_cons] at hhead
      cases hhead
      cases hn.symm.trans hm
      cases hanswered.symm.trans hother
      cases hlast.symm.trans hfound
      exact hsame
    · intro hlast_own
      exact hlast_own message (by rw [hqueue]; rfl) hresponse n answered last hn hanswered hlast
  · rw [if_neg hresponse, List.append_nil] at hdelivered
    rw [if_neg hresponse] at hhandled
    refine iff_of_true ((h.deliversOwn_iff [] ?_ ?_ hdelivered).mpr hown) ?_
    · rw [hrequests, List.append_nil]
    · rw [hreceived, hhandled]
    · intro head hhead hhead_response
      rw [hqueue, List.head?_cons] at hhead
      cases hhead
      exact absurd hhead_response hresponse

theorem Sound.step {event : AsyncEvent φ} (h : s.Sound) (hstep : s.step event = some next) : next.Sound := by
  cases event with
  | request service_id async_cb replies sent => exact (h.request hstep).1
  | respond n msg_len data => exact (h.respond hstep).1
  | handle => exact h.handle hstep
  | other event => exact (h.other hstep).1

theorem Sound.deliversOwn_step_iff {event : AsyncEvent φ} (h : s.Sound) (hown : s.DeliversOwn)
    (hstep : s.step event = some next) : next.DeliversOwn ↔ s.LastPassedOwn event := by
  cases event with
  | request service_id async_cb replies sent => exact iff_of_true ((h.request hstep).2.mpr hown) trivial
  | respond n msg_len data => exact iff_of_true ((h.respond hstep).2.mpr hown) trivial
  | handle => exact h.deliversOwn_handle_iff hown hstep
  | other event => exact iff_of_true ((h.other hstep).2.mpr hown) trivial

end Steps

end AsyncState

/-- In every run of a process, each response is delivered once and to the function of its
own request as long as, whenever a response is handled, the last request for its service
has passed the same function. -/
theorem async_responses_delivered_iff (client_id : UInt32) (client_pid : Int) (client_name : Str)
    (m_msg_seqid : UInt32) (events : List (AsyncEvent φ)) :
    Throughout AsyncState.step AsyncState.DeliversOwn
        (.init (.init client_id client_pid client_name m_msg_seqid)) events ↔
      Meets AsyncState.step AsyncState.LastPassedOwn
        (.init (.init client_id client_pid client_name m_msg_seqid)) events := by
  refine throughout_iff_meets (fun s _ => s.Sound) ?_ ?_ ?_
    ⟨init_filed .., fun _ => rfl, by simp [AsyncState.init], Nat.le_refl 0, rfl⟩ rfl
  · intro s event _ next h hstep
    exact h.step hstep
  · intro s event hstuck
    cases event with
    | handle =>
      intro message hmessage
      cases hqueue : s.lib.msg_handler_queue with
      | nil => simp [hqueue] at hmessage
      | cons head rest => simp [AsyncState.step, process_msg_handler, hqueue] at hstuck
    | request _ _ _ _ | respond _ _ _ | other _ => trivial
  · intro s event _ next h hown hstep
    exact h.deliversOwn_step_iff hown hstep

def methodReplies : Replies where
  get_service := some ⟨⟨0x10001, LOCAL_SERVICE_TYPE_METHOD, LOCAL_SERVICE_STATUS_AVAILABLE⟩, some ⟨2, 101, ['b'], 1⟩⟩
  get_client := some ⟨some ⟨2, 101, ['b'], 1⟩⟩

/-- Two requests are under way with the functions `1` and `2`. The response to the first one
goes to the function `2`. -/
theorem response_delivered_to_later_function :
    ∃ s : AsyncState Nat,
      run AsyncState.step (.init (.init 1 100 ['a'] 1))
        [.request 0x10001 (some 1) methodReplies true, .request 0x10001 (some 2) methodReplies true,
         .respond 0 0 (fun _ => 0), .handle] = some s ∧
      s.requests = [⟨0x10001, 2, 1, some 1, true⟩, ⟨0x10001, 2, 2, some 2, true⟩] ∧
      s.lib.invoked = [.async_response 2
        ⟨⟨2, 1, E_IPC_HV_SOA_MSG_TYPE_METHOD_RESPONSE_ASYNC, 0x10001, 0⟩, fun _ => 0⟩] ∧
      ¬ s.DeliversOwn := by
  refine ⟨_, rfl, rfl, rfl, fun hown => ?_⟩
  have hfunction : some 2 = some 1 := congrArg (fun deliveries => deliveries.head?.map Prod.fst) hown
  cases hfunction

end hub.soa
