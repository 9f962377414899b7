import Hub.Soa.LibrarySteps

namespace hub.soa

open local_registry Library

variable {φ : Type}

/-- What an `event_provider_cb` returns and stores through its two pointers. -/
structure EventAnswer where
  ret : Int
  event_data : Option (Nat → UInt8)
  event_data_len : UInt32

/-- What the process meets while it handles one listed client: the answer of the callback,
and whether a frame can be sent to the client. -/
structure Visit where
  answer : EventAnswer
  sends : Bool

/-- The receiver of an event and what it gets. -/
structure FirstEvent where
  client_id : UInt32
  service_id : UInt32
  msg_len : UInt32
  msgdata : Option (Nat → UInt8)

structure EventFrame where
  event : FirstEvent
  client_id : UInt32
  msg_seqid : UInt32
  msg_type : UInt32

def EventAnswer.event (answer : EventAnswer) (client_id service_id : UInt32) : FirstEvent where
  client_id := client_id
  service_id := service_id
  msg_len := if answer.event_data.isNone ∨ answer.event_data_len = 0 then 0 else answer.event_data_len
  msgdata := if answer.event_data.isNone ∨ answer.event_data_len = 0 then none else answer.event_data

/-- The handling of a `LISTENER_CHANGE_TO_PROVIDER` so far: the service, the process, the
calls of its functions, and the frames sent to other processes. -/
structure Handling (φ : Type) where
  it : Service
  lib : Library φ
  invoked : List (Invocation φ)
  sent : List EventFrame

namespace Library

/-- The frame that is sent, if any, and the state after it. -/
def ipc_hv_soa_inn_trigger_to_client (lib : Library φ) (service : Service) (visit : Visit) (client : ProcessClient) :
    List EventFrame × Library φ :=
  match service.service_provider with
  | none => ([], lib)
  | some provider =>
    (if visit.sends then
      [{ event := visit.answer.event client.client_id service.service_id
         client_id := lib.client_id
         msg_seqid := lib.msg_seqid provider.client_id
         msg_type := E_IPC_HV_SOA_MSG_TYPE_EVENT_NOTIFY }]
    else [], lib.draw provider.client_id)

end Library

namespace Handling

variable (handler : Option (Handler φ))

/-- The first event for a new listener. The status is compared with the number of a type,
which is that of `UNAVAILABLE`. -/
def firstEvent (h : Handling φ) (visit : Visit) (client : ProcessClient) : Handling φ :=
  match handler with
  | none => h
  | some listener_cb =>
    if h.it.service_status = E_IPC_HV_SOA_SERVICE_TYPE_EVENT then
      let h := { h with invoked := h.invoked ++ [.listener_change listener_cb h.it.service_id] }
      if visit.answer.ret = IPC_HV_SOA_RET_SUCCESS then
        let (frames, lib) := h.lib.ipc_hv_soa_inn_trigger_to_client h.it visit client
        { h with lib := lib, sent := h.sent ++ frames }
      else h
    else h

def entered (h : Handling φ) (p_client : StLocalClientItem) : Handling φ :=
  let (client, g_client) := h.lib.g_client.process_client p_client
  { h with
    lib := { h.lib with g_client := g_client }
    it := { h.it with service_listeners := h.it.service_listeners.insertNew client.client_id client } }

def registered (h : Handling φ) (visit : Visit) (p_client : StLocalClientItem) : Handling φ :=
  firstEvent handler (h.entered p_client) visit (h.lib.g_client.process_client p_client).1

def unregistered (h : Handling φ) (p_client : StLocalClientItem) : Handling φ :=
  let (client, g_client) := h.lib.g_client.process_client p_client
  { h with
    lib := { h.lib with g_client := g_client }
    it := { h.it with service_listeners := h.it.service_listeners.erase client.client_id } }

/-- The loop over the listed clients; `visits` is by their position. -/
def listed (reg : Bool) : List StLocalClientItem → (Nat → Visit) → Handling φ → Handling φ
  | [], _, h => h
  | p_client :: rest, visits, h =>
    if reg then listed reg rest (fun k => visits (k + 1)) (registered handler h (visits 0) p_client)
    else h.unregistered p_client

end Handling

namespace Library

/-- `on_recv_daemon` for a `LISTENER_CHANGE_TO_PROVIDER`: the process after it, the calls
of its functions and the frames it sent. -/
def on_listener_change (lib : Library φ) (visits : Nat → Visit) (event_listen : StListenerChangeToProvider) :
    Library φ × List (Invocation φ) × List EventFrame :=
  match lib.g_client.find_service event_listen.service_id with
  | none => (lib, [], [])
  | some it =>
    let h := Handling.listed (lib.service_handler event_listen.service_id) event_listen.reg
      event_listen.listener_clients visits ⟨it, lib, [], []⟩
    ({ h.lib with g_client := h.lib.g_client.setService event_listen.service_id h.it }, h.invoked, h.sent)

end Library

/-- The events that the listed clients are owed: one for each whose turn the callback
answers with `SUCCESS`. -/
def firstEvents (service_id : UInt32) : List StLocalClientItem → (Nat → Visit) → List FirstEvent
  | [], _ => []
  | p_client :: rest, visits =>
    (if (visits 0).answer.ret = IPC_HV_SOA_RET_SUCCESS then [(visits 0).answer.event p_client.client_id service_id]
      else []) ++ firstEvents service_id rest fun k => visits (k + 1)

namespace Handling

variable {handler : Option (Handler φ)} {h : Handling φ}

theorem firstEvent_it (visit : Visit) (client : ProcessClient) : (firstEvent handler h visit client).it = h.it := by
  unfold firstEvent
  split
  · rfl
  · split
    · split <;> rfl
    · rfl

theorem firstEvent_g_client (visit : Visit) (client : ProcessClient) :
    (firstEvent handler h visit client).lib.g_client = h.lib.g_client := by
  unfold firstEvent
  split
  · rfl
  · split
    · split
      · dsimp only
        unfold ipc_hv_soa_inn_trigger_to_client
        split <;> rfl
      · rfl
    · rfl

theorem firstEvent_quiet (hquiet : handler = none ∨ h.it.service_status ≠ E_IPC_HV_SOA_SERVICE_TYPE_EVENT)
    (visit : Visit) (client : ProcessClient) : firstEvent handler h visit client = h := by
  unfold firstEvent
  split
  · rfl
  · rename_i listener_cb
    rcases hquiet with hnone | hstatus
    · cases hnone
    · rw [if_neg hstatus]

theorem listed_refines (handler : Option (Handler φ)) (reg : Bool)
    (clients : List StLocalClientItem) (visits : Nat → Visit) (h : Handling φ) :
    ((listed handler reg clients visits h).it, (listed handler reg clients visits h).lib.g_client) =
      Client.change_listeners reg clients h.it h.lib.g_client := by
  induction clients generalizing visits h with
  | nil => rfl
  | cons p_client rest ih =>
    simp only [listed, Client.change_listeners]
    cases reg with
    | false => rfl
    | true =>
      simp only [if_true]
      rw [ih, registered, firstEvent_it, firstEvent_g_client]
      rfl

theorem listed_quiet (hquiet : handler = none ∨ h.it.service_status ≠ E_IPC_HV_SOA_SERVICE_TYPE_EVENT) (reg : Bool)
    (clients : List StLocalClientItem) (visits : Nat → Visit) :
    (listed handler reg clients visits h).invoked = h.invoked ∧
      (listed handler reg clients visits h).sent = h.sent := by
  induction clients generalizing visits h with
  | nil => exact ⟨rfl, rfl⟩
  | cons p_client rest ih =>
    cases reg with
    | false => exact ⟨rfl, rfl⟩
    | true =>
      have hentered : handler = none ∨ (h.entered p_client).it.service_status ≠
          E_IPC_HV_SOA_SERVICE_TYPE_EVENT := hquiet
      simp only [listed, if_true, registered, firstEvent_quiet hentered]
      exact ih hentered _

section Active

variable {listener_cb : Handler φ} (hstatus : h.it.service_status = E_IPC_HV_SOA_SERVICE_TYPE_EVENT)

include hstatus

theorem registered_invoked (visit : Visit) (p_client : StLocalClientItem) :
    (registered (some listener_cb) h visit p_client).invoked =
      h.invoked ++ [.listener_change listener_cb h.it.service_id] := by
  have hentered : (h.entered p_client).it.service_status = E_IPC_HV_SOA_SERVICE_TYPE_EVENT := hstatus
  simp only [registered, firstEvent, hentered, if_true]
  split <;> rfl

theorem listed_invoked (clients : List StLocalClientItem) (visits : Nat → Visit) :
    (listed (some listener_cb) true clients visits h).invoked =
      h.invoked ++ List.replicate clients.length (.listener_change listener_cb h.it.service_id) := by
  induction clients generalizing visits h with
  | nil => exact (List.append_nil _).symm
  | cons p_client rest ih =>
    have hit : (registered (some listener_cb) h (visits 0) p_client).it = (h.entered p_client).it := firstEvent_it ..
    have hstatus' : (registered (some listener_cb) h (visits 0) p_client).it.service_status =
        E_IPC_HV_SOA_SERVICE_TYPE_EVENT := by
      rw [hit]
      exact hstatus
    simp only [listed, if_true]
    rw [ih hstatus', registered_invoked hstatus, hit, List.append_assoc, List.length_cons, List.replicate_succ]
    rfl

variable {provider : ProcessClient} (hprovider : h.it.service_provider = some provider)

include hprovider

theorem registered_sent {visit : Visit} (hsends : visit.sends = true) (p_client : StLocalClientItem) :
    ∃ frames, (registered (some listener_cb) h visit p_client).sent = h.sent ++ frames ∧
      frames.map EventFrame.event = (if visit.answer.ret = IPC_HV_SOA_RET_SUCCESS then
        [visit.answer.event p_client.client_id h.it.service_id] else []) ∧
      ∀ frame ∈ frames, frame.msg_type = E_IPC_HV_SOA_MSG_TYPE_EVENT_NOTIFY := by
  have hid := h.lib.g_client.process_client_id p_client
  have hentered : (h.entered p_client).it.service_status = E_IPC_HV_SOA_SERVICE_TYPE_EVENT := hstatus
  have hknown : (h.entered p_client).it.service_provider = some provider := hprovider
  simp only [registered, firstEvent, hentered, if_true]
  by_cases hret : visit.answer.ret = IPC_HV_SOA_RET_SUCCESS
  · simp only [hret, if_true, ipc_hv_soa_inn_trigger_to_client, hknown, hsends]
    refine ⟨_, rfl, ?_, ?_⟩
    · simp only [List.map_cons, List.map_nil, hid]
      rfl
    · intro frame hmem
      rw [List.mem_singleton.mp hmem]
  · simp only [hret, if_false]
    exact ⟨[], (List.append_nil _).symm, rfl, fun frame hmem => by cases hmem⟩

theorem listed_sent (clients : List StLocalClientItem) {visits : Nat → Visit} (hsends : ∀ k, (visits k).sends = true) :
    ∃ frames, (listed (some listener_cb) true clients visits h).sent = h.sent ++ frames ∧
      frames.map EventFrame.event = firstEvents h.it.service_id clients visits ∧
      ∀ frame ∈ frames, frame.msg_type = E_IPC_HV_SOA_MSG_TYPE_EVENT_NOTIFY := by
  induction clients generalizing visits h with
  | nil => exact ⟨[], (List.append_nil _).symm, rfl, fun frame hmem => by cases hmem⟩
  | cons p_client rest ih =>
    have hit : (registered (some listener_cb) h (visits 0) p_client).it = (h.entered p_client).it := firstEvent_it ..
    obtain ⟨first, hfirst, hevents, htyped⟩ := registered_sent hstatus hprovider (hsends 0) p_client
    obtain ⟨frames, hframes, hevents', htyped'⟩ := ih (h := registered (some listener_cb) h (visits 0) p_client)
      (by rw [hit]; exact hstatus) (by rw [hit]; exact hprovider) fun k => hsends (k + 1)
    simp only [listed, if_true]
    refine ⟨first ++ frames, ?_, ?_, ?_⟩
    · rw [hframes, hfirst, List.append_assoc]
    · rw [List.map_append, hevents, hevents', hit, firstEvents]
      rfl
    · intro frame hmem
      rcases List.mem_append.mp hmem with hmem | hmem
      · exact htyped frame hmem
      · exact htyped' frame hmem

end Active

end Handling

/-- Every listed client has the callback called once and, where it answers with `SUCCESS`,
gets one `EVENT_NOTIFY` with its data; nothing else is called or sent. -/
structure CurrentEvents (listener_cb : Handler φ) (service_id : UInt32) (clients : List StLocalClientItem)
    (visits : Nat → Visit) (outcome : Library φ × List (Invocation φ) × List EventFrame) : Prop where
  called : outcome.2.1 = List.replicate clients.length (.listener_change listener_cb service_id)
  notified : outcome.2.2.map EventFrame.event = firstEvents service_id clients visits
  typed : ∀ frame ∈ outcome.2.2, frame.msg_type = E_IPC_HV_SOA_MSG_TYPE_EVENT_NOTIFY

namespace Library

variable {lib : Library φ} {visits : Nat → Visit} {event_listen : StListenerChangeToProvider} {it : Service}

/-- The service is offered as `EVENT` with a callback and is available. -/
structure OffersEvent (lib : Library φ) (s : UInt32) (it : Service) (listener_cb : Handler φ) : Prop where
  known : lib.g_client.find_service s = some it
  type : it.service_type = E_IPC_HV_SOA_SERVICE_TYPE_EVENT
  status : it.service_status = LOCAL_SERVICE_STATUS_AVAILABLE
  handler : lib.service_handler s = some listener_cb
  role : listener_cb.stored_as = .event_provider_cb

structure OffersMethod (lib : Library φ) (s : UInt32) (it : Service) : Prop where
  known : lib.g_client.find_service s = some it
  type : it.service_type = E_IPC_HV_SOA_SERVICE_TYPE_METHOD
  role : ∀ handler, lib.service_handler s = some handler → handler.stored_as = .method_provider_cb

theorem on_listener_change_quiet (hfind : lib.g_client.find_service event_listen.service_id = some it)
    (hquiet : lib.service_handler event_listen.service_id = none ∨
      it.service_status ≠ E_IPC_HV_SOA_SERVICE_TYPE_EVENT) :
    (lib.on_listener_change visits event_listen).2 = ([], []) := by
  simp only [on_listener_change, hfind]
  obtain ⟨hinvoked, hsent⟩ := Handling.listed_quiet (h := ⟨it, lib, [], []⟩) hquiet event_listen.reg
    event_listen.listener_clients visits
  rw [hinvoked, hsent]

theorem on_listener_change_invoked (hreg : event_listen.reg = true)
    (hfind : lib.g_client.find_service event_listen.service_id = some it)
    (hstatus : it.service_status = E_IPC_HV_SOA_SERVICE_TYPE_EVENT) {listener_cb : Handler φ}
    (hhandler : lib.service_handler event_listen.service_id = some listener_cb) :
    (lib.on_listener_change visits event_listen).2.1 =
      List.replicate event_listen.listener_clients.length (.listener_change listener_cb it.service_id) := by
  simp only [on_listener_change, hfind, hhandler, hreg]
  exact Handling.listed_invoked (h := ⟨it, lib, [], []⟩) hstatus event_listen.listener_clients visits

/-- The handling changes the maps and calls the functions as `Library.on_recv_daemon` does. -/
theorem on_listener_change_refines (lib : Library φ) (visits : Nat → Visit)
    (event_listen : StListenerChangeToProvider) :
    (lib.on_listener_change visits event_listen).1.g_client =
        lib.g_client.on_recv_daemon (.listener_change_to_provider event_listen) ∧
      (lib.on_listener_change visits event_listen).2.1 =
        lib.daemonInvocations (.listener_change_to_provider event_listen) := by
  cases hfind : lib.g_client.find_service event_listen.service_id with
  | none => simp only [on_listener_change, Client.on_recv_daemon, daemonInvocations, hfind, and_self]
  | some it =>
    constructor
    · have hloop := Handling.listed_refines (lib.service_handler event_listen.service_id) event_listen.reg
        event_listen.listener_clients visits ⟨it, lib, [], []⟩
      simp only [on_listener_change, Client.on_recv_daemon, hfind, ← hloop]
    · cases hhandler : lib.service_handler event_listen.service_id with
      | none =>
        rw [on_listener_change_quiet hfind (.inl hhandler)]
        simp only [daemonInvocations, hfind, hhandler]
      | some listener_cb =>
        simp only [daemonInvocations, hfind, hhandler]
        by_cases hcalls : event_listen.reg = true ∧ it.service_status = E_IPC_HV_SOA_SERVICE_TYPE_EVENT
        · rw [if_pos hcalls, on_listener_change_invoked hcalls.1 hfind hcalls.2 hhandler, List.map_const']
        · rw [if_neg hcalls]
          cases hreg : event_listen.reg with
          | false =>
            simp only [on_listener_change, hfind, hreg]
            -- A listener that leaves has nothing called.
            cases event_listen.listener_clients <;> rfl
          | true => rw [on_listener_change_quiet hfind (.inr fun hstatus => hcalls ⟨hreg, hstatus⟩)]

/-- New listeners get the current event of a service that is `UNAVAILABLE`. -/
theorem current_events_of_unavailable (hreg : event_listen.reg = true)
    (hfind : lib.g_client.find_service event_listen.service_id = some it)
    (hstatus : it.service_status = LOCAL_SERVICE_STATUS_UNAVAILABLE) {provider : ProcessClient}
    (hprovider : it.service_provider = some provider) {listener_cb : Handler φ}
    (hhandler : lib.service_handler event_listen.service_id = some listener_cb)
    (hsends : ∀ k, (visits k).sends = true) :
    CurrentEvents listener_cb it.service_id event_listen.listener_clients visits
      (lib.on_listener_change visits event_listen) := by
  obtain ⟨frames, hframes, hevents, htyped⟩ := Handling.listed_sent (h := ⟨it, lib, [], []⟩) hstatus hprovider
    event_listen.listener_clients hsends
  have hsent : (lib.on_listener_change visits event_listen).2.2 = frames := by
    simp only [on_listener_change, hfind, hhandler, hreg]
    exact hframes
  refine ⟨on_listener_change_invoked hreg hfind hstatus hhandler, ?_, ?_⟩
  · rw [hsent]
    exact hevents
  · rw [hsent]
    exact htyped

end Library

/-- The status of an event that is available is not the one that the source looks for, and
methods have their function called when they are not available. -/
theorem current_events_iff (lib : Library φ) (visits : Nat → Visit) {event_listen : StListenerChangeToProvider}
    (hreg : event_listen.reg = true) :
    ((∀ it listener_cb, lib.OffersEvent event_listen.service_id it listener_cb →
          CurrentEvents listener_cb it.service_id event_listen.listener_clients visits
            (lib.on_listener_change visits event_listen)) ∧
        ∀ it, lib.OffersMethod event_listen.service_id it → (lib.on_listener_change visits event_listen).2.1 = []) ↔
      (∀ it listener_cb, lib.OffersEvent event_listen.service_id it listener_cb → event_listen.listener_clients = []) ∧
        ∀ it, lib.OffersMethod event_listen.service_id it → event_listen.listener_clients = [] ∨
          it.service_status ≠ LOCAL_SERVICE_STATUS_UNAVAILABLE ∨
            lib.service_handler event_listen.service_id = none := by
  have havailable : LOCAL_SERVICE_STATUS_AVAILABLE ≠ E_IPC_HV_SOA_SERVICE_TYPE_EVENT := by decide
  have hquiet : ∀ it listener_cb, lib.OffersEvent event_listen.service_id it listener_cb →
      (lib.on_listener_change visits event_listen).2 = ([], []) := by
    intro it listener_cb hoffers
    exact on_listener_change_quiet hoffers.known (.inr (by rw [hoffers.status]; exact havailable))
  constructor
  · rintro ⟨hevent, hmethod⟩
    constructor
    · intro it listener_cb hoffers
      have hcalled := (hevent it listener_cb hoffers).called
      rw [hquiet it listener_cb hoffers] at hcalled
      exact List.length_eq_zero_iff.mp ((List.replicate_eq_nil_iff _).mp hcalled.symm)
    · intro it hoffers
      by_contra hactive
      obtain ⟨hclients, hstatus, hhandler⟩ := not_or.mp hactive |>.imp_right not_or.mp
      obtain ⟨handler, hhandler⟩ := Option.ne_none_iff_exists'.mp hhandler
      have hcalled := hmethod it hoffers
      rw [on_listener_change_invoked hreg hoffers.known (not_not.mp hstatus) hhandler] at hcalled
      exact hclients (List.length_eq_zero_iff.mp ((List.replicate_eq_nil_iff _).mp hcalled))
  · rintro ⟨hevent, hmethod⟩
    constructor
    · intro it listener_cb hoffers
      have hnone := hquiet it listener_cb hoffers
      rw [hevent it listener_cb hoffers]
      refine ⟨?_, ?_, ?_⟩
      · rw [hnone]
        rfl
      · rw [hnone]
        rfl
      · rw [hnone]
        exact fun frame hmem => by cases hmem
    · intro it hoffers
      rcases hmethod it hoffers with hclients | hstatus | hhandler
      · simp only [on_listener_change, hoffers.known, hclients]
        rfl
      · rw [on_listener_change_quiet hoffers.known (.inr hstatus)]
      · rw [on_listener_change_quiet hoffers.known (.inl hhandler)]

def newListener : StListenerChangeToProvider where
  service_id := 7
  listener_clients := [⟨2, 20, ['b'], 1⟩]
  reg := true

def oneByte : Nat → Visit := fun _ => ⟨⟨IPC_HV_SOA_RET_SUCCESS, some fun _ => 5, 1⟩, true⟩

/-- A method that is available has nothing called. -/
theorem available_method_not_called :
    ((offering E_IPC_HV_SOA_SERVICE_TYPE_METHOD).on_listener_change oneByte newListener).2.1 = [] := by
  have hreg : newListener.reg = true := rfl
  have hfind : (offering E_IPC_HV_SOA_SERVICE_TYPE_METHOD).g_client.find_service newListener.service_id =
      some ⟨7, E_IPC_HV_SOA_SERVICE_TYPE_METHOD, LOCAL_SERVICE_STATUS_AVAILABLE, some ⟨1, []⟩, ∅⟩ := rfl
  refine ((current_events_iff (offering E_IPC_HV_SOA_SERVICE_TYPE_METHOD) oneByte hreg).mpr ⟨?_, ?_⟩).2 _
    ⟨hfind, rfl, ?_⟩
  · intro it listener_cb hoffers
    cases hfind.symm.trans hoffers.known
    cases hoffers.type
  · intro it hoffers
    cases hfind.symm.trans hoffers.known
    exact .inr (.inl (by decide))
  · intro handler hhandler
    cases hhandler
    rfl

theorem revoked_event_sent : ∃ listener_cb, CurrentEvents listener_cb 7 newListener.listener_clients oneByte
    (((offering E_IPC_HV_SOA_SERVICE_TYPE_EVENT).call true
      (.provider_service_revoke [7])).2.2.on_listener_change oneByte
      newListener) :=
  ⟨_, @Library.current_events_of_unavailable Unit _ oneByte newListener
    ⟨7, E_IPC_HV_SOA_SERVICE_TYPE_EVENT, LOCAL_SERVICE_STATUS_UNAVAILABLE, some ⟨1, []⟩, ∅⟩ rfl rfl rfl _ rfl _ rfl
    fun _ => rfl⟩

/-- A new listener of an available event: the callback, which has data, is not called and
nothing is sent. The function of a method that was revoked is called in its place. -/
theorem current_event_missing : ∃ (it : Service) (listener_cb method_cb : Handler Unit) (revoked : Library Unit),
    (offering E_IPC_HV_SOA_SERVICE_TYPE_EVENT).OffersEvent 7 it listener_cb ∧
      ((offering E_IPC_HV_SOA_SERVICE_TYPE_EVENT).on_listener_change oneByte newListener).2 = ([], []) ∧
      run Library.step (offering E_IPC_HV_SOA_SERVICE_TYPE_METHOD) [.call (.provider_service_revoke [7]) true] =
        some revoked ∧
      revoked.OffersMethod 7 ⟨7, E_IPC_HV_SOA_SERVICE_TYPE_METHOD, LOCAL_SERVICE_STATUS_UNAVAILABLE, some ⟨1, []⟩, ∅⟩ ∧
      method_cb.stored_as = .method_provider_cb ∧
      (revoked.on_listener_change oneByte newListener).2.1 = [.listener_change method_cb 7] := by
  refine ⟨_, _, _, _, ⟨rfl, rfl, rfl, rfl, rfl⟩, rfl, rfl, ⟨rfl, rfl, ?_⟩, ?_, rfl⟩
  · intro handler hhandler
    cases hhandler
    rfl
  · rfl

end hub.soa
