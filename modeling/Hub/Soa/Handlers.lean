import Hub.Soa.LibrarySteps

namespace hub.soa

open local_registry Library Invocation

variable {φ : Type}

/-- The function is called by the dispatch that its member of the union is for. -/
def Invocation.InRole : Invocation φ → Prop
  | .method_request handler _ _ => handler.stored_as = .method_provider_cb
  | .listener_change handler _ => handler.stored_as = .event_provider_cb
  | .status_change handler _ _ => handler.stored_as = .method_listener_cb
  | .event handler _ => handler.stored_as = .event_listener_cb
  | .async_response _ _ => True

namespace Library

def InRoles (lib : Library φ) : Prop := ∀ invocation ∈ lib.invoked, invocation.InRole

/-- The dispatch of `process_msg_handler` that a frame goes to, with its service. -/
def messageDispatch (message : SyncMessage) : Option (Role × UInt32) :=
  if IsMethodRequest message.header.msg_type then some (.method_provider_cb, message.header.service_id)
  else if message.header.msg_type = E_IPC_HV_SOA_MSG_TYPE_EVENT_NOTIFY then
    some (.event_listener_cb, message.header.service_id)
  else none

/-- The dispatch of `on_recv_daemon` that a frame goes to, with its service. -/
def daemonDispatch (lib : Library φ) : Payload → Option (Role × UInt32)
  | .service_change_status change_status =>
    match lib.g_client.find_service change_status.service.service_id with
    | none => none
    | some it =>
      if it.service_type = E_IPC_HV_SOA_SERVICE_TYPE_METHOD then
        some (.method_listener_cb, change_status.service.service_id)
      else none
  | .listener_change_to_provider event_listen =>
    match lib.g_client.find_service event_listen.service_id, event_listen.listener_clients with
    | some it, _ :: _ =>
      if event_listen.reg ∧ it.service_status = E_IPC_HV_SOA_SERVICE_TYPE_EVENT then
        some (.event_provider_cb, event_listen.service_id)
      else none
    | _, _ => none
  | _ => none

def dispatch (lib : Library φ) : LibraryEvent φ → Option (Role × UInt32)
  | .recv_daemon payload => if lib.client_status = .ONLINE then lib.daemonDispatch payload else none
  | .handle => lib.msg_handler_queue.head?.bind messageDispatch
  | _ => none

def Fits (handlers : UInt32 → Option (Handler φ)) : Option (Role × UInt32) → Prop
  | none => True
  | some (role, s) => ∀ handler ∈ handlers s, handler.stored_as = role

/-- The function that the process gave to the service last, by an offer or a
subscription, is one for the dispatch that the event goes to. -/
def GivenInRole (state : Library φ × List (UInt32 × Handler φ)) (event : LibraryEvent φ) : Prop :=
  Fits (fun s => state.2.lookup s) (state.1.dispatch event)

section Dispatch

variable {lib : Library φ} {event : LibraryEvent φ}

theorem daemonInvocations_inRole_iff (payload : Payload) :
    (∀ invocation ∈ lib.daemonInvocations payload, invocation.InRole) ↔
      Fits lib.service_handler (lib.daemonDispatch payload) := by
  cases payload with
  | service_change_status change_status =>
    simp only [daemonInvocations, daemonDispatch]
    cases lib.g_client.find_service change_status.service.service_id with
    | none => simp [Fits]
    | some it =>
      by_cases htype : it.service_type = E_IPC_HV_SOA_SERVICE_TYPE_METHOD
      · cases hhandler : lib.service_handler change_status.service.service_id <;>
          simp [htype, hhandler, Fits, InRole]
      · cases lib.service_handler change_status.service.service_id <;> simp [htype, Fits]
  | listener_change_to_provider event_listen =>
    simp only [daemonInvocations, daemonDispatch]
    cases lib.g_client.find_service event_listen.service_id with
    | none => simp [Fits]
    | some it =>
      cases event_listen.listener_clients with
      | nil => cases lib.service_handler event_listen.service_id <;> simp [Fits]
      | cons p_client rest =>
        by_cases hcalls : event_listen.reg ∧ it.service_status = E_IPC_HV_SOA_SERVICE_TYPE_EVENT
        · cases hhandler : lib.service_handler event_listen.service_id with
          | none => simp [hcalls, hhandler, Fits]
          | some handler =>
            simp only [hcalls, and_self, if_true, Fits, hhandler, Option.mem_some_iff, List.mem_map]
            constructor
            · rintro hall _ rfl
              exact hall _ ⟨p_client, List.mem_cons_self, rfl⟩
            · rintro hfits _ ⟨_, _, rfl⟩
              exact hfits handler rfl
        · cases lib.service_handler event_listen.service_id <;> simp [hcalls, Fits]
  | _ =>
    simp [daemonInvocations, daemonDispatch, Fits]

theorem messageInvocations_inRole_iff (hfiled : lib.Filed) (message : SyncMessage) :
    (∀ invocation ∈ lib.messageInvocations message, invocation.InRole) ↔
      Fits lib.service_handler (messageDispatch message) := by
  unfold messageInvocations messageDispatch
  cases hfind : lib.g_client.find_service message.header.service_id with
  | none =>
    have hnone := (hfiled.bare _ hfind).1
    dsimp only
    refine iff_of_true (by simp) ?_
    split
    · simp [Fits, hnone]
    · split <;> simp [Fits, hnone]
  | some it =>
    dsimp only
    split
    · cases hhandler : lib.service_handler message.header.service_id <;> simp [hhandler, Fits, InRole]
    · split
      · -- A response to an asynchronous request has a handler of its own.
        rename_i _ hresponse
        rw [if_neg (by rw [hresponse]; decide)]
        simp only [Fits, iff_true]
        cases lib.service_async_handler message.header.service_id <;> simp [InRole]
      · split
        · cases hhandler : lib.service_handler message.header.service_id <;> simp [hhandler, Fits, InRole]
        · simp [Fits]

theorem dispatch_of_stuck (hstuck : lib.step event = none) : lib.dispatch event = none := by
  cases event with
  | recv_daemon payload =>
    refine if_neg fun honline => ?_
    rw [step, if_pos honline] at hstuck
    cases hstuck
  | handle =>
    cases hqueue : lib.msg_handler_queue with
    | nil => simp [dispatch, hqueue]
    | cons message rest => simp [step, process_msg_handler, hqueue] at hstuck
  | _ =>
    rfl

end Dispatch

/-- What the runs keep beside the functions' roles: the handler of a service is the
function that was given last. -/
structure Recorded (state : Library φ × List (UInt32 × Handler φ)) : Prop where
  filed : state.1.Filed
  latest : ∀ s, state.1.service_handler s = state.2.lookup s

variable {event : LibraryEvent φ} {state next : Library φ × List (UInt32 × Handler φ)}

theorem Recorded.step (h : Recorded state) (hstep : logged step given state event = some next) :
    Recorded next := by
  obtain ⟨hlib, hlog⟩ := logged_eq_some.mp hstep
  have hhandles := step_handles h.filed hlib
  refine ⟨hhandles.filed, fun s => ?_⟩
  rw [hhandles.service_handler, h.latest, hlog, List.lookup_append]

end Library

/-- Functions are called by the dispatch they were stored for as long as, whenever a frame
is dispatched to a service, the function given to that service last was given for this
dispatch. -/
theorem handlers_called_in_role_iff (client_id : UInt32) (client_pid : Int) (client_name : Str) (m_msg_seqid : UInt32)
    (events : List (LibraryEvent φ)) :
    Throughout Library.step Library.InRoles (.init client_id client_pid client_name m_msg_seqid) events ↔
      Meets (logged Library.step Library.given) Library.GivenInRole
        (.init client_id client_pid client_name m_msg_seqid, []) events := by
  rw [← throughout_logged (α := UInt32 × Handler φ)]
  refine throughout_iff_meets (fun state _ => Library.Recorded state) ?_ ?_ ?_ ⟨init_filed .., fun _ => rfl⟩ ?_
  · intro state event _ next h hstep
    exact h.step hstep
  · intro state event hstuck
    rw [GivenInRole, dispatch_of_stuck (by simpa [logged] using hstuck)]
    trivial
  · intro state event _ next h hroles hstep
    obtain ⟨hlib, _⟩ := logged_eq_some.mp hstep
    have hinvoked := (step_handles h.filed hlib).invoked
    have hnext : next.1.InRoles ↔ ∀ invocation ∈ state.1.invocations event, invocation.InRole := by
      simp only [InRoles, hinvoked, List.mem_append]
      exact ⟨fun hall invocation hmem => hall invocation (.inr hmem),
        fun hnew invocation hmem => hmem.elim (hroles invocation) (hnew invocation)⟩
    rw [hnext, GivenInRole, ← funext h.latest]
    cases event with
    | recv_daemon payload =>
      obtain ⟨honline, _⟩ := Option.ite_none_right_eq_some.mp hlib
      rw [dispatch, if_pos honline]
      exact daemonInvocations_inRole_iff payload
    | handle =>
      simp only [invocations, dispatch]
      cases state.1.msg_handler_queue with
      | nil => simp [Fits]
      | cons message rest => exact messageInvocations_inRole_iff h.filed message
    | _ => simp [invocations, dispatch, Fits]
  · simp [InRoles, init]

/-- A process offers a method with the function `1` and subscribes to it with the function
`2` for changes of its status. A request for the method then calls the function `2`. -/
theorem status_function_called_for_request :
    ∃ lib : Library Nat,
      run Library.step (.init 1 100 ['a'] 1)
        [.call (.provider_service_offer [⟨0x10001, LOCAL_SERVICE_TYPE_METHOD, some 1⟩]) true,
         .call (.listener_service_subscribe [⟨0x10001, LOCAL_SERVICE_TYPE_METHOD, some 2⟩]) true,
         .recv_process ⟨⟨2, 7, E_IPC_HV_SOA_MSG_TYPE_METHOD_REQUEST_SYNC, 0x10001, 0⟩, fun _ => 0⟩,
         .handle] = some lib ∧
      lib.invoked = [.method_request ⟨.method_listener_cb, 2⟩ ⟨E_IPC_HV_SOA_MSG_TYPE_METHOD_REQUEST_SYNC, 7, 2⟩
        ⟨⟨2, 7, E_IPC_HV_SOA_MSG_TYPE_METHOD_REQUEST_SYNC, 0x10001, 0⟩, fun _ => 0⟩] ∧
      ¬ lib.InRoles := by
  refine ⟨_, rfl, rfl, fun hroles => ?_⟩
  have hrole := hroles _ (.head _)
  cases hrole

end hub.soa
