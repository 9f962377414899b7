import Hub.Soa.ServiceCalls
import Hub.Soa.View

namespace hub.soa

open local_registry ServiceCall

variable {φ : Type}

/-- The functions that the loop over the entries of a call stores, newest first. -/
def storedBy (member : UInt32 → Option Role) : List (ServiceEntry φ) → List (UInt32 × Handler φ)
  | [] => []
  | entry :: rest =>
    match member entry.service_type with
    | none => []
    | some role => storedBy member rest ++ (entry.u.map fun cb => (entry.service_id, ⟨role, cb⟩)).toList

namespace Client

def Keyed (g_client : Client) : Prop :=
  ∀ s it, g_client.find_service s = some it → it.service_id = s

variable {g_client : Client}

theorem empty_keyed : empty.Keyed := by
  intro s it h
  simp [empty, find_service] at h

theorem Keyed.setService {service_id : UInt32} {it : Service} (h : g_client.Keyed) (hid : it.service_id = service_id) :
    (g_client.setService service_id it).Keyed := by
  intro s found hfound
  rw [find_service_setService] at hfound
  split at hfound
  · rename_i hs
    cases hfound
    exact hid.trans hs.symm
  · exact h s found hfound

theorem save_service_id (service_id service_type service_status : UInt32) (client : Option ProcessClient)
    (h : g_client.Keyed) :
    (g_client.save_service service_id service_type service_status client).1.service_id = service_id := by
  unfold save_service
  cases hfind : g_client.find_service service_id with
  | none => cases client <;> rfl
  | some it => cases client <;> exact h service_id it hfind

theorem change_listeners_fst (reg : Bool) (clients : List StLocalClientItem) (it : Service) :
    ∃ service_listeners, (change_listeners reg clients it g_client).1 =
      { it with service_listeners := service_listeners } := by
  induction clients generalizing it g_client with
  | nil => exact ⟨_, rfl⟩
  | cons p_client rest ih =>
    simp only [change_listeners]
    split
    · exact ih _
    · exact ⟨_, rfl⟩

theorem Keyed.of_find_service {other : Client} (h : g_client.Keyed)
    (hsame : ∀ s, other.find_service s = g_client.find_service s) : other.Keyed := by
  intro s it hfind
  exact h s it ((hsame s).symm.trans hfind)

theorem Keyed.on_recv_daemon (h : g_client.Keyed) (payload : Payload) : (g_client.on_recv_daemon payload).Keyed := by
  cases payload with
  | service_change_status change_status =>
    cases hfind : g_client.find_service change_status.service.service_id with
    | none => simpa only [Client.on_recv_daemon, hfind] using h
    | some it =>
      have hid : it.service_id = change_status.service.service_id := h _ it hfind
      cases hprovider : change_status.provider_client with
      | none =>
        simp only [Client.on_recv_daemon, hfind, hprovider]
        exact h.setService hid
      | some provider_client =>
        simp only [Client.on_recv_daemon, hfind, hprovider]
        exact (h.of_find_service (g_client.find_service_process_client provider_client)).setService hid
  | listener_change_to_provider event_listen =>
    cases hfind : g_client.find_service event_listen.service_id with
    | none => simpa only [Client.on_recv_daemon, hfind] using h
    | some it =>
      simp only [Client.on_recv_daemon, hfind]
      refine (h.of_find_service (g_client.find_service_change_listeners _ _ it)).setService ?_
      obtain ⟨service_listeners, hkept⟩ := change_listeners_fst event_listen.reg event_listen.listener_clients it
      rw [hkept]
      exact h _ it hfind
  | _ => exact h

end Client

namespace Library

/-- The functions that an offer or a subscription gives to its services, newest first. -/
def given (lib : Library φ) : LibraryEvent φ → List (UInt32 × Handler φ)
  | .call (.provider_service_offer provider_services) _ =>
    if LOCAL_REGISTRY_CLIENT_PROVIDE_SERVICES_ONCE_COUNT_MAX ≤ provider_services.length ∨
        lib.g_client.find_process_client lib.client_id = none then []
    else storedBy providerMember provider_services
  | .call (.listener_service_subscribe listener_services) _ =>
    if lib.g_client.find_process_client lib.client_id = none then [] else storedBy listenerMember listener_services
  | _ => []

/-- The calls of the process's functions that an event leads to. -/
def invocations (lib : Library φ) : LibraryEvent φ → List (Invocation φ)
  | .recv_daemon payload => lib.daemonInvocations payload
  | .handle => (lib.msg_handler_queue.head?.map lib.messageInvocations).getD []
  | _ => []

/-- Services are filed under their own ids, and one that the process does not know has no
handlers. -/
structure Filed (lib : Library φ) : Prop where
  keyed : lib.g_client.Keyed
  bare : ∀ s, lib.g_client.find_service s = none →
    lib.service_handler s = none ∧ lib.service_async_handler s = none

theorem init_filed (client_id : UInt32) (client_pid : Int) (client_name : Str) (m_msg_seqid : UInt32) :
    (init client_id client_pid client_name m_msg_seqid : Library φ).Filed where
  keyed := Client.empty_keyed
  bare _ _ := ⟨rfl, rfl⟩

/-- What the functions below the events do to the handlers: they store the functions
`stored`, newest first, and call none. -/
structure Stores (lib next : Library φ) (stored : List (UInt32 × Handler φ)) : Prop where
  filed : next.Filed
  service_handler : ∀ s, next.service_handler s = (stored.lookup s).or (lib.service_handler s)
  service_async_handler : next.service_async_handler = lib.service_async_handler
  queue : next.msg_handler_queue = lib.msg_handler_queue
  invoked : next.invoked = lib.invoked

namespace Stores

variable {lib next last : Library φ} {stored more : List (UInt32 × Handler φ)}

theorem refl (hfiled : lib.Filed) : Stores lib lib [] :=
  ⟨hfiled, fun _ => rfl, rfl, rfl, rfl⟩

theorem trans (h : Stores lib next stored) (hnext : Stores next last more) : Stores lib last (more ++ stored) where
  filed := hnext.filed
  service_handler s := by
    rw [hnext.service_handler, h.service_handler, List.lookup_append, Option.or_assoc]
  service_async_handler := hnext.service_async_handler.trans h.service_async_handler
  queue := hnext.queue.trans h.queue
  invoked := hnext.invoked.trans h.invoked

variable (hfiled : lib.Filed) (hhandler : next.service_handler = lib.service_handler)
  (hasync : next.service_async_handler = lib.service_async_handler)
  (hqueue : next.msg_handler_queue = lib.msg_handler_queue) (hinvoked : next.invoked = lib.invoked)

include hfiled hhandler hasync hqueue hinvoked

theorem of_known (hkeyed : next.g_client.Keyed)
    (hknown : ∀ s, next.g_client.find_service s = none → lib.g_client.find_service s = none) :
    Stores lib next [] where
  filed := by
    refine ⟨hkeyed, fun s hs => ?_⟩
    rw [hhandler, hasync]
    exact hfiled.bare s (hknown s hs)
  service_handler s := congrFun hhandler s
  service_async_handler := hasync
  queue := hqueue
  invoked := hinvoked

theorem of_same (hsame : next.g_client.services_map = lib.g_client.services_map) : Stores lib next [] := by
  have hfind : ∀ s, next.g_client.find_service s = lib.g_client.find_service s := by
    intro s
    rw [Client.find_service, Client.find_service, hsame]
  exact of_known hfiled hhandler hasync hqueue hinvoked (hfiled.keyed.of_find_service hfind)
    (fun s hs => (hfind s).symm.trans hs)

end Stores

section Services

variable {lib : Library φ} {service_id : UInt32}

theorem savePointer_apply {α : Type} {pointers : UInt32 → Option α} {known : Bool}
    (pointer : Option α) (hbare : known = false → pointers service_id = none) (s : UInt32) :
    savePointer known pointers service_id pointer s =
      if s = service_id then pointer.or (pointers service_id) else pointers s := by
  unfold savePointer
  by_cases hs : s = service_id
  · subst hs
    cases pointer with
    | some value => simp
    | none =>
      cases known with
      | true => simp
      | false => simp [hbare rfl]
  · split <;> simp [hs]

theorem find_service_save_service (lib : Library φ) (service_id service_type service_status : UInt32)
    (handler : Option (Handler φ)) (async_handler : Option φ) (client : Option ProcessClient) (s : UInt32) :
    (lib.save_service service_id service_type service_status handler async_handler client).2.g_client.find_service s =
      if s = service_id then
        some (lib.save_service service_id service_type service_status handler async_handler client).1
      else lib.g_client.find_service s :=
  Client.find_service_setService ..

theorem save_service_stores (hfiled : lib.Filed) (service_id service_type service_status : UInt32)
    (handler : Option (Handler φ)) (client : Option ProcessClient) :
    Stores lib (lib.save_service service_id service_type service_status handler none client).2
      (handler.map fun handler => (service_id, handler)).toList := by
  have hnone : (lib.g_client.find_service service_id).isSome = false →
      lib.service_handler service_id = none ∧ lib.service_async_handler service_id = none := by
    intro h
    exact hfiled.bare service_id (Option.isSome_eq_false_iff.mp h |> Option.isNone_iff_eq_none.mp)
  have hhandler := fun s => savePointer_apply handler (fun h => (hnone h).1) s
  have hasync : ∀ s, savePointer (lib.g_client.find_service service_id).isSome lib.service_async_handler service_id
      none s = lib.service_async_handler s := by
    intro s
    rw [savePointer_apply none (fun h => (hnone h).2) s]
    split
    · rename_i hs
      rw [hs, Option.none_or]
    · rfl
  constructor
  · refine ⟨hfiled.keyed.setService (Client.save_service_id _ _ _ _ hfiled.keyed), fun s hs => ?_⟩
    rw [find_service_save_service] at hs
    split at hs
    · cases hs
    · rename_i hne
      refine ⟨(hhandler s).trans ?_, (hasync s).trans (hfiled.bare s hs).2⟩
      rw [if_neg hne]
      exact (hfiled.bare s hs).1
  · intro s
    refine (hhandler s).trans ?_
    cases handler with
    | none =>
      split
      · rename_i hs
        simp [hs]
      · rfl
    | some handler =>
      split
      · rename_i hs
        simp [hs]
      · rename_i hs
        simp [List.lookup_cons, beq_eq_false_iff_ne.mpr hs]
  · exact funext hasync
  · rfl
  · rfl

theorem save_services_stores (member : UInt32 → Option Role) (service_status : UInt32)
    (client : Option ProcessClient) (entries : List (ServiceEntry φ)) (hfiled : lib.Filed) :
    Stores lib (save_services member service_status client entries lib).2 (storedBy member entries) := by
  induction entries generalizing lib with
  | nil => exact .refl hfiled
  | cons entry rest ih =>
    simp only [save_services, storedBy]
    cases member entry.service_type with
    | none => exact .refl hfiled
    | some role =>
      have hsave := save_service_stores hfiled entry.service_id entry.service_type service_status
        (entry.u.map (Handler.mk role)) client
      have htail := hsave.trans (ih hsave.filed)
      rw [Option.map_map] at htail
      exact htail

variable {it : Service}

theorem setUnavailable_stores (hfind : lib.g_client.find_service service_id = some it) (hfiled : lib.Filed) :
    Stores lib (lib.setUnavailable service_id it) [] := by
  refine .of_known hfiled rfl rfl rfl rfl (hfiled.keyed.setService (hfiled.keyed service_id it hfind)) ?_
  intro s hs
  rw [setUnavailable, Client.find_service_setService] at hs
  split at hs
  · cases hs
  · exact hs

theorem revoke_services_stores (service_ids : List UInt32) (hfiled : lib.Filed) :
    Stores lib (revoke_services service_ids lib).2 [] := by
  induction service_ids generalizing lib with
  | nil => exact .refl hfiled
  | cons service_id rest ih =>
    simp only [revoke_services]
    cases hfind : lib.g_client.find_service service_id with
    | none => exact .refl hfiled
    | some it =>
      have hone := setUnavailable_stores hfind hfiled
      exact hone.trans (ih hone.filed)

theorem save_process_client_stores (client_id : UInt32) (client_name : Str) (hfiled : lib.Filed) :
    Stores lib { lib with g_client := (lib.g_client.save_process_client client_id client_name).2 } [] :=
  .of_same hfiled rfl rfl rfl rfl rfl

variable (resp : StGetServiceResp) (client : Option ProcessClient) (reply : Option StGetClientResp)

theorem get_process_client_stores (client_id : UInt32) (hfiled : lib.Filed) :
    Stores lib (lib.get_process_client client_id reply).2 [] := by
  unfold get_process_client
  split
  · exact .refl hfiled
  · split
    · exact .refl hfiled
    · split
      · exact .refl hfiled
      · exact save_process_client_stores _ _ hfiled

theorem save_answer_stores (hfiled : lib.Filed) : Stores lib (lib.save_answer resp client).2 [] :=
  save_service_stores hfiled _ _ _ none client

theorem get_provider_stores (hfiled : lib.Filed) : Stores lib (lib.get_provider resp reply).2 [] := by
  unfold get_provider
  split
  · exact .refl hfiled
  · exact get_process_client_stores _ _ hfiled

variable {replies : Replies}

theorem get_service_cases (lib : Library φ) (service_id : UInt32) (replies : Replies) :
    lib.get_service service_id replies = (lib.g_client.find_service service_id, lib) ∨
    lib.get_service service_id replies = (none, lib) ∨
    ∃ resp saved, replies.get_service = some resp ∧
      (lib.get_provider resp replies.get_client).2.save_answer resp
        (lib.get_provider resp replies.get_client).1 = saved ∧
      lib.get_service service_id replies = (some saved.1, saved.2) := by
  unfold get_service
  split
  · exact .inl rfl
  · split
    · exact .inr (.inl rfl)
    · split
      · exact .inr (.inl rfl)
      · rename_i resp hresp
        exact .inr (.inr ⟨resp, _, hresp, rfl, rfl⟩)

theorem get_service_stores (service_id : UInt32) (replies : Replies) (hfiled : lib.Filed) :
    Stores lib (lib.get_service service_id replies).2 [] := by
  rcases lib.get_service_cases service_id replies with hget | hget | ⟨resp, _, _, rfl, hget⟩
  · rw [hget]
    exact .refl hfiled
  · rw [hget]
    exact .refl hfiled
  · have hclient := get_provider_stores resp replies.get_client hfiled
    rw [hget]
    exact hclient.trans (save_answer_stores resp _ hclient.filed)

theorem draw_stores (client_id : UInt32) (hfiled : lib.Filed) : Stores lib (lib.draw client_id) [] :=
  .of_same hfiled rfl rfl rfl rfl rfl

theorem save_answer_id (hfiled : lib.Filed) :
    (lib.save_answer resp client).1.service_id = resp.service.service_id :=
  Client.save_service_id _ _ _ _ hfiled.keyed

variable {next : Library φ}

theorem get_service_find (hfiled : lib.Filed) (hget : lib.get_service service_id replies = (some it, next)) :
    next.g_client.find_service it.service_id = some it ∧
      (it.service_id = service_id ∨ ∃ resp ∈ replies.get_service, it.service_id = resp.service.service_id) := by
  rcases lib.get_service_cases service_id replies with hcase | hcase | ⟨resp, _, hresp, rfl, hcase⟩
  · obtain ⟨hfind, rfl⟩ := Prod.mk.inj (hcase.symm.trans hget)
    have hid := hfiled.keyed service_id it hfind
    exact ⟨hid ▸ hfind, .inl hid⟩
  · cases hcase.symm.trans hget
  · have hid := save_answer_id resp (lib.get_provider resp replies.get_client).1
      (get_provider_stores resp replies.get_client hfiled).filed
    cases hcase.symm.trans hget
    exact ⟨(find_service_save_service ..).trans (if_pos hid), .inr ⟨resp, hresp, hid⟩⟩

theorem method_request_cases (lib : Library φ) (service_id : UInt32) (replies : Replies)
    (prepare : Service → Library φ → Library φ) :
    ((∀ it ∈ (lib.get_service service_id replies).1, methodProvider it = none) ∧
      lib.method_request service_id replies prepare = (none, (lib.get_service service_id replies).2)) ∨
    ∃ it next provider, lib.get_service service_id replies = (some it, next) ∧ methodProvider it = some provider ∧
      lib.method_request service_id replies prepare =
        (some (provider, (prepare it next).msg_seqid provider.client_id),
          (prepare it next).draw provider.client_id) := by
  unfold method_request
  rcases hget : lib.get_service service_id replies with ⟨_ | it, next⟩
  · exact .inl ⟨by simp, rfl⟩
  · cases hprovider : methodProvider it with
    | none => exact .inl (by simp [hprovider])
    | some provider => exact .inr ⟨it, next, provider, rfl, hprovider, by simp [hprovider]⟩

theorem method_request_stores (service_id : UInt32) (replies : Replies) (hfiled : lib.Filed) :
    Stores lib (lib.method_request service_id replies fun _ lib => lib).2 [] := by
  have hservice := get_service_stores service_id replies hfiled
  rcases lib.method_request_cases service_id replies (fun _ lib => lib) with
    ⟨_, hrefused⟩ | ⟨it, next, provider, hget, _, hrequest⟩
  · rw [hrefused]
    exact hservice
  · rw [hget] at hservice
    rw [hrequest]
    exact hservice.trans (draw_stores _ hservice.filed)

variable (ok : Bool)

theorem given_of_refusal {call : ServiceCall φ} {ret : Int} (hrefusal : call.refusal lib = some ret) :
    lib.given (.call call ok) = [] := by
  cases call with
  | provider_service_offer entries =>
    simp only [refusal] at hrefusal
    split at hrefusal
    · rename_i hempty
      rw [List.length_eq_zero_iff.mp hempty, given, storedBy, ite_self]
    · split at hrefusal
      · exact if_pos (.inl ‹_›)
      · split at hrefusal
        · exact if_pos (.inr (Option.isNone_iff_eq_none.mp ‹_›))
        · cases hrefusal
  | listener_service_subscribe entries =>
    simp only [refusal] at hrefusal
    split at hrefusal
    · rename_i hempty
      rw [List.length_eq_zero_iff.mp hempty, given, storedBy, ite_self]
    · split at hrefusal
      · exact if_pos (Option.isNone_iff_eq_none.mp ‹_›)
      · cases hrefusal
  | _ => rfl

theorem loop_stores {call : ServiceCall φ} (hrefusal : call.refusal lib = none) (hfiled : lib.Filed) :
    Stores lib (call.loop lib).2 (lib.given (.call call ok)) := by
  cases call with
  | provider_service_offer entries =>
    rw [given, if_neg (offer_of_refusal hrefusal)]
    exact save_services_stores _ _ _ entries hfiled
  | provider_service_revoke service_ids => exact revoke_services_stores service_ids hfiled
  | listener_service_subscribe entries =>
    simp only [refusal, Option.isNone_iff_eq_none] at hrefusal
    split at hrefusal
    · cases hrefusal
    · split at hrefusal
      · cases hrefusal
      · rw [given, if_neg ‹_›]
        exact save_services_stores _ _ _ entries hfiled
  | provider_service_set_status | listener_service_unsubscribe => exact .refl hfiled

theorem call_stores (call : ServiceCall φ) (ok : Bool) (hfiled : lib.Filed) :
    Stores lib (lib.call ok call).2.2 (lib.given (.call call ok)) := by
  rw [call_eq]
  cases hrefusal : call.refusal lib with
  | some ret =>
    rw [given_of_refusal ok hrefusal]
    exact .refl hfiled
  | none =>
    have hloop := loop_stores ok hrefusal hfiled
    dsimp only
    generalize call.loop lib = loop at hloop ⊢
    obtain ⟨items, next⟩ := loop
    cases items with
    | none => exact hloop
    | some items =>
      refine hloop.trans (?_ : Stores next _ [])
      simp only [observed, concluded, handOver]
      split
      · exact .of_same hloop.filed rfl rfl rfl rfl rfl
      · exact .refl hloop.filed

theorem find_and_save_process_client_stores (client_id : UInt32) (client_name : Str) (hfiled : lib.Filed) :
    Stores lib (lib.find_and_save_process_client client_id client_name) [] := by
  unfold find_and_save_process_client
  split
  · exact save_process_client_stores client_id client_name hfiled
  · exact .refl hfiled

end Services

section Events

variable {lib next : Library φ}

def queueAfter (lib : Library φ) : LibraryEvent φ → List SyncMessage
  | .recv_process message =>
    if message.header.msg_type ≠ E_IPC_HV_SOA_MSG_TYPE_METHOD_RESPONSE_SYNC then lib.msg_handler_queue ++ [message]
    else lib.msg_handler_queue
  | .handle => lib.msg_handler_queue.tail
  | _ => lib.msg_handler_queue

def asyncAfter (lib : Library φ) : LibraryEvent φ → UInt32 → Option φ
  | .method_async service_id async_cb replies =>
    match lib.get_service service_id replies with
    | (some it, _) =>
      if (methodProvider it).isSome then Function.update lib.service_async_handler it.service_id async_cb
      else lib.service_async_handler
    | (none, _) => lib.service_async_handler
  | _ => lib.service_async_handler

/-- What an event does to the handlers and which functions it calls. -/
structure Handles (lib next : Library φ) (event : LibraryEvent φ) : Prop where
  filed : next.Filed
  service_handler : ∀ s, next.service_handler s = ((lib.given event).lookup s).or (lib.service_handler s)
  service_async_handler : next.service_async_handler = lib.asyncAfter event
  queue : next.msg_handler_queue = lib.queueAfter event
  invoked : next.invoked = lib.invoked ++ lib.invocations event

theorem Stores.handles (event : LibraryEvent φ) (h : Stores lib next (lib.given event))
    (hasync : lib.asyncAfter event = lib.service_async_handler)
    (hqueue : lib.queueAfter event = lib.msg_handler_queue) (hinvoked : lib.invocations event = []) :
    Handles lib next event where
  filed := h.filed
  service_handler := h.service_handler
  service_async_handler := h.service_async_handler.trans hasync.symm
  queue := h.queue.trans hqueue.symm
  invoked := by rw [hinvoked, List.append_nil, h.invoked]

theorem method_async_handles (service_id : UInt32) (async_cb : Option φ) (replies : Replies) (hfiled : lib.Filed) :
    Handles lib (lib.method_async service_id async_cb replies).2 (.method_async service_id async_cb replies) := by
  have hservice := get_service_stores service_id replies hfiled
  rw [method_async]
  rcases lib.method_request_cases service_id replies (fun it lib => lib.setAsyncHandler it.service_id async_cb) with
    ⟨hnone, hrefused⟩ | ⟨it, next, provider, hget, hprovider, hrequest⟩
  · rw [hrefused]
    refine Stores.handles _ hservice ?_ rfl rfl
    rw [asyncAfter]
    split
    · rename_i it _ hget
      rw [hnone it (by rw [hget]; rfl), Option.isSome_none, if_neg Bool.false_ne_true]
    · rfl
  · rw [hget] at hservice
    rw [hrequest]
    have hfind := (get_service_find hfiled hget).1
    constructor
    · refine ⟨hservice.filed.keyed, fun s hs => ⟨(hservice.filed.bare s hs).1, ?_⟩⟩
      have hne : s ≠ it.service_id := by
        rintro rfl
        cases hfind.symm.trans hs
      exact (Function.update_of_ne hne ..).trans (hservice.filed.bare s hs).2
    · exact hservice.service_handler
    · have hasync : (next.setAsyncHandler it.service_id async_cb).service_async_handler =
          Function.update lib.service_async_handler it.service_id async_cb := by
        rw [setAsyncHandler, hservice.service_async_handler]
      rw [asyncAfter, hget]
      dsimp only
      rw [hprovider, Option.isSome_some, if_pos rfl]
      exact hasync
    · exact hservice.queue
    · exact hservice.invoked.trans (List.append_nil _).symm

theorem recv_daemon_handles (payload : Payload) (hfiled : lib.Filed) :
    Handles lib (lib.on_recv_daemon payload) (.recv_daemon payload) where
  filed := by
    refine ⟨hfiled.keyed.on_recv_daemon payload, fun s hs => hfiled.bare s ?_⟩
    rw [← Option.not_isSome_iff_eq_none] at hs ⊢
    exact fun hknown => hs (Client.offers_on_recv_daemon hknown payload)
  service_handler _ := rfl
  service_async_handler := rfl
  queue := rfl
  invoked := rfl

theorem recv_process_handles (message : SyncMessage) (hfiled : lib.Filed) :
    Handles lib (lib.on_recv_process message) (.recv_process message) := by
  unfold on_recv_process
  split
  · rename_i hasync
    refine ⟨⟨hfiled.keyed, hfiled.bare⟩, fun _ => rfl, rfl, ?_, (List.append_nil _).symm⟩
    rw [queueAfter, if_pos hasync]
  · rename_i hsync
    refine ⟨hfiled, fun _ => rfl, rfl, ?_, (List.append_nil _).symm⟩
    rw [queueAfter, if_neg hsync]

theorem handle_handles (hfiled : lib.Filed) (hstep : lib.process_msg_handler = some next) :
    Handles lib next .handle := by
  unfold process_msg_handler at hstep
  cases hqueue : lib.msg_handler_queue with
  | nil => simp [hqueue] at hstep
  | cons message rest =>
    rw [hqueue] at hstep
    cases hstep
    refine ⟨⟨hfiled.keyed, hfiled.bare⟩, fun _ => rfl, rfl, ?_, ?_⟩
    · rw [queueAfter, hqueue, List.tail_cons]
    · simp [invocations, hqueue]

theorem step_handles {event : LibraryEvent φ} (hfiled : lib.Filed) (hstep : lib.step event = some next) :
    Handles lib next event := by
  cases event with
  | call call ok =>
    cases hstep
    exact (call_stores call ok hfiled).handles _ rfl rfl rfl
  | method_notify service_id replies | method_sync service_id replies =>
    cases hstep
    exact Stores.handles _ (method_request_stores service_id replies hfiled) rfl rfl rfl
  | method_async service_id async_cb replies =>
    cases hstep
    exact method_async_handles service_id async_cb replies hfiled
  | draw client_id =>
    cases hstep
    exact Stores.handles _ (draw_stores client_id hfiled) rfl rfl rfl
  | connect client_id | self_status client_status | close =>
    cases hstep
    exact Stores.handles _ (.of_same hfiled rfl rfl rfl rfl rfl) rfl rfl rfl
  | accept client_id client_name =>
    cases hstep
    exact Stores.handles _ (find_and_save_process_client_stores client_id client_name hfiled) rfl rfl rfl
  | recv_daemon payload =>
    obtain ⟨_, hnext⟩ := Option.ite_none_right_eq_some.mp hstep
    cases hnext
    exact recv_daemon_handles payload hfiled
  | recv_process message =>
    cases hstep
    exact recv_process_handles message hfiled
  | handle => exact handle_handles hfiled hstep

end Events

end Library

end hub.soa
