import Hub.LocalRegistry.Unsubscribed
import Hub.Soa.LibrarySteps
import Hub.Soa.Lookup

namespace hub.soa

open local_registry

variable {φ κ : Type}

/-- The service is known as an available method of the client with that id, or as a method
that `get_service` asks for anew. -/
def Service.Fits (client_id : UInt32) (it : Service) : Prop :=
  it.service_type = LOCAL_SERVICE_TYPE_METHOD ∧
    (it.service_status = LOCAL_SERVICE_STATUS_DEFAULT ∨
      it.service_status = LOCAL_SERVICE_STATUS_AVAILABLE ∧
        it.service_provider.map ProcessClient.client_id = some client_id)

instance (client_id : UInt32) (it : Service) : Decidable (it.Fits client_id) := inferInstanceAs (Decidable (_ ∧ _))

namespace Client

def Fits (g_client : Client) (s client_id : UInt32) : Prop :=
  ∀ it, g_client.find_service s = some it → it.Fits client_id

variable {g_client : Client} {s client_id : UInt32}

section

variable (h : g_client.Fits s client_id)

include h

theorem Fits.of_find_service {other : Client}
    (hsame : other.find_service s = g_client.find_service s) : other.Fits s client_id := by
  intro it hfind
  exact h it (hsame.symm.trans hfind)

theorem Fits.setService {service_id : UInt32} {it : Service}
    (hit : service_id = s → it.Fits client_id) : (g_client.setService service_id it).Fits s client_id := by
  intro found hfound
  rw [find_service_setService] at hfound
  split at hfound
  · rename_i hs
    cases hfound
    exact hit hs.symm
  · exact h found hfound

theorem Fits.on_recv_daemon {payload : Payload} (hnone : payload.statusOf s = none) :
    (g_client.on_recv_daemon payload).Fits s client_id := by
  cases payload with
  | service_change_status change_status =>
    have hne : change_status.service.service_id ≠ s := by
      intro heq
      simp [Payload.statusOf, heq] at hnone
    cases hfind : g_client.find_service change_status.service.service_id with
    | none => simpa only [Client.on_recv_daemon, hfind] using h
    | some it =>
      cases hprovider : change_status.provider_client with
      | none =>
        simp only [Client.on_recv_daemon, hfind, hprovider]
        exact h.setService fun heq => absurd heq hne
      | some provider_client =>
        simp only [Client.on_recv_daemon, hfind, hprovider]
        exact (h.of_find_service (g_client.find_service_process_client provider_client s)).setService
          fun heq => absurd heq hne
  | listener_change_to_provider event_listen =>
    cases hfind : g_client.find_service event_listen.service_id with
    | none => simpa only [Client.on_recv_daemon, hfind] using h
    | some it =>
      simp only [Client.on_recv_daemon, hfind]
      refine (h.of_find_service (g_client.find_service_change_listeners _ _ it s)).setService fun heq => ?_
      obtain ⟨service_listeners, hkept⟩ := change_listeners_fst event_listen.reg event_listen.listener_clients it
      rw [hkept]
      exact h it (heq ▸ hfind)
  | _ => exact h

end

theorem save_service_available (g_client : Client) (s : UInt32) (client : ProcessClient) :
    (g_client.save_service s LOCAL_SERVICE_TYPE_METHOD LOCAL_SERVICE_STATUS_AVAILABLE
        (some client)).1.service_type = LOCAL_SERVICE_TYPE_METHOD ∧
      (g_client.save_service s LOCAL_SERVICE_TYPE_METHOD LOCAL_SERVICE_STATUS_AVAILABLE
        (some client)).1.service_status = LOCAL_SERVICE_STATUS_AVAILABLE ∧
      (g_client.save_service s LOCAL_SERVICE_TYPE_METHOD LOCAL_SERVICE_STATUS_AVAILABLE
        (some client)).1.service_provider = some client := by
  unfold save_service
  cases g_client.find_service s with
  | none | some it => exact ⟨rfl, rfl, rfl⟩

end Client

/-- The call leaves what the process knows of the service fitting. The process neither
subscribes to the service nor revokes it, and offers it only as the client with that id. -/
def ServiceCall.Spares (own_id s client_id : UInt32) : ServiceCall φ → Prop
  | .provider_service_offer provider_services => ∀ entry ∈ provider_services, entry.service_id = s →
    entry.service_type = LOCAL_SERVICE_TYPE_METHOD ∧ own_id = client_id
  | .provider_service_revoke provider_services => s ∉ provider_services
  | .listener_service_subscribe listener_services => ∀ entry ∈ listener_services, entry.service_id ≠ s
  | _ => True

instance (own_id s client_id : UInt32) (call : ServiceCall φ) : Decidable (call.Spares own_id s client_id) := by
  cases call with
  | provider_service_offer entries => exact inferInstanceAs (Decidable (∀ entry ∈ entries, _))
  | provider_service_revoke service_ids => exact inferInstanceAs (Decidable (_ ∉ _))
  | listener_service_subscribe entries => exact inferInstanceAs (Decidable (∀ entry ∈ entries, _))
  | provider_service_set_status | listener_service_unsubscribe => exact .isTrue trivial

namespace Library

variable {lib : Library φ} {s client_id : UInt32}

theorem fits_save_service (h : lib.g_client.Fits s client_id) {service_id service_type service_status : UInt32}
    {handler : Option (Handler φ)} {async_handler : Option φ} {client : Option ProcessClient}
    (hsaved : service_id = s →
      (lib.save_service service_id service_type service_status handler async_handler client).1.Fits client_id) :
    (lib.save_service service_id service_type service_status handler async_handler client).2.g_client.Fits s
      client_id :=
  h.setService hsaved

theorem fits_save_services (member : UInt32 → Option Role) (service_status : UInt32) (client : Option ProcessClient)
    {entries : List (ServiceEntry φ)}
    (hentries : ∀ entry ∈ entries, entry.service_id = s →
      ∀ g_client : Client, (g_client.save_service s entry.service_type service_status client).1.Fits client_id)
    (h : lib.g_client.Fits s client_id) :
    (save_services member service_status client entries lib).2.g_client.Fits s client_id := by
  induction entries generalizing lib with
  | nil => exact h
  | cons entry rest ih =>
    simp only [save_services]
    cases member entry.service_type with
    | none => exact h
    | some role =>
      refine ih (fun other hother => hentries other (.tail _ hother)) (fits_save_service h ?_)
      rintro rfl
      exact hentries entry List.mem_cons_self rfl lib.g_client

theorem fits_revoke_services {service_ids : List UInt32} (hs : s ∉ service_ids) (h : lib.g_client.Fits s client_id) :
    (revoke_services service_ids lib).2.g_client.Fits s client_id := by
  induction service_ids generalizing lib with
  | nil => exact h
  | cons service_id rest ih =>
    rw [List.mem_cons, not_or] at hs
    simp only [revoke_services]
    cases lib.g_client.find_service service_id with
    | none => exact h
    | some it => exact ih hs.2 (h.setService fun heq => absurd heq.symm hs.1)

/-- What a call comes to: what the process knows of the service still fits, and a message
that it sends subscribes nobody to the service. -/
structure Spared (outcome : Int × Option Request × Library φ) (s client_id : UInt32) (name : Str)
    (channel : SocketChannel) : Prop where
  fits : outcome.2.2.g_client.Fits s client_id
  request : ∀ request ∈ outcome.2.1, (Event.message channel request).Spares s name channel.id

section Calls

variable {name : Str} {channel : SocketChannel} {ok : Bool}

theorem spared_refused (ret : Int) (h : lib.g_client.Fits s client_id) :
    Spared (ret, none, lib) s client_id name channel :=
  ⟨h, fun _ hrequest => by cases hrequest⟩

theorem spared_handOver (client_status : LocalClientStatus) (h : lib.g_client.Fits s client_id) {request : Request}
    (hrequest : (Event.message channel request).Spares s name channel.id) :
    Spared (observed (lib.handOver client_status ok request)) s client_id name channel := by
  unfold handOver
  split
  · refine ⟨h, fun other hother => ?_⟩
    obtain ⟨_, hother⟩ := Option.ite_none_right_eq_some.mp hother
    cases hother
    exact hrequest
  · exact spared_refused _ h

theorem fits_loop {call : ServiceCall φ} (hrefusal : call.refusal lib = none)
    (hcall : call.Spares lib.client_id s client_id) (h : lib.g_client.Fits s client_id) :
    (call.loop lib).2.g_client.Fits s client_id := by
  cases call with
  | provider_service_offer entries =>
    refine fits_save_services _ _ _ (fun entry hentry hs g_client => ?_) h
    obtain ⟨htype, hid⟩ := hcall entry hentry hs
    rw [htype]
    cases hfind : lib.g_client.find_process_client lib.client_id with
    | none => exact absurd (.inr hfind) (ServiceCall.offer_of_refusal hrefusal)
    | some it =>
      obtain ⟨hmethod, havailable, hprovider⟩ := g_client.save_service_available s it
      refine ⟨hmethod, .inr ⟨havailable, ?_⟩⟩
      rw [hprovider, Option.map_some, lib.g_client.keyed hfind, hid]
  | provider_service_revoke service_ids => exact fits_revoke_services hcall h
  | listener_service_subscribe entries =>
    exact fits_save_services _ _ _ (fun entry hentry hs => absurd hs (hcall entry hentry)) h
  | provider_service_set_status | listener_service_unsubscribe => exact h

theorem request_spares {call : ServiceCall φ} (hcall : call.Spares lib.client_id s client_id) (next : Library φ)
    {items : List StLocalServiceItem} (hitems : (call.loop lib).1 = some items) :
    (Event.message channel (call.request next items)).Spares s name channel.id := by
  cases call with
  | listener_service_subscribe entries =>
    obtain ⟨_, hitems⟩ := Option.ite_none_right_eq_some.mp hitems
    cases hitems
    intro _ _ item hitem
    obtain ⟨entry, hentry, rfl⟩ := List.mem_map.mp hitem
    exact hcall entry hentry
  | listener_service_unsubscribe service_ids =>
    intro hreg
    cases hreg
  | provider_service_offer | provider_service_revoke | provider_service_set_status => exact trivial

theorem spared_call (name : Str) (channel : SocketChannel) (ok : Bool) {call : ServiceCall φ}
    (hcall : call.Spares lib.client_id s client_id)
    (h : lib.g_client.Fits s client_id) : Spared (lib.call ok call) s client_id name channel := by
  rw [call_eq]
  cases hrefusal : call.refusal lib with
  | some ret => exact spared_refused ret h
  | none =>
    have hfits := fits_loop hrefusal hcall h
    dsimp only
    cases hloop : call.loop lib with
    | mk items next =>
      rw [hloop] at hfits
      cases items with
      | none => exact spared_refused _ hfits
      | some items => exact spared_handOver _ hfits (request_spares hcall next (by rw [hloop]))

end Calls

theorem g_client_finish (lib : Library φ) (service_item : Option Service) (caller : LookupCaller φ) :
    (lib.finish service_item caller).g_client = lib.g_client := by
  unfold finish
  split
  · rfl
  · split <;> rfl
  · split
    · rfl
    · split <;> rfl

theorem fits_own {event : LibraryEvent φ} {next : Library φ} (hown : event.IsOwn = true)
    (hstep : lib.step event = some next) (h : lib.g_client.Fits s client_id) : next.g_client.Fits s client_id := by
  cases event with
  | draw id | connect id | self_status client_status =>
    cases hstep
    exact h
  | accept id client_name =>
    cases hstep
    unfold find_and_save_process_client
    split
    · exact h.of_find_service rfl
    · exact h
  | recv_process message =>
    cases hstep
    unfold on_recv_process
    split <;> exact h
  | handle =>
    simp only [step, process_msg_handler] at hstep
    split at hstep
    · cases hstep
    · cases hstep
      exact h
  | _ => cases hown

end Library

namespace LookupSystem

/-- The step leaves what the process knows of the service fitting: a call that does, a
lookup that yields a service which fits, and in the daemon no subscription under the name
of the process. -/
def Undisturbed (s client_id : UInt32) (name : Str) (channel : SocketChannel) (sys : LookupSystem φ κ) :
    LookupEvent φ κ → Prop
  | .call call _ => call.Spares sys.lib.client_id s client_id
  | .proceed k _ =>
    match sys.lookup k with
    | .saving resp client => resp.service.service_id = s → (sys.lib.save_answer resp client).1.Fits client_id
    | _ => True
  | .daemon _ event => event.Spares s name channel.id
  | _ => True

instance (s client_id : UInt32) (name : Str) (channel : SocketChannel) (sys : LookupSystem φ κ)
    (event : LookupEvent φ κ) : Decidable (sys.Undisturbed s client_id name channel event) := by
  cases event with
  | call call ok => exact inferInstanceAs (Decidable (call.Spares _ _ _))
  | proceed k ok =>
    unfold Undisturbed
    dsimp only
    split <;> infer_instance
  | daemon env event => exact inferInstanceAs (Decidable (event.Spares _ _ _))
  | _ => exact .isTrue trivial

/-- What the process knows of the service fits, and no message between it and the daemon
can change that. -/
structure Tracks (sys : LookupSystem φ κ) (s client_id : UInt32) (name : Str) (channel : SocketChannel) : Prop where
  untold : sys.daemon.Untold s name channel.id
  outbox : ∀ request ∈ sys.outbox, (Event.message channel request).Spares s name channel.id
  inbox : ∀ frame ∈ sys.inbox, frame.payload.statusOf s = none
  fits : sys.lib.g_client.Fits s client_id

section Tracks

variable {sys next : LookupSystem φ κ} {s client_id : UInt32} {name : Str} {channel : SocketChannel}

theorem Tracks.handle (h : sys.Tracks s client_id name channel) {env : Env} {event : Event}
    (hspares : event.Spares s name channel.id) (hnext : sys.handle channel env event = some next) :
    next.Tracks s client_id name channel := by
  obtain ⟨daemon, hstep, rfl⟩ := Option.map_eq_some_iff.mp hnext
  have huntold := h.untold.step hspares hstep
  refine ⟨huntold, h.outbox, fun frame hframe => ?_, h.fits⟩
  rcases List.mem_append.mp hframe with hold | hnew
  · exact h.inbox frame hold
  · obtain ⟨hsent, hchannel⟩ := List.mem_filter.mp hnew
    exact huntold.sent frame (List.mem_of_mem_drop hsent) (beq_iff_eq.mp hchannel)

variable [DecidableEq κ]

namespace Tracks

variable (h : sys.Tracks s client_id name channel)

include h

theorem send_msg_to_daemon_sync (k : κ) (ok : Bool) (service_id : UInt32) {request : StLocalMsgHeader → Request}
    (hrequest : ∀ header, (Event.message channel (request header)).Spares s name channel.id)
    (waiting : UInt32 → Lookup) (failed : Lookup) :
    (sys.send_msg_to_daemon_sync k ok service_id request waiting failed).Tracks s client_id name channel := by
  unfold LookupSystem.send_msg_to_daemon_sync
  cases ok with
  | true =>
    refine ⟨h.untold, fun other hother => ?_, h.inbox, h.fits⟩
    rcases List.mem_append.mp hother with hold | hnew
    · exact h.outbox other hold
    · rw [List.mem_singleton.mp hnew]
      exact hrequest _
  | false => exact ⟨h.untold, h.outbox, h.inbox, h.fits⟩

theorem proceed {k : κ} {ok : Bool} (hundisturbed : sys.Undisturbed s client_id name channel (.proceed k ok))
    (hnext : sys.proceed k ok = some next) : next.Tracks s client_id name channel := by
  unfold LookupSystem.proceed at hnext
  split at hnext
  · split at hnext
    · cases hnext
      exact ⟨h.untold, h.outbox, h.inbox, h.fits⟩
    · cases hnext
      unfold get_process_client
      split
      · exact ⟨h.untold, h.outbox, h.inbox, h.fits⟩
      split
      · exact ⟨h.untold, h.outbox, h.inbox, h.fits⟩
      · refine h.send_msg_to_daemon_sync k ok _ ?_ _ _
        intro header
        trivial
  · split at hnext
    · cases hnext
      exact ⟨h.untold, h.outbox, h.inbox, h.fits⟩
    · cases hnext
      exact ⟨h.untold, h.outbox, h.inbox, h.fits.of_find_service rfl⟩
  · rename_i resp client hsaving
    cases hnext
    simp only [Undisturbed, hsaving] at hundisturbed
    exact ⟨h.untold, h.outbox, h.inbox, Library.fits_save_service h.fits hundisturbed⟩
  · cases hnext

theorem on_recv_daemon {frame : Sent}
    (hframe : frame.payload.statusOf s = none) : (sys.on_recv_daemon frame).Tracks s client_id name channel := by
  unfold LookupSystem.on_recv_daemon
  split
  · exact ⟨h.untold, h.outbox, h.inbox, h.fits.on_recv_daemon hframe⟩
  · exact ⟨h.untold, h.outbox, h.inbox, h.fits.on_recv_daemon hframe⟩
  · split <;> exact ⟨h.untold, h.outbox, h.inbox, h.fits⟩

theorem step {event : LookupEvent φ κ}
    (hundisturbed : sys.Undisturbed s client_id name channel event) (hnext : sys.step channel event = some next) :
    next.Tracks s client_id name channel := by
  cases event with
  | get_service k service_id ok =>
    simp only [LookupSystem.step] at hnext
    split at hnext
    · cases hnext
      unfold LookupSystem.get_service
      split
      · exact ⟨h.untold, h.outbox, h.inbox, h.fits⟩
      split
      · exact ⟨h.untold, h.outbox, h.inbox, h.fits⟩
      · refine h.send_msg_to_daemon_sync k ok _ ?_ _ _
        intro header
        trivial
    · cases hnext
  | proceed k ok => exact h.proceed hundisturbed hnext
  | expire k =>
    simp only [LookupSystem.step, expire] at hnext
    split at hnext
    · cases hnext
      exact ⟨h.untold, h.outbox, h.inbox, h.fits⟩
    · cases hnext
      exact ⟨h.untold, h.outbox, h.inbox, h.fits⟩
    · cases hnext
  | finish k caller =>
    simp only [LookupSystem.step] at hnext
    split at hnext
    · cases hnext
      exact ⟨h.untold, h.outbox, h.inbox, h.fits.of_find_service (by rw [setLookup, Library.g_client_finish])⟩
    · cases hnext
  | call call ok =>
    cases hnext
    have hspared := Library.spared_call name channel ok hundisturbed h.fits
    refine ⟨h.untold, fun request hrequest => ?_, h.inbox, hspared.fits⟩
    rcases List.mem_append.mp hrequest with hold | hnew
    · exact h.outbox request hold
    · exact hspared.request request (Option.mem_toList.mp hnew)
  | own event =>
    simp only [LookupSystem.step] at hnext
    split at hnext
    · rename_i hown
      obtain ⟨lib, hlib, rfl⟩ := Option.map_eq_some_iff.mp hnext
      exact ⟨h.untold, h.outbox, h.inbox, Library.fits_own hown hlib h.fits⟩
    · cases hnext
  | close =>
    cases hnext
    exact ⟨h.untold, h.outbox, h.inbox, h.fits.of_find_service rfl⟩
  | deliver env =>
    simp only [LookupSystem.step] at hnext
    split at hnext
    · cases hnext
    · rename_i request rest houtbox
      have hrest : LookupSystem.Tracks { sys with outbox := rest } s client_id name channel :=
        ⟨h.untold, fun other hother => h.outbox other (houtbox ▸ .tail _ hother), h.inbox, h.fits⟩
      exact hrest.handle (h.outbox request (houtbox ▸ List.mem_cons_self)) hnext
  | receive =>
    simp only [LookupSystem.step] at hnext
    split at hnext
    · cases hnext
    · rename_i frame rest hinbox
      have hrest : LookupSystem.Tracks { sys with inbox := rest } s client_id name channel :=
        ⟨h.untold, h.outbox, fun other hother => h.inbox other (hinbox ▸ .tail _ hother), h.fits⟩
      split at hnext
      · cases hnext
        exact hrest.on_recv_daemon (h.inbox frame (hinbox ▸ List.mem_cons_self))
      · cases hnext
  | daemon env event =>
    simp only [LookupSystem.step] at hnext
    split at hnext
    · exact h.handle hundisturbed hnext
    · cases hnext

theorem run {events : List (LookupEvent φ κ)}
    (hmeets : Meets (LookupSystem.step channel) (Undisturbed s client_id name channel) sys events)
    (hrun : hub.run (LookupSystem.step channel) sys events = some next) : next.Tracks s client_id name channel :=
  run_invariant_of_meets (fun sys : LookupSystem φ κ => sys.Tracks s client_id name channel)
    (fun _ _ _ htracks hundisturbed hnext => htracks.step hundisturbed hnext) h hmeets hrun

end Tracks

end Tracks

end LookupSystem

end hub.soa
