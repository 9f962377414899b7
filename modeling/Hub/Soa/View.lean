import Hub.Soa.Client

namespace hub

open local_registry Payload UnorderedMap

def local_registry.Payload.Adds (s k : UInt32) : Payload → Prop
  | .listener_change_to_provider event_listen => event_listen.service_id = s ∧ event_listen.reg = true ∧
      ∃ item ∈ event_listen.listener_clients, item.client_id = k
  | _ => False

instance (s k : UInt32) : ∀ payload : Payload, Decidable (payload.Adds s k)
  | .listener_change_to_provider _ => inferInstanceAs (Decidable (_ ∧ _))
  | .register_client_resp _ | .get_client_resp _ | .get_service_resp _ | .service_change_status _
  | .ctrl_get_clients _ | .ctrl_get_services _ => .isFalse id

def local_registry.Payload.Removes (s k : UInt32) : Payload → Prop
  | .listener_change_to_provider event_listen => event_listen.service_id = s ∧ event_listen.reg = false ∧
      event_listen.listener_clients.head?.map StLocalClientItem.client_id = some k
  | _ => False

namespace soa.Client

def Lists (g_client : Client) (s k : UInt32) : Prop :=
  ∃ it, g_client.find_service s = some it ∧ (it.service_listeners.lookup k).isSome

instance (g_client : Client) (s k : UInt32) : Decidable (g_client.Lists s k) :=
  inferInstanceAs (Decidable (∃ it ∈ g_client.find_service s, (it.service_listeners.lookup k).isSome))

def receives (g_client : Client) (payloads : List Payload) : Client := payloads.foldl on_recv_daemon g_client

variable (g_client : Client) (item : StLocalClientItem)

theorem process_client_id : (g_client.process_client item).1.client_id = item.client_id := by
  unfold process_client
  split
  · rfl
  · rename_i client hfind
    exact g_client.keyed hfind

theorem find_service_process_client (s : UInt32) :
    (g_client.process_client item).2.find_service s = g_client.find_service s := by
  unfold process_client
  split <;> rfl

theorem find_service_setService (service_id : UInt32) (service : Service) (s : UInt32) :
    (g_client.setService service_id service).find_service s =
      if s = service_id then some service else g_client.find_service s := by
  unfold setService find_service
  split
  · rename_i hs
    rw [hs, AList.lookup_insert]
  · rename_i hs
    exact AList.lookup_insert_ne hs

variable (reg : Bool) (clients : List StLocalClientItem) (it : Service)

theorem find_service_change_listeners (s : UInt32) :
    (change_listeners reg clients it g_client).2.find_service s = g_client.find_service s := by
  induction clients generalizing it g_client with
  | nil => rfl
  | cons p_client rest ih =>
    have hsame := g_client.find_service_process_client p_client s
    simp only [change_listeners]
    split
    · exact (ih _ _).trans hsame
    · exact hsame

variable {s k : UInt32}

theorem lookup_insertNew_isSome {m : UnorderedMap UInt32 ProcessClient} {id : UInt32} {client : ProcessClient} :
    ((m.insertNew id client).lookup k).isSome ↔ k = id ∨ (m.lookup k).isSome := by
  by_cases hid : k = id
  · subst hid
    rw [lookup_insertNew_self]
    simp
  · rw [lookup_insertNew_ne _ _ hid]
    simp [hid]

theorem listeners_change_listeners :
    ((change_listeners reg clients it g_client).1.service_listeners.lookup k).isSome ↔
      if reg then (it.service_listeners.lookup k).isSome ∨ ∃ item ∈ clients, item.client_id = k
      else (it.service_listeners.lookup k).isSome ∧ clients.head?.map StLocalClientItem.client_id ≠ some k := by
  cases reg with
  | false =>
    cases clients with
    | nil => simp [change_listeners]
    | cons p_client rest =>
      simp only [change_listeners, process_client_id, Bool.false_eq_true, if_false, List.head?_cons, Option.map_some,
        ne_eq, Option.some.injEq]
      rw [Option.isSome_iff_exists, Option.isSome_iff_exists]
      simp only [lookup_erase_eq_some]
      constructor
      · rintro ⟨client, hne, hlookup⟩
        exact ⟨⟨client, hlookup⟩, fun heq => hne heq.symm⟩
      · rintro ⟨⟨client, hlookup⟩, hne⟩
        exact ⟨client, fun heq => hne heq.symm, hlookup⟩
  | true =>
    induction clients generalizing it g_client with
    | nil => simp [change_listeners]
    | cons p_client rest ih =>
      simp only [change_listeners, if_true, process_client_id] at ih ⊢
      rw [ih, lookup_insertNew_isSome]
      simp only [List.exists_mem_cons_iff, eq_comm (a := k)]
      tauto

theorem lists_setService {service_id : UInt32} {service : Service} :
    (g_client.setService service_id service).Lists s k ↔
      if s = service_id then (service.service_listeners.lookup k).isSome = true else g_client.Lists s k := by
  unfold Lists
  rw [find_service_setService]
  split <;> simp

theorem lists_congr {g_client other : Client} (hsame : other.find_service s = g_client.find_service s) :
    other.Lists s k ↔ g_client.Lists s k := by
  rw [Lists, Lists, hsame]

theorem lists_of_find_service {g_client : Client} {it : Service} (hfind : g_client.find_service s = some it) :
    g_client.Lists s k ↔ (it.service_listeners.lookup k).isSome := by
  simp [Lists, hfind]

theorem lists_on_recv_daemon {g_client : Client} (hoffers : (g_client.find_service s).isSome) (payload : Payload) :
    (g_client.on_recv_daemon payload).Lists s k ↔
      payload.Adds s k ∨ (g_client.Lists s k ∧ ¬ payload.Removes s k) := by
  cases payload with
  | service_change_status change_status =>
    simp only [Adds, Removes, false_or, not_false_eq_true, and_true]
    cases hfind : g_client.find_service change_status.service.service_id with
    | none => simp only [on_recv_daemon, hfind]
    | some it =>
      cases hprovider : change_status.provider_client with
      | none =>
        simp only [on_recv_daemon, hfind, hprovider]
        rw [lists_setService]
        split
        · rename_i hs
          rw [lists_of_find_service (hs ▸ hfind)]
        · rfl
      | some provider_client =>
        simp only [on_recv_daemon, hfind, hprovider]
        rw [lists_setService]
        split
        · rename_i hs
          rw [lists_of_find_service (hs ▸ hfind)]
        · exact lists_congr (find_service_process_client ..)
  | listener_change_to_provider event_listen =>
    simp only [Adds, Removes]
    cases hfind : g_client.find_service event_listen.service_id with
    | none =>
      have hs : event_listen.service_id ≠ s := by
        rintro rfl
        rw [hfind] at hoffers
        cases hoffers
      simp [on_recv_daemon, hfind, hs]
    | some it =>
      simp only [on_recv_daemon, hfind]
      rw [lists_setService, listeners_change_listeners]
      by_cases hs : s = event_listen.service_id
      · subst hs
        rw [lists_of_find_service hfind]
        cases event_listen.reg with
        | false => simp
        | true => simp [or_comm]
      · rw [if_neg hs, lists_congr (find_service_change_listeners ..)]
        have hs' : event_listen.service_id ≠ s := fun heq => hs heq.symm
        simp [hs']
  | _ =>
    simp [on_recv_daemon, Adds, Removes]

theorem offers_on_recv_daemon {g_client : Client} (hoffers : (g_client.find_service s).isSome) (payload : Payload) :
    ((g_client.on_recv_daemon payload).find_service s).isSome := by
  cases payload with
  | service_change_status change_status =>
    simp only [on_recv_daemon]
    split
    · exact hoffers
    · split
      · rw [find_service_setService]
        split
        · rfl
        · exact hoffers
      · rw [find_service_setService]
        split
        · rfl
        · rw [find_service_process_client]
          exact hoffers
  | listener_change_to_provider event_listen =>
    simp only [on_recv_daemon]
    split
    · exact hoffers
    · rw [find_service_setService]
      split
      · rfl
      · rw [find_service_change_listeners]
        exact hoffers
  | _ => exact hoffers

section Receives

variable {g_client} {payloads : List Payload}

section

variable (hoffers : (g_client.find_service s).isSome)

include hoffers

theorem offers_receives (payloads : List Payload) :
    ((g_client.receives payloads).find_service s).isSome := by
  induction payloads generalizing g_client with
  | nil => exact hoffers
  | cons payload payloads ih => exact ih (offers_on_recv_daemon hoffers payload)

theorem adds_of_lists_receives (hlists : (g_client.receives payloads).Lists s k) :
    g_client.Lists s k ∨ ∃ payload ∈ payloads, payload.Adds s k := by
  induction payloads generalizing g_client with
  | nil => exact .inl hlists
  | cons payload payloads ih =>
    rcases ih (offers_on_recv_daemon hoffers payload) hlists with hnext | ⟨other, hmem, hadds⟩
    · rcases (lists_on_recv_daemon hoffers payload).mp hnext with hadds | ⟨hbefore, _⟩
      · exact .inr ⟨payload, List.mem_cons_self, hadds⟩
      · exact .inl hbefore
    · exact .inr ⟨other, List.mem_cons_of_mem _ hmem, hadds⟩

theorem lists_receives_of_not_removes (hlists : g_client.Lists s k)
    (hkept : ∀ payload ∈ payloads, ¬ payload.Removes s k) : (g_client.receives payloads).Lists s k := by
  induction payloads generalizing g_client with
  | nil => exact hlists
  | cons payload payloads ih =>
    obtain ⟨hpayload, hkept⟩ := List.forall_mem_cons.mp hkept
    exact ih (offers_on_recv_daemon hoffers payload)
      ((lists_on_recv_daemon hoffers payload).mpr (.inr ⟨hlists, hpayload⟩)) hkept

theorem not_lists_receives_of_removes
    (hsilent : ∀ payload ∈ payloads, ¬ payload.Adds s k) (hremoves : ∃ payload ∈ payloads, payload.Removes s k) :
    ¬ (g_client.receives payloads).Lists s k := by
  induction payloads generalizing g_client with
  | nil => simp at hremoves
  | cons payload payloads ih =>
    obtain ⟨hpayload, hsilent⟩ := List.forall_mem_cons.mp hsilent
    have hoffers' := offers_on_recv_daemon hoffers payload
    by_cases hrest : ∃ other ∈ payloads, other.Removes s k
    · exact ih hoffers' hsilent hrest
    · have hremove : payload.Removes s k := by
        obtain ⟨other, hmem, hother⟩ := hremoves
        rcases List.mem_cons.mp hmem with rfl | hmem
        · exact hother
        · exact absurd ⟨other, hmem, hother⟩ hrest
      intro hlists
      rcases adds_of_lists_receives hoffers' hlists with hnext | ⟨other, hmem, hadds⟩
      · rcases (lists_on_recv_daemon hoffers payload).mp hnext with hadds | ⟨_, hkept⟩
        · exact hpayload hadds
        · exact hkept hremove
      · exact hsilent other hmem hadds

end

end Receives

end soa.Client

end hub
