import Hub.Lib.FixedArray
import Hub.Soa.LibrarySteps

namespace hub.soa

open local_registry FixedArray ServiceCall

variable {φ : Type}

/-- The array of services in a message to the daemon. -/
abbrev ServiceArray : Type := FixedArray StLocalServiceItem LOCAL_REGISTRY_CLIENT_PROVIDE_SERVICES_ONCE_COUNT_MAX

namespace Library

/-- A turn of the loop over the entries of an offer or a subscription, which writes its
item before it looks at the type. -/
def saveTurn (member : UInt32 → Option Role) (service_status : UInt32) (client : Option ProcessClient)
    (lib : Library φ) (entry : ServiceEntry φ) : Turn StLocalServiceItem (Library φ) where
  written := some ⟨entry.service_id, entry.service_type, service_status⟩
  next := (member entry.service_type).map fun role =>
    (lib.save_service entry.service_id entry.service_type service_status (entry.u.map (Handler.mk role)) none client).2

variable (lib : Library φ)

def revokeTurn (service_id : UInt32) : Turn StLocalServiceItem (Library φ) :=
  match lib.g_client.find_service service_id with
  | none => ⟨none, none⟩
  | some it =>
    ⟨some ⟨it.service_id, it.service_type, LOCAL_SERVICE_STATUS_UNAVAILABLE⟩, some (lib.setUnavailable service_id it)⟩

def setStatusTurn (provider_services_status : UInt32) (lib : Library φ) (service_id : UInt32) :
    Turn StLocalServiceItem (Library φ) :=
  ⟨some ⟨service_id, 0, provider_services_status⟩, some lib⟩

def unsubscribeTurn (service_id : UInt32) : Turn StLocalServiceItem (Library φ) :=
  match lib.g_client.find_service service_id with
  | none => ⟨none, none⟩
  | some it => ⟨some ⟨it.service_id, it.service_type, 0⟩, some lib⟩

/-- How a call ends after its loop, which `left` is the result of when the loop was left. -/
def afterLoop (filled : Option (Option ServiceArray × Library φ)) (left : Int)
    (client_status : Library φ → LocalClientStatus) (ok : Bool)
    (request : Library φ → List StLocalServiceItem → Request) : Option (BatchEnd × Library φ) :=
  match filled with
  | none => none
  | some (none, lib) => some (.refused left, lib)
  | some (some services, lib) => some (lib.handOver (client_status lib) ok (request lib services.items))

/-- How the call ends and the state after it. There is no result when the loop writes
outside the array of the message. -/
def ipc_hv_soa_provider_service_offer (ok : Bool) (provider_services : List (ServiceEntry φ)) :
    Option (BatchEnd × Library φ) :=
  if provider_services.length = 0 then some (.refused IPC_HV_SOA_RET_ERR_ARG, lib)
  else if LOCAL_REGISTRY_CLIENT_PROVIDE_SERVICES_ONCE_COUNT_MAX ≤ provider_services.length then
    some (.refused IPC_HV_SOA_RET_ERR_LIMIT, lib)
  else
    match lib.g_client.find_process_client lib.client_id with
    | none => some (.refused IPC_HV_SOA_RET_FAIL, lib)
    | some it =>
      afterLoop ((FixedArray.empty : ServiceArray).fill
          (saveTurn providerMember LOCAL_SERVICE_STATUS_AVAILABLE (some it)) provider_services lib)
        IPC_HV_SOA_RET_ERR_ARG client_status ok fun lib produce_services =>
          .register_service { produce_services, provider_client := some lib.clientItem, reg := true }

def ipc_hv_soa_provider_service_revoke (ok : Bool) (provider_services : List UInt32) :
    Option (BatchEnd × Library φ) :=
  if provider_services.length = 0 then some (.refused IPC_HV_SOA_RET_ERR_ARG, lib)
  else if LOCAL_REGISTRY_CLIENT_PROVIDE_SERVICES_ONCE_COUNT_MAX ≤ provider_services.length then
    some (.refused IPC_HV_SOA_RET_ERR_LIMIT, lib)
  else
    afterLoop ((FixedArray.empty : ServiceArray).fill revokeTurn provider_services lib) IPC_HV_SOA_RET_FAIL
      client_status ok fun lib produce_services =>
        .register_service { produce_services, provider_client := some lib.clientItem, reg := false }

def ipc_hv_soa_provider_service_set_status (ok : Bool) (provider_services : List UInt32)
    (provider_services_status : UInt32) : Option (BatchEnd × Library φ) :=
  if provider_services.length = 0 then some (.refused IPC_HV_SOA_RET_ERR_ARG, lib)
  else if LOCAL_REGISTRY_CLIENT_PROVIDE_SERVICES_ONCE_COUNT_MAX < provider_services.length then
    some (.refused IPC_HV_SOA_RET_ERR_LIMIT, lib)
  else
    -- this loop is never left
    afterLoop ((FixedArray.empty : ServiceArray).fill (setStatusTurn provider_services_status) provider_services lib)
      IPC_HV_SOA_RET_FAIL client_status ok fun lib services =>
        .service_set_status { services, provider_client := some lib.clientItem }

/-- There is no limit here. The status that counts is `it_status`, the one in the
process's entry for itself. -/
def ipc_hv_soa_listener_service_subscribe (it_status : LocalClientStatus) (ok : Bool)
    (listener_services : List (ServiceEntry φ)) : Option (BatchEnd × Library φ) :=
  if listener_services.length = 0 then some (.refused IPC_HV_SOA_RET_ERR_ARG, lib)
  else
    match lib.g_client.find_process_client lib.client_id with
    | none => some (.refused IPC_HV_SOA_RET_FAIL, lib)
    | some _ =>
      afterLoop ((FixedArray.empty : ServiceArray).fill (saveTurn listenerMember LOCAL_SERVICE_STATUS_DEFAULT none)
          listener_services lib)
        IPC_HV_SOA_RET_ERR_ARG (fun _ => it_status) ok fun lib listen_services =>
          .listen_service { listen_services, listener_client := some lib.clientItem, reg := true }

def ipc_hv_soa_listener_service_unsubscribe (ok : Bool) (listener_services : List UInt32) :
    Option (BatchEnd × Library φ) :=
  if listener_services.length = 0 then some (.refused IPC_HV_SOA_RET_ERR_ARG, lib)
  else
    afterLoop ((FixedArray.empty : ServiceArray).fill unsubscribeTurn listener_services lib) IPC_HV_SOA_RET_FAIL
      client_status ok fun lib listen_services =>
        .listen_service { listen_services, listener_client := some lib.clientItem, reg := false }

def batch (it_status : LocalClientStatus) (ok : Bool) :
    ServiceCall φ → Option (BatchEnd × Library φ)
  | .provider_service_offer provider_services => lib.ipc_hv_soa_provider_service_offer ok provider_services
  | .provider_service_revoke provider_services => lib.ipc_hv_soa_provider_service_revoke ok provider_services
  | .provider_service_set_status provider_services provider_services_status =>
    lib.ipc_hv_soa_provider_service_set_status ok provider_services provider_services_status
  | .listener_service_subscribe listener_services =>
    lib.ipc_hv_soa_listener_service_subscribe it_status ok listener_services
  | .listener_service_unsubscribe listener_services => lib.ipc_hv_soa_listener_service_unsubscribe ok listener_services

section Fill

variable {lib} {next : Library φ} {filled : Option ServiceArray}

variable {service_ids : List UInt32}

theorem find_service_setUnavailable (service_id : UInt32) (it : Service) (s : UInt32) :
    (lib.setUnavailable service_id it).g_client.find_service s =
      if s = service_id then some { it with service_status := LOCAL_SERVICE_STATUS_UNAVAILABLE }
      else lib.g_client.find_service s :=
  Client.find_service_setService ..

theorem fill_saveTurn {member : UInt32 → Option Role} {service_status : UInt32} {client : Option ProcessClient}
    {entries : List (ServiceEntry φ)}
    (h : (empty : ServiceArray).fill (saveTurn member service_status client) entries lib = some (filled, next)) :
    savedItems member service_status client entries lib = (filled.map items, next) := by
  have hleft : ∀ entry rest (lib : Library φ), (saveTurn member service_status client lib entry).next = none →
      savedItems member service_status client (entry :: rest) lib = (none, lib) := by
    intro entry rest lib hturn
    have hmember : member entry.service_type = none := Option.map_eq_none_iff.mp hturn
    simp [savedItems, save_services, hmember]
  have hnext : ∀ entry rest (lib next : Library φ), (saveTurn member service_status client lib entry).next = some next →
      savedItems member service_status client (entry :: rest) lib =
        ((savedItems member service_status client rest next).1.map
          ((saveTurn member service_status client lib entry).written.toList ++ ·),
          (savedItems member service_status client rest next).2) := by
    intro entry rest lib next hturn
    obtain ⟨role, hmember, rfl⟩ := Option.map_eq_some_iff.mp hturn
    simp only [savedItems, save_services, hmember]
    split <;> rfl
  exact fill_empty_eq_some (savedItems member service_status client) (fun _ => rfl) hleft hnext h

theorem fill_revokeTurn
    (h : (empty : ServiceArray).fill revokeTurn service_ids lib = some (filled, next)) :
    revoke_services service_ids lib = (filled.map items, next) := by
  refine fill_empty_eq_some revoke_services (fun _ => rfl) ?_ ?_ h
  · intro service_id rest lib hturn
    unfold revokeTurn at hturn
    cases hfind : lib.g_client.find_service service_id with
    | none => simp only [revoke_services, hfind]
    | some it =>
      rw [hfind] at hturn
      cases hturn
  · intro service_id rest lib next hturn
    unfold revokeTurn at hturn ⊢
    cases hfind : lib.g_client.find_service service_id with
    | none =>
      rw [hfind] at hturn
      cases hturn
    | some it =>
      rw [hfind] at hturn
      cases hturn
      simp only [revoke_services, hfind]
      rfl

theorem fill_unsubscribeTurn
    (h : (empty : ServiceArray).fill unsubscribeTurn service_ids lib = some (filled, next)) :
    (lib.unsubscribe_services service_ids, lib) = (filled.map items, next) := by
  refine fill_empty_eq_some (fun service_ids lib => (lib.unsubscribe_services service_ids, lib)) (fun _ => rfl)
    ?_ ?_ h
  · intro service_id rest lib hturn
    unfold unsubscribeTurn at hturn
    cases hfind : lib.g_client.find_service service_id with
    | none => simp [unsubscribe_services, hfind]
    | some it =>
      rw [hfind] at hturn
      cases hturn
  · intro service_id rest lib next hturn
    unfold unsubscribeTurn at hturn ⊢
    cases hfind : lib.g_client.find_service service_id with
    | none =>
      rw [hfind] at hturn
      cases hturn
    | some it =>
      rw [hfind] at hturn
      cases hturn
      simp only [unsubscribe_services, List.mapM_cons, hfind, Option.map_some,
        Option.toList_some, Prod.mk.injEq, and_true]
      rw [Option.map_eq_bind]
      rfl

theorem fill_setStatusTurn {provider_services_status : UInt32}
    (h : (empty : ServiceArray).fill (setStatusTurn provider_services_status) service_ids lib =
      some (filled, next)) :
    (some (service_ids.map fun service_id => ⟨service_id, 0, provider_services_status⟩), lib) =
      (filled.map items, next) := by
  refine fill_empty_eq_some (fun service_ids (lib : Library φ) =>
    (some (service_ids.map fun service_id => ⟨service_id, 0, provider_services_status⟩), lib)) (fun _ => rfl) ?_ ?_ h
  · intro service_id rest lib hturn
    cases hturn
  · intro service_id rest lib next hturn
    cases hturn
    rfl

end Fill

end Library

namespace ServiceCall

def service_ids : ServiceCall φ → List UInt32
  | .provider_service_offer provider_services => provider_services.map ServiceEntry.service_id
  | .provider_service_revoke provider_services => provider_services
  | .provider_service_set_status provider_services _ => provider_services
  | .listener_service_subscribe listener_services => listener_services.map ServiceEntry.service_id
  | .listener_service_unsubscribe listener_services => listener_services

def filled (lib : Library φ) : ServiceCall φ → Option (Option ServiceArray × Library φ)
  | .provider_service_offer provider_services =>
    FixedArray.empty.fill (Library.saveTurn Library.providerMember LOCAL_SERVICE_STATUS_AVAILABLE
      (lib.g_client.find_process_client lib.client_id)) provider_services lib
  | .provider_service_revoke provider_services => FixedArray.empty.fill Library.revokeTurn provider_services lib
  | .provider_service_set_status provider_services provider_services_status =>
    FixedArray.empty.fill (Library.setStatusTurn provider_services_status) provider_services lib
  | .listener_service_subscribe listener_services =>
    FixedArray.empty.fill
      (Library.saveTurn Library.listenerMember LOCAL_SERVICE_STATUS_DEFAULT none) listener_services lib
  | .listener_service_unsubscribe listener_services =>
      FixedArray.empty.fill Library.unsubscribeTurn listener_services lib

end ServiceCall

namespace Library

section Refines

variable {lib : Library φ} {it_status : LocalClientStatus} {ok : Bool} {call : ServiceCall φ}
  {result : BatchEnd × Library φ}

theorem batch_eq (lib : Library φ) (it_status : LocalClientStatus) (ok : Bool) (call : ServiceCall φ) :
    lib.batch it_status ok call =
      match call.refusal lib with
      | some ret => some (.refused ret, lib)
      | none => afterLoop (call.filled lib) call.left (call.status it_status) ok fun lib items =>
          call.request lib items := by
  cases call with
  | provider_service_offer provider_services =>
    simp only [batch, ipc_hv_soa_provider_service_offer, refusal]
    split
    · rfl
    · split
      · rfl
      · cases hit : lib.g_client.find_process_client lib.client_id with
        | none => rfl
        | some it =>
          simp only [filled, hit]
          rfl
  | provider_service_revoke provider_services =>
    simp only [batch, ipc_hv_soa_provider_service_revoke, refusal]
    split
    · rfl
    · split <;> rfl
  | provider_service_set_status provider_services provider_services_status =>
    simp only [batch, ipc_hv_soa_provider_service_set_status, refusal]
    split
    · rfl
    · split <;> rfl
  | listener_service_subscribe listener_services =>
    simp only [batch, ipc_hv_soa_listener_service_subscribe, refusal]
    split
    · rfl
    · cases lib.g_client.find_process_client lib.client_id with
      | none | some it => rfl
  | listener_service_unsubscribe listener_services =>
    simp only [batch, ipc_hv_soa_listener_service_unsubscribe, refusal]
    split <;> rfl

theorem filled_eq_some {services : Option ServiceArray} {next : Library φ}
    (h : call.filled lib = some (services, next)) :
    call.loop lib = (services.map items, next) := by
  cases call with
  | provider_service_offer provider_services | listener_service_subscribe listener_services => exact fill_saveTurn h
  | provider_service_revoke provider_services => exact fill_revokeTurn h
  | provider_service_set_status provider_services provider_services_status => exact fill_setStatusTurn h
  | listener_service_unsubscribe listener_services => exact fill_unsubscribeTurn h

theorem filled_isSome (h : call.service_ids.length ≤ LOCAL_REGISTRY_CLIENT_PROVIDE_SERVICES_ONCE_COUNT_MAX) :
    (call.filled lib).isSome = true := by
  cases call with
  | provider_service_offer services | provider_service_revoke services | provider_service_set_status services _
  | listener_service_subscribe services | listener_service_unsubscribe services =>
    exact fill_isSome lib (by simpa [empty, service_ids] using h)

theorem batch_eq_some (h : lib.batch it_status ok call = some result) :
    (∃ ret, call.refusal lib = some ret ∧ result = (.refused ret, lib)) ∨
      call.refusal lib = none ∧ result = concluded (call.loop lib) call.left (call.status it_status) ok
        fun lib items => call.request lib items := by
  rw [batch_eq] at h
  cases hrefusal : call.refusal lib with
  | some ret =>
    rw [hrefusal] at h
    cases h
    exact .inl ⟨ret, rfl, rfl⟩
  | none =>
    rw [hrefusal] at h
    simp only [afterLoop] at h
    split at h
    · cases h
    · rename_i hfilled
      cases h
      rw [filled_eq_some hfilled]
      exact .inr ⟨rfl, rfl⟩
    · rename_i hfilled
      cases h
      rw [filled_eq_some hfilled]
      exact .inr ⟨rfl, rfl⟩

/-- A call that writes only inside its array does what `Library.call` says. -/
theorem call_eq_of_batch (h : lib.batch lib.own_status ok call = some result) :
    lib.call ok call = observed result := by
  rw [call_eq]
  rcases batch_eq_some h with ⟨ret, hrefusal, rfl⟩ | ⟨hrefusal, rfl⟩
  · rw [hrefusal]
    rfl
  · rw [hrefusal]

/-- A process that is online, unlike its entry for itself. -/
def ownEntryOffline : Library Unit := { offering 1 with own_status := .OFFLINE }

theorem subscribe_eq_batch : ∃ request next,
    ownEntryOffline.batch .OFFLINE true (.listener_service_subscribe [⟨8, 1, some ()⟩]) =
        some (.offline request, next) ∧
      ownEntryOffline.call true (.listener_service_subscribe [⟨8, 1, some ()⟩]) =
        (IPC_HV_SOA_RET_FAIL, none, next) := by
  obtain ⟨request, next, hbatch⟩ : ∃ request next,
      ownEntryOffline.batch .OFFLINE true (.listener_service_subscribe [⟨8, 1, some ()⟩]) =
        some (.offline request, next) := ⟨_, _, rfl⟩
  exact ⟨request, next, hbatch, call_eq_of_batch hbatch⟩

end Refines

end Library

end hub.soa
