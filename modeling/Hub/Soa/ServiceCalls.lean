import Hub.Soa.Library

namespace hub.soa

open local_registry ServiceCall Library

variable {φ : Type}

/-- How a call that tells the daemon about services ends: it returns before its message is
complete, or the process is not online, or the message goes to `send_msg_to_daemon`, where
`ok` says whether it could be written. -/
inductive BatchEnd where
  | refused (ret : Int)
  | offline (request : Request)
  | handed (request : Request) (ok : Bool)

namespace BatchEnd

def ret : BatchEnd → Int
  | .refused ret => ret
  | .offline _ => IPC_HV_SOA_RET_FAIL
  | .handed _ ok => if ok then IPC_HV_SOA_RET_SUCCESS else IPC_HV_SOA_RET_FAIL

def built : BatchEnd → Option Request
  | .refused _ => none
  | .offline request => some request
  | .handed request _ => some request

def sent : BatchEnd → Option Request
  | .refused _ => none
  | .offline _ => none
  | .handed request ok => if ok then some request else none

end BatchEnd

namespace Library

/-- The end of the five calls, with the status that they look at. -/
def handOver (lib : Library φ) (client_status : LocalClientStatus) (ok : Bool) (request : Request) :
    BatchEnd × Library φ :=
  if client_status = .ONLINE then
    (.handed request (ok ∧ lib.client_status = .ONLINE), { lib with m_msg_seqid := lib.m_msg_seqid + 1 })
  else (.offline request, lib)

/-- The loop of an offer or a subscription, with what it writes. -/
def savedItems (member : UInt32 → Option Role) (service_status : UInt32) (client : Option ProcessClient)
    (entries : List (ServiceEntry φ)) (lib : Library φ) : Option (List StLocalServiceItem) × Library φ :=
  let (complete, lib) := save_services member service_status client entries lib
  (if complete then some (entries.map fun entry => ⟨entry.service_id, entry.service_type, service_status⟩) else none,
    lib)

end Library

namespace ServiceCall

def refusal (lib : Library φ) : ServiceCall φ → Option Int
  | .provider_service_offer provider_services =>
    if provider_services.length = 0 then some IPC_HV_SOA_RET_ERR_ARG
    else if LOCAL_REGISTRY_CLIENT_PROVIDE_SERVICES_ONCE_COUNT_MAX ≤ provider_services.length then
      some IPC_HV_SOA_RET_ERR_LIMIT
    else if (lib.g_client.find_process_client lib.client_id).isNone then some IPC_HV_SOA_RET_FAIL
    else none
  | .provider_service_revoke provider_services =>
    if provider_services.length = 0 then some IPC_HV_SOA_RET_ERR_ARG
    else if LOCAL_REGISTRY_CLIENT_PROVIDE_SERVICES_ONCE_COUNT_MAX ≤ provider_services.length then
      some IPC_HV_SOA_RET_ERR_LIMIT
    else none
  | .provider_service_set_status provider_services _ =>
    if provider_services.length = 0 then some IPC_HV_SOA_RET_ERR_ARG
    else if LOCAL_REGISTRY_CLIENT_PROVIDE_SERVICES_ONCE_COUNT_MAX < provider_services.length then
      some IPC_HV_SOA_RET_ERR_LIMIT
    else none
  | .listener_service_subscribe listener_services =>
    if listener_services.length = 0 then some IPC_HV_SOA_RET_ERR_ARG
    else if (lib.g_client.find_process_client lib.client_id).isNone then some IPC_HV_SOA_RET_FAIL
    else none
  | .listener_service_unsubscribe listener_services =>
    if listener_services.length = 0 then some IPC_HV_SOA_RET_ERR_ARG else none

def loop (lib : Library φ) : ServiceCall φ → Option (List StLocalServiceItem) × Library φ
  | .provider_service_offer provider_services =>
    Library.savedItems Library.providerMember LOCAL_SERVICE_STATUS_AVAILABLE
      (lib.g_client.find_process_client lib.client_id) provider_services lib
  | .provider_service_revoke provider_services => Library.revoke_services provider_services lib
  | .provider_service_set_status provider_services provider_services_status =>
    (some (provider_services.map fun service_id => ⟨service_id, 0, provider_services_status⟩), lib)
  | .listener_service_subscribe listener_services =>
    Library.savedItems Library.listenerMember LOCAL_SERVICE_STATUS_DEFAULT none listener_services lib
  | .listener_service_unsubscribe listener_services => (lib.unsubscribe_services listener_services, lib)

def left : ServiceCall φ → Int
  | .provider_service_offer _ | .listener_service_subscribe _ => IPC_HV_SOA_RET_ERR_ARG
  | .provider_service_revoke _ | .provider_service_set_status _ _ | .listener_service_unsubscribe _ =>
    IPC_HV_SOA_RET_FAIL

def status (it_status : LocalClientStatus) : ServiceCall φ → Library φ → LocalClientStatus
  | .listener_service_subscribe _, _ => it_status
  | _, lib => lib.client_status

def request (lib : Library φ) (items : List StLocalServiceItem) : ServiceCall φ → Request
  | .provider_service_offer _ =>
    .register_service { produce_services := items, provider_client := some lib.clientItem, reg := true }
  | .provider_service_revoke _ =>
    .register_service { produce_services := items, provider_client := some lib.clientItem, reg := false }
  | .provider_service_set_status _ _ =>
    .service_set_status { services := items, provider_client := some lib.clientItem }
  | .listener_service_subscribe _ =>
    .listen_service { listen_services := items, listener_client := some lib.clientItem, reg := true }
  | .listener_service_unsubscribe _ =>
    .listen_service { listen_services := items, listener_client := some lib.clientItem, reg := false }

theorem offer_of_refusal {lib : Library φ} {entries : List (ServiceEntry φ)}
    (h : (provider_service_offer entries).refusal lib = none) :
    ¬(LOCAL_REGISTRY_CLIENT_PROVIDE_SERVICES_ONCE_COUNT_MAX ≤ entries.length ∨
      lib.g_client.find_process_client lib.client_id = none) := by
  simp only [refusal, Option.isNone_iff_eq_none] at h
  split at h
  · cases h
  · split at h
    · cases h
    · split at h
      · cases h
      · exact not_or_intro ‹_› ‹_›

end ServiceCall

namespace Library

/-- How a call ends after a loop that lists the items of `loop`. -/
def concluded (loop : Option (List StLocalServiceItem) × Library φ) (left : Int)
    (client_status : Library φ → LocalClientStatus) (ok : Bool)
    (request : Library φ → List StLocalServiceItem → Request) : BatchEnd × Library φ :=
  match loop with
  | (none, lib) => (.refused left, lib)
  | (some items, lib) => lib.handOver (client_status lib) ok (request lib items)

variable {lib : Library φ}

def observed (result : BatchEnd × Library φ) : Int × Option Request × Library φ :=
  (result.1.ret, result.1.sent, result.2)

theorem send_msg_to_daemon_eq (client_status : LocalClientStatus) (ok : Bool) (request : Request) :
    lib.send_msg_to_daemon client_status ok request = observed (lib.handOver client_status ok request) := by
  unfold send_msg_to_daemon handOver
  split
  · by_cases hok : ok = true ∧ lib.client_status = .ONLINE
    · simp [observed, BatchEnd.ret, BatchEnd.sent, hok]
    · simp [observed, BatchEnd.ret, BatchEnd.sent, hok]
  · rfl

theorem save_services_own_status (lib : Library φ) (member : UInt32 → Option Role) (service_status : UInt32)
    (client : Option ProcessClient) (entries : List (ServiceEntry φ)) :
    (save_services member service_status client entries lib).2.own_status = lib.own_status := by
  induction entries generalizing lib with
  | nil => rfl
  | cons entry rest ih =>
    simp only [save_services]
    cases member entry.service_type with
    | none => rfl
    | some role => exact ih _

theorem call_eq (lib : Library φ) (ok : Bool) (call : ServiceCall φ) :
    lib.call ok call =
      match call.refusal lib with
      | some ret => (ret, none, lib)
      | none => observed (concluded (call.loop lib) call.left (call.status lib.own_status) ok
          fun lib items => call.request lib items) := by
  cases call with
  | provider_service_offer provider_services =>
    simp only [call, provider_service_offer, refusal]
    split
    · rfl
    · split
      · rfl
      · cases hit : lib.g_client.find_process_client lib.client_id with
        | none => rfl
        | some it =>
          simp only [loop, savedItems, hit]
          cases hsave : save_services providerMember LOCAL_SERVICE_STATUS_AVAILABLE (some it) provider_services lib with
          | mk complete next =>
            cases complete with
            | false => rfl
            | true => exact send_msg_to_daemon_eq ..
  | provider_service_revoke provider_services =>
    simp only [call, provider_service_revoke, refusal]
    split
    · rfl
    · split
      · rfl
      · simp only [loop]
        cases revoke_services provider_services lib with
        | mk items next =>
          cases items with
          | none => rfl
          | some items => exact send_msg_to_daemon_eq ..
  | provider_service_set_status provider_services provider_services_status =>
    simp only [call, provider_service_set_status, refusal]
    split
    · rfl
    · split
      · rfl
      · exact send_msg_to_daemon_eq ..
  | listener_service_subscribe listener_services =>
    simp only [call, listener_service_subscribe, refusal]
    split
    · rfl
    · cases hit : lib.g_client.find_process_client lib.client_id with
      | none => rfl
      | some it =>
        simp only [loop, savedItems]
        have hstatus := lib.save_services_own_status listenerMember LOCAL_SERVICE_STATUS_DEFAULT none listener_services
        cases hsave : save_services listenerMember LOCAL_SERVICE_STATUS_DEFAULT none listener_services lib with
        | mk complete next =>
          cases complete with
          | false => rfl
          | true =>
            rw [hsave] at hstatus
            exact hstatus ▸ send_msg_to_daemon_eq ..
  | listener_service_unsubscribe listener_services =>
    simp only [call, listener_service_unsubscribe, refusal]
    split
    · rfl
    · simp only [loop]
      cases lib.unsubscribe_services listener_services with
      | none => rfl
      | some items => exact send_msg_to_daemon_eq ..

end Library

def offering (service_type : UInt32) : Library Unit :=
  ((Library.init 1 10 [] 1).call true (.provider_service_offer [⟨7, service_type, some ()⟩])).2.2

end hub.soa
