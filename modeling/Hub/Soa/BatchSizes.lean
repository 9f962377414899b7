import Hub.Soa.Batch

namespace hub.soa

open local_registry Library StLocalServiceItem FixedArray

variable {φ : Type}

def listedServices : Request → List StLocalServiceItem
  | .register_service msg => msg.produce_services
  | .listen_service msg => msg.listen_services
  | .service_set_status msg => msg.services
  | _ => []

namespace ServiceCall

/-- Every service that the call is given is of a supported type or known to the process,
as the call needs it. -/
def Valid (lib : Library φ) : ServiceCall φ → Prop
  | .provider_service_offer provider_services =>
    (lib.g_client.find_process_client lib.client_id).isSome = true ∧
      ∀ entry ∈ provider_services, (Library.providerMember entry.service_type).isSome = true
  | .provider_service_revoke provider_services =>
    ∀ service_id ∈ provider_services, (lib.g_client.find_service service_id).isSome = true
  | .provider_service_set_status _ _ => True
  | .listener_service_subscribe listener_services =>
    (lib.g_client.find_process_client lib.client_id).isSome = true ∧
      ∀ entry ∈ listener_services, (Library.listenerMember entry.service_type).isSome = true
  | .listener_service_unsubscribe listener_services =>
    ∀ service_id ∈ listener_services, (lib.g_client.find_service service_id).isSome = true

def SizeHandled (lib : Library φ) (call : ServiceCall φ) : Prop :=
  match call with
  | .provider_service_offer _ | .provider_service_revoke _ =>
    call.service_ids.length = LOCAL_REGISTRY_CLIENT_PROVIDE_SERVICES_ONCE_COUNT_MAX → ¬ call.Valid lib
  | .provider_service_set_status _ _ => True
  | .listener_service_subscribe _ | .listener_service_unsubscribe _ =>
    call.service_ids.length ≤ LOCAL_REGISTRY_CLIENT_PROVIDE_SERVICES_ONCE_COUNT_MAX

/-- A list that is too long is refused for its size, and a valid one that fits is not. -/
structure RefusedBySize (lib : Library φ) (call : ServiceCall φ) : Prop where
  long : LOCAL_REGISTRY_CLIENT_PROVIDE_SERVICES_ONCE_COUNT_MAX < call.service_ids.length →
    call.refusal lib = some IPC_HV_SOA_RET_ERR_LIMIT
  fitting : 0 < call.service_ids.length →
    call.service_ids.length ≤ LOCAL_REGISTRY_CLIENT_PROVIDE_SERVICES_ONCE_COUNT_MAX → call.Valid lib →
      call.refusal lib = none

theorem left_ne_limit (call : ServiceCall φ) : call.left ≠ IPC_HV_SOA_RET_ERR_LIMIT := by
  have harg : IPC_HV_SOA_RET_ERR_ARG ≠ IPC_HV_SOA_RET_ERR_LIMIT := by decide
  have hfail : IPC_HV_SOA_RET_FAIL ≠ IPC_HV_SOA_RET_ERR_LIMIT := by decide
  cases call with
  | provider_service_offer | listener_service_subscribe => exact harg
  | provider_service_revoke | provider_service_set_status | listener_service_unsubscribe => exact hfail

end ServiceCall

/-- A call with a list of any size stays inside the array of its message, refuses a list
that does not fit, and builds a message with exactly the services of one that does. -/
structure SizeChecked (lib : Library φ) (call : ServiceCall φ) (result : Option (BatchEnd × Library φ)) : Prop where
  inside : result.isSome = true
  limit : LOCAL_REGISTRY_CLIENT_PROVIDE_SERVICES_ONCE_COUNT_MAX < call.service_ids.length →
    ∀ r, result = some r → r.1.ret = IPC_HV_SOA_RET_ERR_LIMIT ∧ r.1.built = none
  lists : 0 < call.service_ids.length →
    call.service_ids.length ≤ LOCAL_REGISTRY_CLIENT_PROVIDE_SERVICES_ONCE_COUNT_MAX → call.Valid lib →
      ∃ r request, result = some r ∧ r.1.built = some request ∧
        (listedServices request).map StLocalServiceItem.service_id = call.service_ids

namespace Library

variable {lib : Library φ} {it_status : LocalClientStatus} {ok : Bool} {call : ServiceCall φ}

section Loop

variable {entries : List (ServiceEntry φ)} {member : UInt32 → Option Role} {client : Option ProcessClient}
  {service_ids : List UInt32} {service_status : UInt32}

section

variable (h : ∀ entry ∈ entries, (member entry.service_type).isSome = true)

include h

theorem save_services_complete :
    (save_services member service_status client entries lib).1 = true := by
  induction entries generalizing lib with
  | nil => rfl
  | cons entry rest ih =>
    obtain ⟨role, hrole⟩ := Option.isSome_iff_exists.mp (h entry List.mem_cons_self)
    simp only [save_services, hrole]
    exact ih fun other hmem => h other (.tail _ hmem)

theorem savedItems_complete :
    ∃ items next, savedItems member service_status client entries lib = (some items, next) ∧
      items.map service_id = entries.map ServiceEntry.service_id := by
  refine ⟨entries.map fun entry => ⟨entry.service_id, entry.service_type, service_status⟩,
    (save_services member service_status client entries lib).2, ?_, ?_⟩
  · simp only [savedItems, save_services_complete h, if_true]
  · rw [List.map_map]
    rfl

end

theorem revoke_services_complete (hfiled : lib.Filed)
    (h : ∀ s ∈ service_ids, (lib.g_client.find_service s).isSome = true) :
    ∃ items next, revoke_services service_ids lib = (some items, next) ∧
      items.map service_id = service_ids := by
  induction service_ids generalizing lib with
  | nil => exact ⟨[], lib, rfl, rfl⟩
  | cons service_id rest ih =>
    obtain ⟨it, hfind⟩ := Option.isSome_iff_exists.mp (h service_id List.mem_cons_self)
    have hknown : ∀ s ∈ rest, ((lib.setUnavailable service_id it).g_client.find_service s).isSome = true := by
      intro s hmem
      rw [find_service_setUnavailable]
      split
      · rfl
      · exact h s (.tail _ hmem)
    obtain ⟨items, next, hrest, hids⟩ := ih (setUnavailable_stores hfind hfiled).filed hknown
    refine ⟨⟨it.service_id, it.service_type, LOCAL_SERVICE_STATUS_UNAVAILABLE⟩ :: items, next, ?_, ?_⟩
    · simp only [revoke_services, hfind, hrest, Option.map_some]
    · rw [List.map_cons, hids, hfiled.keyed service_id it hfind]

theorem unsubscribe_services_complete (hfiled : lib.Filed)
    (h : ∀ s ∈ service_ids, (lib.g_client.find_service s).isSome = true) :
    ∃ items, lib.unsubscribe_services service_ids = some items ∧
      items.map service_id = service_ids := by
  induction service_ids with
  | nil => exact ⟨[], rfl, rfl⟩
  | cons service_id rest ih =>
    obtain ⟨it, hfind⟩ := Option.isSome_iff_exists.mp (h service_id List.mem_cons_self)
    obtain ⟨items, hrest, hids⟩ := ih fun s hmem => h s (.tail _ hmem)
    refine ⟨⟨it.service_id, it.service_type, 0⟩ :: items, ?_, ?_⟩
    · unfold unsubscribe_services at hrest ⊢
      simp [hfind, hrest]
    · rw [List.map_cons, hids, hfiled.keyed service_id it hfind]

theorem loop_of_valid (hfiled : lib.Filed) (hvalid : call.Valid lib) :
    ∃ items next, call.loop lib = (some items, next) ∧
      items.map service_id = call.service_ids := by
  cases call with
  | provider_service_offer provider_services => exact savedItems_complete hvalid.2
  | provider_service_revoke provider_services => exact revoke_services_complete hfiled hvalid
  | provider_service_set_status provider_services provider_services_status =>
    refine ⟨_, lib, rfl, ?_⟩
    rw [List.map_map]
    exact List.map_id _
  | listener_service_subscribe listener_services => exact savedItems_complete hvalid.2
  | listener_service_unsubscribe listener_services =>
    obtain ⟨items, hitems, hids⟩ := unsubscribe_services_complete hfiled hvalid
    exact ⟨items, lib, by rw [ServiceCall.loop, hitems], hids⟩

theorem subscribe_outside {listener_services : List (ServiceEntry φ)}
    (hvalid : (ServiceCall.listener_service_subscribe listener_services).Valid lib)
    (hlong : LOCAL_REGISTRY_CLIENT_PROVIDE_SERVICES_ONCE_COUNT_MAX < listener_services.length) :
    lib.batch it_status ok (.listener_service_subscribe listener_services) = none := by
  have hfilled : (ServiceCall.listener_service_subscribe listener_services).filled lib = none := by
    refine fill_eq_none (fun _ => True) (fun lib entry hmem _ => ?_) trivial
      (by simpa [empty] using hlong)
    obtain ⟨role, hrole⟩ := Option.isSome_iff_exists.mp (hvalid.2 entry hmem)
    exact ⟨_, _, by rw [saveTurn, hrole]; rfl, trivial⟩
  have hpos : listener_services.length ≠ 0 := by omega
  obtain ⟨it, hit⟩ := Option.isSome_iff_exists.mp hvalid.1
  rw [batch_eq, hfilled]
  simp only [ServiceCall.refusal, hpos, if_false, hit]
  rfl

theorem unsubscribe_outside {listener_services : List UInt32}
    (hvalid : (ServiceCall.listener_service_unsubscribe listener_services).Valid lib)
    (hlong : LOCAL_REGISTRY_CLIENT_PROVIDE_SERVICES_ONCE_COUNT_MAX < listener_services.length) :
    lib.batch it_status ok (.listener_service_unsubscribe listener_services) = none := by
  have hfilled : (ServiceCall.listener_service_unsubscribe listener_services).filled lib = none := by
    refine fill_eq_none (· = lib) (fun state service_id hmem hstate => ?_) rfl
      (by simpa [empty] using hlong)
    obtain ⟨it, hfind⟩ := Option.isSome_iff_exists.mp (hvalid service_id hmem)
    exact ⟨_, state, by rw [unsubscribeTurn, hstate, hfind], hstate⟩
  have hpos : listener_services.length ≠ 0 := by omega
  rw [batch_eq, hfilled]
  simp only [ServiceCall.refusal, hpos, if_false]
  rfl

end Loop

theorem batch_of_refusal {ret : Int} (h : call.refusal lib = some ret) :
    lib.batch it_status ok call = some (.refused ret, lib) := by
  rw [batch_eq, h]

theorem handOver_ret_ne_limit (client_status : LocalClientStatus) (ok : Bool) (request : Request) :
    (lib.handOver client_status ok request).1.ret ≠ IPC_HV_SOA_RET_ERR_LIMIT := by
  have hfail : IPC_HV_SOA_RET_FAIL ≠ IPC_HV_SOA_RET_ERR_LIMIT := by decide
  have hsuccess : IPC_HV_SOA_RET_SUCCESS ≠ IPC_HV_SOA_RET_ERR_LIMIT := by decide
  unfold handOver
  split
  · simp only [BatchEnd.ret]
    split
    · exact hsuccess
    · exact hfail
  · exact hfail

theorem listedServices_request (items : List StLocalServiceItem) (call : ServiceCall φ) :
    listedServices (call.request lib items) = items := by
  cases call <;> rfl

theorem batch_isSome (h : call.refusal lib = none →
      call.service_ids.length ≤ LOCAL_REGISTRY_CLIENT_PROVIDE_SERVICES_ONCE_COUNT_MAX) :
    (lib.batch it_status ok call).isSome = true := by
  rw [batch_eq]
  cases hrefusal : call.refusal lib with
  | some ret => rfl
  | none =>
    obtain ⟨⟨services, next⟩, hfilled⟩ := Option.isSome_iff_exists.mp (filled_isSome (h hrefusal))
    rw [hfilled]
    cases services <;> rfl

theorem sizeChecked_iff_refusal (hfiled : lib.Filed) :
    SizeChecked lib call (lib.batch it_status ok call) ↔ call.RefusedBySize lib := by
  constructor
  · intro hchecked
    constructor
    · intro hlong
      obtain ⟨result, hresult⟩ := Option.isSome_iff_exists.mp hchecked.inside
      obtain ⟨hret, -⟩ := hchecked.limit hlong result hresult
      rcases batch_eq_some hresult with ⟨ret, hrefusal, rfl⟩ | ⟨-, rfl⟩
      · exact hrefusal.trans (congrArg some hret)
      · exfalso
        unfold concluded at hret
        split at hret
        · exact call.left_ne_limit hret
        · exact handOver_ret_ne_limit _ _ _ hret
    · intro hpos hfits hvalid
      obtain ⟨result, request, hresult, hbuilt, -⟩ := hchecked.lists hpos hfits hvalid
      rcases batch_eq_some hresult with ⟨ret, -, rfl⟩ | ⟨hrefusal, -⟩
      · cases hbuilt
      · exact hrefusal
  · rintro ⟨hlimit, haccepted⟩
    have hinside : (lib.batch it_status ok call).isSome = true := by
      refine batch_isSome fun hrefusal => ?_
      by_contra hlong
      rw [hlimit (Nat.lt_of_not_le hlong)] at hrefusal
      cases hrefusal
    refine ⟨hinside, ?_, ?_⟩
    · intro hlong result hresult
      rcases batch_eq_some hresult with ⟨ret, hrefusal, rfl⟩ | ⟨hrefusal, -⟩
      · rw [hlimit hlong] at hrefusal
        cases hrefusal
        exact ⟨rfl, rfl⟩
      · rw [hlimit hlong] at hrefusal
        cases hrefusal
    · intro hpos hfits hvalid
      have hrefusal := haccepted hpos hfits hvalid
      obtain ⟨items, next, hloop, hids⟩ := loop_of_valid hfiled hvalid
      obtain ⟨result, hresult⟩ := Option.isSome_iff_exists.mp hinside
      refine ⟨result, call.request next items, hresult, ?_, by rw [listedServices_request, hids]⟩
      rcases batch_eq_some hresult with ⟨ret, hrefused, -⟩ | ⟨-, rfl⟩
      · rw [hrefusal] at hrefused
        cases hrefused
      · rw [hloop]
        simp only [concluded, handOver]
        split <;> rfl

end Library

namespace ServiceCall

variable {lib : Library φ} {call : ServiceCall φ}

theorem refusedBySize_of_full
    (hfull : LOCAL_REGISTRY_CLIENT_PROVIDE_SERVICES_ONCE_COUNT_MAX ≤ call.service_ids.length →
      call.refusal lib = some IPC_HV_SOA_RET_ERR_LIMIT)
    (haccepts : 0 < call.service_ids.length →
      call.service_ids.length < LOCAL_REGISTRY_CLIENT_PROVIDE_SERVICES_ONCE_COUNT_MAX → call.Valid lib →
        call.refusal lib = none) :
    (call.service_ids.length = LOCAL_REGISTRY_CLIENT_PROVIDE_SERVICES_ONCE_COUNT_MAX → ¬ call.Valid lib) ↔
      call.RefusedBySize lib := by
  have hmax : 0 < LOCAL_REGISTRY_CLIENT_PROVIDE_SERVICES_ONCE_COUNT_MAX := by decide
  constructor
  · intro hhandled
    refine ⟨fun hlong => hfull (Nat.le_of_lt hlong), fun hpos hfits hvalid => ?_⟩
    have hne := fun hlength => hhandled hlength hvalid
    exact haccepts hpos (Nat.lt_of_le_of_ne hfits hne) hvalid
  · intro hrefused hlength hvalid
    have hnone := hrefused.fitting (by omega) (by omega) hvalid
    rw [hfull (Nat.le_of_eq hlength.symm)] at hnone
    cases hnone

theorem refusedBySize_of_unlimited
    (hnever : 0 < call.service_ids.length → call.refusal lib ≠ some IPC_HV_SOA_RET_ERR_LIMIT)
    (haccepts : 0 < call.service_ids.length → call.Valid lib → call.refusal lib = none) :
    call.service_ids.length ≤ LOCAL_REGISTRY_CLIENT_PROVIDE_SERVICES_ONCE_COUNT_MAX ↔ call.RefusedBySize lib := by
  constructor
  · intro hfits
    exact ⟨fun hlong => absurd hlong (Nat.not_lt.mpr hfits), fun hpos _ hvalid => haccepts hpos hvalid⟩
  · intro hrefused
    by_contra hlong
    have hlong := Nat.lt_of_not_le hlong
    exact hnever (by omega) (hrefused.long hlong)

theorem sizeHandled_iff_refusal (lib : Library φ) (call : ServiceCall φ) :
    call.SizeHandled lib ↔ call.RefusedBySize lib := by
  have hmax : 0 < LOCAL_REGISTRY_CLIENT_PROVIDE_SERVICES_ONCE_COUNT_MAX := by decide
  have hfail : IPC_HV_SOA_RET_FAIL ≠ IPC_HV_SOA_RET_ERR_LIMIT := by decide
  cases call with
  | provider_service_offer provider_services =>
    refine refusedBySize_of_full ?_ ?_
    · simp only [service_ids, refusal, List.length_map]
      intro hfull
      rw [if_neg (by omega), if_pos hfull]
    · simp only [service_ids, refusal, List.length_map]
      intro hpos hlt hvalid
      obtain ⟨it, hit⟩ := Option.isSome_iff_exists.mp hvalid.1
      rw [if_neg (by omega), if_neg (by omega), hit]
      rfl
  | provider_service_revoke provider_services =>
    refine refusedBySize_of_full ?_ ?_
    · simp only [service_ids, refusal]
      intro hfull
      rw [if_neg (by omega), if_pos hfull]
    · simp only [service_ids, refusal]
      intro hpos hlt _
      rw [if_neg (by omega), if_neg (by omega)]
  | provider_service_set_status provider_services provider_services_status =>
    refine ⟨fun _ => ⟨?_, ?_⟩, fun _ => trivial⟩
    · simp only [service_ids, refusal]
      intro hlong
      rw [if_neg (by omega), if_pos (by omega)]
    · simp only [service_ids, refusal]
      intro hpos hfits _
      rw [if_neg (by omega), if_neg (by omega)]
  | listener_service_subscribe listener_services =>
    refine refusedBySize_of_unlimited ?_ ?_
    · simp only [service_ids, refusal, List.length_map]
      intro hpos hrefusal
      rw [if_neg (by omega)] at hrefusal
      split at hrefusal
      · exact hfail (Option.some.inj hrefusal)
      · cases hrefusal
    · simp only [service_ids, refusal, List.length_map]
      intro hpos hvalid
      obtain ⟨it, hit⟩ := Option.isSome_iff_exists.mp hvalid.1
      rw [if_neg (by omega), hit]
      rfl
  | listener_service_unsubscribe listener_services =>
    refine refusedBySize_of_unlimited ?_ ?_
    · simp only [service_ids, refusal]
      intro hpos hrefusal
      rw [if_neg (by omega)] at hrefusal
      cases hrefusal
    · simp only [service_ids, refusal]
      intro hpos _
      rw [if_neg (by omega)]

end ServiceCall

/-- The five calls do not agree on the limit: offers and revocations refuse a full array,
and subscriptions and their cancellation have no limit. -/
theorem batch_sizes_checked_iff {client_id : UInt32} {client_pid : Int} {client_name : Str} {m_msg_seqid : UInt32}
    {events : List (LibraryEvent φ)} {lib : Library φ}
    (hrun : run Library.step (Library.init client_id client_pid client_name m_msg_seqid) events = some lib)
    (it_status : LocalClientStatus) (ok : Bool) (call : ServiceCall φ) :
    SizeChecked lib call (lib.batch it_status ok call) ↔ call.SizeHandled lib := by
  have hfiled : lib.Filed :=
    run_invariant Filed (fun _ _ _ hfiled hstep => (step_handles hfiled hstep).filed) (init_filed ..) hrun
  rw [sizeChecked_iff_refusal hfiled, ServiceCall.sizeHandled_iff_refusal]

theorem offer_of_two_checked :
    SizeChecked (Library.init 1 10 [] 1) (.provider_service_offer [⟨7, 1, some ()⟩, ⟨8, 2, none⟩])
      ((Library.init 1 10 [] 1).batch .ONLINE true (.provider_service_offer [⟨7, 1, some ()⟩, ⟨8, 2, none⟩])) := by
  have hinit : run step (init 1 10 [] 1 : Library Unit) [] = some (init 1 10 [] 1) := rfl
  exact (batch_sizes_checked_iff hinit .ONLINE true _).mpr (fun hlength => by cases hlength)

/-- With 128 valid services offers and revocations are refused; with 129 a subscription
and its cancellation write outside the array. -/
theorem batch_sizes_unchecked : ∃ lib : Library Unit,
    run Library.step (Library.init 1 10 [] 1) [.call (.provider_service_offer [⟨7, 1, some ()⟩]) true] = some lib ∧
      (ServiceCall.provider_service_offer (List.replicate 128 ⟨7, 1, some ()⟩)).Valid lib ∧
      lib.batch .ONLINE true (.provider_service_offer (List.replicate 128 ⟨7, 1, some ()⟩)) =
        some (.refused IPC_HV_SOA_RET_ERR_LIMIT, lib) ∧
      (ServiceCall.provider_service_revoke (List.replicate 128 7)).Valid lib ∧
      lib.batch .ONLINE true (.provider_service_revoke (List.replicate 128 7)) =
        some (.refused IPC_HV_SOA_RET_ERR_LIMIT, lib) ∧
      lib.batch .ONLINE true (.listener_service_subscribe (List.replicate 129 ⟨7, 1, some ()⟩)) = none ∧
      lib.batch .ONLINE true (.listener_service_unsubscribe (List.replicate 129 7)) = none := by
  refine ⟨_, rfl, ⟨rfl, ?_⟩, batch_of_refusal ?_, ?_, batch_of_refusal ?_,
    subscribe_outside ⟨rfl, ?_⟩ ?_, unsubscribe_outside ?_ ?_⟩
  · intro entry hmem
    cases List.eq_of_mem_replicate hmem
    rfl
  · simp only [ServiceCall.refusal, List.length_replicate]
    rfl
  · intro service_id hmem
    cases List.eq_of_mem_replicate hmem
    rfl
  · simp only [ServiceCall.refusal, List.length_replicate]
    rfl
  · intro entry hmem
    cases List.eq_of_mem_replicate hmem
    rfl
  · rw [List.length_replicate]
    decide
  · intro service_id hmem
    cases List.eq_of_mem_replicate hmem
    rfl
  · rw [List.length_replicate]
    decide

end hub.soa
