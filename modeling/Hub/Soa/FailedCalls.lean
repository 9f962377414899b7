import Hub.Soa.Batch

namespace hub.soa

open local_registry Library

variable {φ : Type}

/-- The call fails and nothing was given to the daemon's connection. -/
def BatchEnd.FailedUnsent : BatchEnd → Prop
  | .refused ret => ret ≠ IPC_HV_SOA_RET_SUCCESS
  | .offline _ => True
  | .handed _ _ => False

def lastEntry (s : UInt32) : List (ServiceEntry φ) → Option (ServiceEntry φ)
  | [] => none
  | entry :: rest => (lastEntry s rest).or (if entry.service_id = s then some entry else none)

def supported (member : UInt32 → Option Role) (entries : List (ServiceEntry φ)) : List (ServiceEntry φ) :=
  entries.takeWhile fun entry => (member entry.service_type).isSome

variable {member : UInt32 → Option Role}

theorem supported_cons {entry : ServiceEntry φ} {role : Role}
    (hmember : member entry.service_type = some role) (rest : List (ServiceEntry φ)) :
    supported member (entry :: rest) = entry :: supported member rest := by
  simp [supported, hmember]

theorem lastEntry_of_stored {entries : List (ServiceEntry φ)} {s : UInt32}
    {handler : Handler φ} (h : (storedBy member entries).lookup s = some handler) :
    ∃ entry, lastEntry s (supported member entries) = some entry := by
  induction entries with
  | nil => cases h
  | cons entry rest ih =>
    cases hmember : member entry.service_type with
    | none =>
      rw [storedBy, hmember] at h
      cases h
    | some role =>
      simp only [storedBy, hmember] at h
      rw [supported_cons hmember, lastEntry]
      rw [List.lookup_append] at h
      rcases Option.or_eq_some_iff.mp h with hrest | ⟨-, hentry⟩
      · obtain ⟨last, hlast⟩ := ih hrest
        exact ⟨last, by rw [hlast]; rfl⟩
      · have hs : entry.service_id = s := by
          cases hu : entry.u with
          | none => simp [hu] at hentry
          | some cb =>
            by_contra hne
            simp [hu, List.lookup_cons, beq_eq_false_iff_ne.mpr (Ne.symm hne)] at hentry
        cases lastEntry s (supported member rest) with
        | none => exact ⟨entry, by simp [hs]⟩
        | some last => exact ⟨last, rfl⟩

namespace Service

def stamped (it : Service) (service_type service_status : UInt32) (client : Option ProcessClient) : Service :=
  { it with
    service_type := service_type
    service_status := service_status
    service_provider := client.or it.service_provider }

theorem stamped_eq_self_iff {it : Service} {service_type service_status : UInt32} {client : Option ProcessClient} :
    it.stamped service_type service_status client = it ↔
      it.service_type = service_type ∧ it.service_status = service_status ∧
        ∀ provider, client = some provider → it.service_provider = some provider := by
  obtain ⟨id, type, status, old, listeners⟩ := it
  cases client with
  | none | some provider => simp [stamped, eq_comm]

end Service

namespace Library

variable {lib next : Library φ}

structure SameServices (lib next : Library φ) : Prop where
  services : ∀ s, next.g_client.find_service s = lib.g_client.find_service s
  handlers : ∀ s, (lib.g_client.find_service s).isSome = true →
    next.service_handler s = lib.service_handler s ∧ next.service_async_handler s = lib.service_async_handler s

section Save

variable {service_status : UInt32} {client : Option ProcessClient}

/-- What the loop of an offer or a subscription does to a service that is known. -/
structure SavedOver (lib next : Library φ) (s : UInt32) (it : Service) (member : UInt32 → Option Role)
    (service_status : UInt32) (client : Option ProcessClient) (entries : List (ServiceEntry φ)) : Prop where
  service : next.g_client.find_service s =
    some ((lastEntry s (supported member entries)).elim it fun entry =>
      it.stamped entry.service_type service_status client)
  handler : next.service_handler s = ((storedBy member entries).lookup s).or (lib.service_handler s)
  async_handler : next.service_async_handler s = lib.service_async_handler s

variable {s : UInt32} {entries : List (ServiceEntry φ)} {it : Service} {α : Type}

theorem savePointer_of_ne {pointers : UInt32 → Option α} {service_id s : UInt32} (hs : s ≠ service_id)
    (known : Bool) (pointer : Option α) : savePointer known pointers service_id pointer s = pointers s := by
  unfold savePointer
  split
  · rfl
  · exact Function.update_of_ne hs ..

theorem savePointer_of_known (pointers : UInt32 → Option α) (s : UInt32) (pointer : Option α) :
    savePointer true pointers s pointer s = pointer.or (pointers s) := by
  rw [savePointer_apply pointer (fun hknown => by cases hknown), if_pos rfl]

theorem SavedOver.save {entry : ServiceEntry φ} {rest : List (ServiceEntry φ)} {role : Role}
    (hmember : member entry.service_type = some role) (hfind : lib.g_client.find_service s = some it)
    (h : ∀ it, (lib.save_service entry.service_id entry.service_type service_status (entry.u.map (Handler.mk role)) none
        client).2.g_client.find_service s = some it →
      SavedOver (lib.save_service entry.service_id entry.service_type service_status
        (entry.u.map (Handler.mk role)) none
        client).2 next s it member service_status client rest) :
    SavedOver lib next s it member service_status client (entry :: rest) := by
  have hsupported := supported_cons hmember rest
  have hstored : storedBy member (entry :: rest) =
      storedBy member rest ++ (entry.u.map fun cb => (entry.service_id, ⟨role, cb⟩)).toList := by
    simp only [storedBy, hmember]
  by_cases hs : entry.service_id = s
  · subst hs
    have hknown : (lib.g_client.find_service entry.service_id).isSome = true := by rw [hfind]; rfl
    have hrest := h (it.stamped entry.service_type service_status client) (by
      rw [find_service_save_service, if_pos rfl]
      simp only [save_service, Client.save_service, hfind]
      cases client <;> rfl)
    refine ⟨?_, ?_, ?_⟩
    · rw [hrest.service, hsupported, lastEntry, if_pos rfl]
      cases lastEntry entry.service_id (supported member rest) with
      | none => rfl
      | some last => cases client <;> rfl
    · rw [hrest.handler, hstored, List.lookup_append, Option.or_assoc]
      congr 1
      simp only [save_service, hknown, savePointer_of_known]
      cases entry.u with
      | none => rfl
      | some cb => simp
    · rw [hrest.async_handler]
      simp only [save_service, hknown, savePointer_of_known, Option.none_or]
  · have hsame := (find_service_save_service lib entry.service_id entry.service_type service_status
      (entry.u.map (Handler.mk role)) none client s).trans (if_neg (Ne.symm hs))
    have hrest := h it (hsame.trans hfind)
    refine ⟨?_, ?_, ?_⟩
    · rw [hrest.service, hsupported, lastEntry, if_neg hs, Option.or_none]
    · rw [hrest.handler, hstored, List.lookup_append, Option.or_assoc]
      congr 1
      simp only [save_service, savePointer_of_ne (Ne.symm hs)]
      cases entry.u with
      | none => rfl
      | some cb => simp [List.lookup_cons, beq_eq_false_iff_ne.mpr (Ne.symm hs)]
    · rw [hrest.async_handler]
      exact savePointer_of_ne (Ne.symm hs) ..

theorem save_services_known (member : UInt32 → Option Role) (service_status : UInt32) (client : Option ProcessClient)
    (entries : List (ServiceEntry φ)) (hfind : lib.g_client.find_service s = some it) :
    SavedOver lib (save_services member service_status client entries lib).2 s it member
      service_status client entries := by
  induction entries generalizing lib it with
  | nil => exact ⟨hfind, rfl, rfl⟩
  | cons entry rest ih =>
    cases hmember : member entry.service_type with
    | none =>
      simp only [save_services, hmember]
      exact ⟨by simp [supported, hmember, lastEntry, hfind], by simp [storedBy, hmember], rfl⟩
    | some role =>
      simp only [save_services, hmember]
      exact .save hmember hfind fun it hfind => ih hfind

theorem save_services_unknown (hfind : lib.g_client.find_service s = none) :
    (save_services member service_status client entries lib).2.g_client.find_service s = none ↔
      lastEntry s (supported member entries) = none := by
  induction entries generalizing lib with
  | nil => simp [save_services, supported, lastEntry, hfind]
  | cons entry rest ih =>
    cases hmember : member entry.service_type with
    | none => simp [save_services, supported, lastEntry, hfind, hmember]
    | some role =>
      have hsave := find_service_save_service lib entry.service_id entry.service_type service_status
        (entry.u.map (Handler.mk role)) none client s
      simp only [save_services, hmember, supported_cons hmember, lastEntry]
      by_cases hs : entry.service_id = s
      · rw [if_pos hs.symm] at hsave
        rw [(save_services_known member service_status client rest hsave).service]
        simp [hs]
      · rw [if_neg (Ne.symm hs), hfind] at hsave
        rw [ih hsave, if_neg hs, Option.or_none]

/-- Every entry that the loop of an offer or a subscription comes to is in the map as the
loop leaves it there: with its last type, the status, the provider and its last function. -/
structure HoldsEntries (lib : Library φ) (member : UInt32 → Option Role) (service_status : UInt32)
    (client : Option ProcessClient) (entries : List (ServiceEntry φ)) : Prop where
  services : ∀ s entry, lastEntry s (supported member entries) = some entry →
    ∃ it, lib.g_client.find_service s = some it ∧ it.service_type = entry.service_type ∧
      it.service_status = service_status ∧ ∀ provider, client = some provider → it.service_provider = some provider
  handlers : ∀ s handler, (storedBy member entries).lookup s = some handler → lib.service_handler s = some handler

theorem save_services_same_iff :
    SameServices lib (save_services member service_status client entries lib).2 ↔
      HoldsEntries lib member service_status client entries := by
  constructor
  · intro hsame
    have hknown : ∀ s entry, lastEntry s (supported member entries) = some entry →
        ∃ it, lib.g_client.find_service s = some it := by
      intro s entry hlast
      cases hfind : lib.g_client.find_service s with
      | some it => exact ⟨it, rfl⟩
      | none =>
        have hnone := (save_services_unknown hfind).mp ((hsame.services s).trans hfind)
        rw [hlast] at hnone
        cases hnone
    constructor
    · intro s entry hlast
      obtain ⟨it, hfind⟩ := hknown s entry hlast
      have hservice := (save_services_known member service_status client entries hfind).service
      rw [hsame.services s, hfind, hlast] at hservice
      exact ⟨it, hfind, Service.stamped_eq_self_iff.mp (Option.some.inj hservice).symm⟩
    · intro s handler hstored
      obtain ⟨entry, hlast⟩ := lastEntry_of_stored hstored
      obtain ⟨it, hfind⟩ := hknown s entry hlast
      have hhandler := (save_services_known member service_status client entries hfind).handler
      rw [(hsame.handlers s (by rw [hfind]; rfl)).1, hstored] at hhandler
      exact hhandler
  · intro hholds
    constructor
    · intro s
      cases hfind : lib.g_client.find_service s with
      | none =>
        refine (save_services_unknown hfind).mpr ?_
        cases hlast : lastEntry s (supported member entries) with
        | none => rfl
        | some entry =>
          obtain ⟨it, hit, -⟩ := hholds.services s entry hlast
          rw [hfind] at hit
          cases hit
      | some it =>
        rw [(save_services_known member service_status client entries hfind).service]
        cases hlast : lastEntry s (supported member entries) with
        | none => rfl
        | some entry =>
          obtain ⟨it', hit, hstamped⟩ := hholds.services s entry hlast
          cases hfind.symm.trans hit
          exact congrArg some (Service.stamped_eq_self_iff.mpr hstamped)
    · intro s hs
      obtain ⟨it, hfind⟩ := Option.isSome_iff_exists.mp hs
      have hsaved := save_services_known member service_status client entries hfind
      refine ⟨?_, hsaved.async_handler⟩
      rw [hsaved.handler]
      cases hstored : (storedBy member entries).lookup s with
      | none => rfl
      | some handler => exact (hholds.handlers s handler hstored).symm

end Save

section Revoke

def revocable (lib : Library φ) (service_ids : List UInt32) : List UInt32 :=
  service_ids.takeWhile fun s => (lib.g_client.find_service s).isSome

theorem revoke_services_find (lib : Library φ) (service_ids : List UInt32) (s : UInt32) :
    (revoke_services service_ids lib).2.g_client.find_service s =
      if s ∈ lib.revocable service_ids then
        (lib.g_client.find_service s).map fun it => { it with service_status := LOCAL_SERVICE_STATUS_UNAVAILABLE }
      else lib.g_client.find_service s := by
  induction service_ids generalizing lib with
  | nil => simp [revoke_services, revocable]
  | cons service_id rest ih =>
    cases hfind : lib.g_client.find_service service_id with
    | none => simp [revoke_services, revocable, hfind]
    | some it =>
      have hknown : ∀ s, ((lib.setUnavailable service_id it).g_client.find_service s).isSome =
          (lib.g_client.find_service s).isSome := by
        intro s
        rw [find_service_setUnavailable]
        split
        · rename_i hs
          rw [hs, hfind]
          rfl
        · rfl
      have hrevocable : lib.revocable (service_id :: rest) =
          service_id :: (lib.setUnavailable service_id it).revocable rest := by
        simp [revocable, hfind, hknown]
      simp only [revoke_services, hfind]
      rw [ih, hrevocable, find_service_setUnavailable]
      by_cases hs : s = service_id
      · subst hs
        simp [hfind]
      · simp [hs]

theorem revoke_services_handlers (service_ids : List UInt32) :
    (revoke_services service_ids lib).2.service_handler = lib.service_handler ∧
      (revoke_services service_ids lib).2.service_async_handler = lib.service_async_handler := by
  induction service_ids generalizing lib with
  | nil => exact ⟨rfl, rfl⟩
  | cons service_id rest ih =>
    cases hfind : lib.g_client.find_service service_id with
    | none => simp [revoke_services, hfind]
    | some it =>
      simp only [revoke_services, hfind]
      exact ih

theorem revoke_services_same_iff {service_ids : List UInt32} :
    SameServices lib (revoke_services service_ids lib).2 ↔
      ∀ s ∈ lib.revocable service_ids, ∀ it, lib.g_client.find_service s = some it →
        it.service_status = LOCAL_SERVICE_STATUS_UNAVAILABLE := by
  constructor
  · intro hsame s hmem it hfind
    have hservice := revoke_services_find lib service_ids s
    rw [hsame.services s, if_pos hmem, hfind] at hservice
    exact congrArg Service.service_status (Option.some.inj hservice)
  · intro hstatus
    constructor
    · intro s
      rw [revoke_services_find]
      split
      · rename_i hmem
        cases hfind : lib.g_client.find_service s with
        | none => rfl
        | some it =>
          rw [Option.map_some, ← hstatus s hmem it hfind]
      · rfl
    · intro s _
      rw [(revoke_services_handlers service_ids).1, (revoke_services_handlers service_ids).2]
      exact ⟨rfl, rfl⟩

end Revoke

theorem SameServices.refl (lib : Library φ) : SameServices lib lib := ⟨fun _ => rfl, fun _ _ => ⟨rfl, rfl⟩⟩

end Library

/-- What the loop of a call writes into the map is there already. -/
def ServiceCall.AlreadySaved (lib : Library φ) (call : ServiceCall φ) : Prop :=
  match call with
  | .provider_service_offer provider_services =>
    call.refusal lib = none → lib.HoldsEntries Library.providerMember LOCAL_SERVICE_STATUS_AVAILABLE
      (lib.g_client.find_process_client lib.client_id) provider_services
  | .provider_service_revoke provider_services =>
    call.refusal lib = none → ∀ s ∈ lib.revocable provider_services, ∀ it, lib.g_client.find_service s = some it →
      it.service_status = LOCAL_SERVICE_STATUS_UNAVAILABLE
  | .provider_service_set_status _ _ => True
  | .listener_service_subscribe listener_services =>
    call.refusal lib = none →
      lib.HoldsEntries Library.listenerMember LOCAL_SERVICE_STATUS_DEFAULT none listener_services
  | .listener_service_unsubscribe _ => True

namespace ServiceCall

variable {lib : Library φ} {call : ServiceCall φ}

theorem alreadySaved_of_refusal {ret : Int} (h : call.refusal lib = some ret) : call.AlreadySaved lib := by
  have hne : ¬ call.refusal lib = none := by rw [h]; exact Option.some_ne_none ret
  cases call with
  | provider_service_offer | provider_service_revoke | listener_service_subscribe => exact fun hnone => absurd hnone hne
  | provider_service_set_status | listener_service_unsubscribe => trivial

theorem alreadySaved_iff (h : call.refusal lib = none) :
    call.AlreadySaved lib ↔ lib.SameServices (call.loop lib).2 := by
  cases call with
  | provider_service_offer provider_services | listener_service_subscribe listener_services =>
    exact (imp_iff_right h).trans save_services_same_iff.symm
  | provider_service_revoke provider_services =>
    exact (imp_iff_right h).trans revoke_services_same_iff.symm
  | provider_service_set_status provider_services provider_services_status =>
    exact iff_of_true trivial (.refl lib)
  | listener_service_unsubscribe listener_services =>
    exact iff_of_true trivial (.refl lib)

end ServiceCall

/-- A call that fails before it sends anything has changed nothing exactly when what its
loop had written by then was there before. -/
theorem failed_call_changes_nothing_iff {lib : Library φ} {it_status : LocalClientStatus} {ok : Bool}
    {call : ServiceCall φ} {result : BatchEnd × Library φ} (hcall : lib.batch it_status ok call = some result) :
    (result.1.FailedUnsent → lib.SameServices result.2) ↔ (result.1.FailedUnsent → call.AlreadySaved lib) := by
  refine imp_congr_right fun _ => ?_
  rcases batch_eq_some hcall with ⟨ret, hrefusal, rfl⟩ | ⟨hrefusal, rfl⟩
  · exact iff_of_true (.refl lib) (ServiceCall.alreadySaved_of_refusal hrefusal)
  · rw [ServiceCall.alreadySaved_iff hrefusal]
    -- What comes after the loop leaves the services alone.
    generalize ServiceCall.loop lib call = loop
    unfold concluded
    split
    · rfl
    · unfold handOver
      split
      · exact ⟨fun h => ⟨h.services, h.handlers⟩, fun h => ⟨h.services, h.handlers⟩⟩
      · rfl

/-- Service 7 is revoked a second time, together with one that is not known. -/
theorem second_revocation_changes_nothing : ∃ lib result,
    run Library.step (offering 1) [.call (.provider_service_revoke [7]) true] = some lib ∧
      lib.batch .ONLINE true (.provider_service_revoke [7, 9]) = some result ∧
      result.1.ret = IPC_HV_SOA_RET_FAIL ∧ lib.SameServices result.2 := by
  have hruns : ∃ lib result, run step (offering 1) [.call (.provider_service_revoke [7]) true] = some lib ∧
      lib.batch .ONLINE true (.provider_service_revoke [7, 9]) = some result ∧
      result.1 = .refused IPC_HV_SOA_RET_FAIL ∧ lib.revocable [7, 9] = [7] ∧
      lib.g_client.find_service 7 =
        some ⟨7, 1, LOCAL_SERVICE_STATUS_UNAVAILABLE, some ⟨1, []⟩, ∅⟩ := ⟨_, _, rfl, rfl, rfl, rfl, rfl⟩
  obtain ⟨lib, result, hrun, hbatch, hend, hrevocable, hseven⟩ := hruns
  have hfailed : result.1.FailedUnsent := by
    rw [hend]
    change IPC_HV_SOA_RET_FAIL ≠ IPC_HV_SOA_RET_SUCCESS
    decide
  refine ⟨lib, result, hrun, hbatch, by rw [hend]; rfl, (failed_call_changes_nothing_iff hbatch).mpr ?_ hfailed⟩
  intro _ _ s hmem it hfind
  rw [hrevocable, List.mem_singleton] at hmem
  rw [hmem, hseven] at hfind
  cases hfind
  rfl

/-- Calls that fail and leave their mark: an offer and a subscription with an entry of an
unsupported type, a revocation with an unknown service, and a revocation while the process
is offline. -/
theorem failed_calls_change_services : ∃ offered revoked subscribed unsent : Library Unit,
    (offering 1).batch .ONLINE true (.provider_service_offer [⟨8, 1, some ()⟩, ⟨9, 3, none⟩]) =
        some (.refused IPC_HV_SOA_RET_ERR_ARG, offered) ∧
      (offering 1).g_client.find_service 8 = none ∧ (offered.g_client.find_service 8).isSome = true ∧
      (offering 1).batch .ONLINE true (.provider_service_revoke [7, 9]) =
        some (.refused IPC_HV_SOA_RET_FAIL, revoked) ∧
      ((offering 1).g_client.find_service 7).map Service.service_status = some LOCAL_SERVICE_STATUS_AVAILABLE ∧
      (revoked.g_client.find_service 7).map Service.service_status = some LOCAL_SERVICE_STATUS_UNAVAILABLE ∧
      (offering 1).batch .ONLINE true (.listener_service_subscribe [⟨8, 2, some ()⟩, ⟨9, 3, none⟩]) =
        some (.refused IPC_HV_SOA_RET_ERR_ARG, subscribed) ∧
      (subscribed.g_client.find_service 8).isSome = true ∧
      (∃ request, (offering 1).on_close.batch .ONLINE true (.provider_service_revoke [7]) =
        some (.offline request, unsent)) ∧
      (unsent.g_client.find_service 7).map Service.service_status = some LOCAL_SERVICE_STATUS_UNAVAILABLE ∧
      ¬ (offering 1).SameServices offered ∧ ¬ (offering 1).SameServices revoked ∧
      ¬ (offering 1).SameServices subscribed ∧ ¬ (offering 1).on_close.SameServices unsent := by
  refine ⟨_, _, _, _, rfl, rfl, rfl, rfl, rfl, rfl, rfl, rfl, ⟨_, rfl⟩, rfl, ?_, ?_, ?_, ?_⟩
  · intro hsame
    cases hsame.services 8
  · intro hsame
    cases hsame.services 7
  · intro hsame
    cases hsame.services 8
  · intro hsame
    cases hsame.services 7

end hub.soa
