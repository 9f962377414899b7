import Hub.LocalRegistry.Subscription

namespace hub.local_registry

open Event LocalRegistry

def Payload.about : Payload → Option UInt32
  | .service_change_status change_msg => some change_msg.service.service_id
  | .listener_change_to_provider e2c_msg => some e2c_msg.service_id
  | _ => none

def statusesFor (s : UInt32) (services : List StLocalServiceItem) : List UInt32 :=
  (services.filter fun entry => entry.service_id = s).map StLocalServiceItem.service_status

theorem statusesFor_cons (s : UInt32) (entry : StLocalServiceItem) (services : List StLocalServiceItem) :
    statusesFor s (entry :: services) =
      if entry.service_id = s then entry.service_status :: statusesFor s services else statusesFor s services := by
  unfold statusesFor
  by_cases hs : entry.service_id = s
  · simp [hs]
  · simp [hs]

namespace Tables

/-- A change of the service's status would be told to somebody. -/
def Audible (t : Tables) (s : UInt32) : Prop :=
  ∃ item, t.service s = some item ∧ item.service_type = LOCAL_SERVICE_TYPE_METHOD ∧
    ∃ id L channel_id, item.service_listeners.lookup id = some L ∧ t.Reaches L channel_id

section SetStatus

variable {t : Tables} {s : UInt32}

theorem audible_setStatusTables (hwf : t.WellFormed) (entry : StLocalServiceItem) :
    (t.setStatusTables entry).Audible s ↔ t.Audible s := by
  have hsame := SameClients.setStatusTables t entry
  unfold Audible
  rw [service_setStatusTables hwf]
  simp only [hsame.reaches]
  split
  · constructor
    · rintro ⟨item, hitem, haudible⟩
      obtain ⟨old, hold, rfl⟩ := Option.map_eq_some_iff.mp hitem
      exact ⟨old, hold, haudible⟩
    · rintro ⟨old, hold, haudible⟩
      refine ⟨{ old with service_status := entry.service_status }, ?_, haudible⟩
      rw [hold]
      rfl
  · rfl

theorem service_foldl_setStatus (hwf : t.WellFormed) (services : List StLocalServiceItem) :
    ((services.map Act.setStatus).foldl perform t).service s = (t.service s).map fun item =>
      { item with service_status := (statusesFor s services).getLastD item.service_status } := by
  induction services generalizing t with
  | nil => simp [statusesFor]
  | cons entry services ih =>
    have hwf' : (t.perform (.setStatus entry)).WellFormed := hwf.perform trivial
    have hservice : (t.perform (.setStatus entry)).service s = _ := service_setStatusTables hwf entry s
    rw [List.map_cons, List.foldl_cons, ih hwf', hservice, statusesFor_cons]
    by_cases hs : s = entry.service_id
    · subst hs
      simp only [if_pos, Option.map_map, List.getLastD_cons]
      rfl
    · rw [if_neg hs, if_neg fun h => hs h.symm]

end SetStatus

end Tables

namespace LocalRegistry

section SetStatus

variable {env : Env} {r : LocalRegistry} {s : UInt32}

theorem setStatus_silent_iff (hwf : r.WellFormed) (hreliable : env.transport.Reliable) (entry : StLocalServiceItem)
    {frames : List Sent} (hsent : (r.perform env (.setStatus entry)).sent = r.sent ++ frames) :
    (∀ frame ∈ frames, frame.payload.about ≠ some s) ↔
      ¬ (entry.service_id = s ∧ r.Audible s ∧
        ∃ item, r.service s = some item ∧ item.service_status ≠ entry.service_status) := by
  obtain ⟨written, hwritten, honly, hreach⟩ := perform_writes env r (.setStatus entry)
  obtain rfl : frames = written := List.append_cancel_left (hsent.symm.trans hwritten)
  constructor
  · rintro hsilent ⟨rfl, ⟨item, hservice, htype, id, L, channel_id, hlookup, hL⟩, item', hservice', hstatus⟩
    cases hservice.symm.trans hservice'
    obtain ⟨i, hi, rfl⟩ := Option.map_eq_some_iff.mp hservice
    obtain ⟨frame, hframe, _, hpayload⟩ :=
      hreach hreliable channel_id _ (.statusChanged hi hstatus htype hlookup hL)
    apply hsilent frame hframe
    rw [hpayload]
    exact congrArg some (hwf.services_keyed hi)
  · intro hquiet frame hframe habout
    have hsends := honly frame hframe
    generalize frame.payload = msg at hsends habout
    cases hsends with
    | statusChanged hservice hstatus htype hlistener hL =>
      obtain rfl : entry.service_id = s := (hwf.services_keyed hservice).symm.trans (Option.some.inj habout)
      have hitem := Tables.service_of_lookup hservice
      exact hquiet ⟨rfl, ⟨_, hitem, htype, _, _, _, hlistener, hL⟩, _, hitem, hstatus⟩

theorem foldl_setStatus_silent_iff (hwf : r.WellFormed) (hreliable : env.transport.Reliable) {item : LocalServiceItem}
    (hservice : r.service s = some item) (services : List StLocalServiceItem) :
    ∃ frames, ((services.map Act.setStatus).foldl (perform env) r).sent = r.sent ++ frames ∧
      ((∀ frame ∈ frames, frame.payload.about ≠ some s) ↔
        (r.Audible s → ∀ v ∈ statusesFor s services, v = item.service_status)) := by
  induction services generalizing r item with
  | nil => exact ⟨[], by simp [statusesFor]⟩
  | cons entry services ih =>
    obtain ⟨first, hfirst, _⟩ := perform_writes env r (.setStatus entry)
    have hsilent := setStatus_silent_iff (s := s) hwf hreliable entry hfirst
    have htables := perform_toTables env r (.setStatus entry)
    have hwf' : (r.perform env (.setStatus entry)).WellFormed := by
      rw [htables]
      exact hwf.perform trivial
    have haudible : (r.perform env (.setStatus entry)).Audible s ↔ r.Audible s := by
      rw [htables]
      exact Tables.audible_setStatusTables hwf entry
    have hafter : (r.perform env (.setStatus entry)).service s =
        some { item with service_status :=
          if entry.service_id = s then entry.service_status else item.service_status } := by
      rw [htables]
      apply (Tables.service_setStatusTables hwf entry s).trans
      rw [hservice]
      simp only [eq_comm (a := s)]
      split <;> rfl
    obtain ⟨rest, hrest, hiff⟩ := ih hwf' hafter
    refine ⟨first ++ rest, by rw [List.map_cons, List.foldl_cons, hrest, hfirst, List.append_assoc], ?_⟩
    rw [List.forall_mem_append, hsilent, hiff, haudible, statusesFor_cons, hservice]
    by_cases hs : entry.service_id = s
    · simp only [hs, if_true, true_and, List.forall_mem_cons]
      by_cases hheard : r.Audible s
      · simp only [hheard, true_and, true_imp_iff, Option.some.injEq, exists_eq_left', not_not]
        constructor
        · rintro ⟨hstatus, hrest⟩
          exact ⟨hstatus.symm, fun v hv => (hrest v hv).trans hstatus.symm⟩
        · rintro ⟨hstatus, hrest⟩
          exact ⟨hstatus.symm, fun v hv => (hrest v hv).trans hstatus.symm⟩
      · simp [hheard]
    · simp only [hs, if_false, false_and, not_false_eq_true, true_and]

end SetStatus

/-- Between two states of the daemon the entry of the service is the same one, and
no event about the service was written. -/
def Untouched (r r' : LocalRegistry) (s : UInt32) : Prop :=
  r'.service s = r.service s ∧ ∀ frame ∈ r'.sent.drop r.sent.length, frame.payload.about ≠ some s

section Request

variable {env : Env} {channel : SocketChannel} {r r' : LocalRegistry} {s : UInt32}

theorem service_of_withdraw {msg : StRegisterService} (hreg : msg.reg = false) {client : ClientPtr}
    (hclient : named r msg.provider_client = some client) {entry : StLocalServiceItem}
    (hentry : entry ∈ msg.produce_services) (hstep : r.step (env, .message channel (.register_service msg)) = some r') :
    r'.service entry.service_id = none := by
  have hacts : messageActs env r channel (.register_service msg) =
      msg.produce_services.map (Act.unregister client) := by
    simp [messageActs, hclient, hreg]
  rw [step_tables hstep]
  change ((messageActs env r channel (.register_service msg)).foldl Tables.perform r.toTables).service _ = none
  rw [hacts]
  refine foldl_established (fun _ => True) (fun t : Tables => t.service entry.service_id = none)
    (fun _ _ _ _ => trivial)
    ?_ (List.mem_map_of_mem hentry) ?_ trivial
  · intro t act hmem _ hgone
    obtain ⟨other, _, rfl⟩ := List.mem_map.mp hmem
    apply (Tables.service_unregisterTables client other _).trans
    rw [hgone, ite_self]
  · intro t _
    exact (Tables.service_unregisterTables client entry _).trans (if_pos rfl)

theorem setStatus_untouched_iff (hwf : r.WellFormed) (hreliable : env.transport.Reliable) {msg : StServiceSetStatus}
    {client : ClientPtr} (hclient : named r msg.provider_client = some client) {item : LocalServiceItem}
    (hservice : r.service s = some item)
    (hstep : r.step (env, .message channel (.service_set_status msg)) = some r') :
    r.Untouched r' s ↔ (statusesFor s msg.services).getLastD item.service_status = item.service_status ∧
      (r.Audible s → ∀ v ∈ statusesFor s msg.services, v = item.service_status) := by
  have hacts : acts env r (.message channel (.service_set_status msg)) = msg.services.map Act.setStatus := by
    simp [acts, messageActs, hclient]
  have hstate := step_acts hstep
  have htables := step_tables hstep
  rw [hacts] at hstate htables
  obtain ⟨frames, hsent, hsilent⟩ := foldl_setStatus_silent_iff hwf hreliable hservice msg.services
  rw [← hstate] at hsent
  rw [Untouched, hsent, List.drop_left, hsilent, htables, Tables.service_foldl_setStatus hwf, hservice]
  apply and_congr_left'
  constructor
  · intro hsame
    exact congrArg LocalServiceItem.service_status (Option.some.inj hsame)
  · intro hstatus
    rw [Option.map_some, hstatus]

end Request

end LocalRegistry

namespace Event

def AsksAbout (s : UInt32) (r : LocalRegistry) (label : Env × Event) : Prop :=
  match label.2 with
  | .message _ (.register_service msg) => msg.reg = false ∧ (named r msg.provider_client).isSome ∧
      ∃ entry ∈ msg.produce_services, entry.service_id = s
  | .message _ (.service_set_status msg) => (named r msg.provider_client).isSome ∧
      ∃ entry ∈ msg.services, entry.service_id = s
  | _ => False

/-- The message sets the status that the service has already. It may set others in
between when nobody can hear of the service. -/
def ChangesNothing (s : UInt32) (r : LocalRegistry) (label : Env × Event) : Prop :=
  match label.2 with
  | .message _ (.service_set_status msg) => ∃ item, r.service s = some item ∧
      (statusesFor s msg.services).getLastD item.service_status = item.service_status ∧
      (r.Audible s → ∀ v ∈ statusesFor s msg.services, v = item.service_status)
  | _ => False

end Event

/-- A known client that withdraws a service or sets its status leaves it alone exactly when
it sets the status that the service has, whether it is the provider or not. -/
theorem request_untouched_iff_changes_nothing {labels : List (Env × Event)} {r r' : LocalRegistry} {label : Env × Event}
    {s : UInt32} (hrun : daemonRun labels = some r) (hservice : (r.service s).isSome)
    (hasks : Event.AsksAbout s r label) (hreliable : label.1.transport.Reliable) (hstep : r.step label = some r') :
    r.Untouched r' s ↔ Event.ChangesNothing s r label := by
  obtain ⟨item, hitem⟩ := Option.isSome_iff_exists.mp hservice
  have hwf := daemonRun_wellFormed hrun
  obtain ⟨env, event⟩ := label
  cases event with
  | message channel request =>
    cases request with
    | register_service msg =>
      obtain ⟨hreg, hclient, entry, hentry, rfl⟩ := hasks
      obtain ⟨client, hclient⟩ := Option.isSome_iff_exists.mp hclient
      refine iff_of_false ?_ id
      rintro ⟨hsame, _⟩
      rw [service_of_withdraw hreg hclient hentry hstep, hitem] at hsame
      cases hsame
    | service_set_status msg =>
      obtain ⟨hclient, _⟩ := hasks
      obtain ⟨client, hclient⟩ := Option.isSome_iff_exists.mp hclient
      rw [setStatus_untouched_iff hwf hreliable hclient hitem hstep]
      simp [ChangesNothing, hitem]
    | _ =>
      exact hasks.elim
  | connect | close => exact hasks.elim

/-- Client `a` provides service 7, which client `b` listens to. -/
def provided : List (Env × Event) :=
  [Peer.connects ⟨1, 11, ['a']⟩, Peer.connects ⟨2, 22, ['b']⟩,
    Peer.registers ⟨1, 11, ['a']⟩ true [⟨7, LOCAL_SERVICE_TYPE_METHOD, 0⟩],
    Peer.listens ⟨2, 22, ['b']⟩ true [⟨7, LOCAL_SERVICE_TYPE_METHOD, 0⟩]]

theorem request_untouched_by_same_status :
    ∃ r r', daemonRun provided = some r ∧
      r.step (Peer.setsStatus ⟨2, 22, ['b']⟩
        [⟨7, LOCAL_SERVICE_TYPE_METHOD, LOCAL_SERVICE_STATUS_AVAILABLE⟩]) = some r' ∧
      (r.service 7).map LocalServiceItem.service_provider = some (some ⟨0⟩) ∧ (r.client ⟨1⟩).client_name = ['b'] ∧
      r.Untouched r' 7 := by
  refine ⟨_, _, rfl, rfl, by decide, by decide, ?_⟩
  refine (@request_untouched_iff_changes_nothing provided _ _
    (Peer.setsStatus ⟨2, 22, ['b']⟩ [⟨7, LOCAL_SERVICE_TYPE_METHOD, LOCAL_SERVICE_STATUS_AVAILABLE⟩]) 7 rfl (by decide)
    ⟨by decide, by decide⟩ (by simp) rfl).mpr ?_
  exact ⟨_, rfl, by decide, fun _ v hmem => List.mem_singleton.mp hmem⟩

/-- The client `b`, which does not provide service 7, withdraws it, or sets its
status and is told so as its listener. -/
theorem foreign_service_withdrawn :
    ∃ r withdrawn changed, daemonRun provided = some r ∧
      r.step (Peer.registers ⟨2, 22, ['b']⟩ false [⟨7, LOCAL_SERVICE_TYPE_METHOD, 0⟩]) = some withdrawn ∧
      r.step (Peer.setsStatus ⟨2, 22, ['b']⟩ [⟨7, LOCAL_SERVICE_TYPE_METHOD, LOCAL_SERVICE_STATUS_UNAVAILABLE⟩]) =
        some changed ∧
      (r.service 7).map LocalServiceItem.service_provider = some (some ⟨0⟩) ∧ (r.client ⟨1⟩).client_name = ['b'] ∧
      (r.service 7).map LocalServiceItem.service_status = some LOCAL_SERVICE_STATUS_AVAILABLE ∧
      withdrawn.service 7 = none ∧
      (changed.service 7).map LocalServiceItem.service_status = some LOCAL_SERVICE_STATUS_UNAVAILABLE ∧
      changed.heard r.sent.length 7 2 = [LOCAL_SERVICE_STATUS_UNAVAILABLE] := by
  exact ⟨_, _, _, rfl, rfl, rfl, by decide, by decide, by decide, by decide, by decide, by decide⟩

end hub.local_registry
