import Hub.LocalRegistry.Disconnect

namespace hub.local_registry

open UnorderedMap

namespace Tables

variable (t : Tables)

/-- Every provider has its services in its own map, in the items of `m_services`.
This is the half of the ownership mirror that `remove_client` relies on. -/
def Listed : Prop :=
  ∀ c s i, t.Provides c s i → (t.client c).client_produce_services.lookup s = some i

def Served (item : LocalServiceItem) : Prop :=
  ∃ c ∈ item.service_provider, (t.client c).client_status = .ONLINE

def Truthful : Prop :=
  ∀ s item, t.service s = some item → item.service_status = LOCAL_SERVICE_STATUS_AVAILABLE → t.Served item

instance (item : LocalServiceItem) : Decidable (t.Served item) :=
  inferInstanceAs (Decidable (∃ c ∈ item.service_provider, (t.client c).client_status = .ONLINE))

/-- The service is new to the client's map or stands there in its current item. -/
def Current (client : ClientPtr) (s : UInt32) : Prop :=
  ∀ j ∈ (t.client client).client_produce_services.lookup s, t.m_services.lookup s = some j

instance (client : ClientPtr) (s : UInt32) : Decidable (t.Current client s) :=
  inferInstanceAs (Decidable (∀ j ∈ (t.client client).client_produce_services.lookup s, t.m_services.lookup s = some j))

/-- The guards under which a unit of work keeps the status of services true. -/
def Supports : Act → Prop
  | .register client entry => (t.client client).client_status = .ONLINE ∧ t.Current client entry.service_id
  | .setStatus entry => entry.service_status = LOCAL_SERVICE_STATUS_AVAILABLE →
      ∀ item ∈ t.service entry.service_id, t.Served item
  | _ => True

section Listed

variable {t}

theorem Listed.perform (h : t.Listed) (hwf : t.WellFormed) {act : Act} (hsupports : t.Supports act) :
    (t.perform act).Listed := by
  intro c s i hprov
  by_cases hact : act.offered = some s
  · cases act with
    | register client entry =>
      obtain rfl : entry.service_id = s := Option.some.inj hact
      have hprovides := (provides_registerTables hwf client entry c _ i).mp hprov
      rw [if_pos rfl] at hprovides
      obtain ⟨rfl, rfl⟩ := hprovides
      change ((t.registerTables c entry).client c).client_produce_services.lookup entry.service_id = _
      rw [produce_registerTables, if_pos rfl, lookup_insertNew_self]
      cases hold : (t.client c).client_produce_services.lookup entry.service_id with
      | none => rfl
      | some j => rw [Option.getD_some, registeredItem_of_some t entry (hsupports.2 j hold)]
    | unregister client entry =>
      obtain rfl : entry.service_id = s := Option.some.inj hact
      exact absurd rfl ((provides_unregisterTables client entry c _ i).mp hprov).1
    | _ => cases hact
  · obtain ⟨hproduce, hprovides⟩ := mirror_frame hwf hact
    rw [hproduce]
    exact h c s i ((hprovides c i).mp hprov)

end Listed

section Truthful

variable {t}

variable {item : LocalServiceItem} {t' : Tables}

theorem SameClients.served (h : SameClients t t') (item : LocalServiceItem) :
    t'.Served item ↔ t.Served item := by
  simp only [Served, h.status]

theorem Served.bringOnline (h : t.Served item) (client : ClientPtr)
    (channel : SocketChannel) (client_pid : Int) (client_name : Str) :
    (t.bringOnline client channel client_pid client_name).Served item := by
  obtain ⟨c, hc, honline⟩ := h
  refine ⟨c, hc, ?_⟩
  rw [Tables.bringOnline, client_setClient]
  split
  · rfl
  · exact honline

theorem Served.createClient (h : t.Served item)
    (hlive : ∀ c ∈ item.service_provider, t.clients.Live c) (channel : SocketChannel) (client_pid : Int)
    (client_name : Str) : (t.createClient channel client_pid client_name).Served item := by
  obtain ⟨c, hc, honline⟩ := h
  refine ⟨c, hc, ?_⟩
  have hsame : (t.createClient channel client_pid client_name).client c = t.client c :=
    Heap.get_alloc_ne _ _ (Heap.ne_fresh (hlive c hc))
  rw [hsame]
  exact honline

theorem Truthful.perform (h : t.Truthful) (hwf : t.WellFormed) {act : Act} (hsupports : t.Supports act)
    (honline : ∀ client, act ≠ .takeOffline client) : (t.perform act).Truthful := by
  intro s item hservice hstatus
  by_cases hservices : act.OnServices
  · apply ((SameClients.perform t hservices).served item).mpr
    cases origin_perform hwf hservice with
    | kept hold => exact h s item hold hstatus
    | reset hold => cases hstatus
    | registered hs => exact ⟨_, rfl, hsupports.1⟩
    | @listened _ _ entry hs =>
      unfold listenedItem at hstatus ⊢
      cases hold : t.service entry.service_id with
      | none =>
        rw [hold] at hstatus
        cases hstatus
      | some old =>
        rw [hold] at hstatus
        exact h entry.service_id old hold hstatus
    | stamped hs hold =>
      have hserved := hsupports hstatus _ (hs ▸ hold)
      exact hserved
  · have hserved := h s item
    cases act with
    | addChannel channel | removeChannel channel_id => exact hserved hservice hstatus
    | bringOnline client channel client_pid client_name =>
      exact (hserved hservice hstatus).bringOnline client channel client_pid client_name
    | createClient channel client_pid client_name =>
      have hprovider := hserved hservice hstatus
      obtain ⟨i, _, rfl⟩ := Option.map_eq_some_iff.mp hservice
      exact hprovider.createClient (fun c hc => hwf.provider_live hc) channel client_pid client_name
    | takeOffline client => exact absurd rfl (honline client)
    | _ => exact absurd trivial hservices

end Truthful

end Tables

namespace Event

variable (r : LocalRegistry)

/-- Services are registered for a client that is online and has no other item under the id,
and a service is declared available only while its provider is online. The tables are `t` in
the middle of a message to `r`. -/
def HonestRequest (t : Tables) : Request → Prop
  | .register_service msg => msg.reg = true → ∀ client ∈ named r msg.provider_client,
      (t.client client).client_status = .ONLINE ∧
        ∀ entry ∈ msg.produce_services, t.Current client entry.service_id
  | .service_set_status msg => (named r msg.provider_client).isSome →
      ∀ entry ∈ msg.services, entry.service_status = LOCAL_SERVICE_STATUS_AVAILABLE →
        ∀ item ∈ t.service entry.service_id, t.Served item
  | _ => True

def Honest (label : Env × Event) : Prop :=
  match label.2 with
  | .message _ request => HonestRequest r r.toTables request
  | _ => True

instance (t : Tables) : ∀ request, Decidable (HonestRequest r t request)
  | .register_service _ | .service_set_status _ => inferInstanceAs (Decidable (_ → _))
  | .register_client .. | .get_client .. | .listen_service _ | .get_service .. | .ctrl_get_clients _
  | .ctrl_get_services _ => .isTrue trivial

instance : ∀ label, Decidable (Honest r label)
  | (_, .message _ request) => inferInstanceAs (Decidable (HonestRequest r r.toTables request))
  | (_, .connect _) | (_, .close _) => .isTrue trivial

variable {r} {request : Request} {t : Tables} {s : UInt32} {act : Act}

theorem current_registerTables {client : ClientPtr} (h : t.Current client s)
    (entry : StLocalServiceItem) : (t.registerTables client entry).Current client s := by
  intro j hj
  rw [Option.mem_def, Tables.produce_registerTables, if_pos rfl] at hj
  by_cases hs : s = entry.service_id
  · subst hs
    rw [(t.files_registerTables client entry).lookup_self]
    obtain hold | ⟨-, -, rfl⟩ := lookup_insertNew_eq_some.mp hj
    · exact congrArg some (Tables.registeredItem_of_some t entry (h j hold))
    · rfl
  · rw [lookup_insertNew_ne _ _ hs] at hj
    rw [(t.files_registerTables client entry).lookup_ne hs]
    exact h j hj

theorem served_setStatus (hwf : t.WellFormed) (entry : StLocalServiceItem) (h : ∀ item ∈ t.service s, t.Served item) :
    ∀ item ∈ (t.setStatusTables entry).service s, (t.setStatusTables entry).Served item := by
  intro item hitem
  apply ((Tables.SameClients.setStatusTables t entry).served item).mpr
  rw [Option.mem_def, Tables.service_setStatusTables hwf] at hitem
  split at hitem
  · obtain ⟨old, hold, rfl⟩ := Option.map_eq_some_iff.mp hitem
    exact h old hold
  · exact h item hitem

theorem MessageAct.supports (hact : MessageAct r request act) (h : HonestRequest r t request) : t.Supports act := by
  cases hact with
  | register hreg hclient hentry =>
    obtain ⟨honline, hcurrent⟩ := h hreg _ hclient
    exact ⟨honline, hcurrent _ hentry⟩
  | setStatus hclient hentry => exact h (by rw [hclient]; rfl) _ hentry
  | unregister | listen | answer => trivial

theorem MessageAct.honest (hact : MessageAct r request act) (hwf : t.WellFormed) (h : HonestRequest r t request) :
    HonestRequest r (t.perform act) request := by
  cases hact with
  | register hreg hclient hentry =>
    intro _ client hclient'
    cases hclient.symm.trans hclient'
    obtain ⟨honline, hcurrent⟩ := h hreg _ hclient
    refine ⟨((Tables.SameClients.registerTables t _ _).status _).trans honline, fun entry hentry' => ?_⟩
    exact current_registerTables (hcurrent entry hentry') _
  | unregister hreg hclient hentry =>
    intro hreg'
    cases hreg.symm.trans hreg'
  | setStatus hclient hentry =>
    intro hsome entry hentry' hstatus
    exact served_setStatus hwf _ (h hsome entry hentry' hstatus)
  | listen => trivial
  | answer hquery hanswer =>
    exact h

end Event

namespace LocalRegistry

variable {r r' : LocalRegistry}

theorem step_truthful {label : Env × Event} (hwf : r.WellFormed) (hlisted : r.Listed)
    (htruthful : r.Truthful) (hhonest : Event.Honest r label) (h : r.step label = some r') :
    r'.Listed ∧ r'.Truthful := by
  obtain ⟨env, event⟩ := label
  have hmeets : LoopMeets Tables.perform Tables.Supports r.toTables (event.acts env r) := by
    cases event with
    | message channel request =>
      refine LoopMeets.of_invariant
        (fun t => Event.Midway r t ∧ Event.HonestRequest r t request) ?_ ?_ ⟨.start hwf, hhonest⟩
      · rintro t act hmem ⟨_, hhonest⟩
        exact (Event.messageAct_of_mem hmem).supports hhonest
      · rintro t act hmem ⟨hmid, hhonest⟩
        have hact := Event.messageAct_of_mem hmem
        exact ⟨hmid.perform hwf hact, hact.honest hmid.wellFormed hhonest⟩
    | connect channel | close channel_id =>
      apply Event.acts_meet
      intro t act hact
      cases hact <;> trivial
  have hlisted' : r'.Listed :=
    step_invariant_of_meets Tables.Listed (fun t act hwf _ hlisted hsupports => hlisted.perform hwf hsupports)
      hwf hlisted hmeets h
  refine ⟨hlisted', ?_⟩
  by_cases hclose : ∃ channel_id, event = .close channel_id
  · obtain ⟨channel_id, rfl⟩ := hclose
    rcases close_cases r env channel_id with ⟨channel, A, hopen, hclient, hfind⟩ | ⟨_, _, _, hacts⟩ | ⟨_, hacts⟩
    · intro s item hservice hstatus
      obtain ⟨hservices, hitems⟩ := close_tables hopen hclient hfind h
      obtain ⟨i, hlookup, rfl⟩ := Option.map_eq_some_iff.mp hservice
      rw [hservices] at hlookup
      rw [hitems] at hstatus ⊢
      split at hstatus
      · cases hstatus
      · rename_i hkept
        rw [if_neg hkept]
        obtain ⟨c, hc, honline⟩ := htruthful s (r.item i) (by rw [Tables.service, hlookup]; rfl) hstatus
        refine ⟨c, hc, ?_⟩
        rw [close_client hopen hclient hfind h, if_neg]
        · exact honline
        · rintro rfl
          exact hkept (mem_produced.mpr ⟨s, hlisted c s i ⟨hlookup, hc⟩⟩)
    · have htables := step_tables h
      rw [hacts] at htables
      rw [htables]
      exact htruthful
    · have htables := step_tables h
      rw [hacts] at htables
      rw [htables]
      exact htruthful
  · have honline : LoopMeets Tables.perform (fun _ act => ∀ client, act ≠ .takeOffline client) r.toTables
        (event.acts env r) := by
      apply Event.acts_meet
      intro t act hact client
      cases hact with
      | message hact => cases hact <;> exact Act.noConfusion
      | takeOffline | dropService | removeChannel => exact absurd ⟨_, rfl⟩ hclose
      | addChannel | bringOnline | createClient => exact Act.noConfusion
    exact step_invariant_of_meets Tables.Truthful
      (fun t act hwf _ htruthful hboth => htruthful.perform hwf hboth.1 hboth.2)
      hwf htruthful (hmeets.and honline) h

theorem daemonRun_truthful {labels : List (Env × Event)} {r : LocalRegistry}
    (hhonest : Meets step Event.Honest init labels) (h : daemonRun labels = some r) : r.Truthful := by
  have hinit : init.Listed ∧ init.Truthful := by
    constructor
    · rintro c s i ⟨hlookup, _⟩
      simp [init] at hlookup
    · intro s item hservice
      simp [init, Tables.service] at hservice
  refine (run_invariant_of_meets (fun r : LocalRegistry => r.WellFormed ∧ r.Listed ∧ r.Truthful) ?_
    ⟨Tables.init_wellFormed, hinit⟩ hhonest h).2.2
  rintro r label next ⟨hwf, hlisted, htruthful⟩ hlabel hstep
  exact ⟨step_wellFormed hwf hstep, step_truthful hwf hlisted htruthful hlabel hstep⟩

end LocalRegistry

/-- In a run of honest messages every service that is available has a provider,
and the provider is online. -/
theorem available_service_has_online_provider {labels : List (Env × Event)} {r : LocalRegistry}
    (hhonest : Meets LocalRegistry.step Event.Honest LocalRegistry.init labels) (hrun : daemonRun labels = some r)
    {s : UInt32} {i : ItemPtr} (hservice : r.m_services.lookup s = some i)
    (hstatus : (r.item i).service_status = LOCAL_SERVICE_STATUS_AVAILABLE) :
    ∃ c, (r.item i).service_provider = some c ∧ (r.client c).client_status = .ONLINE := by
  have htruthful := LocalRegistry.daemonRun_truthful hhonest hrun
  have hentry : r.service s = some (r.item i) := by
    rw [Tables.service, hservice]
    rfl
  obtain ⟨c, hc, honline⟩ := htruthful s (r.item i) hentry hstatus
  exact ⟨c, hc, honline⟩

def providerReturns : List (Env × Event) :=
  [Peer.connects ⟨1, 11, ['a']⟩, Peer.registers ⟨1, 11, ['a']⟩ true [⟨7, LOCAL_SERVICE_TYPE_METHOD, 0⟩],
    Peer.closes ⟨1, 11, ['a']⟩, Peer.connects ⟨2, 12, ['a']⟩,
    Peer.registers ⟨2, 12, ['a']⟩ true [⟨7, LOCAL_SERVICE_TYPE_METHOD, 0⟩],
    Peer.setsStatus ⟨2, 12, ['a']⟩ [⟨7, LOCAL_SERVICE_TYPE_METHOD, LOCAL_SERVICE_STATUS_AVAILABLE⟩]]

theorem available_service_of_returning_provider :
    ∃ r, daemonRun providerReturns = some r ∧
      (r.item ⟨0⟩).service_status = LOCAL_SERVICE_STATUS_AVAILABLE ∧
      ∃ c, (r.item ⟨0⟩).service_provider = some c ∧ (r.client c).client_status = .ONLINE := by
  refine ⟨_, rfl, by decide, ?_⟩
  exact @available_service_has_online_provider providerReturns _ (by decide) rfl 7 ⟨0⟩ (by decide) (by decide)

/-- A listener declares a service available that nobody provides. A provider whose service
somebody else has withdrawn registers it again and leaves: its own map has the old item,
and the new one stays available. -/
theorem available_service_without_provider :
    (∃ r, daemonRun
        [Peer.connects ⟨1, 11, ['a']⟩, Peer.listens ⟨1, 11, ['a']⟩ true [⟨7, LOCAL_SERVICE_TYPE_METHOD, 0⟩],
          Peer.setsStatus ⟨1, 11, ['a']⟩ [⟨7, LOCAL_SERVICE_TYPE_METHOD, LOCAL_SERVICE_STATUS_AVAILABLE⟩]] = some r ∧
      r.m_services.lookup 7 = some ⟨0⟩ ∧ (r.item ⟨0⟩).service_status = LOCAL_SERVICE_STATUS_AVAILABLE ∧
      (r.item ⟨0⟩).service_provider = none) ∧
    ∃ r, daemonRun
        [Peer.connects ⟨1, 11, ['a']⟩, Peer.connects ⟨2, 12, ['b']⟩,
          Peer.registers ⟨1, 11, ['a']⟩ true [⟨7, LOCAL_SERVICE_TYPE_METHOD, 0⟩],
          Peer.registers ⟨2, 12, ['b']⟩ false [⟨7, LOCAL_SERVICE_TYPE_METHOD, 0⟩],
          Peer.registers ⟨1, 11, ['a']⟩ true [⟨7, LOCAL_SERVICE_TYPE_METHOD, 0⟩], Peer.closes ⟨1, 11, ['a']⟩] = some r ∧
      r.m_services.lookup 7 = some ⟨1⟩ ∧ (r.item ⟨1⟩).service_status = LOCAL_SERVICE_STATUS_AVAILABLE ∧
      (r.item ⟨1⟩).service_provider = some ⟨0⟩ ∧ (r.client ⟨0⟩).client_status = .OFFLINE :=
  ⟨⟨_, rfl, by decide, by decide, by decide⟩, _, rfl, by decide, by decide, by decide, by decide⟩

end hub.local_registry
