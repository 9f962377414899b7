import Hub.LocalRegistry.Peer
import Hub.LocalRegistry.Steps

namespace hub.local_registry

open LocalRegistry Event UnorderedMap

namespace Tables

variable (t : Tables)

def Provides (c : ClientPtr) (s : UInt32) (i : ItemPtr) : Prop :=
  t.m_services.lookup s = some i ∧ (t.item i).service_provider = some c

/-- The produce maps of the clients mirror the providers in `m_services`. -/
def Owned : Prop :=
  ∀ c s i, (t.client c).client_produce_services.lookup s = some i ↔ t.Provides c s i

def OwnedAt (s : UInt32) : Prop :=
  ∀ c i, (t.client c).client_produce_services.lookup s = some i ↔ t.Provides c s i

def Undisputed (client : ClientPtr) (s : UInt32) : Prop :=
  ∀ c i, t.Provides c s i → c = client

instance (client : ClientPtr) (s : UInt32) : Decidable (t.Undisputed client s) :=
  decidable_of_iff (∀ i ∈ t.m_services.lookup s, ∀ c ∈ (t.item i).service_provider, c = client)
    ⟨fun h c i hprovides => h i hprovides.1 c hprovides.2, fun h i hlookup c hprovider => h c i ⟨hlookup, hprovider⟩⟩

section Frame

variable {t} {t' : Tables}

theorem provides_setItem {i : ItemPtr} {record : LocalServiceItem}
    (hprovider : record.service_provider = (t.item i).service_provider) (c : ClientPtr) (s : UInt32) (j : ItemPtr) :
    (t.setItem i record).Provides c s j ↔ t.Provides c s j := by
  unfold Provides
  rw [item_setItem]
  split
  · rename_i heq
    rw [hprovider, heq]
    rfl
  · rfl

section

variable (hwf : t.WellFormed) (client : ClientPtr) (entry : StLocalServiceItem) (service_id : UInt32) (c : ClientPtr)
  (s : UInt32) (i : ItemPtr)

include hwf in
variable {entry} in
theorem Files.provides {record : LocalServiceItem} (h : t.Files t' entry record) : t'.Provides c s i ↔
    if s = entry.service_id then i = t.registeredItem entry ∧ record.service_provider = some c
    else t.Provides c s i := by
  unfold Provides
  split
  · rename_i hs
    rw [hs, h.lookup_self, Option.some_inj, eq_comm]
    refine and_congr_right fun hi => ?_
    rw [hi, h.item_self]
  · rename_i hs
    rw [h.lookup_ne hs]
    refine and_congr_right fun hlookup => ?_
    rw [h.item_ne (hwf.ne_registeredItem hlookup hs)]

include hwf in
theorem provides_ensureItem : (t.ensureItem entry).Provides c s i ↔ t.Provides c s i := by
  cases hservice : t.m_services.lookup entry.service_id with
  | some j => rw [ensureItem_of_some t entry hservice]
  | none =>
    rw [Files.provides hwf c s i (t.files_ensureItem entry)]
    split
    · rename_i hs
      subst hs
      simp [Provides, service, hservice]
    · rfl

theorem provides_eraseService : (t.eraseService service_id).Provides c s i ↔ s ≠ service_id ∧ t.Provides c s i := by
  unfold Provides
  rw [← and_assoc]
  exact and_congr_left fun _ => lookup_erase_eq_some

include hwf in
theorem provides_registerTables : (t.registerTables client entry).Provides c s i ↔
      if s = entry.service_id then c = client ∧ i = t.registeredItem entry else t.Provides c s i := by
  rw [Files.provides hwf c s i (t.files_registerTables client entry), Option.some_inj, and_comm,
    eq_comm (a := client)]

theorem produce_registerTables : ((t.registerTables client entry).client c).client_produce_services =
      if c = client then
        (t.client c).client_produce_services.insertNew entry.service_id (t.registeredItem entry)
      else (t.client c).client_produce_services := by
  unfold registerTables addProduce
  rw [client_setClient]
  split
  · rename_i heq
    rw [heq, client_offerItem]
  · rw [client_offerItem]

theorem produce_eraseProduce : ((t.eraseProduce client s).client c).client_produce_services =
      if c = client then (t.client c).client_produce_services.erase s
      else (t.client c).client_produce_services := by
  unfold eraseProduce
  rw [client_setClient]
  split
  · rename_i heq
    rw [heq]
  · rfl

theorem provides_unregisterTables :
    (t.unregisterTables client entry).Provides c s i ↔ s ≠ entry.service_id ∧ t.Provides c s i := by
  unfold Tables.unregisterTables
  split
  · rename_i hnone
    refine ⟨fun hprovides => ⟨?_, hprovides⟩, fun hprovides => hprovides.2⟩
    rintro rfl
    cases hnone.symm.trans hprovides.1
  · split
    · exact provides_eraseService ..
    · exact provides_eraseService ..

end

end Frame

end Tables

def Act.offered : Act → Option UInt32
  | .register _ entry => some entry.service_id
  | .unregister _ entry => some entry.service_id
  | _ => none

namespace Tables

section Preservation

variable {t : Tables}

variable {client : ClientPtr} {s : UInt32} {entry : StLocalServiceItem} {act : Act}

theorem mirror_frame (hwf : t.WellFormed) (hact : act.offered ≠ some s) :
    (∀ c, ((t.perform act).client c).client_produce_services.lookup s =
      (t.client c).client_produce_services.lookup s) ∧
    ∀ c i, (t.perform act).Provides c s i ↔ t.Provides c s i := by
  cases act with
  | addChannel | removeChannel | reply => exact ⟨fun _ => rfl, fun _ _ => Iff.rfl⟩
  | bringOnline client channel client_pid client_name | takeOffline client =>
    exact ⟨t.clients.map_get_set (·.client_produce_services.lookup s) (by rfl), fun _ _ => Iff.rfl⟩
  | createClient channel client_pid client_name =>
    refine ⟨fun c => ?_, fun _ _ => Iff.rfl⟩
    by_cases hc : c = t.clients.fresh
    · subst hc
      cases hold : (t.client t.clients.fresh).client_produce_services.lookup s with
      | none => simp [perform, Tables.createClient, Tables.client]
      | some i => exact absurd rfl (Heap.ne_fresh (hwf.producer_live hold))
    · have hsame : (t.createClient channel client_pid client_name).client c = t.client c :=
        Heap.get_alloc_ne _ _ hc
      exact congrArg (·.client_produce_services.lookup s) hsame
  | dropService i => exact ⟨fun _ => rfl, fun c j => provides_setItem (by rfl) c s j⟩
  | register client entry =>
    have hs : s ≠ entry.service_id := fun heq => hact (heq ▸ rfl)
    constructor
    · intro c
      change ((t.registerTables client entry).client c).client_produce_services.lookup s = _
      rw [produce_registerTables]
      split
      · exact lookup_insertNew_ne _ _ hs
      · rfl
    · intro c i
      exact (provides_registerTables hwf client entry c s i).trans (by rw [if_neg hs])
  | unregister client entry =>
    have hs : s ≠ entry.service_id := fun heq => hact (heq ▸ rfl)
    constructor
    · intro c
      change ((t.unregisterTables client entry).client c).client_produce_services.lookup s = _
      unfold Tables.unregisterTables
      split
      · rfl
      · split
        · rfl
        · rw [produce_eraseProduce]
          split
          · exact AList.lookup_erase_ne hs
          · rfl
    · intro c i
      exact (provides_unregisterTables client entry c s i).trans (and_iff_right hs)
  | listen reg client entry =>
    have hclient : ∀ c, (t.listenTables reg client entry).client c = t.client c := by
      intro c
      unfold Tables.listenTables
      split
      · exact client_ensureItem ..
      · split <;> exact client_ensureItem ..
    refine ⟨fun c => congrArg (·.client_produce_services.lookup s) (hclient c), fun c i => ?_⟩
    refine Iff.trans ?_ (provides_ensureItem hwf entry c s i)
    change (t.listenTables reg client entry).Provides c s i ↔ _
    unfold Tables.listenTables
    split
    · exact provides_setItem (by rfl) c s i
    · split
      · exact provides_setItem (by rfl) c s i
      · rfl
  | setStatus entry =>
    change (∀ c, ((t.setStatusTables entry).client c).client_produce_services.lookup s = _) ∧
      ∀ c i, (t.setStatusTables entry).Provides c s i ↔ _
    unfold Tables.setStatusTables
    split
    · exact ⟨fun _ => rfl, fun _ _ => Iff.rfl⟩
    · exact ⟨fun _ => rfl, fun c j => provides_setItem (by rfl) c s j⟩

theorem OwnedAt.registerTables (h : t.OwnedAt entry.service_id) (hwf : t.WellFormed)
    (hundisputed : t.Undisputed client entry.service_id) :
    (t.registerTables client entry).OwnedAt entry.service_id := by
  intro c i
  rw [provides_registerTables hwf, produce_registerTables, if_pos rfl]
  by_cases hc : c = client
  · subst hc
    rw [if_pos rfl, lookup_insertNew_self]
    cases hold : (t.client c).client_produce_services.lookup entry.service_id with
    | none => simp [eq_comm]
    | some j =>
      have hitem : t.registeredItem entry = j := registeredItem_of_some t entry ((h c j).mp hold).1
      simp [hitem, eq_comm]
  · rw [if_neg hc, h c]
    exact iff_of_false (fun hprovides => hc (hundisputed c i hprovides)) (fun hclient => hc hclient.1)

theorem OwnedAt.unregisterTables (h : t.OwnedAt entry.service_id)
    (hundisputed : t.Undisputed client entry.service_id) :
    (t.unregisterTables client entry).OwnedAt entry.service_id := by
  intro c i
  rw [provides_unregisterTables]
  refine iff_of_false ?_ fun hne => hne.1 rfl
  unfold Tables.unregisterTables
  intro hproduce
  split at hproduce
  · rename_i hnone
    cases hnone.symm.trans ((h c i).mp hproduce).1
  · split at hproduce
    · rename_i hnone
      have hc := hundisputed c i ((h c i).mp hproduce)
      rw [hc] at hproduce
      cases hnone.symm.trans hproduce
    · rw [produce_eraseProduce] at hproduce
      split at hproduce
      · exact (lookup_erase_eq_some.mp hproduce).1 rfl
      · rename_i hc
        exact hc (hundisputed c i ((h c i).mp hproduce))

/-- The registrations and withdrawals that leave the mirror of a service intact. -/
def KeepsOwners (t : Tables) (s : UInt32) : Act → Prop
  | .register client entry => entry.service_id = s → t.Undisputed client s
  | .unregister client entry => entry.service_id = s → t.Undisputed client s
  | _ => True

theorem OwnedAt.perform (h : t.OwnedAt s) (hwf : t.WellFormed)
    (hkeeps : t.KeepsOwners s act) : (t.perform act).OwnedAt s := by
  by_cases hact : act.offered = some s
  · cases act with
    | register client entry =>
      obtain rfl : entry.service_id = s := Option.some.inj hact
      exact h.registerTables hwf (hkeeps rfl)
    | unregister client entry =>
      obtain rfl : entry.service_id = s := Option.some.inj hact
      exact h.unregisterTables (hkeeps rfl)
    | _ => cases hact
  · obtain ⟨hproduce, hprovides⟩ := mirror_frame hwf hact
    intro c i
    rw [hproduce, hprovides]
    exact h c i

theorem undisputed_perform (hwf : t.WellFormed) (hact : act = .register client entry ∨ act = .unregister client entry)
    (h : s = entry.service_id ∨ t.Undisputed client s) : (t.perform act).Undisputed client s := by
  intro c i hprovides
  obtain rfl | rfl := hact
  · have hregister := (provides_registerTables hwf client entry c s i).mp hprovides
    split at hregister
    · exact hregister.1
    · rename_i hs
      exact h.resolve_left hs c i hregister
  · obtain ⟨hs, hprovides⟩ := (provides_unregisterTables client entry c s i).mp hprovides
    exact h.resolve_left hs c i hprovides

end Preservation

end Tables

namespace Event

/-- No entry of a `register_service` message, whether it registers or withdraws,
names a service that `m_services` lists under another client. -/
def Uncontested (r : LocalRegistry) (label : Env × Event) : Prop :=
  ∀ channel msg client, label.2 = .message channel (.register_service msg) →
    named r msg.provider_client = some client →
    ∀ entry ∈ msg.produce_services, r.Undisputed client entry.service_id

instance (r : LocalRegistry) : ∀ label, Decidable (Uncontested r label)
  | (env, .message channel (.register_service msg)) =>
    decidable_of_iff (∀ client ∈ named r msg.provider_client, ∀ entry ∈ msg.produce_services,
        r.Undisputed client entry.service_id) (by
      constructor
      · rintro h _ _ client ⟨⟩ hclient
        exact h client hclient
      · exact fun h client hclient => h channel msg client rfl hclient)
  | (_, .message _ (.register_client ..)) | (_, .message _ (.get_client ..)) | (_, .message _ (.listen_service _))
  | (_, .message _ (.get_service ..)) | (_, .message _ (.service_set_status _)) | (_, .message _ (.ctrl_get_clients _))
  | (_, .message _ (.ctrl_get_services _)) | (_, .connect _) | (_, .close _) => .isTrue (by rintro _ _ _ ⟨⟩)

section RegisterService

variable {r : LocalRegistry} {msg : StRegisterService} {client : ClientPtr}

variable {act : Act}

theorem registerAct_cases (hclient : named r msg.provider_client = some client)
    (hact : MessageAct r (.register_service msg) act) :
    ∃ entry ∈ msg.produce_services, act = .register client entry ∨ act = .unregister client entry := by
  cases hact with
  | register hreg hnamed hentry =>
    cases hclient.symm.trans hnamed
    exact ⟨_, hentry, .inl rfl⟩
  | unregister hreg hnamed hentry =>
    cases hclient.symm.trans hnamed
    exact ⟨_, hentry, .inr rfl⟩
  | answer hquery hanswer => exact hquery.elim

theorem undisputed_of_registerAct (hclient : named r msg.provider_client = some client) {t : Tables}
    (hwf : t.WellFormed) (hact : MessageAct r (.register_service msg) act) {s : UInt32}
    (h : t.Undisputed client s) : (t.perform act).Undisputed client s := by
  obtain ⟨entry, _, hentry⟩ := registerAct_cases hclient hact
  exact Tables.undisputed_perform hwf hentry (.inr h)

theorem undisputed_after (hwf : r.WellFormed) (env : Env) (channel : SocketChannel)
    (hclient : named r msg.provider_client = some client) {entry : StLocalServiceItem}
    (hentry : entry ∈ msg.produce_services) :
    Tables.Undisputed ((messageActs env r channel (.register_service msg)).foldl Tables.perform r.toTables)
      client entry.service_id := by
  have hacts : messageActs env r channel (.register_service msg) =
      msg.produce_services.map (if msg.reg then .register client else .unregister client) := by
    simp only [messageActs, hclient]
  have hmem : (if msg.reg then Act.register client else Act.unregister client) entry ∈
      messageActs env r channel (.register_service msg) := hacts ▸ List.mem_map_of_mem hentry
  refine foldl_established (Midway r) (fun t => t.Undisputed client entry.service_id) ?_ ?_ hmem ?_ (.start hwf)
  · exact fun t act hact hmid => hmid.perform hwf (messageAct_of_mem hact)
  · exact fun t act hact hmid h => undisputed_of_registerAct hclient hmid.wellFormed (messageAct_of_mem hact) h
  · intro t hmid
    refine Tables.undisputed_perform hmid.wellFormed ?_ (.inl rfl)
    split
    · exact .inl rfl
    · exact .inr rfl

end RegisterService

variable {r : LocalRegistry}

theorem keepsOwners_acts (hwf : r.WellFormed) {env : Env} {event : Event} (h : Uncontested r (env, event)) :
    LoopMeets Tables.perform (fun t act => ∀ s, t.KeepsOwners s act) r.toTables (event.acts env r) := by
  by_cases hregister : ∃ channel msg client, event = .message channel (.register_service msg) ∧
      named r msg.provider_client = some client
  · obtain ⟨channel, msg, client, rfl, hclient⟩ := hregister
    change LoopMeets _ _ _ (messageActs env r channel (.register_service msg))
    refine LoopMeets.of_invariant (fun t => Midway r t ∧
      ∀ entry ∈ msg.produce_services, t.Undisputed client entry.service_id) ?_ ?_
        ⟨.start hwf, h channel msg client rfl hclient⟩
    · rintro t act hmem ⟨_, hundisputed⟩
      obtain ⟨entry, hentry, rfl | rfl⟩ := registerAct_cases hclient (messageAct_of_mem hmem)
      · exact fun s hs => hs ▸ hundisputed entry hentry
      · exact fun s hs => hs ▸ hundisputed entry hentry
    · rintro t act hmem ⟨hmid, hundisputed⟩
      have hact := messageAct_of_mem hmem
      exact ⟨hmid.perform hwf hact, fun entry hentry =>
        undisputed_of_registerAct hclient hmid.wellFormed hact (hundisputed entry hentry)⟩
  · apply acts_meet
    intro t act hact
    cases hact with
    | message hact =>
      cases hact with
      | register hreg hclient hentry => exact absurd ⟨_, _, _, rfl, hclient⟩ hregister
      | unregister hreg hclient hentry => exact absurd ⟨_, _, _, rfl, hclient⟩ hregister
      | listen | setStatus | answer => exact fun _ => trivial
    | _ => exact fun _ => trivial

end Event

namespace LocalRegistry

variable {label : Env × Event}

theorem step_owned_iff {r r' : LocalRegistry} (hwf : r.WellFormed) (howned : r.Owned)
    (h : r.step label = some r') : r'.Owned ↔ Uncontested r label := by
  obtain ⟨env, event⟩ := label
  constructor
  · intro howned' channel msg client hevent hclient entry hentry other i hprovides
    by_contra hne
    have htables := step_tables h
    obtain rfl : event = .message channel (.register_service msg) := hevent
    have hundisputed := undisputed_after hwf env channel hclient hentry
    rw [acts] at htables
    rw [← htables] at hundisputed
    have hproduce : (r'.client other).client_produce_services = (r.client other).client_produce_services := by
      rw [htables]
      refine foldl_invariant (fun t : Tables => (t.client other).client_produce_services =
        (r.client other).client_produce_services) (fun t act hact hsame => ?_) rfl
      obtain ⟨entry, _, rfl | rfl⟩ := registerAct_cases hclient (messageAct_of_mem hact)
      · exact (Tables.produce_registerTables client entry other).trans ((if_neg hne).trans hsame)
      · refine Eq.trans ?_ hsame
        change ((t.unregisterTables client entry).client other).client_produce_services = _
        unfold Tables.unregisterTables
        split
        · rfl
        · split
          · rfl
          · rw [Tables.produce_eraseProduce, if_neg hne]
            rfl
    have hlookup := (howned other entry.service_id i).mpr hprovides
    rw [← hproduce] at hlookup
    exact hne (hundisputed other i ((howned' other entry.service_id i).mp hlookup))
  · intro huncontested
    refine step_invariant_of_meets Tables.Owned ?_ hwf howned (keepsOwners_acts hwf huncontested) h
    intro t act hwf _ howned hkeeps c s
    exact Tables.OwnedAt.perform (fun c => howned c s) hwf (hkeeps s) c

theorem uncontested_of_stuck {r : LocalRegistry} (h : r.step label = none) :
    Uncontested r label := by
  rintro channel msg client hevent
  simp only [step, hevent, onMessage] at h
  cases h

end LocalRegistry

theorem init_owned : init.Owned := by
  intro c s i
  refine iff_of_false ?_ ?_
  · simp [init, Tables.client, Heap.empty, Heap.get, default]
  · rintro ⟨hlookup, _⟩
    simp [init] at hlookup

variable {r : LocalRegistry}

theorem LocalRegistry.daemonRun_owned {labels : List (Env × Event)}
    (huncontested : Meets step Uncontested init labels)
    (h : daemonRun labels = some r) : r.Owned := by
  refine (run_invariant_of_meets (fun r : LocalRegistry => r.WellFormed ∧ r.Owned) ?_
    ⟨Tables.init_wellFormed, init_owned⟩ huncontested h).2
  rintro r label next ⟨hwf, howned⟩ hlabel hstep
  exact ⟨step_wellFormed hwf hstep, (step_owned_iff hwf howned hstep).mpr hlabel⟩

/-- The ownership invariant with its consequence that no service is produced by
two clients. -/
structure LocalRegistry.Ownership (r : LocalRegistry) : Prop where
  mirror : ∀ c s i, (r.client c).client_produce_services.lookup s = some i ↔
    r.m_services.lookup s = some i ∧ (r.item i).service_provider = some c
  exclusive : ∀ c c' s, s ∈ (r.client c).client_produce_services → s ∈ (r.client c').client_produce_services →
    c = c'

theorem LocalRegistry.ownership_iff : r.Ownership ↔ r.Owned := by
  refine ⟨fun h => h.mirror, fun h => ⟨h, ?_⟩⟩
  intro c c' s hc hc'
  obtain ⟨i, hi⟩ := Option.isSome_iff_exists.mp (AList.lookup_isSome.mpr hc)
  obtain ⟨j, hj⟩ := Option.isSome_iff_exists.mp (AList.lookup_isSome.mpr hc')
  obtain ⟨hservice, hprovider⟩ := (h c s i).mp hi
  obtain ⟨hservice', hprovider'⟩ := (h c' s j).mp hj
  cases hservice.symm.trans hservice'
  exact Option.some.inj (hprovider.symm.trans hprovider')

/-- A run keeps the ownership invariant in every state it reaches exactly when no
client in it registers or withdraws a service that another client provides. -/
theorem ownership_throughout_iff_uncontested (labels : List (Env × Event)) :
    Throughout LocalRegistry.step LocalRegistry.Ownership LocalRegistry.init labels ↔
      Meets LocalRegistry.step Event.Uncontested LocalRegistry.init labels := by
  refine throughout_iff_meets (fun r _ => r.WellFormed)
    (fun _ _ _ _ hwf hstep => step_wellFormed hwf hstep) (fun _ _ hstuck => uncontested_of_stuck hstuck)
    ?_ Tables.init_wellFormed (ownership_iff.mpr init_owned)
  intro r label _ r' hwf hownership hstep
  rw [ownership_iff] at hownership ⊢
  exact step_owned_iff hwf hownership hstep

/-- Two clients register the same service one after the other, and it then stands
in both produce maps. -/
theorem ownership_lost_by_takeover :
    ∃ r, daemonRun
        [Peer.connects ⟨1, 11, ['a']⟩, Peer.connects ⟨2, 22, ['b']⟩,
          Peer.registers ⟨1, 11, ['a']⟩ true [⟨7, LOCAL_SERVICE_TYPE_METHOD, 0⟩],
          Peer.registers ⟨2, 22, ['b']⟩ true [⟨7, LOCAL_SERVICE_TYPE_METHOD, 0⟩]] = some r ∧
      (r.client ⟨0⟩).client_name = ['a'] ∧ (r.client ⟨1⟩).client_name = ['b'] ∧
      (7 : UInt32) ∈ (r.client ⟨0⟩).client_produce_services ∧
      (7 : UInt32) ∈ (r.client ⟨1⟩).client_produce_services ∧ ¬ r.Ownership := by
  refine ⟨_, rfl, by decide, by decide, by decide, by decide, ?_⟩
  intro hownership
  have hsame := hownership.exclusive ⟨0⟩ ⟨1⟩ 7 (by decide) (by decide)
  cases hsame

end hub.local_registry
