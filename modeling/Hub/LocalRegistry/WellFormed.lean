import Hub.LocalRegistry.Acts

namespace hub.local_registry

open UnorderedMap LocalRegistry Heap

namespace Tables

section Access

variable (t : Tables)

theorem client_setClient (c other : ClientPtr) (record : LocalClient) :
    (t.setClient c record).client other = if other = c then record else t.client other :=
  get_set ..

@[simp] theorem client_setClient_self (c : ClientPtr) (record : LocalClient) :
    (t.setClient c record).client c = record :=
  get_set_self ..

theorem item_setItem (i other : ItemPtr) (record : LocalServiceItem) :
    (t.setItem i record).item other = if other = i then record else t.item other :=
  get_set ..

@[simp] theorem item_setItem_self (i : ItemPtr) (record : LocalServiceItem) :
    (t.setItem i record).item i = record :=
  get_set_self ..

end Access

/-- The facts about pointers and keys that hold in every state: pointers name
allocated objects, and an object is filed under the key it carries itself. -/
structure WellFormed (t : Tables) : Prop where
  names_live : ∀ {name c}, t.m_clients_by_name.lookup name = some c → t.clients.Live c
  names_keyed : ∀ {name c}, t.m_clients_by_name.lookup name = some c → (t.client c).client_name = name
  live_named : ∀ {c}, t.clients.Live c → t.m_clients_by_name.lookup (t.client c).client_name = some c
  services_live : ∀ {s i}, t.m_services.lookup s = some i → t.items.Live i
  services_keyed : ∀ {s i}, t.m_services.lookup s = some i → (t.item i).service_id = s
  producer_live : ∀ {c s i}, (t.client c).client_produce_services.lookup s = some i → t.clients.Live c
  produce_live : ∀ {c s i}, (t.client c).client_produce_services.lookup s = some i → t.items.Live i
  produce_keyed : ∀ {c s i}, (t.client c).client_produce_services.lookup s = some i → (t.item i).service_id = s
  provider_live : ∀ {i c}, (t.item i).service_provider = some c → t.clients.Live c
  listener_live : ∀ {i id c}, (t.item i).service_listeners.lookup id = some c → t.clients.Live c
  listener_keyed : ∀ {i id c}, (t.item i).service_listeners.lookup id = some c → (t.client c).client_id = id
  channels_keyed : ∀ {id channel}, t.m_server.channels.lookup id = some channel → channel.id = id

variable {t : Tables}

theorem WellFormed.item_inj (h : t.WellFormed) {s s' : UInt32} {i : ItemPtr}
    (hs : t.m_services.lookup s = some i) (hs' : t.m_services.lookup s' = some i) : s = s' :=
  (h.services_keyed hs).symm.trans (h.services_keyed hs')

theorem WellFormed.name_inj (h : t.WellFormed) {name name' : Str} {c : ClientPtr}
    (hname : t.m_clients_by_name.lookup name = some c) (hname' : t.m_clients_by_name.lookup name' = some c) :
    name = name' :=
  (h.names_keyed hname).symm.trans (h.names_keyed hname')

theorem init_wellFormed : init.toTables.WellFormed where
  names_live h := by simp [init] at h
  names_keyed h := by simp [init] at h
  live_named h := absurd h (Nat.not_lt_zero _)
  services_live h := by simp [init] at h
  services_keyed h := by simp [init] at h
  producer_live h := by cases h
  produce_live h := by cases h
  produce_keyed h := by cases h
  provider_live h := by cases h
  listener_live h := by cases h
  listener_keyed h := by cases h
  channels_keyed h := by simp [init] at h

section Preservation

theorem WellFormed.setClient (h : t.WellFormed) {c : ClientPtr} {record : LocalClient}
    (hid : record.client_id = (t.client c).client_id)
    (hname : ∀ name, t.m_clients_by_name.lookup name = some c → record.client_name = name)
    (hproduce : ∀ s i, record.client_produce_services.lookup s = some i →
      t.clients.Live c ∧ t.items.Live i ∧ (t.item i).service_id = s) :
    (t.setClient c record).WellFormed :=
  { h with
    names_keyed := by
      intro name other hlookup
      rw [client_setClient]
      split
      · rename_i heq
        exact hname name (heq ▸ hlookup)
      · exact h.names_keyed hlookup
    live_named := by
      intro other hlive
      have hnamed := h.live_named hlive
      have hsame : ((t.setClient c record).client other).client_name = (t.client other).client_name := by
        rw [client_setClient]
        split
        · rename_i heq
          subst heq
          exact hname _ hnamed
        · rfl
      rw [hsame]
      exact hnamed
    producer_live := by
      intro other s i hlookup
      rw [client_setClient] at hlookup
      split at hlookup
      · rename_i heq
        rw [heq]
        exact (hproduce s i hlookup).1
      · exact h.producer_live hlookup
    produce_live := by
      intro other s i hlookup
      rw [client_setClient] at hlookup
      split at hlookup
      · exact (hproduce s i hlookup).2.1
      · exact h.produce_live hlookup
    produce_keyed := by
      intro other s i hlookup
      rw [client_setClient] at hlookup
      split at hlookup
      · exact (hproduce s i hlookup).2.2
      · exact h.produce_keyed hlookup
    listener_keyed := by
      intro i id other hlookup
      exact (t.clients.map_get_set LocalClient.client_id hid other).trans (h.listener_keyed hlookup) }

variable {i : ItemPtr}

theorem WellFormed.setItem (h : t.WellFormed) {record : LocalServiceItem}
    (hid : record.service_id = (t.item i).service_id)
    (hprovider : ∀ c, record.service_provider = some c → t.clients.Live c)
    (hlisteners : ∀ id c, record.service_listeners.lookup id = some c →
      t.clients.Live c ∧ (t.client c).client_id = id) :
    (t.setItem i record).WellFormed :=
  { h with
    services_keyed := by
      intro s other hlookup
      exact (t.items.map_get_set LocalServiceItem.service_id hid other).trans (h.services_keyed hlookup)
    produce_keyed := by
      intro c s other hlookup
      exact (t.items.map_get_set LocalServiceItem.service_id hid other).trans (h.produce_keyed hlookup)
    provider_live := by
      intro other c hprov
      rw [item_setItem] at hprov
      split at hprov
      · exact hprovider c hprov
      · exact h.provider_live hprov
    listener_live := by
      intro other id c hlookup
      rw [item_setItem] at hlookup
      split at hlookup
      · exact (hlisteners id c hlookup).1
      · exact h.listener_live hlookup
    listener_keyed := by
      intro other id c hlookup
      rw [item_setItem] at hlookup
      split at hlookup
      · exact (hlisteners id c hlookup).2
      · exact h.listener_keyed hlookup }

def addItem (t : Tables) (record : LocalServiceItem) : Tables :=
  { t with
    items := t.items.alloc record
    m_services := t.m_services.insertNew record.service_id t.items.fresh }

theorem item_addItem_fresh (t : Tables) (record : LocalServiceItem) :
    (t.addItem record).item t.items.fresh = record :=
  get_alloc_fresh ..

theorem item_addItem_ne (t : Tables) (record : LocalServiceItem) (hne : i ≠ t.items.fresh) :
    (t.addItem record).item i = t.item i :=
  get_alloc_ne _ _ hne

section

variable (h : t.WellFormed)

include h

theorem WellFormed.addItem (record : LocalServiceItem)
    (hprovider : ∀ c, record.service_provider = some c → t.clients.Live c)
    (hlisteners : record.service_listeners = ∅) :
    (t.addItem record).WellFormed where
  names_live := h.names_live
  names_keyed := h.names_keyed
  live_named := h.live_named
  services_live := by
    intro s i hlookup
    obtain hold | ⟨-, -, rfl⟩ := lookup_insertNew_eq_some.mp hlookup
    · exact (h.services_live hold).alloc _
    · exact live_alloc_fresh ..
  services_keyed := by
    intro s i hlookup
    obtain hold | ⟨rfl, -, rfl⟩ := lookup_insertNew_eq_some.mp hlookup
    · rw [item_addItem_ne t record (ne_fresh (h.services_live hold))]
      exact h.services_keyed hold
    · rw [item_addItem_fresh]
  producer_live := h.producer_live
  produce_live := fun hlookup => (h.produce_live hlookup).alloc _
  produce_keyed := by
    intro c s i hlookup
    rw [item_addItem_ne t record (ne_fresh (h.produce_live hlookup))]
    exact h.produce_keyed hlookup
  provider_live := by
    intro i c hprov
    by_cases hi : i = t.items.fresh
    · subst hi
      rw [item_addItem_fresh] at hprov
      exact hprovider c hprov
    · rw [item_addItem_ne t record hi] at hprov
      exact h.provider_live hprov
  listener_live := by
    intro i id c hlookup
    by_cases hi : i = t.items.fresh
    · subst hi
      rw [item_addItem_fresh, hlisteners] at hlookup
      cases hlookup
    · rw [item_addItem_ne t record hi] at hlookup
      exact h.listener_live hlookup
  listener_keyed := by
    intro i id c hlookup
    by_cases hi : i = t.items.fresh
    · subst hi
      rw [item_addItem_fresh, hlisteners] at hlookup
      cases hlookup
    · rw [item_addItem_ne t record hi] at hlookup
      exact h.listener_keyed hlookup
  channels_keyed := h.channels_keyed

theorem WellFormed.eraseService (s : UInt32) : (t.eraseService s).WellFormed :=
  { h with
    services_live := fun hlookup => h.services_live (lookup_erase_eq_some.mp hlookup).2
    services_keyed := fun hlookup => h.services_keyed (lookup_erase_eq_some.mp hlookup).2 }

theorem WellFormed.addChannel (channel : SocketChannel) :
    (t.perform (.addChannel channel)).WellFormed :=
  { h with
    channels_keyed := by
      intro id other hlookup
      rcases lookup_insert_eq_some.mp hlookup with ⟨hid, hother⟩ | ⟨_, hold⟩
      · rw [hid, hother]
      · exact h.channels_keyed hold }

theorem WellFormed.removeChannel (channel_id : UInt32) :
    (t.perform (.removeChannel channel_id)).WellFormed :=
  { h with
    channels_keyed := fun hlookup => h.channels_keyed (lookup_erase_eq_some.mp hlookup).2 }

theorem WellFormed.createClient (channel : SocketChannel) (client_pid : Int)
    {client_name : Str} (hnew : t.m_clients_by_name.lookup client_name = none) :
    (t.createClient channel client_pid client_name).WellFormed := by
  have hold : ∀ {c}, t.clients.Live c →
      (t.createClient channel client_pid client_name).client c = t.client c :=
    fun hlive => get_alloc_ne _ _ (ne_fresh hlive)
  have hproduce : ∀ {c s i},
      ((t.createClient channel client_pid client_name).client c).client_produce_services.lookup s = some i →
      (t.client c).client_produce_services.lookup s = some i := by
    intro c s i hlookup
    by_cases hc : c = t.clients.fresh
    · subst hc
      simp [Tables.createClient, Tables.client] at hlookup
    · simpa [Tables.createClient, Tables.client, get_alloc_ne _ _ hc] using hlookup
  constructor
  case names_live =>
    intro name c hlookup
    obtain hold | ⟨-, -, rfl⟩ := lookup_insertNew_eq_some.mp hlookup
    · exact (h.names_live hold).alloc _
    · exact live_alloc_fresh ..
  case names_keyed =>
    intro name c hlookup
    obtain hlookup | ⟨hname, -, rfl⟩ := lookup_insertNew_eq_some.mp hlookup
    · rw [hold (h.names_live hlookup)]
      exact h.names_keyed hlookup
    · simp [Tables.createClient, Tables.client, hname]
  case live_named =>
    intro c hlive
    by_cases hc : c = t.clients.fresh
    · subst hc
      have hself : ((t.createClient channel client_pid client_name).client t.clients.fresh).client_name =
          client_name := by
        simp [Tables.createClient, Tables.client]
      rw [hself]
      change (t.m_clients_by_name.insertNew client_name t.clients.fresh).lookup client_name = _
      rw [lookup_insertNew_self, hnew]
      rfl
    · have hlive' : t.clients.Live c := Live.of_alloc hlive hc
      have hnamed := h.live_named hlive'
      rw [hold hlive']
      change (t.m_clients_by_name.insertNew client_name t.clients.fresh).lookup _ = some c
      rw [lookup_insertNew_ne]
      · exact hnamed
      · intro heq
        rw [heq, hnew] at hnamed
        cases hnamed
  case services_live => exact h.services_live
  case services_keyed => exact h.services_keyed
  case producer_live => exact fun hlookup => (h.producer_live (hproduce hlookup)).alloc _
  case produce_live => exact fun hlookup => h.produce_live (hproduce hlookup)
  case produce_keyed => exact fun hlookup => h.produce_keyed (hproduce hlookup)
  case provider_live => exact fun hprov => (h.provider_live hprov).alloc _
  case listener_live => exact fun hlookup => (h.listener_live hlookup).alloc _
  case listener_keyed =>
    intro i id c hlookup
    rw [hold (h.listener_live hlookup)]
    exact h.listener_keyed hlookup
  case channels_keyed => exact h.channels_keyed

end

end Preservation

/-- The guards under which the handlers reach a unit of work. -/
def Allows (t : Tables) : Act → Prop
  | .bringOnline client _ _ client_name => t.m_clients_by_name.lookup client_name = some client
  | .createClient _ _ client_name => t.m_clients_by_name.lookup client_name = none
  | .takeOffline client => t.clients.Live client
  | .register client _ => t.clients.Live client
  | .unregister client _ => t.clients.Live client
  | .listen _ client _ => t.clients.Live client
  | _ => True

section Entries

variable (t) (client : ClientPtr) (entry : StLocalServiceItem)

def service (t : Tables) (s : UInt32) : Option LocalServiceItem := (t.m_services.lookup s).map t.item

def listeners (t : Tables) (s : UInt32) : UnorderedMap UInt32 ClientPtr :=
  (t.service s).elim ∅ LocalServiceItem.service_listeners

/-- The entry of one service is created or rewritten, and no other. -/
structure Files (t t' : Tables) (entry : StLocalServiceItem) (record : LocalServiceItem) : Prop where
  lookup_self : t'.m_services.lookup entry.service_id = some (t.registeredItem entry)
  lookup_ne : ∀ {s}, s ≠ entry.service_id → t'.m_services.lookup s = t.m_services.lookup s
  item_self : t'.item (t.registeredItem entry) = record
  item_ne : ∀ {i}, i ≠ t.registeredItem entry → t'.item i = t.item i

theorem offerItem_of_none (hnew : t.m_services.lookup entry.service_id = none) :
    t.offerItem client entry = t.addItem
      ⟨entry.service_id, entry.service_type, LOCAL_SERVICE_STATUS_AVAILABLE, some client, ∅⟩ := by
  simp [offerItem, hnew, addItem]

theorem ensureItem_of_none (hnew : t.m_services.lookup entry.service_id = none) :
    t.ensureItem entry = t.addItem
      ⟨entry.service_id, entry.service_type, LOCAL_SERVICE_STATUS_DEFAULT, none, ∅⟩ := by
  simp [ensureItem, hnew, addItem]

variable {i : ItemPtr}

theorem ensureItem_of_some (hold : t.m_services.lookup entry.service_id = some i) :
    t.ensureItem entry = t := by
  simp [ensureItem, hold]

theorem registeredItem_of_none (hnew : t.m_services.lookup entry.service_id = none) :
    t.registeredItem entry = t.items.fresh := by
  simp [registeredItem, hnew]

theorem registeredItem_of_some (hold : t.m_services.lookup entry.service_id = some i) :
    t.registeredItem entry = i := by
  simp [registeredItem, hold]

variable {t entry} in
theorem files_addItem {record : LocalServiceItem} (hnew : t.m_services.lookup entry.service_id = none)
    (hid : record.service_id = entry.service_id) : t.Files (t.addItem record) entry record where
  lookup_self := by simp [addItem, hid, lookup_insertNew_self, hnew, registeredItem_of_none]
  lookup_ne hne := lookup_insertNew_ne _ _ (hid ▸ hne)
  item_self := by rw [registeredItem_of_none t entry hnew, item_addItem_fresh]
  item_ne hne := item_addItem_ne t record (registeredItem_of_none t entry hnew ▸ hne)

variable {t entry} in
theorem files_of_some (hold : t.m_services.lookup entry.service_id = some i) : t.Files t entry (t.item i) where
  lookup_self := by rw [hold, registeredItem_of_some t entry hold]
  lookup_ne _ := rfl
  item_self := by rw [registeredItem_of_some t entry hold]
  item_ne _ := rfl

variable {t entry} in
theorem Files.setItem {t' : Tables} {old : LocalServiceItem} (h : t.Files t' entry old) (record : LocalServiceItem) :
    t.Files (t'.setItem (t.registeredItem entry) record) entry record where
  lookup_self := h.lookup_self
  lookup_ne := h.lookup_ne
  item_self := item_setItem_self ..
  item_ne hne := (item_setItem ..).trans ((if_neg hne).trans (h.item_ne hne))

theorem files_offerItem : t.Files (t.offerItem client entry) entry
    { service_id := entry.service_id
      service_type := entry.service_type
      service_status := LOCAL_SERVICE_STATUS_AVAILABLE
      service_provider := some client
      service_listeners := t.listeners entry.service_id } := by
  unfold listeners service
  cases hservice : t.m_services.lookup entry.service_id with
  | none =>
    rw [offerItem_of_none t client entry hservice]
    exact files_addItem hservice rfl
  | some i =>
    have hset := (files_of_some hservice).setItem
    rw [registeredItem_of_some t entry hservice] at hset
    simp only [offerItem, hservice]
    exact hset _

theorem files_registerTables : t.Files (t.registerTables client entry) entry
    ⟨entry.service_id, entry.service_type, LOCAL_SERVICE_STATUS_AVAILABLE, some client,
      t.listeners entry.service_id⟩ :=
  have h := t.files_offerItem client entry
  ⟨h.lookup_self, h.lookup_ne, h.item_self, h.item_ne⟩

theorem files_ensureItem : t.Files (t.ensureItem entry) entry ((t.service entry.service_id).getD
    ⟨entry.service_id, entry.service_type, LOCAL_SERVICE_STATUS_DEFAULT, none, ∅⟩) := by
  unfold service
  cases hservice : t.m_services.lookup entry.service_id with
  | none =>
    rw [ensureItem_of_none t entry hservice]
    exact files_addItem hservice rfl
  | some i =>
    rw [ensureItem_of_some t entry hservice]
    exact files_of_some hservice

@[simp] theorem client_offerItem (c : ClientPtr) : (t.offerItem client entry).client c = t.client c := by
  unfold offerItem
  split <;> rfl

@[simp] theorem client_ensureItem (c : ClientPtr) : (t.ensureItem entry).client c = t.client c := by
  unfold ensureItem
  split <;> rfl

end Entries

section Perform

theorem WellFormed.ne_registeredItem (h : t.WellFormed) {s : UInt32} {i : ItemPtr}
    (hlookup : t.m_services.lookup s = some i) {entry : StLocalServiceItem} (hs : s ≠ entry.service_id) :
    i ≠ t.registeredItem entry := by
  intro heq
  cases hservice : t.m_services.lookup entry.service_id with
  | none =>
    rw [registeredItem_of_none t entry hservice] at heq
    exact ne_fresh (h.services_live hlookup) heq
  | some j =>
    rw [registeredItem_of_some t entry hservice] at heq
    exact hs (h.item_inj hlookup (heq ▸ hservice))

variable {client : ClientPtr}

namespace WellFormed

variable (h : t.WellFormed)

include h

theorem offerItem (hlive : t.clients.Live client)
    (entry : StLocalServiceItem) : (t.offerItem client entry).WellFormed := by
  cases hservice : t.m_services.lookup entry.service_id with
  | none =>
    rw [offerItem_of_none t client entry hservice]
    refine h.addItem _ ?_ rfl
    intro c hprov
    cases hprov
    exact hlive
  | some i =>
    simp only [Tables.offerItem, hservice]
    refine h.setItem (h.services_keyed hservice).symm ?_ ?_
    · intro c hprov
      cases hprov
      exact hlive
    · exact fun id c hlookup => ⟨h.listener_live hlookup, h.listener_keyed hlookup⟩

theorem ensureItem (entry : StLocalServiceItem) :
    (t.ensureItem entry).WellFormed := by
  cases hservice : t.m_services.lookup entry.service_id with
  | none =>
    rw [ensureItem_of_none t entry hservice]
    exact h.addItem _ (by simp) rfl
  | some i =>
    rw [ensureItem_of_some t entry hservice]
    exact h

theorem registerTables (hlive : t.clients.Live client)
    (entry : StLocalServiceItem) : (t.registerTables client entry).WellFormed := by
  have hoffer := h.offerItem hlive entry
  have hself := (t.files_offerItem client entry).lookup_self
  have hlive' : (t.offerItem client entry).clients.Live client := by
    unfold Tables.offerItem
    split <;> exact hlive
  refine hoffer.setClient rfl (fun name hname => hoffer.names_keyed hname) ?_
  intro s i hlookup
  obtain hold | ⟨rfl, -, rfl⟩ := lookup_insertNew_eq_some.mp hlookup
  · exact ⟨hlive', hoffer.produce_live hold, hoffer.produce_keyed hold⟩
  · exact ⟨hlive', hoffer.services_live hself, hoffer.services_keyed hself⟩

theorem eraseProduce (client : ClientPtr) (s : UInt32) :
    (t.eraseProduce client s).WellFormed := by
  refine h.setClient rfl (fun name hname => h.names_keyed hname) ?_
  intro s' i hlookup
  have hold := (lookup_erase_eq_some.mp hlookup).2
  exact ⟨h.producer_live hold, h.produce_live hold, h.produce_keyed hold⟩

theorem unregisterTables (client : ClientPtr) (entry : StLocalServiceItem) :
    (t.unregisterTables client entry).WellFormed := by
  unfold Tables.unregisterTables
  split
  · exact h
  · split
    · exact h.eraseService _
    · exact (h.eraseService _).eraseProduce _ _

theorem addListener (hlive : t.clients.Live client) (i : ItemPtr) : (t.addListener client i).WellFormed := by
  refine h.setItem rfl (fun c hprov => h.provider_live hprov) ?_
  intro id c hlookup
  obtain hold | ⟨rfl, -, rfl⟩ := lookup_insertNew_eq_some.mp hlookup
  · exact ⟨h.listener_live hold, h.listener_keyed hold⟩
  · exact ⟨hlive, rfl⟩

theorem eraseListener (client : ClientPtr) (i : ItemPtr) :
    (t.eraseListener client i).WellFormed := by
  refine h.setItem rfl (fun c hprov => h.provider_live hprov) ?_
  intro id c hlookup
  have hold := (lookup_erase_eq_some.mp hlookup).2
  exact ⟨h.listener_live hold, h.listener_keyed hold⟩

theorem listenTables (reg : Bool) (hlive : t.clients.Live client) (entry : StLocalServiceItem) :
    (t.listenTables reg client entry).WellFormed := by
  have hensure := h.ensureItem entry
  have hlive' : (t.ensureItem entry).clients.Live client := by
    unfold Tables.ensureItem
    split <;> exact hlive
  unfold Tables.listenTables
  split
  · exact hensure.addListener hlive' _
  · split
    · exact hensure.eraseListener client _
    · exact hensure

theorem setStatus (i : ItemPtr) (service_status : UInt32) :
    (t.setStatus i service_status).WellFormed :=
  h.setItem rfl (fun _ hprov => h.provider_live hprov)
    fun _ _ hlookup => ⟨h.listener_live hlookup, h.listener_keyed hlookup⟩

theorem perform {act : Act} (hallows : t.Allows act) :
    (t.perform act).WellFormed := by
  cases act with
  | addChannel channel => exact h.addChannel channel
  | removeChannel channel_id => exact h.removeChannel channel_id
  | bringOnline client channel client_pid client_name =>
    refine h.setClient rfl ?_ fun s i hlookup =>
      ⟨h.producer_live hlookup, h.produce_live hlookup, h.produce_keyed hlookup⟩
    exact fun name hname => h.name_inj hallows hname
  | createClient channel client_pid client_name => exact h.createClient channel client_pid hallows
  | takeOffline client =>
    exact h.setClient rfl (fun name hname => h.names_keyed hname)
      fun s i hlookup => ⟨h.producer_live hlookup, h.produce_live hlookup, h.produce_keyed hlookup⟩
  | dropService i => exact h.setStatus i LOCAL_SERVICE_STATUS_DEFAULT
  | register client entry => exact h.registerTables hallows entry
  | unregister client entry => exact h.unregisterTables client entry
  | listen reg client entry => exact h.listenTables reg hallows entry
  | setStatus entry =>
    change (t.setStatusTables entry).WellFormed
    unfold Tables.setStatusTables
    split
    · exact h
    · exact h.setStatus _ _
  | reply => exact h

end WellFormed

end Perform

end Tables

end hub.local_registry
