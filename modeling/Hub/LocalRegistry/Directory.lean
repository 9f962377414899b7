import Hub.LocalRegistry.Steps

namespace hub.local_registry

open UnorderedMap

/-- The entry that `listen_service` works on, which it creates without provider
and without listeners for an unknown id. -/
def Tables.listenedItem (t : Tables) (entry : StLocalServiceItem) : LocalServiceItem :=
  (t.service entry.service_id).getD
    ⟨entry.service_id, entry.service_type, LOCAL_SERVICE_STATUS_DEFAULT, none, ∅⟩

/-- The listeners of a service after one entry of `listen_service`. A
cancellation is recorded for methods only. -/
def Tables.listenersAfter (t : Tables) (reg : Bool) (client : ClientPtr) (entry : StLocalServiceItem) :
    UnorderedMap UInt32 ClientPtr :=
  if reg then (t.listenedItem entry).service_listeners.insertNew (t.client client).client_id client
  else if (t.listenedItem entry).service_type = LOCAL_SERVICE_TYPE_METHOD then
    (t.listenedItem entry).service_listeners.erase (t.client client).client_id
  else (t.listenedItem entry).service_listeners

theorem Tables.files_listenTables (t : Tables) (reg : Bool) (client : ClientPtr) (entry : StLocalServiceItem) :
    t.Files (t.listenTables reg client entry) entry
      { t.listenedItem entry with service_listeners := t.listenersAfter reg client entry } := by
  have hensure : t.Files (t.ensureItem entry) entry (t.listenedItem entry) := t.files_ensureItem entry
  unfold Tables.listenTables Tables.listenersAfter
  rw [hensure.item_self]
  split
  · rw [Tables.addListener, hensure.item_self, client_ensureItem]
    exact hensure.setItem _
  · split
    · rw [Tables.eraseListener, hensure.item_self, client_ensureItem]
      exact hensure.setItem _
    · exact hensure

namespace Tables

section Directory

variable {t : Tables}

theorem service_congr {t' : Tables} {s : UInt32} (hlookup : t'.m_services.lookup s = t.m_services.lookup s)
    (hitem : ∀ i, t.m_services.lookup s = some i → t'.item i = t.item i) : t'.service s = t.service s := by
  unfold service
  rw [hlookup]
  cases hi : t.m_services.lookup s with
  | none => rfl
  | some i => rw [Option.map_some, Option.map_some, hitem i hi]

theorem service_eraseService (service_id s : UInt32) :
    (t.eraseService service_id).service s = if s = service_id then none else t.service s := by
  unfold service eraseService
  split
  · rename_i hs
    rw [hs, AList.lookup_erase]
    rfl
  · rename_i hs
    rw [AList.lookup_erase_ne hs]
    rfl

theorem service_unregisterTables (client : ClientPtr) (entry : StLocalServiceItem) (s : UInt32) :
    (t.unregisterTables client entry).service s = if s = entry.service_id then none else t.service s := by
  unfold unregisterTables
  split
  · rename_i hnone
    split
    · rename_i hs
      rw [hs, service, hnone]
      rfl
    · rfl
  · split
    · exact service_eraseService ..
    · exact service_eraseService ..

variable {s id : UInt32} {c : ClientPtr} {entry : StLocalServiceItem} {i : ItemPtr} {reg : Bool}

theorem service_setItem (i : ItemPtr) (record : LocalServiceItem) (s : UInt32) :
    (t.setItem i record).service s = if t.m_services.lookup s = some i then some record else t.service s := by
  split
  · rename_i hlookup
    have hlookup' : (t.setItem i record).m_services.lookup s = some i := hlookup
    rw [service, hlookup', Option.map_some, item_setItem_self]
  · rename_i hlookup
    refine service_congr rfl fun j hj => ?_
    rw [item_setItem, if_neg]
    rintro rfl
    exact hlookup hj

theorem service_resetStatus (i : ItemPtr) (s : UInt32) :
    (t.resetStatus i).service s =
      if t.m_services.lookup s = some i then (t.service s).map fun item =>
        { item with service_status := LOCAL_SERVICE_STATUS_DEFAULT }
      else t.service s := by
  rw [resetStatus, service_setItem]
  split
  · rename_i hlookup
    rw [service, hlookup]
    rfl
  · rfl

theorem service_of_lookup {s : UInt32} (hlookup : t.m_services.lookup s = some i) :
    t.service s = some (t.item i) := by
  rw [service, hlookup]
  rfl

theorem listenedItem_listeners (entry : StLocalServiceItem) :
    (t.listenedItem entry).service_listeners = t.listeners entry.service_id := by
  unfold listenedItem listeners
  cases t.service entry.service_id with
  | none | some item => rfl

theorem lookup_listeners :
    (t.listeners s).lookup id = some c ↔
      ∃ item, t.service s = some item ∧ item.service_listeners.lookup id = some c := by
  unfold listeners
  cases t.service s with
  | none | some item => simp

theorem lookup_listenersAfter {client c : ClientPtr} {id : UInt32}
    (hlookup : (t.listenersAfter reg client entry).lookup id = some c) :
    (t.listeners entry.service_id).lookup id = some c ∨ reg = true ∧ c = client := by
  rw [← listenedItem_listeners]
  unfold listenersAfter at hlookup
  split at hlookup
  · rename_i hreg
    obtain hold | ⟨-, -, rfl⟩ := lookup_insertNew_eq_some.mp hlookup
    · exact .inl hold
    · exact .inr ⟨hreg, rfl⟩
  · split at hlookup
    · exact .inl (lookup_erase_eq_some.mp hlookup).2
    · exact .inl hlookup

theorem listeners_unregisterTables (client : ClientPtr) (entry : StLocalServiceItem) (s : UInt32) :
    (t.unregisterTables client entry).listeners s = if s = entry.service_id then ∅ else t.listeners s := by
  rw [listeners, service_unregisterTables]
  split <;> rfl

theorem listeners_resetStatus (i : ItemPtr) (s : UInt32) : (t.resetStatus i).listeners s = t.listeners s := by
  unfold listeners
  rw [service_resetStatus]
  split
  · cases t.service s <;> rfl
  · rfl

def provider (t : Tables) (s : UInt32) : Option ClientPtr := (t.service s).bind LocalServiceItem.service_provider

theorem listenedItem_provider (t : Tables) (entry : StLocalServiceItem) :
    (t.listenedItem entry).service_provider = t.provider entry.service_id := by
  unfold listenedItem provider
  cases t.service entry.service_id with
  | none | some item => rfl

section

variable (hwf : t.WellFormed)

include hwf

theorem WellFormed.lookup_listeners_id
    (hlookup : (t.listeners s).lookup id = some c) : (t.client c).client_id = id := by
  obtain ⟨item, hservice, hitem⟩ := lookup_listeners.mp hlookup
  obtain ⟨i, _, rfl⟩ := Option.map_eq_some_iff.mp hservice
  exact hwf.listener_keyed hitem

theorem WellFormed.lookup_listeners_live
    (hlookup : (t.listeners s).lookup id = some c) : t.clients.Live c := by
  obtain ⟨item, hservice, hitem⟩ := lookup_listeners.mp hlookup
  obtain ⟨i, _, rfl⟩ := Option.map_eq_some_iff.mp hservice
  exact hwf.listener_live hitem

variable (reg : Bool) (client : ClientPtr) (entry : StLocalServiceItem) (s : UInt32)

theorem WellFormed.listenedItem_id :
    (t.listenedItem entry).service_id = entry.service_id := by
  unfold listenedItem
  cases hservice : t.service entry.service_id with
  | none => rfl
  | some item =>
    obtain ⟨i, hlookup, rfl⟩ := Option.map_eq_some_iff.mp hservice
    exact hwf.services_keyed hlookup

variable {entry} in
theorem Files.service {t' : Tables} {record : LocalServiceItem} (h : t.Files t' entry record) :
    t'.service s = if s = entry.service_id then some record else t.service s := by
  split
  · rename_i hs
    rw [hs, Tables.service, h.lookup_self, Option.map_some, h.item_self]
  · rename_i hs
    exact service_congr (h.lookup_ne hs) fun i hlookup => h.item_ne (hwf.ne_registeredItem hlookup hs)

theorem service_registerTables :
    (t.registerTables client entry).service s =
      if s = entry.service_id then
        some ⟨entry.service_id, entry.service_type, LOCAL_SERVICE_STATUS_AVAILABLE, some client,
          t.listeners entry.service_id⟩
      else t.service s :=
  Files.service hwf s (t.files_registerTables client entry)

theorem service_listenTables :
    (t.listenTables reg client entry).service s =
      if s = entry.service_id then
        some { t.listenedItem entry with service_listeners := t.listenersAfter reg client entry }
      else t.service s :=
  Files.service hwf s (t.files_listenTables reg client entry)

theorem service_setStatusTables :
    (t.setStatusTables entry).service s =
      if s = entry.service_id then
        (t.service s).map fun item => { item with service_status := entry.service_status }
      else t.service s := by
  cases hservice : t.m_services.lookup entry.service_id with
  | none =>
    have hstay : t.setStatusTables entry = t := by simp [setStatusTables, hservice]
    rw [hstay]
    split
    · rename_i hs
      rw [hs, service, hservice]
      rfl
    · rfl
  | some i =>
    have hset : t.setStatusTables entry = t.setStatus i entry.service_status := by
      simp [setStatusTables, hservice]
    rw [hset, setStatus, service_setItem]
    by_cases hs : s = entry.service_id
    · subst hs
      rw [if_pos hservice, if_pos rfl, service, hservice]
      rfl
    · rw [if_neg hs, if_neg]
      exact fun hlookup => hs (hwf.item_inj hlookup hservice)

/-- Where the entry of a service comes from that is there after a unit of work. -/
inductive Origin (t : Tables) (s : UInt32) : Act → LocalServiceItem → Prop where
  | kept {act : Act} {item : LocalServiceItem} (hold : t.service s = some item) : Origin t s act item
  | reset {i : ItemPtr} {old : LocalServiceItem} (hold : t.service s = some old) :
      Origin t s (.dropService i) { old with service_status := LOCAL_SERVICE_STATUS_DEFAULT }
  | registered {client : ClientPtr} {entry : StLocalServiceItem} (hs : entry.service_id = s) :
      Origin t s (.register client entry) ⟨entry.service_id, entry.service_type, LOCAL_SERVICE_STATUS_AVAILABLE,
        some client, t.listeners entry.service_id⟩
  | listened {reg : Bool} {client : ClientPtr} {entry : StLocalServiceItem} (hs : entry.service_id = s) :
      Origin t s (.listen reg client entry)
        { t.listenedItem entry with service_listeners := t.listenersAfter reg client entry }
  | stamped {entry : StLocalServiceItem} {old : LocalServiceItem} (hs : entry.service_id = s)
      (hold : t.service s = some old) :
      Origin t s (.setStatus entry) { old with service_status := entry.service_status }

variable {s} in
theorem origin_perform {act : Act} {item : LocalServiceItem} (hafter : (t.perform act).service s = some item) :
    t.Origin s act item := by
  cases act with
  | dropService i =>
    change (t.resetStatus i).service s = some item at hafter
    rw [service_resetStatus] at hafter
    split at hafter
    · obtain ⟨old, hold, rfl⟩ := Option.map_eq_some_iff.mp hafter
      exact .reset hold
    · exact .kept hafter
  | register client entry =>
    change (t.registerTables client entry).service s = some item at hafter
    rw [service_registerTables hwf] at hafter
    split at hafter
    · rename_i hs
      cases hafter
      exact .registered hs.symm
    · exact .kept hafter
  | unregister client entry =>
    change (t.unregisterTables client entry).service s = some item at hafter
    rw [service_unregisterTables] at hafter
    split at hafter
    · cases hafter
    · exact .kept hafter
  | listen reg client entry =>
    change (t.listenTables reg client entry).service s = some item at hafter
    rw [service_listenTables hwf] at hafter
    split at hafter
    · rename_i hs
      cases hafter
      exact .listened hs.symm
    · exact .kept hafter
  | setStatus entry =>
    change (t.setStatusTables entry).service s = some item at hafter
    rw [service_setStatusTables hwf] at hafter
    split at hafter
    · rename_i hs
      obtain ⟨old, hold, rfl⟩ := Option.map_eq_some_iff.mp hafter
      exact .stamped hs.symm hold
    · exact .kept hafter
  | _ => exact .kept hafter

theorem listeners_registerTables :
    (t.registerTables client entry).listeners s = t.listeners s := by
  rw [listeners, service_registerTables hwf]
  split
  · rename_i hs
    rw [hs]
    rfl
  · rfl

theorem listeners_listenTables :
    (t.listenTables reg client entry).listeners s =
      if s = entry.service_id then t.listenersAfter reg client entry else t.listeners s := by
  rw [listeners, service_listenTables hwf]
  split <;> rfl

theorem listeners_setStatusTables :
    (t.setStatusTables entry).listeners s = t.listeners s := by
  unfold listeners
  rw [service_setStatusTables hwf]
  split
  · cases t.service s <;> rfl
  · rfl

theorem provider_listenTables : (t.listenTables reg client entry).provider s = t.provider s := by
  rw [provider, service_listenTables hwf]
  split
  · rename_i hs
    rw [hs]
    exact t.listenedItem_provider entry
  · rfl

theorem provider_setStatusTables :
    (t.setStatusTables entry).provider s = t.provider s := by
  unfold provider
  rw [service_setStatusTables hwf]
  split
  · cases t.service s <;> rfl
  · rfl

theorem provider_registerTables :
    (t.registerTables client entry).provider s = if s = entry.service_id then some client else t.provider s := by
  rw [provider, service_registerTables hwf]
  split <;> rfl

end

end Directory

end Tables

end hub.local_registry
