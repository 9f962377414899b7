import Hub.LocalRegistry.OneProvider

namespace hub.local_registry

open UnorderedMap LocalServiceItem

def statusesTo (s channel_id : UInt32) (frames : List Sent) : List UInt32 :=
  frames.filterMap fun frame => if frame.channel_id = channel_id then frame.payload.statusOf s else none

theorem mem_statusesTo {s channel_id : UInt32} {frames : List Sent} {v : UInt32} :
    v ∈ statusesTo s channel_id frames ↔
      ∃ frame ∈ frames, frame.channel_id = channel_id ∧ frame.payload.statusOf s = some v := by
  simp only [statusesTo, List.mem_filterMap, Option.ite_none_right_eq_some]

namespace Tables

def Listens (t : Tables) (L : ClientPtr) (s : UInt32) : Prop :=
  (t.listeners s).lookup (t.client L).client_id = some L

instance (t : Tables) (L : ClientPtr) (s : UInt32) : Decidable (t.Listens L s) :=
  inferInstanceAs (Decidable ((t.listeners s).lookup (t.client L).client_id = some L))

theorem WellFormed.listens_of_lookup {t : Tables} (hwf : t.WellFormed) {s id : UInt32} {L : ClientPtr}
    (hlookup : (t.listeners s).lookup id = some L) : t.Listens L s := by
  rw [Listens, hwf.lookup_listeners_id hlookup]
  exact hlookup

theorem WellFormed.listens_of_item {t : Tables} (hwf : t.WellFormed) {s id : UInt32} {i : ItemPtr} {L : ClientPtr}
    (hservice : t.m_services.lookup s = some i) (hlistener : (t.item i).service_listeners.lookup id = some L) :
    t.Listens L s :=
  hwf.listens_of_lookup (lookup_listeners.mpr ⟨_, service_of_lookup hservice, hlistener⟩)

theorem WellFormed.live_of_listens {t : Tables} (hwf : t.WellFormed) {s : UInt32} {L : ClientPtr}
    (hlistens : t.Listens L s) : t.clients.Live L :=
  hwf.lookup_listeners_live hlistens

/-- What a listener's view of a service rests on: its channel reaches nobody else,
the service is a method, and no client produces it in an item off the table. -/
structure Hearing (t : Tables) (s channel_id : UInt32) (L : ClientPtr) : Prop where
  wellFormed : t.WellFormed
  reaches : t.Reaches L channel_id
  only : ∀ {c}, t.clients.Live c → t.Reaches c channel_id → c = L
  method : ∀ {item}, t.service s = some item → item.service_type = LOCAL_SERVICE_TYPE_METHOD
  produced : ∀ {c j}, (t.client c).client_produce_services.lookup s = some j → t.m_services.lookup s = some j

/-- The unit of work treats the service as a method, and resets no item of the
service but its current one. -/
def TreatsAsMethod (t : Tables) (s : UInt32) : Act → Prop
  | .register _ entry => entry.service_id = s → entry.service_type = LOCAL_SERVICE_TYPE_METHOD
  | .listen _ _ entry => entry.service_id = s → entry.service_type = LOCAL_SERVICE_TYPE_METHOD
  | .dropService i => (t.item i).service_id = s → t.m_services.lookup s = some i
  | .reply _ _ _ _ msg => msg.IsAnswer
  | _ => True

/-- The listener is not removed, and its place is not taken. -/
structure KeepsListener (t : Tables) (s : UInt32) (L : ClientPtr) (act : Act) : Prop where
  stays : t.Listens L s → (t.perform act).Listens L s
  place : (t.perform act).Listens L s ∨
    ((t.perform act).listeners s).lookup ((t.perform act).client L).client_id = none

section Act

variable {t : Tables} {s channel_id : UInt32} {L : ClientPtr}

theorem statusOf_eq_some {msg : StServiceChangeStatus} {v : UInt32}
    (h : (Payload.service_change_status msg).statusOf s = some v) :
    msg.service.service_id = s ∧ msg.service.service_status = v := by
  simpa [Payload.statusOf] using h

theorem statusOf_answer {msg : Payload} (hanswer : msg.IsAnswer) : msg.statusOf s = none := by
  cases msg with
  | service_change_status | listener_change_to_provider => exact hanswer.elim
  | _ => rfl

theorem Hearing.sends_status (h : t.Hearing s channel_id L) {env : Env} {act : Act} (hallows : t.Allows act)
    (hmethod : t.TreatsAsMethod s act) (hkeeps : t.KeepsListener s L act) {msg : Payload}
    (hsends : act.Sends env t channel_id msg) {v : UInt32} (hv : msg.statusOf s = some v) :
    (t.perform act).Listens L s ∧ ∃ item, (t.perform act).service s = some item ∧ item.service_status = v := by
  have hwf := h.wellFormed
  cases hsends with
  | @dropped i id _ listener hlistener hreach =>
    obtain ⟨hid, rfl⟩ := statusOf_eq_some hv
    have hlookup := hmethod hid
    obtain rfl := h.only (hwf.listener_live hlistener) hreach
    have hbefore : t.Listens listener s := hwf.listens_of_item hlookup hlistener
    have hafter : (t.perform (.dropService i)).service s =
        some { t.item i with service_status := LOCAL_SERVICE_STATUS_DEFAULT } := by
      apply (service_resetStatus i s).trans
      rw [if_pos hlookup, service_of_lookup hlookup]
      rfl
    exact ⟨hkeeps.stays hbefore, _, hafter, rfl⟩
  | listenersTold hreach => cases hv
  | @available client entry id _ listener htype hlistener hreach =>
    obtain ⟨rfl, rfl⟩ := statusOf_eq_some hv
    obtain rfl := h.only (hwf.lookup_listeners_live hlistener) hreach
    have hafter := service_registerTables hwf client entry entry.service_id
    rw [if_pos rfl] at hafter
    exact ⟨hkeeps.stays (hwf.listens_of_lookup hlistener), _, hafter, rfl⟩
  | @unavailable client entry j id _ listener hservice hproduce htype hlistener hreach _ =>
    obtain ⟨hid, rfl⟩ := statusOf_eq_some hv
    obtain rfl : entry.service_id = s := (hwf.produce_keyed hproduce).symm.trans hid
    obtain rfl := h.only (hwf.listener_live hlistener) hreach
    have hbefore : t.Listens listener entry.service_id := hwf.listens_of_item (h.produced hproduce) hlistener
    have hgone := service_unregisterTables (t := t) client entry entry.service_id
    rw [if_pos rfl] at hgone
    obtain ⟨item, hafter, _⟩ := lookup_listeners.mp (hkeeps.stays hbefore)
    cases hgone.symm.trans hafter
  | @caughtUp client entry _ htype hstatus hreach =>
    obtain ⟨hid, rfl⟩ := statusOf_eq_some hv
    obtain rfl : entry.service_id = s := (hwf.listenedItem_id entry).symm.trans hid
    have hafter := service_listenTables hwf true client entry entry.service_id
    rw [if_pos rfl] at hafter
    refine ⟨?_, _, hafter, rfl⟩
    obtain rfl := h.only hallows hreach
    rcases hkeeps.place with hlistens | hnone
    · exact hlistens
    · have hid : ((t.listenTables true client entry).client client).client_id = (t.client client).client_id :=
        (SameClients.listenTables t true client entry).id client
      change ((t.listenTables true client entry).listeners entry.service_id).lookup
        ((t.listenTables true client entry).client client).client_id = none at hnone
      rw [hid, listeners_listenTables hwf, if_pos rfl, listenersAfter, if_pos rfl,
        lookup_insertNew_self] at hnone
      cases hnone
  | listenerChanged hprovider hreach => cases hv
  | @statusChanged entry i id _ listener hservice hstatus htype hlistener hreach =>
    obtain ⟨hid, rfl⟩ := statusOf_eq_some hv
    obtain rfl : entry.service_id = s := (hwf.services_keyed hservice).symm.trans hid
    obtain rfl := h.only (hwf.listener_live hlistener) hreach
    have hbefore : t.Listens listener entry.service_id := hwf.listens_of_item hservice hlistener
    have hafter := service_setStatusTables hwf entry entry.service_id
    rw [if_pos rfl, service_of_lookup hservice] at hafter
    exact ⟨hkeeps.stays hbefore, _, hafter, rfl⟩
  | answered =>
    rw [statusOf_answer hmethod] at hv
    cases hv

theorem SameClients.listens_iff {t' : Tables} (hsame : SameClients t t') (hlisteners : t'.listeners s = t.listeners s) :
    t'.Listens L s ↔ t.Listens L s := by
  rw [Listens, Listens, hsame.id L, hlisteners]

def KeepsLists : Act → Prop
  | .dropService _ | .register .. | .setStatus _ | .reply .. => True
  | _ => False

theorem listens_of_kept (hwf : t.WellFormed) {act : Act} (hkeeps : KeepsLists act) :
    (t.perform act).Listens L s ↔ t.Listens L s := by
  cases act with
  | dropService i => exact (SameClients.setItem t i _).listens_iff (listeners_resetStatus i s)
  | register client entry =>
    exact (SameClients.registerTables t client entry).listens_iff (listeners_registerTables hwf client entry s)
  | setStatus entry => exact (SameClients.setStatusTables t entry).listens_iff (listeners_setStatusTables hwf entry s)
  | reply => exact Iff.rfl
  | _ => exact hkeeps.elim

theorem listens_unregister {client : ClientPtr} {entry : StLocalServiceItem} :
    (t.perform (.unregister client entry)).Listens L s ↔ s ≠ entry.service_id ∧ t.Listens L s := by
  have hlisteners : (t.perform (.unregister client entry)).listeners s = _ := listeners_unregisterTables client entry s
  by_cases hs : s = entry.service_id
  · rw [if_pos hs] at hlisteners
    rw [Listens, hlisteners]
    exact iff_of_false (by simp) fun h => h.1 hs
  · rw [if_neg hs] at hlisteners
    exact ((SameClients.unregisterTables t client entry).listens_iff hlisteners).trans (and_iff_right hs).symm

theorem listens_listenTables (hwf : t.WellFormed) {reg : Bool} {client : ClientPtr} {entry : StLocalServiceItem}
    (hafter : (t.listenTables reg client entry).Listens L s) :
    t.Listens L s ∨ (reg = true ∧ client = L ∧ s = entry.service_id) := by
  rw [Listens, (SameClients.listenTables t reg client entry).id L, listeners_listenTables hwf] at hafter
  split at hafter
  · rename_i hs
    subst hs
    obtain hold | ⟨hreg, hclient⟩ := lookup_listenersAfter hafter
    · exact .inl hold
    · exact .inr ⟨hreg, hclient.symm, rfl⟩
  · exact .inl hafter

theorem Hearing.silent (h : t.Hearing s channel_id L) (env : Env) {act : Act} (hservices : act.OnServices)
    (hmethod : t.TreatsAsMethod s act) (hafter : (t.perform act).Listens L s) :
    (∃ msg v, act.Sends env t channel_id msg ∧ msg.statusOf s = some v) ∨
    (t.Listens L s ∧ ((t.perform act).service s).map service_status =
      (t.service s).map service_status) ∨
    (¬ t.Listens L s ∧ ((t.perform act).service s).map service_status ≠
      some LOCAL_SERVICE_STATUS_AVAILABLE) := by
  have hwf := h.wellFormed
  cases act with
  | dropService i =>
    have hbefore : t.Listens L s := (listens_of_kept hwf (by trivial)).mp hafter
    by_cases hlookup : t.m_services.lookup s = some i
    · obtain ⟨item, hservice, hitem⟩ := lookup_listeners.mp hbefore
      cases (service_of_lookup hlookup).symm.trans hservice
      exact .inl ⟨_, _, .dropped hitem h.reaches, if_pos (hwf.services_keyed hlookup)⟩
    · refine .inr (.inl ⟨hbefore, ?_⟩)
      have hservice : (t.perform (.dropService i)).service s = t.service s :=
        (service_resetStatus i s).trans (if_neg hlookup)
      rw [hservice]
  | register client entry =>
    have hbefore : t.Listens L s := (listens_of_kept hwf (by trivial)).mp hafter
    by_cases hs : s = entry.service_id
    · subst hs
      exact .inl ⟨_, _, .available (hmethod rfl) hbefore h.reaches, if_pos rfl⟩
    · refine .inr (.inl ⟨hbefore, ?_⟩)
      have hservice : (t.perform (.register client entry)).service s = t.service s :=
        (service_registerTables hwf client entry s).trans (if_neg hs)
      rw [hservice]
  | unregister client entry =>
    obtain ⟨hs, hbefore⟩ := listens_unregister.mp hafter
    refine .inr (.inl ⟨hbefore, ?_⟩)
    have hservice : (t.perform (.unregister client entry)).service s = t.service s :=
      (service_unregisterTables client entry s).trans (if_neg hs)
    rw [hservice]
  | listen reg client entry =>
    have hservice : (t.perform (.listen reg client entry)).service s = _ :=
      service_listenTables hwf reg client entry s
    by_cases hbefore : t.Listens L s
    · refine .inr (.inl ⟨hbefore, ?_⟩)
      rw [hservice]
      split
      · rename_i hs
        obtain ⟨item, hold, _⟩ := lookup_listeners.mp hbefore
        rw [hs] at hold
        rw [hs, hold, listenedItem, hold]
        rfl
      · rfl
    · rcases listens_listenTables hwf hafter with hold | ⟨rfl, rfl, rfl⟩
      · exact absurd hold hbefore
      · by_cases hstatus : (t.listenedItem entry).service_status = LOCAL_SERVICE_STATUS_AVAILABLE
        · have htype : (t.listenedItem entry).service_type = LOCAL_SERVICE_TYPE_METHOD := by
            unfold listenedItem
            cases hold : t.service entry.service_id with
            | none => exact hmethod rfl
            | some item => exact h.method hold
          exact .inl ⟨_, _, .caughtUp htype hstatus h.reaches, if_pos (hwf.listenedItem_id entry)⟩
        · refine .inr (.inr ⟨hbefore, ?_⟩)
          rw [hservice, if_pos rfl]
          exact fun heq => hstatus (Option.some.inj heq)
  | setStatus entry =>
    have hbefore : t.Listens L s := (listens_of_kept hwf (by trivial)).mp hafter
    have hservice : (t.perform (.setStatus entry)).service s = _ := service_setStatusTables hwf entry s
    by_cases hs : s = entry.service_id
    · obtain ⟨item, hold, hitem⟩ := lookup_listeners.mp hbefore
      obtain ⟨i, hlookup, rfl⟩ := Option.map_eq_some_iff.mp hold
      by_cases hstatus : (t.item i).service_status = entry.service_status
      · refine .inr (.inl ⟨hbefore, ?_⟩)
        rw [hservice, if_pos hs, hold]
        exact congrArg some hstatus.symm
      · subst hs
        exact .inl ⟨_, _, .statusChanged hlookup hstatus (h.method hold) hitem h.reaches,
          if_pos (hwf.services_keyed hlookup)⟩
    · refine .inr (.inl ⟨hbefore, ?_⟩)
      rw [hservice, if_neg hs]
  | reply => exact .inr (.inl ⟨hafter, rfl⟩)
  | _ => exact hservices.elim

end Act

/-- All that a unit of work has to meet so that the listener stays informed. -/
structure Tells (s channel_id : UInt32) (L : ClientPtr) (t : Tables) (act : Act) : Prop where
  hearing : t.Hearing s channel_id L
  allows : t.Allows act
  services : act.OnServices
  method : t.TreatsAsMethod s act
  keeps : t.KeepsListener s L act

end Tables

namespace LocalRegistry

def heard (r : LocalRegistry) (since : Nat) (s channel_id : UInt32) : List UInt32 :=
  statusesTo s channel_id (r.sent.drop since)

/-- What a listener knows of a service: the last status it was told is the current
one, and untold it need not fear to miss an available service. Nothing was told
to it before it became a listener. -/
structure Told (r : LocalRegistry) (since : Nat) (s channel_id : UInt32) (L : ClientPtr) : Prop where
  since_le : since ≤ r.sent.length
  last : r.Listens L s → ∀ {item v}, r.service s = some item →
    (r.heard since s channel_id).getLast? = some v → v = item.service_status
  untold : r.Listens L s → ∀ {item}, r.service s = some item → r.heard since s channel_id = [] →
    item.service_status ≠ LOCAL_SERVICE_STATUS_AVAILABLE
  before : ¬ r.Listens L s → r.heard since s channel_id = []

section Told

variable {r r' : LocalRegistry} {since : Nat} {s channel_id : UInt32} {L : ClientPtr} {env : Env}

section

variable (h : r.Told since s channel_id L)

include h

theorem Told.congr (hsent : r'.sent = r.sent) (hservice : r'.service s = r.service s)
    (hid : (r'.client L).client_id = (r.client L).client_id) : r'.Told since s channel_id L := by
  have hlistens : r'.Listens L s ↔ r.Listens L s := by
    rw [Tables.Listens, Tables.Listens, hid, Tables.listeners, hservice]
    rfl
  have hheard : r'.heard since s channel_id = r.heard since s channel_id := by
    rw [heard, hsent]
    rfl
  constructor
  case since_le => exact hsent ▸ h.since_le
  case last =>
    intro hL item v hitem hlast
    exact h.last (hlistens.mp hL) (hservice ▸ hitem) (hheard ▸ hlast)
  case untold =>
    intro hL item hitem hnil
    exact h.untold (hlistens.mp hL) (hservice ▸ hitem) (hheard ▸ hnil)
  case before =>
    intro hL
    rw [hheard]
    exact h.before fun hold => hL (hlistens.mpr hold)

theorem Told.perform (hreliable : env.transport.Reliable) {act : Act}
    (htells : r.Tells s channel_id L act) : (r.perform env act).Told since s channel_id L := by
  obtain ⟨frames, hsent, honly, hreach⟩ := perform_writes env r act
  have htables := perform_toTables env r act
  have hheard : (r.perform env act).heard since s channel_id =
      r.heard since s channel_id ++ statusesTo s channel_id frames := by
    rw [heard, hsent, List.drop_append_of_le_length h.since_le, statusesTo, List.filterMap_append]
    rfl
  have hnews : ∀ v ∈ statusesTo s channel_id frames, (r.toTables.perform act).Listens L s ∧
      ∃ item, (r.toTables.perform act).service s = some item ∧ item.service_status = v := by
    intro v hv
    obtain ⟨frame, hframe, hchannel, hstatus⟩ := mem_statusesTo.mp hv
    have hsends := honly frame hframe
    rw [hchannel] at hsends
    exact htells.hearing.sends_status htells.allows htells.method htells.keeps hsends hstatus
  have hsilent : statusesTo s channel_id frames = [] → ∀ msg v, act.Sends env r.toTables channel_id msg →
      msg.statusOf s ≠ some v := by
    intro hnil msg v hsends hstatus
    obtain ⟨frame, hframe, hchannel, rfl⟩ := hreach hreliable channel_id msg hsends
    have hmem : v ∈ statusesTo s channel_id frames := mem_statusesTo.mpr ⟨frame, hframe, hchannel, hstatus⟩
    rw [hnil] at hmem
    cases hmem
  have hlength : since ≤ (r.perform env act).sent.length := by
    rw [hsent, List.length_append]
    exact Nat.le_add_right_of_le h.since_le
  by_cases hnil : statusesTo s channel_id frames = []
  · have hquiet := hsilent hnil
    rw [hnil, List.append_nil] at hheard
    have hcases := fun hL => htells.hearing.silent env htells.services htells.method (L := L) hL
    refine ⟨hlength, ?_, ?_, ?_⟩
    · intro hL item v hitem hlast
      rw [htables] at hL hitem
      rw [hheard] at hlast
      rcases hcases hL with ⟨msg, v', hsends, hstatus⟩ | ⟨hbefore, hsame⟩ | ⟨hbefore, _⟩
      · exact absurd hstatus (hquiet msg v' hsends)
      · rw [hitem] at hsame
        obtain ⟨old, hold, hstatus⟩ := Option.map_eq_some_iff.mp hsame.symm
        rw [← hstatus]
        exact h.last hbefore hold hlast
      · rw [h.before hbefore] at hlast
        cases hlast
    · intro hL item hitem hempty
      rw [htables] at hL hitem
      rw [hheard] at hempty
      rcases hcases hL with ⟨msg, v', hsends, hstatus⟩ | ⟨hbefore, hsame⟩ | ⟨_, hunavailable⟩
      · exact absurd hstatus (hquiet msg v' hsends)
      · rw [hitem] at hsame
        obtain ⟨old, hold, hstatus⟩ := Option.map_eq_some_iff.mp hsame.symm
        rw [← hstatus]
        exact h.untold hbefore hold hempty
      · rw [hitem] at hunavailable
        exact fun heq => hunavailable (congrArg some heq)
    · intro hL
      rw [htables] at hL
      rw [hheard]
      exact h.before fun hbefore => hL (htells.keeps.stays hbefore)
  · obtain ⟨v, hlast⟩ := Option.isSome_iff_exists.mp (List.getLast?_isSome.mpr hnil)
    obtain ⟨hlistens, current, hcurrent, hstatus⟩ := hnews v (List.mem_of_getLast? hlast)
    have hheard_last : ((r.perform env act).heard since s channel_id).getLast? = some v := by
      rw [hheard, List.getLast?_append, hlast]
      rfl
    rw [← htables] at hlistens hcurrent
    refine ⟨hlength, ?_, ?_, fun hL => absurd hlistens hL⟩
    · intro _ item v' hitem hlast'
      cases hcurrent.symm.trans hitem
      cases hheard_last.symm.trans hlast'
      exact hstatus.symm
    · intro _ item _ hempty
      rw [hempty] at hheard_last
      cases hheard_last

theorem Told.foldl (hreliable : env.transport.Reliable) {acts : List Act}
    (htells : LoopMeets Tables.perform (Tables.Tells s channel_id L) r.toTables acts) :
    (acts.foldl (LocalRegistry.perform env) r).Told since s channel_id L := by
  induction acts generalizing r with
  | nil => exact h
  | cons act acts ih =>
    apply ih (h.perform hreliable htells.1)
    rw [perform_toTables]
    exact htells.2

end

end Told

end LocalRegistry

end hub.local_registry
