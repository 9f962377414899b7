import Hub.LocalRegistry.Told

namespace hub.local_registry

namespace Tables

/-- The client of that name has not subscribed to the service: it is no listener of any
item of the service, and no other client carries the channel id. -/
structure Unheard (t : Tables) (s : UInt32) (name : Str) (channel_id : UInt32) : Prop where
  carried : ∀ {c}, t.clients.Live c → (t.client c).client_channel_id = channel_id → (t.client c).client_name = name
  unlistened : ∀ {i id c}, (t.item i).service_id = s → (t.item i).service_listeners.lookup id = some c →
    (t.client c).client_name ≠ name

/-- The unit of work does not subscribe the client of that name, and gives the channel id
to no other client. -/
def Spares (t : Tables) (s : UInt32) (name : Str) (channel_id : UInt32) : Act → Prop
  | .bringOnline _ channel _ client_name => channel.id = channel_id → client_name = name
  | .createClient channel _ client_name => channel.id = channel_id → client_name = name
  | .listen reg client entry => reg = true → entry.service_id = s → (t.client client).client_name ≠ name
  | .reply _ _ _ _ msg => msg.IsAnswer
  | _ => True

section Act

variable {t t' : Tables} {s channel_id : UInt32} {name : Str}

namespace Unheard

variable (h : t.Unheard s name channel_id)

include h

theorem of_listeners (hsame : SameClients t t')
    (hlisteners : ∀ {i id c}, (t'.item i).service_id = s → (t'.item i).service_listeners.lookup id = some c →
      (t.client c).client_name ≠ name) : t'.Unheard s name channel_id where
  carried := by
    intro c hlive hchannel
    rw [hsame.client_name]
    exact h.carried (hsame.live.mp hlive) ((hsame.channel_id c).symm.trans hchannel)
  unlistened := by
    intro i id c hid hlookup
    rw [hsame.client_name]
    exact hlisteners hid hlookup

theorem of_items (hsame : SameClients t t') (hid : ∀ i, (t'.item i).service_id = (t.item i).service_id)
    (hlisteners : ∀ i, (t'.item i).service_listeners = (t.item i).service_listeners) :
    t'.Unheard s name channel_id := by
  refine h.of_listeners hsame ?_
  intro i id c hs hlookup
  rw [hid] at hs
  rw [hlisteners] at hlookup
  exact h.unlistened hs hlookup

theorem setStatus (i : ItemPtr) (service_status : UInt32) :
    (t.setStatus i service_status).Unheard s name channel_id := by
  refine h.of_items (.setItem ..) ?_ ?_
  · exact t.items.map_get_set LocalServiceItem.service_id rfl
  · exact t.items.map_get_set LocalServiceItem.service_listeners rfl

theorem not_listener (hwf : t.WellFormed) {id : UInt32} {c : ClientPtr}
    (hlookup : (t.listeners s).lookup id = some c) : (t.client c).client_name ≠ name := by
  obtain ⟨item, hservice, hitem⟩ := lookup_listeners.mp hlookup
  obtain ⟨i, hi, rfl⟩ := Option.map_eq_some_iff.mp hservice
  exact h.unlistened (hwf.services_keyed hi) hitem

theorem setClient {c : ClientPtr} {record : LocalClient} (hname : record.client_name = (t.client c).client_name)
    (hcarried : t.clients.Live c → record.client_channel_id = channel_id → record.client_name = name) :
    (t.setClient c record).Unheard s name channel_id where
  carried := by
    intro other hlive hchannel
    rw [client_setClient] at hchannel ⊢
    split at hchannel
    · rename_i hother
      rw [if_pos hother]
      exact hcarried (hother ▸ hlive) hchannel
    · rename_i hother
      rw [if_neg hother]
      exact h.carried hlive hchannel
  unlistened := by
    intro i id other hid hlookup
    have hsame := t.clients.map_get_set LocalClient.client_name hname other
    exact fun heq => h.unlistened hid hlookup (hsame.symm.trans heq)

theorem createClient (hwf : t.WellFormed) {channel : SocketChannel}
    {client_pid : Int} {client_name : Str} (hspares : channel.id = channel_id → client_name = name) :
    (t.createClient channel client_pid client_name).Unheard s name channel_id where
  carried := by
    intro c hlive hchannel
    by_cases hc : c = t.clients.fresh
    · subst hc
      simp only [Tables.client, Tables.createClient, Heap.get_alloc_fresh] at hchannel ⊢
      exact hspares hchannel
    · simp only [Tables.client, Tables.createClient, Heap.get_alloc_ne _ _ hc] at hchannel ⊢
      exact h.carried (hlive.of_alloc hc) hchannel
  unlistened := by
    intro i id c hid hlookup
    have hc : c ≠ t.clients.fresh := Heap.ne_fresh (hwf.listener_live hlookup)
    simp only [Tables.client, Tables.createClient, Heap.get_alloc_ne _ _ hc]
    exact h.unlistened hid hlookup

theorem registerTables (hwf : t.WellFormed) (client : ClientPtr)
    (entry : StLocalServiceItem) : (t.registerTables client entry).Unheard s name channel_id := by
  refine h.of_listeners (.registerTables ..) ?_
  intro i id c hid hlookup
  have hfiles := t.files_registerTables client entry
  by_cases hi : i = t.registeredItem entry
  · rw [hi, hfiles.item_self] at hid hlookup
    obtain rfl : entry.service_id = s := hid
    exact h.not_listener hwf hlookup
  · rw [hfiles.item_ne hi] at hid hlookup
    exact h.unlistened hid hlookup

theorem unregisterTables (client : ClientPtr) (entry : StLocalServiceItem) :
    (t.unregisterTables client entry).Unheard s name channel_id := by
  have hitems : ∀ i, (t.unregisterTables client entry).item i = t.item i := by
    intro i
    unfold Tables.unregisterTables
    split
    · rfl
    · split <;> rfl
  exact h.of_items (.unregisterTables ..) (fun i => by rw [hitems]) fun i => by rw [hitems]

theorem listenTables (hwf : t.WellFormed) {reg : Bool} {client : ClientPtr} {entry : StLocalServiceItem}
    (hspares : reg = true → entry.service_id = s → (t.client client).client_name ≠ name) :
    (t.listenTables reg client entry).Unheard s name channel_id := by
  refine h.of_listeners (.listenTables ..) ?_
  intro i id c hid hlookup
  have hfiles := t.files_listenTables reg client entry
  by_cases hi : i = t.registeredItem entry
  · rw [hi, hfiles.item_self] at hid hlookup
    obtain rfl : entry.service_id = s := (hwf.listenedItem_id entry).symm.trans hid
    rcases lookup_listenersAfter hlookup with hold | ⟨hreg, rfl⟩
    · exact h.not_listener hwf hold
    · exact hspares hreg rfl
  · rw [hfiles.item_ne hi] at hid hlookup
    exact h.unlistened hid hlookup

theorem perform (hwf : t.WellFormed) {act : Act} (hallows : t.Allows act)
    (hspares : t.Spares s name channel_id act) : (t.perform act).Unheard s name channel_id := by
  cases act with
  | addChannel | removeChannel | reply => exact ⟨h.carried, h.unlistened⟩
  | bringOnline client channel client_pid client_name =>
    exact h.setClient (hwf.names_keyed hallows).symm fun _ => hspares
  | createClient channel client_pid client_name => exact h.createClient hwf hspares
  | takeOffline client => exact h.setClient rfl h.carried
  | dropService i => exact h.setStatus i _
  | register client entry => exact h.registerTables hwf client entry
  | unregister client entry => exact h.unregisterTables client entry
  | listen reg client entry => exact h.listenTables hwf hspares
  | setStatus entry =>
    change (t.setStatusTables entry).Unheard s name channel_id
    unfold Tables.setStatusTables
    split
    · exact h
    · exact h.setStatus _ _

theorem sends_status (hwf : t.WellFormed) {env : Env} {act : Act}
    (hallows : t.Allows act) (hspares : t.Spares s name channel_id act) {msg : Payload}
    (hsends : act.Sends env t channel_id msg) : msg.statusOf s = none := by
  have hreached : ∀ {c}, t.clients.Live c → t.Reaches c channel_id → (t.client c).client_name = name := by
    rintro c hlive ⟨-, channel, hchannel, rfl⟩
    exact h.carried hlive (hwf.channels_keyed hchannel).symm
  rw [Option.eq_none_iff_forall_ne_some]
  intro v hv
  cases hsends with
  | dropped hlistener hreach | unavailable _ _ _ hlistener hreach | statusChanged _ _ _ hlistener hreach =>
    exact h.unlistened (statusOf_eq_some hv).1 hlistener (hreached (hwf.listener_live hlistener) hreach)
  | available htype hlistener hreach =>
    obtain ⟨rfl, -⟩ := statusOf_eq_some hv
    have hlive := hwf.live_of_listens (hwf.listens_of_lookup hlistener)
    exact h.not_listener hwf hlistener (hreached hlive hreach)
  | @caughtUp client entry _ htype hstatus hreach =>
    have hid : entry.service_id = s := (hwf.listenedItem_id entry).symm.trans (statusOf_eq_some hv).1
    exact hspares rfl hid (hreached hallows hreach)
  | listenersTold | listenerChanged => cases hv
  | answered =>
    rw [statusOf_answer hspares] at hv
    cases hv

end Unheard

end Act

end Tables

namespace Event

/-- Nobody subscribes to the service under that name, and the channel id is given to a
client of that name only. -/
def Spares (s : UInt32) (name : Str) (channel_id : UInt32) : Event → Prop
  | .connect channel => channel.id = channel_id → ∀ client_name ∈ (parse_localaddr channel.peeraddr).client_name,
    client_name = name
  | .message _ (.listen_service msg) => msg.reg = true →
    msg.listener_client.map StLocalClientItem.client_name = some name →
      ∀ entry ∈ msg.listen_services, entry.service_id ≠ s
  | _ => True

instance (s : UInt32) (name : Str) (channel_id : UInt32) (event : Event) :
    Decidable (event.Spares s name channel_id) := by
  cases event with
  | connect channel => exact inferInstanceAs (Decidable (_ → _))
  | close => exact .isTrue trivial
  | message channel request =>
    cases request with
    | listen_service msg => exact inferInstanceAs (Decidable (_ → _ → _))
    | _ => exact .isTrue trivial

theorem Spares.acts {s channel_id : UInt32} {name : Str} {event : Event} (h : event.Spares s name channel_id)
    {r : LocalRegistry} (hwf : r.WellFormed) (env : Env) :
    LoopMeets Tables.perform (fun t act => t.Spares s name channel_id act) r.toTables (event.acts env r) := by
  cases event with
  | connect channel =>
    refine acts_meet fun t act hact => ?_
    cases hact with
    | addChannel => trivial
    | bringOnline hctrl hparse | createClient hctrl hparse =>
      intro hid
      refine h hid _ ?_
      rw [hparse]
      rfl
  | close channel_id =>
    refine acts_meet fun t act hact => ?_
    cases hact <;> trivial
  | message channel request =>
    refine (midway_messageActs hwf env channel request).imp fun t act hmem hmid => ?_
    cases messageAct_of_mem hmem with
    | listen hclient hentry =>
      intro hreg hs hname
      obtain ⟨listener_client, hlistener, hlookup⟩ := Option.bind_eq_some_iff.mp hclient
      rw [hmid.same.client_name, hwf.names_keyed hlookup] at hname
      exact h hreg (by rw [hlistener, Option.map_some, hname]) _ hentry hs
    | answer hquery hanswer => exact hanswer
    | register | unregister | setStatus => trivial

end Event

namespace LocalRegistry

/-- The daemon has sent no status of the service over the channel, and will not as long as
nobody subscribes. -/
structure Untold (r : LocalRegistry) (s : UInt32) (name : Str) (channel_id : UInt32) : Prop where
  wellFormed : r.WellFormed
  unheard : r.Unheard s name channel_id
  sent : ∀ frame ∈ r.sent, frame.channel_id = channel_id → frame.payload.statusOf s = none

variable {r r' : LocalRegistry} {s channel_id : UInt32} {name : Str}

theorem init_untold : init.Untold s name channel_id where
  wellFormed := Tables.init_wellFormed
  unheard :=
    { carried := fun hlive => absurd hlive (Nat.not_lt_zero _)
      unlistened := fun _ hlookup => by cases hlookup }
  sent _ hframe := by cases hframe

theorem Untold.step (h : r.Untold s name channel_id) {label : Env × Event}
    (hspares : label.2.Spares s name channel_id) (hstep : r.step label = some r') : r'.Untold s name channel_id := by
  obtain ⟨env, event⟩ := label
  have hmeets := hspares.acts h.wellFormed env
  have hact : ∀ (t : Tables) (act : Act), t.WellFormed → t.Allows act → t.Unheard s name channel_id →
      t.Spares s name channel_id act → (t.perform act).Unheard s name channel_id :=
    fun t act hwf hallows hunheard hspares => hunheard.perform hwf hallows hspares
  have hboth := LoopMeets.and_invariant (fun t => t.WellFormed ∧ t.Unheard s name channel_id)
    (fun t act hinv hcond => ⟨hinv.1.perform hcond.1, hact t act hinv.1 hcond.1 hinv.2 hcond.2⟩)
    ⟨h.wellFormed, h.unheard⟩ ((acts_allowed h.wellFormed env event).and hmeets)
  obtain ⟨frames, hsent, honly, -⟩ := foldl_perform_sent_of_meets env r hboth
  rw [← step_acts hstep] at hsent
  refine ⟨step_wellFormed h.wellFormed hstep, step_invariant_of_meets _ hact h.wellFormed h.unheard hmeets hstep, ?_⟩
  intro frame hframe hchannel
  rw [hsent] at hframe
  rcases List.mem_append.mp hframe with hmem | hmem
  · exact h.sent frame hmem hchannel
  · obtain ⟨t, act, -, ⟨⟨hwf, hunheard⟩, hallows, hspares⟩, hsends⟩ := honly frame hmem
    exact hunheard.sends_status hwf hallows hspares (hchannel ▸ hsends)

theorem daemonRun_untold {labels : List (Env × Event)} (h : daemonRun labels = some r)
    (hspares : ∀ label ∈ labels, label.2.Spares s name channel_id) : r.Untold s name channel_id :=
  run_invariant_of_meets (fun r : LocalRegistry => r.Untold s name channel_id)
    (fun _ _ _ huntold hspares hstep => huntold.step hspares hstep) init_untold
    (Meets.of_forall hspares init) h

end LocalRegistry

end hub.local_registry
