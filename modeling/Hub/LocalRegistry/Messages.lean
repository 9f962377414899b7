import Hub.LocalRegistry.Directory

namespace hub.local_registry

open Act

def Payload.statusOf (s : UInt32) : Payload → Option UInt32
  | .service_change_status change_msg =>
    if change_msg.service.service_id = s then some change_msg.service.service_status else none
  | _ => none

/-- The message specification of the daemon: what each unit of work writes, and
to which channels, when it starts from the tables `t`. -/
inductive Act.Sends (env : Env) (t : Tables) : Act → UInt32 → Payload → Prop where
  | dropped {i : ItemPtr} {id channel_id : UInt32} {listener : ClientPtr}
      (hlistener : (t.item i).service_listeners.lookup id = some listener) (hreach : t.Reaches listener channel_id) :
      Sends env t (.dropService i) channel_id (.service_change_status
        { service :=
            { service_id := (t.item i).service_id
              service_type := (t.item i).service_type
              service_status := LOCAL_SERVICE_STATUS_DEFAULT }
          provider_client := none })
  | listenersTold {client : ClientPtr} {entry : StLocalServiceItem} {channel_id : UInt32}
      (hreach : t.Reaches client channel_id) :
      Sends env t (.register client entry) channel_id (.listener_change_to_provider
        { service_id := entry.service_id
          listener_clients := (env.order.visit (t.listeners entry.service_id)).map fun listener =>
            t.clientItem listener.2
          reg := true })
  | available {client : ClientPtr} {entry : StLocalServiceItem} {id channel_id : UInt32} {listener : ClientPtr}
      (htype : entry.service_type = LOCAL_SERVICE_TYPE_METHOD)
      (hlistener : (t.listeners entry.service_id).lookup id = some listener)
      (hreach : t.Reaches listener channel_id) :
      Sends env t (.register client entry) channel_id (.service_change_status
        { service :=
            { service_id := entry.service_id
              service_type := entry.service_type
              service_status := LOCAL_SERVICE_STATUS_AVAILABLE }
          provider_client := some
            { t.clientItem client with
              client_name := (t.client listener).client_name.strncpy LOCAL_REGISTRY_CLIENT_NAME_MAX } })
  | unavailable {client : ClientPtr} {entry : StLocalServiceItem} {j : ItemPtr} {id channel_id : UInt32}
      {listener : ClientPtr} (hservice : (t.m_services.lookup entry.service_id).isSome)
      (hproduce : (t.client client).client_produce_services.lookup entry.service_id = some j)
      (htype : (t.item j).service_type = LOCAL_SERVICE_TYPE_METHOD)
      (hlistener : (t.item j).service_listeners.lookup id = some listener) (hreach : t.Reaches listener channel_id)
      (hreads : env.freedEntryReads = true) :
      Sends env t (.unregister client entry) channel_id (.service_change_status
        { service :=
            { service_id := (t.item j).service_id
              service_type := (t.item j).service_type
              service_status := LOCAL_SERVICE_STATUS_UNAVAILABLE }
          provider_client := none })
  | caughtUp {client : ClientPtr} {entry : StLocalServiceItem} {channel_id : UInt32}
      (htype : (t.listenedItem entry).service_type = LOCAL_SERVICE_TYPE_METHOD)
      (hstatus : (t.listenedItem entry).service_status = LOCAL_SERVICE_STATUS_AVAILABLE)
      (hreach : t.Reaches client channel_id) :
      Sends env t (.listen true client entry) channel_id (.service_change_status
        { service :=
            { service_id := (t.listenedItem entry).service_id
              service_type := (t.listenedItem entry).service_type
              service_status := (t.listenedItem entry).service_status }
          provider_client := (t.listenedItem entry).service_provider.map t.clientItem })
  | listenerChanged {reg : Bool} {client provider : ClientPtr} {entry : StLocalServiceItem} {channel_id : UInt32}
      (hprovider : (t.listenedItem entry).service_provider = some provider)
      (hreach : t.Reaches provider channel_id) :
      Sends env t (.listen reg client entry) channel_id (.listener_change_to_provider
        { service_id := (t.listenedItem entry).service_id
          listener_clients := [t.clientItem client]
          reg := reg })
  | statusChanged {entry : StLocalServiceItem} {i : ItemPtr} {id channel_id : UInt32} {listener : ClientPtr}
      (hservice : t.m_services.lookup entry.service_id = some i)
      (hstatus : (t.item i).service_status ≠ entry.service_status)
      (htype : (t.item i).service_type = LOCAL_SERVICE_TYPE_METHOD)
      (hlistener : (t.item i).service_listeners.lookup id = some listener) (hreach : t.Reaches listener channel_id) :
      Sends env t (.setStatus entry) channel_id (.service_change_status
        { service :=
            { service_id := (t.item i).service_id
              service_type := (t.item i).service_type
              service_status := entry.service_status }
          provider_client := (t.item i).service_provider.map t.clientItem })
  | answered {channel : SocketChannel} {service_id msg_seqid msg_type : UInt32} {msg : Payload} :
      Sends env t (.reply (some channel) service_id msg_seqid msg_type msg) channel.id msg

theorem Act.sends_dropService_iff {env : Env} {t : Tables} {i : ItemPtr} {channel_id : UInt32} {msg : Payload} :
    (dropService i).Sends env t channel_id msg ↔
      ∃ id listener, (t.item i).service_listeners.lookup id = some listener ∧ t.Reaches listener channel_id ∧
        msg = .service_change_status
          { service :=
              { service_id := (t.item i).service_id
                service_type := (t.item i).service_type
                service_status := LOCAL_SERVICE_STATUS_DEFAULT }
            provider_client := none } := by
  constructor
  · intro hsends
    cases hsends with
    | dropped hlistener hreach => exact ⟨_, _, hlistener, hreach, rfl⟩
  · rintro ⟨id, listener, hlistener, hreach, rfl⟩
    exact .dropped hlistener hreach

namespace LocalRegistry

variable (env : Env) (r : LocalRegistry)

theorem announce_visit_writes (listeners : UnorderedMap UInt32 ClientPtr)
    (change_msg : ClientPtr → StServiceChangeStatus) :
    Writes env r (announce env r (env.order.visit listeners) change_msg) fun channel_id msg => ∃ id listener,
      listeners.lookup id = some listener ∧ r.Reaches listener channel_id ∧
      msg = .service_change_status (change_msg listener) := by
  apply (announce_writes env r (env.order.visit listeners) change_msg).congr
  intro channel_id msg
  constructor
  · rintro ⟨⟨id, listener⟩, hvisit, hrest⟩
    exact ⟨id, listener, env.order.mem_visit.mp hvisit, hrest⟩
  · rintro ⟨id, listener, hlookup, hrest⟩
    exact ⟨⟨id, listener⟩, env.order.mem_visit.mpr hlookup, hrest⟩

theorem announce_method_writes (service_type : UInt32) (listeners : UnorderedMap UInt32 ClientPtr)
    (change_msg : ClientPtr → StServiceChangeStatus) :
    Writes env r
      (if service_type = LOCAL_SERVICE_TYPE_METHOD then announce env r (env.order.visit listeners) change_msg else r)
      fun channel_id msg => service_type = LOCAL_SERVICE_TYPE_METHOD ∧ ∃ id listener,
        listeners.lookup id = some listener ∧ r.Reaches listener channel_id ∧
        msg = .service_change_status (change_msg listener) := by
  by_cases htype : service_type = LOCAL_SERVICE_TYPE_METHOD
  · rw [if_pos htype]
    exact (announce_visit_writes env r listeners change_msg).congr fun _ _ => (and_iff_right htype).symm
  · rw [if_neg htype]
    exact .none rfl fun _ _ h => htype h.1

theorem drop_service_writes (i : ItemPtr) :
    Writes env r (r.drop_service env i) ((dropService i).Sends env r.toTables) := by
  have hdrop : Writes env r (r.drop_service env i) _ :=
    (announce_visit_writes env r (r.item i).service_listeners _).of_sent rfl rfl
  exact hdrop.congr fun _ _ => sends_dropService_iff.symm

variable (client : ClientPtr) (entry : StLocalServiceItem)

theorem register_one_writes :
    Writes env r (r.register_one env client entry) ((register client entry).Sends env r.toTables) := by
  let r1 := r.withTables (r.registerTables client entry)
  have hsame : Tables.SameClients r.toTables r1.toTables := .registerTables r.toTables client entry
  have hitem : r1.item (r.registeredItem entry) = _ := (r.files_offerItem client entry).item_self
  have hprovider : Writes env r1 (r1.tell_provider env client (r.registeredItem entry)) _ := notify_writes ..
  have hmethod : Writes env _ (tell_available env (r1.tell_provider env client (r.registeredItem entry)) client
    (r.registeredItem entry)) _ := announce_method_writes ..
  have hboth : Writes env r (r.register_one env client entry) _ := (hprovider.trans hmethod).of_sent rfl rfl
  apply hboth.congr
  intro channel_id msg
  simp only [tell_provider_toTables, hitem, hsame.reaches, hsame.clientItem, hsame.client_name]
  constructor
  · rintro (⟨hreach, rfl⟩ | ⟨htype, id, listener, hlistener, hreach, rfl⟩)
    · exact .listenersTold hreach
    · exact .available htype hlistener hreach
  · intro hsends
    cases hsends with
    | listenersTold hreach => exact .inl ⟨hreach, rfl⟩
    | available htype hlistener hreach => exact .inr ⟨htype, _, _, hlistener, hreach, rfl⟩

theorem unregister_one_writes :
    Writes env r (r.unregister_one env client entry) ((unregister client entry).Sends env r.toTables) := by
  cases hservice : r.m_services.lookup entry.service_id with
  | none =>
    have hstay : r.unregister_one env client entry = r := by simp [unregister_one, hservice]
    rw [hstay]
    refine .none rfl fun channel_id msg hsends => ?_
    cases hsends with
    | unavailable hsome =>
      rw [hservice] at hsome
      cases hsome
  | some i =>
    let r1 := r.withTables (r.eraseService entry.service_id)
    cases hproduce : (r.client client).client_produce_services.lookup entry.service_id with
    | none =>
      have herase : r.unregister_one env client entry = r1 := by
        have hproduce' : (r1.client client).client_produce_services.lookup entry.service_id = none := hproduce
        simp only [unregister_one, hservice]
        rw [hproduce']
      rw [herase]
      refine .none rfl fun channel_id msg hsends => ?_
      cases hsends with
      | unavailable _ hsome => cases hproduce.symm.trans hsome
    | some j =>
      let r2 := r1.withTables (r1.eraseProduce client entry.service_id)
      have herase : Tables.SameClients r.toTables r1.toTables := ⟨rfl, rfl, fun _ => rfl, rfl, rfl⟩
      have hsame : Tables.SameClients r.toTables r2.toTables := herase.trans (.setProduce ..)
      have hitem : r2.item j = r.item j := rfl
      have htell : r.unregister_one env client entry =
          if env.freedEntryReads then r2.tell_unavailable env j else r2 := by
        have hproduce' : (r1.client client).client_produce_services.lookup entry.service_id = some j := hproduce
        simp only [unregister_one, hservice]
        rw [hproduce']
      rw [htell]
      cases hreads : env.freedEntryReads with
      | false =>
        refine .none rfl fun channel_id msg hsends => ?_
        cases hsends with
        | unavailable _ _ _ _ _ hreads' => cases hreads.symm.trans hreads'
      | true =>
        have hmethod : Writes env r2 (r2.tell_unavailable env j) _ := announce_method_writes env r2 _ _ _
        have hwrites : Writes env r (r2.tell_unavailable env j) _ := hmethod.of_sent rfl rfl
        apply hwrites.congr
        intro channel_id msg
        simp only [hitem, hsame.reaches]
        constructor
        · rintro ⟨htype, id, listener, hlistener, hreach, rfl⟩
          exact .unavailable (by simp [hservice]) hproduce htype hlistener hreach hreads
        · intro hsends
          cases hsends with
          | unavailable _ hproduce' htype hlistener hreach =>
            cases hproduce.symm.trans hproduce'
            exact ⟨htype, _, _, hlistener, hreach, rfl⟩

theorem set_status_one_writes :
    Writes env r (r.set_status_one env entry) ((setStatus entry).Sends env r.toTables) := by
  cases hservice : r.m_services.lookup entry.service_id with
  | none =>
    have hstay : r.set_status_one env entry = r := by simp [set_status_one, hservice]
    rw [hstay]
    refine .none rfl fun channel_id msg hsends => ?_
    cases hsends with
    | statusChanged hservice' => cases hservice.symm.trans hservice'
  | some i =>
    by_cases hstatus : (r.item i).service_status = entry.service_status
    · have hstay : r.set_status_one env entry = r := by simp [set_status_one, hservice, hstatus]
      rw [hstay]
      refine .none rfl fun channel_id msg hsends => ?_
      cases hsends with
      | statusChanged hservice' hne =>
        cases hservice.symm.trans hservice'
        exact hne hstatus
    · let r1 := r.withTables (r.setStatus i entry.service_status)
      have hitem : r1.item i = { r.item i with service_status := entry.service_status } :=
        Tables.item_setItem_self ..
      have hsame : Tables.SameClients r.toTables r1.toTables := .setItem ..
      have htell : r.set_status_one env entry = r1.tell_status env i := by
        simp [set_status_one, hservice, hstatus, r1]
      have hmethod : Writes env r1 (r1.tell_status env i) _ := announce_method_writes env r1 _ _ _
      rw [htell]
      have hwrites : Writes env r (r1.tell_status env i) _ := hmethod.of_sent rfl rfl
      apply hwrites.congr
      intro channel_id msg
      have hclientItem : r1.toTables.clientItem = r.toTables.clientItem := funext hsame.clientItem
      simp only [changeMsg, Tables.serviceItem, hitem, hsame.reaches, hclientItem]
      constructor
      · rintro ⟨htype, id, listener, hlistener, hreach, rfl⟩
        exact .statusChanged hservice hstatus htype hlistener hreach
      · intro hsends
        cases hsends with
        | statusChanged hservice' hne htype hlistener hreach =>
          cases hservice.symm.trans hservice'
          exact ⟨htype, _, _, hlistener, hreach, rfl⟩

theorem tell_listener_writes (i : ItemPtr) :
    Writes env r (r.tell_listener env client i) fun channel_id msg =>
      (r.item i).service_type = LOCAL_SERVICE_TYPE_METHOD ∧
        (r.item i).service_status = LOCAL_SERVICE_STATUS_AVAILABLE ∧ r.Reaches client channel_id ∧
        msg = .service_change_status (r.changeMsg i) := by
  unfold tell_listener
  split
  · rename_i hmethod
    apply (notify_writes env r client _ _).congr
    intro channel_id msg
    exact ⟨fun hreach => ⟨hmethod.1, hmethod.2, hreach⟩, fun h => h.2.2⟩
  · rename_i hmethod
    exact .none rfl fun _ _ h => hmethod ⟨h.1, h.2.1⟩

theorem tell_change_writes (reg : Bool) (client : ClientPtr) (i : ItemPtr) :
    Writes env r (r.tell_change env reg client i) fun channel_id msg =>
      ∃ provider, (r.item i).service_provider = some provider ∧ r.Reaches provider channel_id ∧
        msg = .listener_change_to_provider
          { service_id := (r.item i).service_id, listener_clients := [r.clientItem client], reg := reg } := by
  unfold tell_change
  cases hprovider : (r.item i).service_provider with
  | none =>
    refine .none rfl ?_
    rintro _ _ ⟨_, hsome, _⟩
    cases hsome
  | some provider =>
    apply (notify_writes env r provider _ _).congr
    intro channel_id msg
    simp

theorem listen_one_writes (reg : Bool) (client : ClientPtr) (entry : StLocalServiceItem) :
    Writes env r (r.listen_one env reg client entry) ((listen reg client entry).Sends env r.toTables) := by
  let r1 := r.withTables (r.listenTables reg client entry)
  have hsame : Tables.SameClients r.toTables r1.toTables := .listenTables r.toTables reg client entry
  have hclientItem : r1.toTables.clientItem = r.toTables.clientItem := funext hsame.clientItem
  have hitem : r1.item (r.registeredItem entry) = _ := (r.files_listenTables reg client entry).item_self
  cases reg with
  | true =>
    have hlistener := tell_listener_writes env r1 client (r.registeredItem entry)
    have hchange := tell_change_writes env (r1.tell_listener env client (r.registeredItem entry)) true client
      (r.registeredItem entry)
    have hboth : Writes env r (r.listen_one env true client entry) _ :=
      (hlistener.trans hchange).of_sent rfl rfl
    apply hboth.congr
    intro channel_id msg
    simp only [tell_listener_toTables, changeMsg, Tables.serviceItem, hitem, hsame.reaches, hclientItem]
    constructor
    · rintro (⟨htype, hstatus, hreach, rfl⟩ | ⟨provider, hprovider, hreach, rfl⟩)
      · exact .caughtUp htype hstatus hreach
      · exact .listenerChanged hprovider hreach
    · intro hsends
      cases hsends with
      | caughtUp htype hstatus hreach => exact .inl ⟨htype, hstatus, hreach, rfl⟩
      | listenerChanged hprovider hreach => exact .inr ⟨_, hprovider, hreach, rfl⟩
  | false =>
    have hunfold : r.listen_one env false client entry = r1.tell_change env false client (r.registeredItem entry) := by
      by_cases hmethod : ((r.ensureItem entry).item (r.registeredItem entry)).service_type = LOCAL_SERVICE_TYPE_METHOD
      · simp [listen_one, r1, Tables.listenTables, hmethod, withTables]
      · simp [listen_one, r1, Tables.listenTables, hmethod, withTables]
    have hchange : Writes env r (r1.tell_change env false client (r.registeredItem entry)) _ :=
      (tell_change_writes env r1 false client (r.registeredItem entry)).of_sent rfl rfl
    rw [hunfold]
    apply hchange.congr
    intro channel_id msg
    simp only [hitem, hsame.reaches, hclientItem]
    constructor
    · rintro ⟨provider, hprovider, hreach, rfl⟩
      exact .listenerChanged hprovider hreach
    · intro hsends
      cases hsends with
      | listenerChanged hprovider hreach => exact ⟨_, hprovider, hreach, rfl⟩

theorem perform_writes (act : Act) : Writes env r (r.perform env act) (act.Sends env r.toTables) := by
  cases act with
  | dropService i => exact drop_service_writes env r i
  | register client entry => exact register_one_writes env r client entry
  | unregister client entry => exact unregister_one_writes env r client entry
  | listen reg client entry => exact listen_one_writes env r reg client entry
  | setStatus entry => exact set_status_one_writes env r entry
  | reply client_channel service_id msg_seqid msg_type msg =>
    apply (send_msg_to_client_writes env r client_channel service_id msg_seqid msg_type msg).congr
    intro channel_id m
    constructor
    · rintro ⟨rfl, channel, rfl, rfl⟩
      exact .answered
    · intro hsends
      cases hsends with
      | answered => exact ⟨rfl, _, rfl, rfl⟩
  | _ =>
    refine .none rfl fun channel_id msg hsends => ?_
    cases hsends

variable {acts : List Act}

/-- The frames of a loop over units of work that meet `cond`: each is sent by a unit from
such tables, and over a reliable transport what a unit sends from any of them is written. -/
theorem foldl_perform_sent_of_meets {cond : Tables → Act → Prop}
    (hmeets : LoopMeets Tables.perform cond r.toTables acts) :
    ∃ frames, (acts.foldl (perform env) r).sent = r.sent ++ frames ∧
      (∀ frame ∈ frames, ∃ t act, act ∈ acts ∧ cond t act ∧ act.Sends env t frame.channel_id frame.payload) ∧
      (env.transport.Reliable → ∀ act ∈ acts, ∀ Q : UInt32 → Payload → Prop,
        (∀ t, cond t act → ∃ id msg, act.Sends env t id msg ∧ Q id msg) →
        ∃ frame ∈ frames, Q frame.channel_id frame.payload) := by
  induction acts generalizing r with
  | nil => exact ⟨[], by simp, by simp, by simp⟩
  | cons act acts ih =>
    obtain ⟨hcond, hmeets⟩ := hmeets
    obtain ⟨first, hfirst, honly, hreach⟩ := perform_writes env r act
    obtain ⟨rest, hrest, honly', hreach'⟩ := ih (r.perform env act) (by rwa [perform_toTables])
    refine ⟨first ++ rest, by rw [List.foldl_cons, hrest, hfirst, List.append_assoc], ?_, ?_⟩
    · intro frame hframe
      rcases List.mem_append.mp hframe with hmem | hmem
      · exact ⟨r.toTables, act, List.mem_cons_self, hcond, honly frame hmem⟩
      · obtain ⟨t, other, hother, hsends⟩ := honly' frame hmem
        exact ⟨t, other, List.mem_cons_of_mem _ hother, hsends⟩
    · intro hreliable other hother Q hsends
      rcases List.mem_cons.mp hother with rfl | hmem
      · obtain ⟨id, msg, hmsg, hQ⟩ := hsends _ hcond
        obtain ⟨frame, hframe, rfl, rfl⟩ := hreach hreliable id msg hmsg
        exact ⟨frame, List.mem_append_left _ hframe, hQ⟩
      · obtain ⟨frame, hframe, hQ⟩ := hreach' hreliable other hmem Q hsends
        exact ⟨frame, List.mem_append_right _ hframe, hQ⟩

theorem foldl_perform_sent (Inv : Tables → Prop) (hstep : ∀ t act, act ∈ acts → Inv t → Inv (t.perform act))
    (hinit : Inv r.toTables) :
    ∃ frames, (acts.foldl (perform env) r).sent = r.sent ++ frames ∧
      (∀ frame ∈ frames, ∃ t act, act ∈ acts ∧ Inv t ∧ act.Sends env t frame.channel_id frame.payload) ∧
      (env.transport.Reliable → ∀ act ∈ acts, ∀ Q : UInt32 → Payload → Prop,
        (∀ t, Inv t → ∃ id msg, act.Sends env t id msg ∧ Q id msg) →
        ∃ frame ∈ frames, Q frame.channel_id frame.payload) :=
  foldl_perform_sent_of_meets env r (.of_invariant Inv (fun _ _ _ hinv => hinv) hstep hinit)

variable {env r}

end LocalRegistry

end hub.local_registry
