import Hub.LocalRegistry.WellFormed

namespace hub.local_registry

open Event LoopMeets

namespace Tables

structure SameClients (t t' : Tables) : Prop where
  names : t'.m_clients_by_name = t.m_clients_by_name
  next : t'.clients.next = t.clients.next
  records : ∀ c, (t'.client c).identity = (t.client c).identity
  next_id : t'.m_next_client_id = t.m_next_client_id
  server : t'.m_server = t.m_server

section SameClients

variable {t t' t'' : Tables}

theorem SameClients.refl (t : Tables) : SameClients t t :=
  ⟨rfl, rfl, fun _ => rfl, rfl, rfl⟩

namespace SameClients

variable (h : SameClients t t')

variable (c : ClientPtr)

include h

theorem trans (h' : SameClients t' t'') : SameClients t t'' where
  names := h'.names.trans h.names
  next := h'.next.trans h.next
  records := fun c => (h'.records c).trans (h.records c)
  next_id := h'.next_id.trans h.next_id
  server := h'.server.trans h.server

theorem status : (t'.client c).client_status = (t.client c).client_status := by
  have hfield := congrArg LocalClient.client_status (h.records c)
  exact hfield

theorem id : (t'.client c).client_id = (t.client c).client_id := by
  have hfield := congrArg LocalClient.client_id (h.records c)
  exact hfield

theorem channel_id : (t'.client c).client_channel_id = (t.client c).client_channel_id := by
  have hfield := congrArg LocalClient.client_channel_id (h.records c)
  exact hfield

theorem channelOf : t'.channelOf c = t.channelOf c := by
  rw [Tables.channelOf, Tables.channelOf, h.channel_id c, h.server]

theorem reaches (channel_id : UInt32) : t'.Reaches c channel_id ↔ t.Reaches c channel_id := by
  rw [Tables.Reaches, Tables.Reaches, h.status c, h.channelOf c]

theorem client_name : (t'.client c).client_name = (t.client c).client_name := by
  have hfield := congrArg LocalClient.client_name (h.records c)
  exact hfield

theorem client_pid : (t'.client c).client_pid = (t.client c).client_pid := by
  have hfield := congrArg LocalClient.client_pid (h.records c)
  exact hfield

theorem clientItem : t'.clientItem c = t.clientItem c := by
  simp only [Tables.clientItem, h.id c, h.client_pid c, h.client_name c, h.status c]

theorem live {c : ClientPtr} : t'.clients.Live c ↔ t.clients.Live c := by
  rw [Heap.Live, Heap.Live, h.next]

end SameClients

variable (t) (reg : Bool) (client : ClientPtr) (entry : StLocalServiceItem)

theorem SameClients.setItem (i : ItemPtr) (record : LocalServiceItem) :
    SameClients t (t.setItem i record) :=
  ⟨rfl, rfl, fun _ => rfl, rfl, rfl⟩

theorem SameClients.setProduce (c : ClientPtr) (produce : UnorderedMap UInt32 ItemPtr) :
    SameClients t (t.setClient c { t.client c with client_produce_services := produce }) :=
  ⟨rfl, rfl, t.clients.map_get_set LocalClient.identity rfl, rfl, rfl⟩

theorem SameClients.offerItem :
    SameClients t (t.offerItem client entry) := by
  unfold Tables.offerItem
  split
  · exact ⟨rfl, rfl, fun _ => rfl, rfl, rfl⟩
  · exact .setItem ..

theorem SameClients.ensureItem :
    SameClients t (t.ensureItem entry) := by
  unfold Tables.ensureItem
  split
  · exact ⟨rfl, rfl, fun _ => rfl, rfl, rfl⟩
  · exact .refl t

theorem SameClients.registerTables :
    SameClients t (t.registerTables client entry) :=
  (SameClients.offerItem t client entry).trans (.setProduce ..)

theorem SameClients.unregisterTables :
    SameClients t (t.unregisterTables client entry) := by
  unfold Tables.unregisterTables
  split
  · exact .refl t
  · have herase : SameClients t (t.eraseService entry.service_id) := ⟨rfl, rfl, fun _ => rfl, rfl, rfl⟩
    split
    · exact herase
    · exact herase.trans (.setProduce ..)

theorem SameClients.listenTables :
    SameClients t (t.listenTables reg client entry) := by
  have hensure := SameClients.ensureItem t entry
  unfold Tables.listenTables
  split
  · exact hensure.trans (.setItem ..)
  · split
    · exact hensure.trans (.setItem ..)
    · exact hensure

theorem SameClients.setStatusTables :
    SameClients t (t.setStatusTables entry) := by
  unfold Tables.setStatusTables
  split
  · exact .refl t
  · exact .setItem ..

end SameClients

end Tables

/-- The units of work that messages and the loop of `remove_client` consist
of. They touch items and produce maps only. -/
def Act.OnServices : Act → Prop
  | .dropService _ => True
  | .register .. => True
  | .unregister .. => True
  | .listen .. => True
  | .setStatus _ => True
  | .reply .. => True
  | _ => False

namespace Tables

theorem SameClients.perform (t : Tables) {act : Act} (hact : act.OnServices) : SameClients t (t.perform act) := by
  cases act with
  | dropService i => exact .setItem ..
  | register client entry => exact .registerTables ..
  | unregister client entry => exact .unregisterTables ..
  | listen reg client entry => exact .listenTables ..
  | setStatus entry => exact .setStatusTables ..
  | reply => exact .refl t
  | _ => exact hact.elim

theorem SameClients.foldl (t : Tables) {acts : List Act} (hacts : ∀ act ∈ acts, act.OnServices) :
    SameClients t (acts.foldl Tables.perform t) := by
  refine foldl_invariant (SameClients t) ?_ (.refl t)
  intro t' act hmem hsame
  exact hsame.trans (.perform t' (hacts act hmem))

end Tables

namespace Event

/-- Which units of work the messages lead to, with the guards that the handlers
have checked before. -/
inductive MessageAct (r : LocalRegistry) : Request → Act → Prop where
  | register {msg : StRegisterService} {client : ClientPtr} {entry : StLocalServiceItem}
      (hreg : msg.reg = true) (hclient : named r msg.provider_client = some client)
      (hentry : entry ∈ msg.produce_services) :
      MessageAct r (.register_service msg) (.register client entry)
  | unregister {msg : StRegisterService} {client : ClientPtr} {entry : StLocalServiceItem}
      (hreg : msg.reg = false) (hclient : named r msg.provider_client = some client)
      (hentry : entry ∈ msg.produce_services) :
      MessageAct r (.register_service msg) (.unregister client entry)
  | listen {msg : StListenService} {client : ClientPtr} {entry : StLocalServiceItem}
      (hclient : named r msg.listener_client = some client) (hentry : entry ∈ msg.listen_services) :
      MessageAct r (.listen_service msg) (.listen msg.reg client entry)
  | setStatus {msg : StServiceSetStatus} {client : ClientPtr} {entry : StLocalServiceItem}
      (hclient : named r msg.provider_client = some client) (hentry : entry ∈ msg.services) :
      MessageAct r (.service_set_status msg) (.setStatus entry)
  | answer {request : Request} {client_channel : Option SocketChannel} {service_id msg_seqid msg_type : UInt32}
      {msg : Payload} (hquery : request.IsQuery) (hanswer : msg.IsAnswer) :
      MessageAct r request (.reply client_channel service_id msg_seqid msg_type msg)

theorem forall_mem_pages {α : Type} {each_count : Nat} {full : α → Bool} {resp : List α → UInt32 → Payload}
    {P : Payload → Prop} (hresp : ∀ page more_flag, P (resp page more_flag)) (entries page : List α)
    (more_flag : UInt32) : ∀ msg ∈ pages each_count full resp page entries more_flag, P msg := by
  induction entries generalizing page more_flag with
  | nil =>
    intro msg hmem
    simp only [pages, List.mem_append, List.mem_singleton] at hmem
    rcases hmem with hmem | rfl
    · split at hmem
      · rw [List.mem_singleton] at hmem
        exact hmem ▸ hresp _ _
      · cases hmem
    · exact hresp _ _
  | cons entry entries ih =>
    intro msg hmem
    simp only [pages] at hmem
    split at hmem
    · rcases List.mem_cons.mp hmem with rfl | hmem
      · exact hresp _ _
      · exact ih _ _ msg hmem
    · exact ih _ _ msg hmem

variable {r : LocalRegistry} {act : Act} {request : Request} {channel : SocketChannel} {env : Env}
  {t : Tables} {client : ClientPtr}

theorem messageAct_of_mem (hmem : act ∈ messageActs env r channel request) : MessageAct r request act := by
  cases request with
  | register_client recv_msg_header req | get_client recv_msg_header req =>
    simp only [messageActs, List.mem_singleton] at hmem
    exact hmem ▸ .answer trivial trivial
  | register_service msg =>
    simp only [messageActs] at hmem
    split at hmem
    · cases hmem
    · rename_i client hclient
      obtain ⟨entry, hentry, rfl⟩ := List.mem_map.mp hmem
      cases hreg : msg.reg with
      | true => exact .register hreg hclient hentry
      | false => exact .unregister hreg hclient hentry
  | listen_service msg =>
    simp only [messageActs] at hmem
    split at hmem
    · cases hmem
    · rename_i client hclient
      obtain ⟨entry, hentry, rfl⟩ := List.mem_map.mp hmem
      exact .listen hclient hentry
  | get_service recv_msg_header req =>
    simp only [messageActs] at hmem
    split at hmem
    · cases hmem
    · split at hmem
      · rw [List.mem_singleton] at hmem
        exact hmem ▸ .answer trivial trivial
      · cases hmem
  | service_set_status msg =>
    simp only [messageActs] at hmem
    split at hmem
    · cases hmem
    · rename_i client hclient
      obtain ⟨entry, hentry, rfl⟩ := List.mem_map.mp hmem
      exact .setStatus hclient hentry
  | ctrl_get_clients recv_msg_header | ctrl_get_services recv_msg_header =>
    obtain ⟨msg, hpage, rfl⟩ := List.mem_map.mp hmem
    refine .answer trivial (forall_mem_pages ?_ _ _ _ msg hpage)
    intros
    trivial

theorem MessageAct.onServices (h : MessageAct r request act) : act.OnServices := by
  cases h <;> trivial

section

variable (hwf : r.WellFormed)

include hwf

theorem live_of_named {item : Option StLocalClientItem} (hclient : named r item = some client) :
    r.clients.Live client := by
  obtain ⟨_, _, hlookup⟩ := Option.bind_eq_some_iff.mp hclient
  exact hwf.names_live hlookup

theorem MessageAct.allows
    (h : MessageAct r request act) (hsame : Tables.SameClients r.toTables t) : t.Allows act := by
  cases h with
  | register hreg hclient hentry => exact hsame.live.mpr (live_of_named hwf hclient)
  | unregister hreg hclient hentry => exact hsame.live.mpr (live_of_named hwf hclient)
  | listen hclient hentry => exact hsame.live.mpr (live_of_named hwf hclient)
  | setStatus hclient hentry | answer hquery hanswer => trivial

/-- The tables in the middle of a message: well formed, with the clients as
they were before it. -/
structure Midway (r : LocalRegistry) (t : Tables) : Prop where
  wellFormed : t.WellFormed
  same : Tables.SameClients r.toTables t

theorem Midway.start : Midway r r.toTables :=
  ⟨hwf, .refl _⟩

theorem Midway.perform (h : Midway r t) (hact : MessageAct r request act) : Midway r (t.perform act) where
  wellFormed := h.wellFormed.perform (hact.allows hwf h.same)
  same := h.same.trans (.perform t hact.onServices)

theorem midway_messageActs (env : Env) (channel : SocketChannel) (request : Request) :
    LoopMeets Tables.perform (fun t _ => Midway r t) r.toTables (messageActs env r channel request) :=
  of_invariant (Midway r) (fun _ _ _ hmid => hmid)
    (fun _ _ hmem hmid => hmid.perform hwf (messageAct_of_mem hmem)) (.start hwf)

end

theorem mem_closeActs (hmem : act ∈ closeActs env r channel) :
    ∃ client, r.findByChannel env channel.id = some client ∧
      (act = .takeOffline client ∨
        ∃ s i, (r.client client).client_produce_services.lookup s = some i ∧ act = .dropService i) := by
  unfold closeActs at hmem
  split at hmem
  · cases hmem
  · cases hfind : r.findByChannel env channel.id with
    | none => simp [hfind] at hmem
    | some client =>
      rw [hfind] at hmem
      rcases List.mem_cons.mp hmem with rfl | hmem
      · exact ⟨client, rfl, .inl rfl⟩
      · obtain ⟨⟨s, i⟩, hvisit, rfl⟩ := List.mem_map.mp hmem
        exact ⟨client, rfl, .inr ⟨s, i, env.order.mem_visit.mp hvisit, rfl⟩⟩

theorem findByChannel_some {channel_id : UInt32} (hfind : t.findByChannel env channel_id = some client) :
    (∃ name, t.m_clients_by_name.lookup name = some client) ∧
      (t.client client).client_channel_id = channel_id := by
  obtain ⟨⟨name, c⟩, hpair, rfl⟩ := Option.map_eq_some_iff.mp hfind
  have hid := List.find?_some hpair
  have hmem := List.mem_of_find?_eq_some hpair
  exact ⟨⟨name, env.order.mem_visit.mp hmem⟩, by simpa using hid⟩

theorem mem_connectActs (hmem : act ∈ connectActs r channel) :
    channel.peeraddr.strstr LOCAL_REGISTRY_CTRL_SOCKET_FILE = false ∧
    ∃ client_pid client_name, parse_localaddr channel.peeraddr = .parsed client_pid client_name ∧
      ((∃ client, r.m_clients_by_name.lookup client_name = some client ∧ r.channelOf client = none ∧
          connectActs r channel = [.bringOnline client channel client_pid client_name] ∧
          act = .bringOnline client channel client_pid client_name) ∨
        (r.m_clients_by_name.lookup client_name = none ∧
          connectActs r channel = [.createClient channel client_pid client_name] ∧
          act = .createClient channel client_pid client_name)) := by
  unfold connectActs at hmem ⊢
  split at hmem
  · cases hmem
  · rename_i hctrl
    refine ⟨by simpa using hctrl, ?_⟩
    rw [if_neg hctrl]
    cases hparse : parse_localaddr channel.peeraddr with
    | invalid | throws => simp [hparse] at hmem
    | parsed client_pid client_name =>
      simp only [hparse] at hmem ⊢
      refine ⟨client_pid, client_name, rfl, ?_⟩
      cases hlookup : r.m_clients_by_name.lookup client_name with
      | none =>
        simp only [hlookup, List.mem_singleton] at hmem
        exact .inr ⟨rfl, by simp, hmem⟩
      | some client =>
        simp only [hlookup] at hmem
        cases hchannel : r.channelOf client with
        | none =>
          simp only [hchannel, Option.isSome_none, Bool.false_eq_true, if_false, List.mem_singleton] at hmem
          exact .inl ⟨client, rfl, hchannel, by simp [hchannel], hmem⟩
        | some other => simp [hchannel] at hmem

inductive EventAct (env : Env) (r : LocalRegistry) : Event → Act → Prop where
  | addChannel {channel : SocketChannel} : EventAct env r (.connect channel) (.addChannel channel)
  | bringOnline {channel : SocketChannel} {client : ClientPtr} {client_pid : Int} {client_name : Str}
      (hctrl : channel.peeraddr.strstr LOCAL_REGISTRY_CTRL_SOCKET_FILE = false)
      (hparse : parse_localaddr channel.peeraddr = .parsed client_pid client_name)
      (hlookup : r.m_clients_by_name.lookup client_name = some client)
      (hclosed : (r.toTables.perform (.addChannel channel)).channelOf client = none) :
      EventAct env r (.connect channel) (.bringOnline client channel client_pid client_name)
  | createClient {channel : SocketChannel} {client_pid : Int} {client_name : Str}
      (hctrl : channel.peeraddr.strstr LOCAL_REGISTRY_CTRL_SOCKET_FILE = false)
      (hparse : parse_localaddr channel.peeraddr = .parsed client_pid client_name)
      (hlookup : r.m_clients_by_name.lookup client_name = none) :
      EventAct env r (.connect channel) (.createClient channel client_pid client_name)
  | takeOffline {channel_id : UInt32} {channel : SocketChannel} {client : ClientPtr}
      (hchannel : r.m_server.getChannelById channel_id = some channel)
      (hfind : r.findByChannel env channel.id = some client) :
      EventAct env r (.close channel_id) (.takeOffline client)
  | dropService {channel_id : UInt32} {channel : SocketChannel} {client : ClientPtr} {s : UInt32} {i : ItemPtr}
      (hchannel : r.m_server.getChannelById channel_id = some channel)
      (hfind : r.findByChannel env channel.id = some client)
      (hproduce : (r.client client).client_produce_services.lookup s = some i) :
      EventAct env r (.close channel_id) (.dropService i)
  | removeChannel {channel_id : UInt32} : EventAct env r (.close channel_id) (.removeChannel channel_id)
  | message {channel : SocketChannel} {request : Request} {act : Act} (hact : MessageAct r request act) :
      EventAct env r (.message channel request) act

variable {event : Event}

theorem eventAct_of_mem (hmem : act ∈ event.acts env r) : EventAct env r event act := by
  cases event with
  | connect channel =>
    rcases List.mem_cons.mp hmem with rfl | hmem
    · exact .addChannel
    · obtain ⟨hctrl, pid, name, hparse, ⟨client, hlookup, hclosed, _, rfl⟩ | ⟨hlookup, _, rfl⟩⟩ :=
        mem_connectActs hmem
      · exact .bringOnline hctrl hparse hlookup hclosed
      · exact .createClient hctrl hparse hlookup
  | close channel_id =>
    simp only [acts] at hmem
    split at hmem
    · cases hmem
    · rename_i channel hchannel
      rcases List.mem_append.mp hmem with hmem | hmem
      · obtain ⟨client, hfind, rfl | ⟨s, i, hproduce, rfl⟩⟩ := mem_closeActs hmem
        · exact .takeOffline hchannel hfind
        · exact .dropService hchannel hfind hproduce
      · cases List.mem_singleton.mp hmem
        exact .removeChannel
  | message channel request => exact .message (messageAct_of_mem hmem)

theorem acts_meet {cond : Tables → Act → Prop} (h : ∀ t act, EventAct env r event act → cond t act) :
    LoopMeets Tables.perform cond r.toTables (event.acts env r) :=
  of_invariant (fun _ => True) (fun t act hmem _ => h t act (eventAct_of_mem hmem))
    (fun _ _ _ _ => trivial) trivial

end Event

namespace LocalRegistry

variable (Inv : Tables → Prop)

/-- In a well-formed state every unit of work of an event is allowed when its
turn comes. -/
theorem acts_allowed {r : LocalRegistry} (hwf : r.WellFormed) (env : Env) (event : Event) :
    LoopMeets Tables.perform Tables.Allows r.toTables (event.acts env r) := by
  cases event with
  | connect channel =>
    refine ⟨trivial, ?_⟩
    have htables : (r.perform env (.addChannel channel)).toTables = r.toTables.perform (.addChannel channel) :=
      perform_toTables ..
    cases hacts : connectActs (r.perform env (.addChannel channel)) channel with
    | nil => trivial
    | cons act acts =>
      obtain ⟨_, pid, name, _, ⟨client, hlookup, _, hlist, _⟩ | ⟨hlookup, hlist, _⟩⟩ :=
        mem_connectActs (hacts ▸ List.mem_cons_self : act ∈ _)
      · rw [← hacts, hlist]
        exact ⟨hlookup, trivial⟩
      · rw [← hacts, hlist]
        exact ⟨hlookup, trivial⟩
  | close channel_id =>
    simp only [acts]
    split
    · trivial
    · rename_i channel hchannel
      refine append ?_ ⟨trivial, trivial⟩
      refine of_invariant (fun t => t.clients.next = r.clients.next) ?_ ?_ rfl
      · intro t act hmem hnext
        obtain ⟨client, hfind, rfl | ⟨s, i, _, rfl⟩⟩ := mem_closeActs hmem
        · obtain ⟨⟨name, hlookup⟩, _⟩ := findByChannel_some hfind
          have hlive := hwf.names_live hlookup
          rw [Heap.Live, ← hnext] at hlive
          exact hlive
        · trivial
      · intro t act hmem hnext
        obtain ⟨client, hfind, rfl | ⟨s, i, _, rfl⟩⟩ := mem_closeActs hmem
        · exact hnext
        · exact hnext
  | message channel request =>
    refine of_invariant (Midway r) ?_ ?_ (.start hwf)
    · intro t act hmem hmid
      exact (messageAct_of_mem hmem).allows hwf hmid.same
    · intro t act hmem hmid
      exact hmid.perform hwf (messageAct_of_mem hmem)

variable {r r' : LocalRegistry} {labels : List (Env × Event)} {label : Env × Event}

theorem step_wellFormed (hwf : r.WellFormed) (h : r.step label = some r') : r'.WellFormed := by
  obtain ⟨env, event⟩ := label
  rw [step_tables h]
  exact foldl_invariant_of_meets Tables.WellFormed (fun t act hwf hallows => hwf.perform hallows) hwf
    (acts_allowed hwf env event)

theorem run_wellFormed (hwf : r.WellFormed) (h : run step r labels = some r') : r'.WellFormed :=
  run_invariant (fun r : LocalRegistry => r.WellFormed) (fun _ _ _ hwf hstep => step_wellFormed hwf hstep) hwf h

theorem daemonRun_wellFormed {r : LocalRegistry} (h : daemonRun labels = some r) :
    r.WellFormed :=
  run_wellFormed Tables.init_wellFormed h

/-- The induction rule for properties of the tables: what every unit of work
preserves under `cond`, a step preserves whose units meet `cond`. -/
theorem step_invariant_of_meets {cond : Tables → Act → Prop}
    (hact : ∀ t act, t.WellFormed → t.Allows act → Inv t → cond t act → Inv (t.perform act)) {env : Env}
    {event : Event} (hwf : r.WellFormed) (hinv : Inv r.toTables)
    (hmeets : LoopMeets Tables.perform cond r.toTables (event.acts env r)) (h : r.step (env, event) = some r') :
    Inv r'.toTables := by
  rw [step_tables h]
  refine (foldl_invariant_of_meets (fun t => t.WellFormed ∧ Inv t) ?_ ⟨hwf, hinv⟩
    ((acts_allowed hwf env event).and hmeets)).2
  rintro t act ⟨hwf, hinv⟩ ⟨hallows, hcond⟩
  exact ⟨hwf.perform hallows, hact t act hwf hallows hinv hcond⟩

theorem step_invariant (hact : ∀ t act, t.WellFormed → t.Allows act → Inv t → Inv (t.perform act))
    (hwf : r.WellFormed) (hinv : Inv r.toTables) (h : r.step label = some r') : Inv r'.toTables :=
  step_invariant_of_meets Inv (fun t act hwf hallows hinv _ => hact t act hwf hallows hinv) hwf hinv
    (acts_allowed hwf label.1 label.2) h

end LocalRegistry

end hub.local_registry
