import Hub.LocalRegistry.Messages
import Hub.LocalRegistry.Peer

namespace hub.local_registry

open Event Tables

/-- The provider that a message describes, and for which service. -/
inductive Payload.Describes : Payload → UInt32 → StLocalClientItem → Prop where
  | changed {change_msg : StServiceChangeStatus} {provider_client : StLocalClientItem}
      (hprovider : change_msg.provider_client = some provider_client) :
      Describes (.service_change_status change_msg) change_msg.service.service_id provider_client
  | answered {resp : StGetServiceResp} {provider_client : StLocalClientItem}
      (hprovider : resp.provider_client = some provider_client) :
      Describes (.get_service_resp resp) resp.service.service_id provider_client

/-- The description fits the present provider of the service in all its fields. -/
def Tables.FitsProvider (t : Tables) (s : UInt32) (provider_client : StLocalClientItem) : Prop :=
  ∃ c, t.provider s = some c ∧ provider_client.client_id = (t.client c).client_id ∧
    provider_client.client_pid = (t.client c).client_pid ∧ provider_client.client_name = (t.client c).client_name ∧
    provider_client.client_status = (t.client c).client_status.toUInt32

/-- Every name fits the `client_name` array of a message. -/
def Tables.NamesFit (t : Tables) : Prop :=
  ∀ c, t.clients.Live c → (t.client c).client_name.length < LOCAL_REGISTRY_CLIENT_NAME_MAX

/-- Every message of a step describes the provider of its service as the tables have it. -/
def LocalRegistry.IdentifiesProviders (r r' : LocalRegistry) : Prop :=
  ∀ frames, r'.sent = r.sent ++ frames → ∀ frame ∈ frames, ∀ s provider_client,
    frame.payload.Describes s provider_client → r'.FitsProvider s provider_client

/-- No `register_service` makes a method available while a client other than its new
provider is a listener of it that can be reached. -/
def Event.SparesListeners (r : LocalRegistry) : Event → Prop
  | .message _ (.register_service msg) => msg.reg = true → ∀ client, Event.named r msg.provider_client = some client →
      ∀ entry ∈ msg.produce_services, entry.service_type = LOCAL_SERVICE_TYPE_METHOD →
        ∀ id listener, (r.listeners entry.service_id).lookup id = some listener →
          ∀ channel_id, r.Reaches listener channel_id → listener = client
  | _ => True

/-- The unit of work gives no service another provider. -/
def Act.KeepsProviders : Act → Prop
  | .listen .. | .setStatus _ | .reply .. => True
  | _ => False

namespace Tables

variable {t t' : Tables} {s : UInt32}

variable {c : ClientPtr} {act : Act}

theorem provider_perform (hwf : t.WellFormed) (hkeeps : act.KeepsProviders) (s : UInt32) :
    (t.perform act).provider s = t.provider s := by
  cases act with
  | listen reg client entry => exact provider_listenTables hwf reg client entry s
  | setStatus entry => exact provider_setStatusTables hwf entry s
  | reply => rfl
  | _ => exact hkeeps.elim

theorem NamesFit.clientItem_name (h : t.NamesFit) (hlive : t.clients.Live c) :
    (t.clientItem c).client_name = (t.client c).client_name :=
  List.take_of_length_le (Nat.le_of_lt (h c hlive))

theorem FitsProvider.of_clientItem (hfit : t.NamesFit) (hsame : SameClients t t')
    (hlive : t.clients.Live c) (hprovider : t'.provider s = some c) : t'.FitsProvider s (t.clientItem c) := by
  refine ⟨c, hprovider, (hsame.id c).symm, (hsame.client_pid c).symm, ?_, ?_⟩
  · rw [hfit.clientItem_name hlive, hsame.client_name c]
  · rw [hsame.status c]
    rfl

theorem provider_live (hwf : t.WellFormed) (hprovider : t.provider s = some c) : t.clients.Live c := by
  obtain ⟨item, hservice, hitem⟩ := Option.bind_eq_some_iff.mp hprovider
  obtain ⟨i, -, rfl⟩ := Option.map_eq_some_iff.mp hservice
  exact hwf.provider_live hitem

theorem provider_of_lookup {i : ItemPtr} (hlookup : t.m_services.lookup s = some i) :
    t.provider s = (t.item i).service_provider := by
  rw [provider, service_of_lookup hlookup]
  rfl

/-- Where a message takes the provider that it describes from: `register_service` mixes
two clients, the other events and answers read the record of the provider. -/
theorem sends_describes (hwf : t.WellFormed) {env : Env} {channel_id : UInt32} {msg : Payload}
    {provider_client : StLocalClientItem} (hsends : act.Sends env t channel_id msg)
    (hdescribes : msg.Describes s provider_client) :
    (∃ client entry id listener, act = .register client entry ∧ entry.service_id = s ∧
      entry.service_type = LOCAL_SERVICE_TYPE_METHOD ∧ (t.listeners entry.service_id).lookup id = some listener ∧
      t.Reaches listener channel_id ∧
      provider_client = { t.clientItem client with client_name := (t.clientItem listener).client_name }) ∨
    (act.KeepsProviders ∧ ∃ c, t.provider s = some c ∧ provider_client = t.clientItem c) ∨
    ∃ client_channel service_id msg_seqid msg_type, act = .reply client_channel service_id msg_seqid msg_type msg := by
  cases hsends with
  | available htype hlistener hreach =>
    cases hdescribes with
    | changed hprovider =>
      cases hprovider
      exact .inl ⟨_, _, _, _, rfl, rfl, htype, hlistener, hreach, rfl⟩
  | caughtUp htype hstatus hreach =>
    cases hdescribes with
    | changed hprovider =>
      obtain ⟨c, hc, rfl⟩ := Option.map_eq_some_iff.mp hprovider
      refine .inr (.inl ⟨trivial, c, ?_, rfl⟩)
      rw [listenedItem_provider] at hc
      rwa [hwf.listenedItem_id]
  | statusChanged hservice hstatus htype hlistener hreach =>
    cases hdescribes with
    | changed hprovider =>
      obtain ⟨c, hc, rfl⟩ := Option.map_eq_some_iff.mp hprovider
      refine .inr (.inl ⟨trivial, c, ?_, rfl⟩)
      rw [hwf.services_keyed hservice, provider_of_lookup hservice]
      exact hc
  | answered => exact .inr (.inr ⟨_, _, _, _, rfl⟩)
  | listenersTold hreach | listenerChanged hprovider hreach => cases hdescribes
  | dropped hlistener hreach | unavailable hservice hproduce htype hlistener hreach =>
    cases hdescribes with
    | changed hprovider => cases hprovider

theorem provider_foldl_register (hwf : t.WellFormed) {client : ClientPtr} (hlive : t.clients.Live client)
    (entries : List StLocalServiceItem) (hs : t.provider s = some client ∨ ∃ entry ∈ entries, entry.service_id = s) :
    ((entries.map (Act.register client)).foldl perform t).provider s = some client := by
  induction entries generalizing t with
  | nil => simpa using hs
  | cons entry entries ih =>
    have hsame : SameClients t (t.perform (.register client entry)) := .registerTables ..
    refine ih (hwf.perform hlive) (hsame.live.mpr hlive) ?_
    have hstep : (t.perform (.register client entry)).provider s =
        if s = entry.service_id then some client else t.provider s := provider_registerTables hwf client entry s
    by_cases hentry : s = entry.service_id
    · exact .inl (hstep.trans (if_pos hentry))
    · rw [if_neg hentry] at hstep
      rcases hs with hprovider | ⟨other, hmem, hother⟩
      · exact .inl (hstep.trans hprovider)
      · rcases List.mem_cons.mp hmem with rfl | hmem
        · exact absurd hother.symm hentry
        · exact .inr ⟨other, hmem, hother⟩

end Tables

namespace LocalRegistry

variable {r r' : LocalRegistry} {env : Env} {event : Event}

theorem step_frames (Inv : Tables → Prop) (hstep : r.step (env, event) = some r')
    (hact : ∀ t act, act ∈ event.acts env r → Inv t → Inv (t.perform act)) (hinit : Inv r.toTables)
    {frames : List Sent} (hsent : r'.sent = r.sent ++ frames) :
    ∀ frame ∈ frames, ∃ t act, act ∈ event.acts env r ∧ Inv t ∧ act.Sends env t frame.channel_id frame.payload := by
  obtain ⟨written, hwritten, honly, -⟩ := foldl_perform_sent env r Inv hact hinit
  rw [step_acts hstep, hwritten] at hsent
  cases List.append_cancel_left hsent
  exact honly

variable {channel : SocketChannel} {provider_client : StLocalClientItem} {request : Request}

theorem reply_describes {client_channel : Option SocketChannel}
    {service_id msg_seqid msg_type s : UInt32} {msg : Payload}
    (hmem : .reply client_channel service_id msg_seqid msg_type msg ∈ messageActs env r channel request)
    (hdescribes : msg.Describes s provider_client) : ∃ id, msg = .get_service_resp (r.serviceResp id) := by
  cases request with
  | register_client recv_msg_header req | get_client recv_msg_header req =>
    cases List.mem_singleton.mp hmem
    cases hdescribes
  | register_service msg =>
    simp only [messageActs] at hmem
    split at hmem
    · cases hmem
    · obtain ⟨entry, -, heq⟩ := List.mem_map.mp hmem
      split at heq <;> cases heq
  | listen_service msg | service_set_status msg =>
    simp only [messageActs] at hmem
    split at hmem
    · cases hmem
    · obtain ⟨entry, -, heq⟩ := List.mem_map.mp hmem
      cases heq
  | get_service recv_msg_header req =>
    simp only [messageActs] at hmem
    split at hmem
    · cases hmem
    · split at hmem
      · cases List.mem_singleton.mp hmem
        exact ⟨req.service_id, rfl⟩
      · cases hmem
  | ctrl_get_clients recv_msg_header | ctrl_get_services recv_msg_header =>
    obtain ⟨page, hpage, heq⟩ := List.mem_map.mp hmem
    cases heq
    have hnone : ¬msg.Describes s provider_client := by
      refine forall_mem_pages (P := fun msg => ¬msg.Describes s provider_client) ?_ _ _ _ msg hpage
      intro page more_flag hdescribes
      cases hdescribes
    exact absurd hdescribes hnone

theorem identifiesProviders_of_kept (hwf : r.WellFormed) (hfit : r.NamesFit)
    (hkeeps : ∀ act ∈ messageActs env r channel request, act.KeepsProviders)
    (hstep : r.step (env, .message channel request) = some r') : r.IdentifiesProviders r' := by
  intro frames hsent frame hframe s provider_client hdescribes
  have hinv : ∀ t act, act ∈ acts env r (.message channel request) →
      (Midway r t ∧ ∀ s, t.provider s = r.provider s) →
      Midway r (t.perform act) ∧ ∀ s, (t.perform act).provider s = r.provider s := by
    rintro t act hmem ⟨hmid, hprovider⟩
    refine ⟨hmid.perform hwf (messageAct_of_mem hmem), fun s => ?_⟩
    rw [provider_perform hmid.wellFormed (hkeeps act hmem), hprovider]
  have hend : Midway r r'.toTables ∧ ∀ s, r'.provider s = r.provider s := by
    rw [step_tables hstep]
    exact foldl_invariant _ hinv ⟨.start hwf, fun _ => rfl⟩
  -- the description was read from the provider's record, which has not changed since
  have hread : ∃ c, r.provider s = some c ∧ provider_client = r.clientItem c := by
    obtain ⟨t, act, hmem, ⟨hmid, hprovider⟩, hsends⟩ := step_frames _ hstep hinv ⟨.start hwf, fun _ => rfl⟩ hsent
      frame hframe
    rcases sends_describes hmid.wellFormed hsends hdescribes with
      ⟨client, entry, _, _, rfl, -⟩ | ⟨-, c, hc, rfl⟩ | ⟨_, _, _, _, rfl⟩
    · exact (hkeeps _ hmem).elim
    · exact ⟨c, (hprovider s).symm.trans hc, hmid.same.clientItem c⟩
    · obtain ⟨id, hpayload⟩ := reply_describes hmem hdescribes
      rw [hpayload] at hdescribes
      generalize hresp : r.serviceResp id = resp at hdescribes
      cases hdescribes with
      | answered hprovider =>
        subst hresp
        unfold serviceResp at hprovider ⊢
        cases hlookup : r.m_services.lookup id with
        | none => simp [hlookup] at hprovider
        | some i =>
          simp only [hlookup] at hprovider ⊢
          obtain ⟨c, hc, rfl⟩ := Option.map_eq_some_iff.mp hprovider
          refine ⟨c, ?_, rfl⟩
          have hid : (r.serviceItem i).service_id = id := hwf.services_keyed hlookup
          rw [hid, provider_of_lookup hlookup, hc]
  obtain ⟨c, hc, rfl⟩ := hread
  exact .of_clientItem hfit hend.1.same (provider_live hwf hc) ((hend.2 s).trans hc)

section Register

variable {msg : StRegisterService} {client : ClientPtr}

theorem messageActs_register (hreg : msg.reg = true) (hclient : named r msg.provider_client = some client) :
    messageActs env r channel (.register_service msg) = msg.produce_services.map (Act.register client) := by
  simp only [messageActs, hclient, hreg, if_true]

theorem register_midway (hwf : r.WellFormed) (hreg : msg.reg = true)
    (hclient : named r msg.provider_client = some client) :
    ∀ t act, act ∈ acts env r (.message channel (.register_service msg)) →
      (Midway r t ∧ ∀ s, t.listeners s = r.listeners s) →
      Midway r (t.perform act) ∧ ∀ s, (t.perform act).listeners s = r.listeners s := by
  rintro t act hmem ⟨hmid, hlisteners⟩
  change act ∈ messageActs env r channel (.register_service msg) at hmem
  refine ⟨hmid.perform hwf (messageAct_of_mem hmem), fun s => ?_⟩
  rw [messageActs_register hreg hclient] at hmem
  obtain ⟨entry, -, rfl⟩ := List.mem_map.mp hmem
  exact (listeners_registerTables hmid.wellFormed client entry s).trans (hlisteners s)

theorem register_end (hwf : r.WellFormed) (hreg : msg.reg = true)
    (hclient : named r msg.provider_client = some client)
    (hstep : r.step (env, .message channel (.register_service msg)) = some r') :
    SameClients r.toTables r'.toTables ∧
      ∀ entry ∈ msg.produce_services, r'.provider entry.service_id = some client := by
  have hlive : r.clients.Live client := live_of_named hwf hclient
  rw [step_tables hstep, acts, messageActs_register hreg hclient]
  refine ⟨.foldl r.toTables ?_, fun entry hentry => ?_⟩
  · intro act hmem
    obtain ⟨entry, -, rfl⟩ := List.mem_map.mp hmem
    trivial
  · exact provider_foldl_register hwf hlive _ (.inr ⟨entry, hentry, rfl⟩)

theorem register_identifies_iff (hwf : r.WellFormed) (hfit : r.NamesFit) (hreg : msg.reg = true)
    (hclient : named r msg.provider_client = some client) :
    (∀ env r', r.step (env, .message channel (.register_service msg)) = some r' → r.IdentifiesProviders r') ↔
      ∀ entry ∈ msg.produce_services, entry.service_type = LOCAL_SERVICE_TYPE_METHOD →
        ∀ id listener, (r.listeners entry.service_id).lookup id = some listener →
          ∀ channel_id, r.Reaches listener channel_id → listener = client := by
  have hlive : r.clients.Live client := live_of_named hwf hclient
  constructor
  · intro hidentifies entry hentry htype id listener hlistener channel_id hreach
    have hlistener_live : r.clients.Live listener := hwf.lookup_listeners_live hlistener
    obtain ⟨r', hstep⟩ : ∃ r', r.step (.plain, .message channel (.register_service msg)) = some r' := ⟨_, rfl⟩
    obtain ⟨hsame, hproviders⟩ := register_end hwf hreg hclient hstep
    obtain ⟨frames, hsent, -, hreached⟩ := foldl_perform_sent .plain r _
      (@register_midway r .plain channel msg client hwf hreg hclient) ⟨.start hwf, fun _ => rfl⟩
    rw [← step_acts hstep] at hsent
    -- over a transport that loses nothing the listener gets the mixed description
    obtain ⟨frame, hframe, hdescribes⟩ := hreached Env.plain_reliable (.register client entry)
      (by
        rw [acts, messageActs_register hreg hclient]
        exact List.mem_map_of_mem hentry)
      (fun _ msg => msg.Describes entry.service_id
        { r.clientItem client with client_name := (r.clientItem listener).client_name })
      (by
        rintro t ⟨hmid, hlisteners⟩
        refine ⟨channel_id, _, .available htype (by rwa [hlisteners]) ((hmid.same.reaches _ _).mpr hreach), ?_⟩
        have hclients : t.clientItem = r.clientItem := funext hmid.same.clientItem
        exact .changed (by
          change some { t.clientItem client with client_name := (t.clientItem listener).client_name } = _
          rw [hclients]))
    obtain ⟨c, hprovider, -, -, hname, -⟩ := hidentifies _ r' hstep frames hsent frame hframe _ _ hdescribes
    cases (hproviders entry hentry).symm.trans hprovider
    have hnames : (r.client listener).client_name = (r.client client).client_name := by
      rw [← hfit.clientItem_name hlistener_live, ← hsame.client_name client]
      exact hname
    have hfound := hwf.live_named hlistener_live
    rw [hnames, hwf.live_named hlive] at hfound
    exact (Option.some.inj hfound).symm
  · intro hspares env r' hstep frames hsent frame hframe s provider_client hdescribes
    obtain ⟨hsame, hproviders⟩ := register_end hwf hreg hclient hstep
    obtain ⟨t, act, hmem, ⟨hmid, hlisteners⟩, hsends⟩ :=
      step_frames _ hstep (register_midway hwf hreg hclient) ⟨.start hwf, fun _ => rfl⟩ hsent frame hframe
    rw [acts, messageActs_register hreg hclient] at hmem
    obtain ⟨entry, hentry, rfl⟩ := List.mem_map.mp hmem
    rcases sends_describes hmid.wellFormed hsends hdescribes with
      ⟨_, _, id, listener, heq, rfl, htype, hlistener, hreach, rfl⟩ | ⟨hkeeps, -⟩ | ⟨_, _, _, _, heq⟩
    · cases heq
      rw [hlisteners] at hlistener
      obtain rfl := hspares entry hentry htype id listener hlistener _ ((hmid.same.reaches _ _).mp hreach)
      have hclients : t.clientItem listener = r.clientItem listener := hmid.same.clientItem listener
      change r'.FitsProvider entry.service_id (t.clientItem listener)
      rw [hclients]
      exact .of_clientItem hfit hsame hlive (hproviders entry hentry)
    · exact hkeeps.elim
    · cases heq

end Register

theorem identifiesProviders_of_silent (hsilent : ∀ t act channel_id msg s provider_client,
      act ∈ event.acts env r → act.Sends env t channel_id msg → ¬msg.Describes s provider_client)
    (hstep : r.step (env, event) = some r') : r.IdentifiesProviders r' := by
  intro frames hsent frame hframe s provider_client hdescribes
  obtain ⟨t, act, hmem, -, hsends⟩ :=
    step_frames (fun _ => True) hstep (fun _ _ _ _ => trivial) trivial hsent frame hframe
  exact absurd hdescribes (hsilent t act _ _ s provider_client hmem hsends)

theorem identifiesProviders_of_connect
    (hstep : r.step (env, .connect channel) = some r') : r.IdentifiesProviders r' := by
  refine identifiesProviders_of_silent ?_ hstep
  intro t act channel_id msg s provider_client hmem hsends
  cases eventAct_of_mem hmem <;> cases hsends

theorem identifiesProviders_of_close {channel_id : UInt32}
    (hstep : r.step (env, .close channel_id) = some r') : r.IdentifiesProviders r' := by
  refine identifiesProviders_of_silent ?_ hstep
  intro t act channel_id msg s provider_client hmem hsends hdescribes
  cases eventAct_of_mem hmem with
  | dropService =>
    cases hsends with
    | dropped =>
      cases hdescribes with
      | changed hprovider => cases hprovider
  | takeOffline | removeChannel => cases hsends

theorem identifiesProviders_of_unregister {msg : StRegisterService} (hreg : msg.reg = false)
    (hstep : r.step (env, .message channel (.register_service msg)) = some r') : r.IdentifiesProviders r' := by
  refine identifiesProviders_of_silent ?_ hstep
  intro t act channel_id payload s provider_client hmem hsends hdescribes
  change act ∈ messageActs env r channel (.register_service msg) at hmem
  cases messageAct_of_mem hmem with
  | register hreg' => simp [hreg] at hreg'
  | unregister =>
    cases hsends with
    | unavailable =>
      cases hdescribes with
      | changed hprovider => cases hprovider
  | answer hquery => exact hquery.elim

/-- Every message that names a provider describes the provider of its service, however the
daemon got into its state, if and only if no registration reaches another listener. -/
theorem identifies_providers_iff {labels : List (Env × Event)} {r : LocalRegistry} (hrun : daemonRun labels = some r)
    (hfit : r.NamesFit) (event : Event) :
    (∀ env r', r.step (env, event) = some r' → r.IdentifiesProviders r') ↔ event.SparesListeners r := by
  have hwf : r.WellFormed := daemonRun_wellFormed hrun
  have hkept {channel : SocketChannel} {request : Request}
      (hkeeps : ∀ act, MessageAct r request act → act.KeepsProviders) :
      ∀ env r', r.step (env, .message channel request) = some r' → r.IdentifiesProviders r' :=
    fun _ _ => identifiesProviders_of_kept hwf hfit fun act hmem => hkeeps act (messageAct_of_mem hmem)
  cases event with
  | connect channel => exact iff_of_true (fun _ _ => identifiesProviders_of_connect) trivial
  | close channel_id => exact iff_of_true (fun _ _ => identifiesProviders_of_close) trivial
  | message channel request =>
    cases request with
    | register_service msg =>
      cases hreg : msg.reg with
      | false =>
        refine iff_of_true (fun _ _ => identifiesProviders_of_unregister hreg) ?_
        intro hreg'
        simp [hreg] at hreg'
      | true =>
        cases hclient : named r msg.provider_client with
        | some client =>
          refine (register_identifies_iff hwf hfit hreg hclient).trans ?_
          constructor
          · rintro hspares - client' hclient'
            cases hclient.symm.trans hclient'
            exact hspares
          · exact fun hspares => hspares hreg client hclient
        | none =>
          refine iff_of_true (hkept ?_) ?_
          · intro act hact
            cases hact with
            | register _ hnamed | unregister _ hnamed => simp [hclient] at hnamed
            | answer => trivial
          · rintro - client' hclient'
            simp [hclient] at hclient'
    | _ =>
      refine iff_of_true (hkept ?_) trivial
      intro act hact
      cases hact <;> trivial

end LocalRegistry

/-- The clients `a` and `b` connect, and `a` provides method 7. -/
def methodProvided : List (Env × Event) :=
  [Peer.connects ⟨1, 11, ['a']⟩, Peer.connects ⟨2, 22, ['b']⟩,
    Peer.registers ⟨1, 11, ['a']⟩ true [⟨7, LOCAL_SERVICE_TYPE_METHOD, 0⟩]]

theorem provider_described_to_listener :
    ∃ r r', daemonRun methodProvided = some r ∧
      r.step (Peer.listens ⟨2, 22, ['b']⟩ true [⟨7, LOCAL_SERVICE_TYPE_METHOD, 0⟩]) = some r' ∧
      .service_change_status ⟨⟨7, LOCAL_SERVICE_TYPE_METHOD, LOCAL_SERVICE_STATUS_AVAILABLE⟩, some ⟨1, 11, ['a'], 1⟩⟩ ∈
        r'.sent.map Sent.payload ∧ r.IdentifiesProviders r' := by
  refine ⟨_, _, rfl, rfl, by decide +kernel, ?_⟩
  refine (@LocalRegistry.identifies_providers_iff methodProvided _ rfl ?_
    (Peer.listens ⟨2, 22, ['b']⟩ true [⟨7, LOCAL_SERVICE_TYPE_METHOD, 0⟩]).2).mpr trivial _ _ rfl
  intro c hlive
  have haddr : c.addr < 2 := hlive
  obtain ⟨_ | _ | addr⟩ := c
  · decide
  · decide
  · exact absurd haddr (by simp)

/-- Client `b` listens to method 7 before `a` registers it. What `b` is sent about its
provider has the id and the pid of `a` and the name of `b`. -/
theorem provider_described_by_two_clients :
    ∃ r r', daemonRun [Peer.connects ⟨1, 11, ['a']⟩, Peer.connects ⟨2, 22, ['b']⟩,
        Peer.listens ⟨2, 22, ['b']⟩ true [⟨7, LOCAL_SERVICE_TYPE_METHOD, 0⟩]] = some r ∧
      r.step (Peer.registers ⟨1, 11, ['a']⟩ true [⟨7, LOCAL_SERVICE_TYPE_METHOD, 0⟩]) = some r' ∧
      .service_change_status ⟨⟨7, LOCAL_SERVICE_TYPE_METHOD, LOCAL_SERVICE_STATUS_AVAILABLE⟩, some ⟨1, 11, ['b'], 1⟩⟩ ∈
        r'.sent.map Sent.payload ∧ ¬r'.FitsProvider 7 ⟨1, 11, ['b'], 1⟩ := by
  refine ⟨_, _, rfl, rfl, by decide +kernel, ?_⟩
  rintro ⟨c, hprovider, -, -, hname, -⟩
  cases hprovider
  exact absurd hname (by decide)

end hub.local_registry
