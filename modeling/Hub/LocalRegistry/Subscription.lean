import Hub.LocalRegistry.Informed

namespace hub.local_registry

open LocalRegistry Event Tables Peer

namespace Tables

def OwnId (t : Tables) (L : ClientPtr) : Prop :=
  ∀ c, t.clients.Live c → (t.client c).client_id = (t.client L).client_id → c = L

def Drops (t : Tables) (L : ClientPtr) (s : UInt32) : Act → Prop
  | .unregister _ entry => entry.service_id = s
  | .listen reg client entry => reg = false ∧ client = L ∧ entry.service_id = s ∧
      (t.service s).map LocalServiceItem.service_type = some LOCAL_SERVICE_TYPE_METHOD
  | _ => False

section Perform

variable {t : Tables} {s : UInt32} {L : ClientPtr}

theorem SameClients.ownId {t' : Tables} (hsame : SameClients t t') (h : t.OwnId L) : t'.OwnId L := by
  intro c hlive hid
  rw [hsame.id, hsame.id] at hid
  exact h c (hsame.live.mp hlive) hid

theorem Listens.service {t : Tables} (h : t.Listens L s) :
    ∃ item, t.service s = some item ∧ item.service_listeners.lookup (t.client L).client_id = some L :=
  lookup_listeners.mp h

variable {entry : StLocalServiceItem} {client : ClientPtr}

theorem listenedItem_of_service {item : LocalServiceItem}
    (hservice : t.service entry.service_id = some item) : t.listenedItem entry = item := by
  rw [listenedItem, hservice]
  rfl

theorem listens_cancel_iff (hwf : t.WellFormed) (hown : t.OwnId L) (hclient : t.clients.Live client)
    (hlistens : t.Listens L s) :
    (t.listenTables false client entry).Listens L s ↔ ¬ t.Drops L s (.listen false client entry) := by
  obtain ⟨item, hservice, hlookup⟩ := hlistens.service
  rw [Listens, (SameClients.listenTables t false client entry).id L, listeners_listenTables hwf, Drops, hservice]
  by_cases hs : s = entry.service_id
  · subst hs
    rw [if_pos rfl, listenersAfter, listenedItem_of_service hservice, if_neg Bool.false_ne_true]
    split
    · rename_i htype
      rw [UnorderedMap.lookup_erase_eq_some]
      have hid : (t.client L).client_id ≠ (t.client client).client_id ↔ client ≠ L := by
        constructor
        · rintro hne rfl
          exact hne rfl
        · intro hne hid
          exact hne (hown client hclient hid.symm)
      rw [hid]
      simp [htype, hlookup]
    · rename_i htype
      simp [htype, hlookup]
  · rw [if_neg hs]
    exact iff_of_true hlistens fun hdrops => hs hdrops.2.2.1.symm

theorem listens_perform_iff (hwf : t.WellFormed) (hown : t.OwnId L) {act : Act} (hallows : t.Allows act)
    (hservices : act.OnServices) (hlistens : t.Listens L s) :
    (t.perform act).Listens L s ↔ ¬ t.Drops L s act := by
  cases act with
  | dropService | register | setStatus | reply => exact iff_of_true ((listens_of_kept hwf (by trivial)).mpr hlistens) id
  | unregister client entry => exact listens_unregister.trans ((and_iff_left hlistens).trans (not_congr eq_comm))
  | listen reg client entry =>
    cases reg with
    | false => exact listens_cancel_iff hwf hown hallows hlistens
    | true =>
      refine iff_of_true ?_ fun hdrops => Bool.noConfusion hdrops.1
      have hkept := lookup_listeners_listen hwf client entry hlistens
      rw [← (SameClients.listenTables t true client entry).id L] at hkept
      exact hkept
  | _ => exact hservices.elim

end Perform

end Tables

namespace Event

/-- The message ends the subscription of `L` to `s`: a known client withdraws the
service, or `L` cancels and the service is a method. -/
def EndsSubscription (L : ClientPtr) (s : UInt32) (r : LocalRegistry) (label : Env × Event) : Prop :=
  match label.2 with
  | .message _ (.register_service msg) => msg.reg = false ∧ (named r msg.provider_client).isSome ∧
      ∃ entry ∈ msg.produce_services, entry.service_id = s
  | .message _ (.listen_service msg) => msg.reg = false ∧ named r msg.listener_client = some L ∧
      (r.service s).map LocalServiceItem.service_type = some LOCAL_SERVICE_TYPE_METHOD ∧
      ∃ entry ∈ msg.listen_services, entry.service_id = s
  | _ => False

instance (L : ClientPtr) (s : UInt32) (r : LocalRegistry) : ∀ label, Decidable (EndsSubscription L s r label)
  | (_, .message _ (.register_service _)) | (_, .message _ (.listen_service _)) => inferInstanceAs (Decidable (_ ∧ _))
  | (_, .message _ (.register_client ..)) | (_, .message _ (.get_client ..)) | (_, .message _ (.get_service ..))
  | (_, .message _ (.service_set_status _)) | (_, .message _ (.ctrl_get_clients _))
  | (_, .message _ (.ctrl_get_services _)) | (_, .connect _) | (_, .close _) => .isFalse id

section Message

variable {r : LocalRegistry} {L : ClientPtr} {s : UInt32} {env : Env} {channel : SocketChannel} {request : Request}

theorem endsSubscription_iff_drops :
    EndsSubscription L s r (env, .message channel request) ↔
      ∃ act ∈ messageActs env r channel request, r.Drops L s act := by
  cases request with
  | register_service msg =>
    cases hclient : named r msg.provider_client with
    | none => simp [EndsSubscription, messageActs, hclient]
    | some client =>
      cases hreg : msg.reg with
      | true | false => simp [EndsSubscription, messageActs, hclient, hreg, Drops]
  | listen_service msg =>
    cases hclient : named r msg.listener_client with
    | none => simp [EndsSubscription, messageActs, hclient]
    | some client =>
      simp only [EndsSubscription, messageActs, hclient, Option.some.injEq, List.mem_map, exists_exists_and_eq_and,
        Drops]
      constructor
      · rintro ⟨hreg, rfl, htype, entry, hentry, hs⟩
        exact ⟨entry, hentry, hreg, rfl, hs, htype⟩
      · rintro ⟨entry, hentry, hreg, rfl, hs, htype⟩
        exact ⟨hreg, rfl, htype, entry, hentry, hs⟩
  | _ =>
    apply iff_of_false id
    rintro ⟨act, hmem, hdrops⟩
    cases messageAct_of_mem hmem <;> exact hdrops

/-- The tables in the middle of a message, which changes the type of no service
that it cancels. -/
structure Cancelling (r : LocalRegistry) (s : UInt32) (request : Request) (t : Tables) : Prop extends Midway r t where
  type : ∀ msg, request = .listen_service msg →
    (t.service s).map LocalServiceItem.service_type = (r.service s).map LocalServiceItem.service_type

theorem Cancelling.start (hwf : r.WellFormed) : Cancelling r s request r.toTables :=
  ⟨.start hwf, fun _ _ => rfl⟩

variable {act : Act} {t : Tables}

theorem Cancelling.perform (hwf : r.WellFormed) (h : Cancelling r s request t)
    (hexists : (r.service s).isSome) (hact : MessageAct r request act) :
    Cancelling r s request (t.perform act) where
  toMidway := h.toMidway.perform hwf hact
  type := by
    rintro msg rfl
    obtain ⟨item, hitem⟩ := Option.isSome_iff_exists.mp hexists
    have htype := h.type msg rfl
    rw [hitem] at htype ⊢
    cases hact with
    | @listen _ client entry hclient hentry =>
      obtain ⟨found, hservice, hfound⟩ := Option.map_eq_some_iff.mp htype
      change ((t.listenTables _ client entry).service s).map LocalServiceItem.service_type = _
      rw [service_listenTables h.wellFormed]
      split
      · rename_i hs
        rw [hs] at hservice
        rw [listenedItem_of_service hservice]
        exact congrArg some hfound
      · exact htype
    | answer hquery hanswer => exact hquery.elim

theorem Cancelling.drops_iff (h : Cancelling r s request t) (hact : MessageAct r request act) :
    t.Drops L s act ↔ r.Drops L s act := by
  cases hact with
  | listen hclient hentry => rw [Drops, h.type _ rfl, Drops]
  | _ => rfl

theorem not_subscribe_of_drops (hact : MessageAct r request act) (hdrops : r.Drops L s act) {other : Act}
    (hother : MessageAct r request other) (client : ClientPtr) (entry : StLocalServiceItem) :
    other ≠ .listen true client entry := by
  intro heq
  cases hother with
  | listen hlistener hmem =>
    have hreg := (Act.listen.inj heq).1
    cases hact with
    | listen hclient hentry => exact Bool.noConfusion (hreg.symm.trans hdrops.1)
    | answer hquery hanswer => exact hquery
  | _ => cases heq

theorem listens_messageActs_iff (hwf : r.WellFormed) (hown : r.OwnId L) (hlistens : r.Listens L s) :
    Listens ((messageActs env r channel request).foldl perform r.toTables) L s ↔
      ¬ EndsSubscription L s r (env, .message channel request) := by
  have hexists : (r.service s).isSome := by
    obtain ⟨item, hservice, _⟩ := hlistens.service
    exact Option.isSome_of_eq_some hservice
  have hmidway : ∀ t act, act ∈ messageActs env r channel request → Cancelling r s request t →
      Cancelling r s request (t.perform act) :=
    fun t act hmem hmid => hmid.perform hwf hexists (messageAct_of_mem hmem)
  have hstep : ∀ t act, act ∈ messageActs env r channel request → Cancelling r s request t → t.Listens L s →
      ((t.perform act).Listens L s ↔ ¬ r.Drops L s act) := by
    intro t act hmem hmid hbefore
    have hact := messageAct_of_mem hmem
    rw [← hmid.drops_iff hact]
    exact listens_perform_iff hmid.wellFormed (hmid.same.ownId hown) (hact.allows hwf hmid.same) hact.onServices
      hbefore
  rw [endsSubscription_iff_drops]
  constructor
  · rintro hlast ⟨act, hmem, hdrops⟩
    have hback := fun t other (hother : other ∈ messageActs env r channel request) (hmid : Cancelling r s request t)
      (hafter : (t.perform other).Listens L s) =>
        listens_of_perform hmid.wellFormed (messageAct_of_mem hother).onServices
          (not_subscribe_of_drops (messageAct_of_mem hmem) hdrops (messageAct_of_mem hother)) hafter
    have hloop := (LoopMeets.of_last _ (fun t => t.Listens L s) hmidway hback (.start hwf) hlast).2
    have hturns := hloop.and (LoopMeets.of_invariant _ (fun _ _ _ hmid => hmid) hmidway (.start hwf))
    obtain ⟨t, ⟨hbefore, hafter⟩, hmid⟩ := hturns.of_mem hmem
    exact (hstep t act hmem hmid hbefore).mp hafter hdrops
  · intro hkept
    refine (foldl_invariant (fun t => Cancelling r s request t ∧ t.Listens L s) ?_ ⟨.start hwf, hlistens⟩).2
    rintro t act hmem ⟨hmid, hbefore⟩
    exact ⟨hmidway t act hmem hmid, (hstep t act hmem hmid hbefore).mpr fun hdrops => hkept ⟨act, hmem, hdrops⟩⟩

end Message

end Event

namespace LocalRegistry

section Subscribed

variable {r r' : LocalRegistry} {L : ClientPtr} {s : UInt32} {env : Env} {channel : SocketChannel}

variable {labels : List (Env × Event)} {entry : StLocalServiceItem} {label : Env × Event}

theorem Identified.ownId (h : r.Identified labels) (hlive : r.clients.Live L) :
    r.OwnId L :=
  fun _ hc hid => h.id_inj hc hlive hid

theorem step_listens_iff (h : r.Identified labels) (hlistens : r.Listens L s) (hstep : r.step label = some r') :
    r'.Listens L s ↔ ¬ EndsSubscription L s r label := by
  obtain ⟨env, event⟩ := label
  have hwf := h.wellFormed
  have hlive : r.clients.Live L := hwf.live_of_listens hlistens
  have hquiet : (∀ channel request, event ≠ .message channel request) → r'.Listens L s := by
    intro hevent
    rw [Listens, listeners_of_not_message hevent hstep, (step_keeps_client hwf hstep (hwf.live_named hlive)).2]
    exact hlistens
  cases event with
  | message channel request =>
    rw [step_tables hstep]
    exact listens_messageActs_iff hwf (h.ownId hlive) hlistens
  | connect channel => exact iff_of_true (hquiet (by simp)) id
  | close id => exact iff_of_true (hquiet (by simp)) fun hends => hends

theorem endsSubscription_of_stuck (hstuck : r.step label = none) :
    ¬ EndsSubscription L s r label := by
  obtain ⟨env, event⟩ := label
  cases event with
  | message channel request =>
    cases request with
    | register_service | listen_service => cases hstuck
    | _ => exact id
  | connect channel => exact id
  | close channel_id => exact fun hends => hends

theorem listens_of_listen_service (h : r.Identified labels) {msg : StListenService}
    (hreg : msg.reg = true) (hclient : named r msg.listener_client = some L)
    (hentry : entry ∈ msg.listen_services) (hstep : r.step (env, .message channel (.listen_service msg)) = some r') :
    r'.Listens L entry.service_id := by
  have hwf := h.wellFormed
  have hown := h.ownId (live_of_named hwf hclient)
  rw [step_tables hstep]
  have hmem : Act.listen true L entry ∈ messageActs env r channel (.listen_service msg) := by
    simpa [messageActs, hclient, hreg] using hentry
  refine foldl_established (Midway r) (fun t => t.Listens L entry.service_id) ?_ ?_ hmem ?_ (.start hwf)
  · exact fun t act hact hmid => hmid.perform hwf (messageAct_of_mem hact)
  · intro t act hact hmid hlistens
    have hact' := messageAct_of_mem hact
    refine (listens_perform_iff hmid.wellFormed (hmid.same.ownId hown) (hact'.allows hwf hmid.same)
      hact'.onServices hlistens).mpr ?_
    cases hact' with
    | listen hclient hentry => exact fun hdrops => Bool.noConfusion (hreg.symm.trans hdrops.1)
    | answer hquery hanswer => exact id
  · intro t hmid
    change (t.listenTables true L entry).Listens L entry.service_id
    rw [Listens, (SameClients.listenTables t true L entry).id L, listeners_listenTables hmid.wellFormed, if_pos rfl,
      listenersAfter, if_pos rfl, listenedItem_listeners, UnorderedMap.lookup_insertNew_self]
    cases hold : (t.listeners entry.service_id).lookup (t.client L).client_id with
    | none => rfl
    | some c =>
      exact congrArg some (hmid.same.ownId hown c (hmid.wellFormed.lookup_listeners_live hold)
        (hmid.wellFormed.lookup_listeners_id hold))

theorem heard_of_register_service (hwf : r.WellFormed) (hreliable : env.transport.Reliable) {msg : StRegisterService}
    (hreg : msg.reg = true) {client : ClientPtr}
    (hclient : named r msg.provider_client = some client) (hentry : entry ∈ msg.produce_services)
    (htype : entry.service_type = LOCAL_SERVICE_TYPE_METHOD) (hlistens : r.Listens L entry.service_id)
    {channel_id : UInt32} (hreach : r.Reaches L channel_id)
    (hstep : r.step (env, .message channel (.register_service msg)) = some r') :
    LOCAL_SERVICE_STATUS_AVAILABLE ∈ r'.heard r.sent.length entry.service_id channel_id := by
  have hmem : Act.register client entry ∈ messageActs env r channel (.register_service msg) := by
    simpa [messageActs, hclient, hreg] using hentry
  have hkeep : ∀ t act, act ∈ messageActs env r channel (.register_service msg) →
      Midway r t ∧ t.Listens L entry.service_id →
      Midway r (t.perform act) ∧ (t.perform act).Listens L entry.service_id := by
    rintro t act hact ⟨hmid, hbefore⟩
    refine ⟨hmid.perform hwf (messageAct_of_mem hact), ?_⟩
    cases messageAct_of_mem hact with
    | register => exact (listens_of_kept hmid.wellFormed (by trivial)).mpr hbefore
    | unregister hreg' => exact Bool.noConfusion (hreg.symm.trans hreg')
    | answer hquery hanswer => exact hquery.elim
  obtain ⟨frames, hsent, _, hwritten⟩ := foldl_perform_sent env r _ hkeep ⟨.start hwf, hlistens⟩
  have hsends : ∀ t, Midway r t ∧ t.Listens L entry.service_id → ∃ id msg,
      (Act.register client entry).Sends env t id msg ∧
        (id = channel_id ∧ msg.statusOf entry.service_id = some LOCAL_SERVICE_STATUS_AVAILABLE) := by
    rintro t ⟨hmid, hbefore⟩
    have hreach' := (hmid.same.reaches L channel_id).mpr hreach
    exact ⟨channel_id, _, .available htype hbefore hreach', rfl, if_pos rfl⟩
  obtain ⟨frame, hframe, hchannel, hstatus⟩ := hwritten hreliable _ hmem _ hsends
  have hsent' : r'.sent = r.sent ++ frames := by
    rw [step_acts hstep]
    exact hsent
  rw [heard, hsent', List.drop_left]
  exact mem_statusesTo.mpr ⟨frame, hframe, hchannel, hstatus⟩

end Subscribed

end LocalRegistry

/-- After `listen_service` with `reg = true` the client stays a listener exactly as long as
it does not cancel and no known client withdraws the service. Meanwhile the next
`register_service` of the method announces the service to it if it is online. -/
theorem subscription_lasts_until_ended {before after : List (Env × Event)} {env : Env} {channel : SocketChannel}
    {msg : StListenService} {s : UInt32} {L : ClientPtr} {r₀ r₁ : LocalRegistry}
    (hfresh : Meets LocalRegistry.step Event.FreshChannel LocalRegistry.init
      (before ++ (env, .message channel (.listen_service msg)) :: after))
    (hnames : (connectNames (before ++ (env, .message channel (.listen_service msg)) ::
      after)).toFinset.card < 2 ^ 32 - 1)
    (hbefore : daemonRun before = some r₀) (hclient : Event.named r₀ msg.listener_client = some L)
    (hreg : msg.reg = true) (hentry : ∃ entry ∈ msg.listen_services, entry.service_id = s)
    (hlabel : r₀.step (env, .message channel (.listen_service msg)) = some r₁) :
    (Throughout LocalRegistry.step (fun state => state.Listens L s) r₁ after ↔
      Meets LocalRegistry.step (fun state label => ¬ Event.EndsSubscription L s state label) r₁ after) ∧
    ∀ r, run LocalRegistry.step r₁ after = some r →
      Meets LocalRegistry.step (fun state label => ¬ Event.EndsSubscription L s state label) r₁ after →
      (r.client L).client_status = .ONLINE →
      ∀ env channel msg r', env.transport.Reliable → msg.reg = true → (Event.named r msg.provider_client).isSome →
        (∃ entry ∈ msg.produce_services, entry.service_id = s ∧ entry.service_type = LOCAL_SERVICE_TYPE_METHOD) →
        r.step (env, .message channel (.register_service msg)) = some r' →
        LOCAL_SERVICE_STATUS_AVAILABLE ∈ r'.heard r.sent.length s (r.client L).client_channel_id := by
  have hidentified := (init_identified hnames).run hbefore
  have hidentified₁ := hidentified.step hlabel
  have hlistens₁ : r₁.Listens L s := by
    obtain ⟨entry, hmem, rfl⟩ := hentry
    exact listens_of_listen_service hidentified hreg hclient hmem hlabel
  have hiff : Throughout step (fun state => state.Listens L s) r₁ after ↔
      Meets step (fun state label => ¬ EndsSubscription L s state label) r₁ after :=
    throughout_iff_meets Identified (fun _ _ _ _ h hstep => h.step hstep)
      (fun _ _ hstuck => endsSubscription_of_stuck hstuck)
      (fun _ _ _ _ h hlistens hstep => step_listens_iff h hlistens hstep) hidentified₁ hlistens₁
  refine ⟨hiff, ?_⟩
  intro r hrun hmeets honline env' channel' msg' r' hreliable hreg' hclient' hentry' hstep
  obtain ⟨entry, hmem, rfl, htype⟩ := hentry'
  obtain ⟨provider, hprovider⟩ := Option.isSome_iff_exists.mp hclient'
  have hlistens := (hiff.mpr hmeets).last hrun
  have hwf : r.WellFormed := run_wellFormed hidentified₁.wellFormed hrun
  have hconn : r.Connected := daemonRun_connected hfresh
    (run_append_eq_some.mpr ⟨r₀, hbefore, run_cons_eq_some.mpr ⟨r₁, hlabel, hrun⟩⟩)
  have hlive : r.clients.Live L := hwf.live_of_listens hlistens
  exact heard_of_register_service hwf hreliable hreg' hprovider hmem htype hlistens
    (hconn.reaches hwf hlive honline) hstep

/-- The provider of services 7 and 8 registers them, leaves and comes back, while another
client withdraws service 8. -/
def providerReconnects : List (Env × Event) :=
  [Peer.registers ⟨1, 11, ['a']⟩ true [⟨7, LOCAL_SERVICE_TYPE_METHOD, 0⟩, ⟨8, LOCAL_SERVICE_TYPE_METHOD, 0⟩],
    Peer.closes ⟨1, 11, ['a']⟩, Peer.registers ⟨2, 22, ['b']⟩ false [⟨8, LOCAL_SERVICE_TYPE_METHOD, 0⟩],
    Peer.connects ⟨3, 12, ['a']⟩]

theorem subscription_lasts_over_reconnect :
    ∃ r₀ r₁ r r', daemonRun [Peer.connects ⟨1, 11, ['a']⟩, Peer.connects ⟨2, 22, ['b']⟩] = some r₀ ∧
      r₀.step (Peer.listens ⟨2, 22, ['b']⟩ true [⟨7, LOCAL_SERVICE_TYPE_METHOD, 0⟩]) = some r₁ ∧
      run LocalRegistry.step r₁ providerReconnects = some r ∧
      r.step (Peer.registers ⟨3, 12, ['a']⟩ true [⟨7, LOCAL_SERVICE_TYPE_METHOD, 0⟩]) = some r' ∧
      Throughout LocalRegistry.step (fun state => state.Listens ⟨1⟩ 7) r₁ providerReconnects ∧
      LOCAL_SERVICE_STATUS_AVAILABLE ∈ r'.heard r.sent.length 7 (r.client ⟨1⟩).client_channel_id := by
  refine ⟨_, _, _, _, rfl, rfl, rfl, rfl, ?_⟩
  have hlasts := @subscription_lasts_until_ended
    [connects ⟨1, 11, ['a']⟩, connects ⟨2, 22, ['b']⟩] providerReconnects .plain
    (channel ⟨2, 22, ['b']⟩) ⟨[⟨7, LOCAL_SERVICE_TYPE_METHOD, 0⟩], some (item ⟨2, 22, ['b']⟩), true⟩
    7 ⟨1⟩ _ _ (by decide) (by decide) rfl (by decide) rfl (by decide) rfl
  refine ⟨hlasts.1.mpr (by decide), ?_⟩
  exact hlasts.2 _ rfl (by decide) (by decide) .plain (channel ⟨3, 12, ['a']⟩)
    ⟨[⟨7, LOCAL_SERVICE_TYPE_METHOD, 0⟩], some (item ⟨3, 12, ['a']⟩), true⟩ _ (by simp) rfl (by decide) (by decide)
    rfl

/-- A client that does not provide service 7 withdraws it, and the provider registers it
again. The client of pid 22 has not cancelled its subscription and is online, but it is no
listener any more and is told nothing. -/
theorem subscription_lost_by_withdrawal :
    ∃ r₁ r r', daemonRun
        [Peer.connects ⟨1, 11, ['a']⟩, Peer.connects ⟨2, 22, ['b']⟩, Peer.connects ⟨3, 33, ['c']⟩,
          Peer.registers ⟨1, 11, ['a']⟩ true [⟨7, LOCAL_SERVICE_TYPE_METHOD, 0⟩],
          Peer.listens ⟨2, 22, ['b']⟩ true [⟨7, LOCAL_SERVICE_TYPE_METHOD, 0⟩]] = some r₁ ∧
      r₁.step (Peer.registers ⟨3, 33, ['c']⟩ false [⟨7, LOCAL_SERVICE_TYPE_METHOD, 0⟩]) = some r ∧
      r.step (Peer.registers ⟨1, 11, ['a']⟩ true [⟨7, LOCAL_SERVICE_TYPE_METHOD, 0⟩]) = some r' ∧
      r₁.Listens ⟨1⟩ 7 ∧ (r'.client ⟨1⟩).client_status = .ONLINE ∧ ¬ r'.Listens ⟨1⟩ 7 ∧
      r'.heard r.sent.length 7 (r.client ⟨1⟩).client_channel_id = [] := by
  exact ⟨_, _, _, rfl, rfl, rfl, by decide, by decide, by decide, by decide⟩

end hub.local_registry
