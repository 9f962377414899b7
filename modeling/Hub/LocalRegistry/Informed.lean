import Hub.LocalRegistry.Told

namespace hub.local_registry

open Event LoopMeets

namespace Tables

section Keeps

variable {t : Tables} {s : UInt32} {L : ClientPtr}

theorem listens_perform_cases (hwf : t.WellFormed) {act : Act} (hservices : act.OnServices)
    (hafter : (t.perform act).Listens L s) :
    t.Listens L s ∨ ∃ entry, act = .listen true L entry ∧ entry.service_id = s := by
  cases act with
  | dropService | register | setStatus | reply => exact .inl ((listens_of_kept hwf (by trivial)).mp hafter)
  | unregister => exact .inl (listens_unregister.mp hafter).2
  | listen reg client entry =>
    rcases listens_listenTables hwf hafter with hbefore | ⟨rfl, rfl, rfl⟩
    · exact .inl hbefore
    · exact .inr ⟨entry, rfl, rfl⟩
  | _ => exact hservices.elim

theorem listens_of_perform (hwf : t.WellFormed) {act : Act} (hservices : act.OnServices)
    (hlisten : ∀ client entry, act ≠ .listen true client entry) (hafter : (t.perform act).Listens L s) :
    t.Listens L s :=
  (listens_perform_cases hwf hservices hafter).resolve_right fun ⟨entry, heq, _⟩ => hlisten L entry heq

/-- The listener is on the list, or its place there is free. -/
def HasPlace (t : Tables) (s : UInt32) (L : ClientPtr) : Prop :=
  t.Listens L s ∨ (t.listeners s).lookup (t.client L).client_id = none

theorem lookup_listeners_listen (hwf : t.WellFormed) (client : ClientPtr) (entry : StLocalServiceItem) {id : UInt32}
    {c : ClientPtr} (hlookup : (t.listeners s).lookup id = some c) :
    ((t.listenTables true client entry).listeners s).lookup id = some c := by
  rw [listeners_listenTables hwf]
  split
  · rename_i hs
    rw [hs] at hlookup
    rw [listenersAfter, if_pos rfl, listenedItem_listeners]
    exact UnorderedMap.lookup_insertNew_eq_some.mpr (.inl hlookup)
  · exact hlookup

theorem hasPlace_of_listen (hwf : t.WellFormed) {client : ClientPtr} {entry : StLocalServiceItem}
    (hafter : (t.listenTables true client entry).HasPlace s L) : t.HasPlace s L := by
  have hid := (SameClients.listenTables t true client entry).id L
  cases hlookup : (t.listeners s).lookup (t.client L).client_id with
  | none => exact .inr hlookup
  | some c =>
    have hkept := lookup_listeners_listen hwf client entry hlookup
    rw [HasPlace, Listens, hid, hkept] at hafter
    rcases hafter with heq | hnone
    · exact .inl (hlookup.trans heq)
    · cases hnone

end Keeps

end Tables

namespace Event

variable {r : LocalRegistry} {s : UInt32} {L : ClientPtr}

theorem keepsListener_messageActs (hwf : r.WellFormed) {env : Env} {channel : SocketChannel} {request : Request}
    (hlast : Tables.Listens ((messageActs env r channel request).foldl Tables.perform r.toTables) L s) :
    LoopMeets Tables.perform (fun t act => t.KeepsListener s L act) r.toTables
      (messageActs env r channel request) := by
  have hmidway : ∀ t act, act ∈ messageActs env r channel request → Midway r t → Midway r (t.perform act) :=
    fun t act hmem hmid => hmid.perform hwf (messageAct_of_mem hmem)
  by_cases hsubscribe : ∃ msg, request = .listen_service msg ∧ msg.reg = true
  · obtain ⟨msg, rfl, hreg⟩ := hsubscribe
    have hacts : ∀ act ∈ messageActs env r channel (.listen_service msg),
        ∃ client entry, act = .listen true client entry := by
      intro act hmem
      cases messageAct_of_mem hmem with
      | listen hclient hentry => exact ⟨_, _, by rw [hreg]⟩
      | answer hquery hanswer => exact hquery.elim
    have hplaces := (of_last (Midway r) (fun t => t.HasPlace s L) hmidway ?_ (.start hwf) (.inl hlast)).2
    · have hboth := hplaces.and (midway_messageActs hwf env channel (.listen_service msg))
      apply hboth.imp
      rintro t act hmem ⟨⟨_, hplace⟩, hmid⟩
      obtain ⟨client, entry, rfl⟩ := hacts act hmem
      refine ⟨fun hlistens => ?_, hplace⟩
      change (t.listenTables true client entry).Listens L s
      rw [Tables.Listens, (Tables.SameClients.listenTables t true client entry).id L]
      exact Tables.lookup_listeners_listen hmid.wellFormed client entry hlistens
    · intro t act hmem hmid hafter
      obtain ⟨client, entry, rfl⟩ := hacts act hmem
      exact Tables.hasPlace_of_listen hmid.wellFormed hafter
  · have hacts : ∀ act ∈ messageActs env r channel request, ∀ client entry, act ≠ .listen true client entry := by
      intro act hmem client entry heq
      cases messageAct_of_mem hmem with
      | listen hclient hentry => exact hsubscribe ⟨_, rfl, (Act.listen.inj heq).1⟩
      | _ => cases heq
    have hlistens := (of_last (Midway r) (fun t => t.Listens L s) hmidway ?_ (.start hwf) hlast).2
    · exact hlistens.imp fun t act _ hboth => ⟨fun _ => hboth.2, .inl hboth.2⟩
    · intro t act hmem hmid hafter
      exact Tables.listens_of_perform hmid.wellFormed (messageAct_of_mem hmem).onServices (hacts act hmem) hafter

theorem MessageAct.treatsAsMethod {request : Request} {act : Act} (hact : MessageAct r request act) {t : Tables}
    {n : Str} (hoffers : t.OffersFor s n act) : t.TreatsAsMethod s act := by
  cases hact with
  | register hreg hclient hentry => exact fun hs => (hoffers hs).1
  | listen hclient hentry => exact hoffers
  | answer hquery hanswer => exact hanswer
  | unregister | setStatus => trivial

end Event

theorem Tables.Connected.reaches {t : Tables} (hconn : t.Connected) (hwf : t.WellFormed) {c : ClientPtr}
    (hlive : t.clients.Live c) (honline : (t.client c).client_status = .ONLINE) :
    t.Reaches c (t.client c).client_channel_id := by
  obtain ⟨channel, hchannel⟩ := Option.isSome_iff_exists.mp ((hconn.online_iff (hwf.live_named hlive)).mp honline)
  exact ⟨honline, channel, hchannel, hwf.channels_keyed hchannel⟩

theorem Tables.Connected.hearing {t : Tables} (hconn : t.Connected) (hwf : t.WellFormed) {s : UInt32} {n : Str}
    (hone : t.OneProvider s n) {L : ClientPtr} (hlive : t.clients.Live L)
    (honline : (t.client L).client_status = .ONLINE) : t.Hearing s (t.client L).client_channel_id L where
  wellFormed := hwf
  reaches := hconn.reaches hwf hlive honline
  only := by
    rintro c hc ⟨_, channel, hchannel, hid⟩
    have hkey := hwf.channels_keyed hchannel
    exact hconn.channel_inj (hwf.live_named hc) (hwf.live_named hlive) (hkey.symm.trans hid)
  method := hone.method
  produced := fun hproduce => ((hone.owned _ _).mp hproduce).1

namespace Tables

variable {t : Tables} {s channel_id : UInt32} {L : ClientPtr}

section

variable (h : t.Hearing s channel_id L)

include h

theorem Hearing.takeOffline {A : ClientPtr} (hA : t.clients.Live A) (hL : L ≠ A) :
    (t.takeOffline A).Hearing s channel_id L where
  wellFormed := by
    have hwf : (t.perform (.takeOffline A)).WellFormed := h.wellFormed.perform hA
    exact hwf
  reaches := (t.reaches_takeOffline A L channel_id).mpr ⟨hL, h.reaches⟩
  only hlive hreach := h.only hlive ((t.reaches_takeOffline A _ channel_id).mp hreach).2
  method := h.method
  produced {c j} hproduce := by
    rw [Tables.takeOffline, client_setClient] at hproduce
    split at hproduce
    · exact h.produced (c := A) hproduce
    · exact h.produced hproduce

theorem Hearing.dropService (i : ItemPtr) :
    (t.perform (.dropService i)).Hearing s channel_id L where
  wellFormed := h.wellFormed.perform trivial
  reaches := h.reaches
  only := h.only
  method {item} hservice := by
    cases origin_perform h.wellFormed hservice with
    | kept hold | reset hold =>
      have htype := h.method hold
      exact htype
  produced := h.produced

theorem Hearing.tells_drops (hlistens : t.Listens L s) {is : List ItemPtr}
    (hproduced : ∀ i ∈ is, ∃ c, (t.client c).client_produce_services.lookup (t.item i).service_id = some i) :
    LoopMeets perform (Tells s channel_id L) t (is.map Act.dropService) := by
  have hmethod : ∀ i ∈ is, t.TreatsAsMethod s (.dropService i) := by
    intro i hi hs
    obtain ⟨c, hproduce⟩ := hproduced i hi
    rw [hs] at hproduce
    exact h.produced hproduce
  have hkeeps : ∀ t' : Tables, t'.Listens L s → ∀ i, (t'.perform (.dropService i)).Listens L s :=
    fun t' hbefore i => ((SameClients.setItem t' i _).listens_iff (listeners_resetStatus i s)).mpr hbefore
  refine of_invariant (fun t' => t'.Hearing s channel_id L ∧ t'.Listens L s ∧
    ∀ i ∈ is, t'.TreatsAsMethod s (.dropService i)) ?_ ?_ ⟨h, hlistens, hmethod⟩
  · rintro t' act hmem ⟨hhearing, hbefore, hmethod⟩
    obtain ⟨i, hi, rfl⟩ := List.mem_map.mp hmem
    have hafter := hkeeps t' hbefore i
    exact ⟨hhearing, trivial, trivial, hmethod i hi, fun _ => hafter, .inl hafter⟩
  · rintro t' act hmem ⟨hhearing, hbefore, hmethod⟩
    obtain ⟨i, _, rfl⟩ := List.mem_map.mp hmem
    refine ⟨hhearing.dropService i, hkeeps t' hbefore i, fun j hj hs => hmethod j hj ?_⟩
    have hitem : (t'.perform (.dropService i)).item j = if j = i then _ else t'.item j := item_setItem ..
    rw [hitem] at hs
    split at hs
    · rename_i hji
      rw [hji]
      exact hs
    · exact hs

end

end Tables

namespace LocalRegistry

/-- A client that is online, and what it knows of a service. -/
structure Informed (r : LocalRegistry) (since : Nat) (s : UInt32) (n : Str) (channel_id : UInt32) (L : ClientPtr) :
    Prop where
  wellFormed : r.WellFormed
  connected : r.Connected
  oneProvider : r.OneProvider s n
  live : r.clients.Live L
  online : (r.client L).client_status = .ONLINE
  channel : (r.client L).client_channel_id = channel_id
  told : r.Told since s channel_id L

section Step

variable {r r' : LocalRegistry} {since : Nat} {s : UInt32} {n : Str} {channel_id : UInt32} {L : ClientPtr} {env : Env}

theorem Informed.message (h : r.Informed since s n channel_id L) {channel : SocketChannel} {request : Request}
    (hreliable : env.transport.Reliable) (habout : AboutOneProvider s n (env, .message channel request))
    (hstep : r.step (env, .message channel request) = some r') (hlistens : r'.Listens L s) :
    r'.Told since s channel_id L ∧ (r'.client L).client_channel_id = channel_id := by
  have hwf := h.wellFormed
  have hacts := step_acts hstep
  have htables := step_tables hstep
  rw [htables] at hlistens
  have hkeeps := keepsListener_messageActs hwf hlistens
  have hstate : LoopMeets Tables.perform (fun t _ => Midway r t ∧ t.OneProvider s n) r.toTables
      (messageActs env r channel request) := by
    refine of_invariant _ (fun _ _ _ hinv => hinv) ?_ ⟨.start hwf, h.oneProvider⟩
    rintro t act hmem ⟨hmid, hone⟩
    have hact := messageAct_of_mem hmem
    exact ⟨hmid.perform hwf hact, hone.perform hmid.wellFormed (hact.offersFor habout hmid.same)⟩
  have htells : LoopMeets Tables.perform (Tables.Tells s channel_id L) r.toTables
      (messageActs env r channel request) := by
    apply (hkeeps.and hstate).imp
    rintro t act hmem ⟨hkeep, hmid, hone⟩
    have hact := messageAct_of_mem hmem
    have hhearing := (h.connected.sameClients hmid.same).hearing hmid.wellFormed hone (hmid.same.live.mpr h.live)
      ((hmid.same.status L).trans h.online)
    rw [hmid.same.channel_id L, h.channel] at hhearing
    exact ⟨hhearing, hact.allows hwf hmid.same, hact.onServices,
      hact.treatsAsMethod (hact.offersFor habout hmid.same), hkeep⟩
  constructor
  · rw [hacts]
    exact h.told.foldl hreliable htells
  · exact ((message_sameClients hstep).channel_id L).trans h.channel

theorem connect_frame {channel : SocketChannel} (hstep : r.step (env, .connect channel) = some r')
    (hlive : r.clients.Live L) (hopen : ((r.toTables.perform (.addChannel channel)).channelOf L).isSome) :
    r'.sent = r.sent ∧ (∀ s, r'.service s = r.service s) ∧ r'.client L = r.client L ∧ r'.clients.Live L := by
  rw [step_acts hstep]
  refine foldl_invariant (fun next : LocalRegistry => next.sent = r.sent ∧ (∀ s, next.service s = r.service s) ∧
    next.client L = r.client L ∧ next.clients.Live L) ?_ ⟨rfl, fun _ => rfl, rfl, hlive⟩
  rintro next act hmem ⟨hsent, hservice, hclient, hlive⟩
  cases eventAct_of_mem hmem with
  | addChannel => exact ⟨hsent, hservice, hclient, hlive⟩
  | @bringOnline _ client pid name hctrl hparse hlookup hclosed =>
    refine ⟨hsent, hservice, ?_, hlive⟩
    have hne : L ≠ client := by
      rintro rfl
      rw [hclosed] at hopen
      cases hopen
    exact (next.client_setClient client L _).trans ((if_neg hne).trans hclient)
  | createClient hctrl hparse hlookup =>
    exact ⟨hsent, hservice, (Heap.get_alloc_ne _ _ (Heap.ne_fresh hlive)).trans hclient, hlive.alloc _⟩

theorem Informed.connect (h : r.Informed since s n channel_id L) {channel : SocketChannel}
    (hfresh : channel.id ∉ r.m_server.issued) (hstep : r.step (env, .connect channel) = some r') :
    r'.Told since s channel_id L ∧ (r'.client L).client_channel_id = channel_id := by
  have hnamed := h.wellFormed.live_named h.live
  have hopen : ((r.toTables.perform (.addChannel channel)).channelOf L).isSome := by
    rw [h.connected.channelOf_addChannel hfresh hnamed]
    exact (h.connected.online_iff hnamed).mp h.online
  obtain ⟨hsent, hservice, hclient, _⟩ := connect_frame hstep h.live hopen
  refine ⟨h.told.congr hsent (hservice s) ?_, ?_⟩
  · rw [hclient]
  · rw [hclient]
    exact h.channel

theorem listeners_of_not_message {event : Event} (hevent : ∀ channel request, event ≠ .message channel request)
    (hstep : r.step (env, event) = some r') (s : UInt32) : r'.listeners s = r.listeners s := by
  rw [step_tables hstep]
  refine foldl_invariant (fun t : Tables => t.listeners s = r.listeners s) ?_ rfl
  intro t act hmem hsame
  cases eventAct_of_mem hmem with
  | dropService => exact (Tables.listeners_resetStatus _ s).trans hsame
  | message hact => exact absurd rfl (hevent _ _)
  | _ => exact hsame

theorem Informed.close (h : r.Informed since s n channel_id L) (hreliable : env.transport.Reliable) {id : UInt32}
    (hstep : r.step (env, .close id) = some r') (honline : (r'.client L).client_status = .ONLINE)
    (hlistens : r'.Listens L s) :
    r'.Told since s channel_id L ∧ (r'.client L).client_channel_id = channel_id := by
  have hwf := h.wellFormed
  rcases close_cases r env id with ⟨channel, A, hopen, hclient, hfind⟩ | ⟨_, _, _, hacts⟩ | ⟨_, hacts⟩
  · have hL : L ≠ A := by
      rintro rfl
      rw [close_client hopen hclient hfind hstep, if_pos rfl] at honline
      cases honline
    have hlive : r.clients.Live A := by
      obtain ⟨⟨name, hname⟩, _⟩ := findByChannel_some hfind
      exact hwf.names_live hname
    have hhearing := h.connected.hearing hwf h.oneProvider h.live h.online
    rw [h.channel] at hhearing
    have hrecord := close_client hopen hclient hfind hstep L
    rw [if_neg hL] at hrecord
    let r₁ := r.withTables (r.takeOffline A)
    have hkept : r₁.client L = r.client L := (r.client_setClient A L _).trans (if_neg hL)
    have hbefore : r₁.Listens L s := by
      rw [Tables.Listens, hrecord, listeners_of_not_message (by simp) hstep] at hlistens
      rw [Tables.Listens, hkept]
      exact hlistens
    have hstate := step_acts hstep
    rw [close_acts hopen hclient hfind, List.foldl_cons, List.foldl_append] at hstate
    have htold₁ : r₁.Told since s channel_id L := by
      refine h.told.congr rfl rfl ?_
      rw [hkept]
    have htells := (hhearing.takeOffline hlive hL).tells_drops hbefore fun i (hi : i ∈ produced env r A) => ?_
    · have htold := htold₁.foldl hreliable htells
      constructor
      · rw [hstate]
        exact htold.congr rfl rfl rfl
      · rw [hrecord]
        exact h.channel
    · obtain ⟨s', hproduce⟩ := mem_produced.mp hi
      refine ⟨A, ?_⟩
      have hid : ((r.takeOffline A).item i).service_id = s' := hwf.produce_keyed hproduce
      rw [hid, Tables.takeOffline, Tables.client_setClient_self]
      exact hproduce
  · have hstate := step_acts hstep
    rw [hacts] at hstate
    rw [hstate]
    exact ⟨h.told.congr rfl rfl rfl, h.channel⟩
  · have hstate := step_acts hstep
    rw [hacts] at hstate
    rw [hstate]
    exact ⟨h.told, h.channel⟩

theorem Informed.step (h : r.Informed since s n channel_id L) {label : Env × Event}
    (hfresh : FreshChannel r label) (habout : AboutOneProvider s n label)
    (hreliable : label.1.transport.Reliable) (hstep : r.step label = some r')
    (hlistens : r'.Listens L s) (honline : (r'.client L).client_status = .ONLINE) :
    r'.Informed since s n channel_id L := by
  obtain ⟨env, event⟩ := label
  have hwf := h.wellFormed
  have hwf' := step_wellFormed hwf hstep
  have hlive : r'.clients.Live L := hwf'.names_live (step_keeps_client hwf hstep (hwf.live_named h.live)).1
  have htold : r'.Told since s channel_id L ∧ (r'.client L).client_channel_id = channel_id := by
    cases event with
    | connect channel => exact h.connect hfresh hstep
    | close id => exact h.close hreliable hstep honline hlistens
    | message channel request => exact h.message hreliable habout hstep hlistens
  exact ⟨hwf', step_connected hwf h.connected hfresh hstep, step_oneProvider hwf h.oneProvider habout hstep,
    hlive, honline, htold.2, htold.1⟩

theorem Informed.run (h : r.Informed since s n channel_id L) {labels : List (Env × Event)}
    (hfresh : Meets LocalRegistry.step FreshChannel r labels)
    (habout : ∀ label ∈ labels, AboutOneProvider s n label)
    (hreliable : ∀ label ∈ labels, label.1.transport.Reliable)
    (hsince : Throughout LocalRegistry.step
      (fun state => state.Listens L s ∧ (state.client L).client_status = .ONLINE) r labels)
    (hrun : run LocalRegistry.step r labels = some r') : r'.Informed since s n channel_id L := by
  induction labels generalizing r with
  | nil =>
    cases hrun
    exact h
  | cons label labels ih =>
    obtain ⟨next, hnext, hrest⟩ := run_cons_eq_some.mp hrun
    obtain ⟨hlabel, habout⟩ := List.forall_mem_cons.mp habout
    obtain ⟨hlabel_reliable, hreliable⟩ := List.forall_mem_cons.mp hreliable
    obtain ⟨hlistens, honline⟩ := (hsince.2 next hnext).first
    exact ih (h.step hfresh.1 hlabel hlabel_reliable hnext hlistens honline) (hfresh.2 next hnext) habout hreliable
      (hsince.2 next hnext) hrest

theorem Informed.start (hwf : r.WellFormed) (hconn : r.Connected) (hone : r.OneProvider s n)
    (hlive : r.clients.Live L) (honline : (r.client L).client_status = .ONLINE) (hbefore : ¬ r.Listens L s) :
    r.Informed r.sent.length s n (r.client L).client_channel_id L := by
  have hheard : r.heard r.sent.length s (r.client L).client_channel_id = [] := by
    rw [heard, List.drop_length]
    rfl
  exact ⟨hwf, hconn, hone, hlive, honline, rfl, Nat.le_refl _, fun hL => absurd hL hbefore,
    fun hL => absurd hL hbefore, fun _ => hheard⟩

end Step

end LocalRegistry

/-- Messages treat `s` as a method and name one client for it, and frames are not lost. Then
the last status that a listener was told since the event `label` inserted it, while it
stayed online, is the current one; if it was told none, the service is not available. -/
theorem listener_told_current_status {before after : List (Env × Event)} {label : Env × Event} {r₀ r₁ r : LocalRegistry}
    {s : UInt32} {n : Str} {L : ClientPtr}
    (hfresh : Meets LocalRegistry.step Event.FreshChannel LocalRegistry.init (before ++ label :: after))
    (habout : ∀ other ∈ before ++ label :: after, Event.AboutOneProvider s n other)
    (hreliable : ∀ other ∈ label :: after, other.1.transport.Reliable)
    (hbefore : daemonRun before = some r₀) (hlabel : r₀.step label = some r₁)
    (hafter : run LocalRegistry.step r₁ after = some r) (hnew : ¬ r₀.Listens L s)
    (hsince : Throughout LocalRegistry.step
      (fun state => state.Listens L s ∧ (state.client L).client_status = .ONLINE) r₁ after) :
    ∃ item, r.service s = some item ∧
      (∀ v, (r.heard r₀.sent.length s (r.client L).client_channel_id).getLast? = some v →
        v = item.service_status) ∧
      (r.heard r₀.sent.length s (r.client L).client_channel_id = [] →
        item.service_status ≠ LOCAL_SERVICE_STATUS_AVAILABLE) := by
  have hwf := LocalRegistry.daemonRun_wellFormed hbefore
  obtain ⟨hlistens₁, honline₁⟩ := hsince.first
  -- A client becomes a listener by a message, and was connected before it.
  have hsame : Tables.SameClients r₀.toTables r₁.toTables := by
    obtain ⟨env, event⟩ := label
    have hquiet : (∀ channel request, event ≠ .message channel request) → r₀.Listens L s := by
      intro hevent
      rw [Tables.Listens, LocalRegistry.listeners_of_not_message hevent hlabel] at hlistens₁
      exact hwf.listens_of_lookup hlistens₁
    cases event with
    | message channel request => exact LocalRegistry.message_sameClients hlabel
    | connect channel | close id => exact absurd (hquiet (by simp)) hnew
  have hlive : r₁.clients.Live L := (LocalRegistry.step_wellFormed hwf hlabel).live_of_listens hlistens₁
  have hstart : r₀.Informed r₀.sent.length s n (r₀.client L).client_channel_id L := by
    refine .start hwf (LocalRegistry.daemonRun_connected hfresh.append_left hbefore) ?_ (hsame.live.mp hlive)
      ((hsame.status L).symm.trans honline₁) hnew
    exact LocalRegistry.daemonRun_oneProvider (List.forall_mem_append.mp habout).1 hbefore
  have hmeets := hfresh.append_right hbefore
  obtain ⟨hlabel_about, hafter_about⟩ := List.forall_mem_cons.mp (List.forall_mem_append.mp habout).2
  obtain ⟨hlabel_reliable, hafter_reliable⟩ := List.forall_mem_cons.mp hreliable
  have hinformed := (hstart.step hmeets.1 hlabel_about hlabel_reliable hlabel hlistens₁ honline₁).run
    (hmeets.2 r₁ hlabel) hafter_about hafter_reliable hsince hafter
  obtain ⟨hlistens, _⟩ := hsince.last hafter
  obtain ⟨item, hservice, _⟩ := Tables.lookup_listeners.mp hlistens
  rw [hinformed.channel]
  exact ⟨item, hservice, fun v hlast => hinformed.told.last hlistens hservice hlast,
    fun hnil => hinformed.told.untold hlistens hservice hnil⟩

/-- A listener comes before the provider, which starts, pauses, restarts and
withdraws another service. -/
def providerRestarts : List (Env × Event) :=
  [Peer.registers ⟨1, 11, ['a']⟩ true [⟨7, LOCAL_SERVICE_TYPE_METHOD, 0⟩, ⟨8, LOCAL_SERVICE_TYPE_METHOD, 0⟩],
    Peer.setsStatus ⟨1, 11, ['a']⟩ [⟨7, LOCAL_SERVICE_TYPE_METHOD, 5⟩],
    Peer.closes ⟨1, 11, ['a']⟩, Peer.connects ⟨3, 12, ['a']⟩,
    Peer.registers ⟨3, 12, ['a']⟩ true [⟨7, LOCAL_SERVICE_TYPE_METHOD, 0⟩],
    Peer.registers ⟨3, 12, ['a']⟩ false [⟨8, LOCAL_SERVICE_TYPE_METHOD, 0⟩]]

theorem listener_told_of_restarts :
    ∃ r₀ r₁ r, daemonRun [Peer.connects ⟨1, 11, ['a']⟩, Peer.connects ⟨2, 22, ['b']⟩] = some r₀ ∧
      r₀.step (Peer.listens ⟨2, 22, ['b']⟩ true [⟨7, LOCAL_SERVICE_TYPE_METHOD, 0⟩]) = some r₁ ∧
      run LocalRegistry.step r₁ providerRestarts = some r ∧
      r.heard r₀.sent.length 7 (r.client ⟨1⟩).client_channel_id = [1, 5, 0, 1] ∧
      ∃ item, r.service 7 = some item ∧ item.service_status = 1 := by
  refine ⟨_, _, _, rfl, rfl, rfl, by decide, ?_⟩
  obtain ⟨item, hservice, hlast, _⟩ := @listener_told_current_status
    [Peer.connects ⟨1, 11, ['a']⟩, Peer.connects ⟨2, 22, ['b']⟩] providerRestarts
    (Peer.listens ⟨2, 22, ['b']⟩ true [⟨7, LOCAL_SERVICE_TYPE_METHOD, 0⟩]) _ _ _ 7 ['a'] ⟨1⟩
    (by decide) (by decide) (by simp [providerRestarts]) rfl rfl rfl (by decide) (by decide)
  exact ⟨item, hservice, (hlast 1 (by decide)).symm⟩

end hub.local_registry
