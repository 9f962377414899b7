import Hub.LocalRegistry.Subscription
import Hub.Soa.View

namespace hub.local_registry

open Event soa.Client Tables

def payloadsTo (channel_id : UInt32) (frames : List Sent) : List Payload :=
  (frames.filter fun frame => frame.channel_id = channel_id).map Sent.payload

theorem mem_payloadsTo {channel_id : UInt32} {frames : List Sent} {payload : Payload} :
    payload ∈ payloadsTo channel_id frames ↔
      ∃ frame ∈ frames, frame.channel_id = channel_id ∧ frame.payload = payload := by
  simp [payloadsTo, and_assoc]

def Act.Answers : Act → Prop
  | .reply _ _ _ _ msg => msg.IsAnswer
  | _ => True

theorem Event.MessageAct.answers {r : LocalRegistry} {request : Request} {act : Act} (hact : MessageAct r request act) :
    act.Answers := by
  cases hact with
  | answer hquery hanswer => exact hanswer
  | _ => trivial

namespace Tables

variable {t : Tables} {s : UInt32} {L : ClientPtr}

variable {act : Act} {msg : Payload} {env : Env}

theorem sends_adds_reaches (hanswer : act.Answers) {channel_id k : UInt32}
    (hsends : act.Sends env t channel_id msg) (hadds : msg.Adds s k) : ∃ c, t.Reaches c channel_id := by
  cases hsends with
  | listenersTold hreach | listenerChanged hprovider hreach => exact ⟨_, hreach⟩
  | answered =>
    cases msg with
    | listener_change_to_provider => exact hanswer.elim
    | _ => exact hadds.elim
  | _ => exact hadds.elim

theorem sends_adds (hwf : t.WellFormed) (hown : t.OwnId L) (hallows : t.Allows act) (hanswer : act.Answers)
    {channel_id : UInt32} (hsends : act.Sends env t channel_id msg) (hadds : msg.Adds s (t.client L).client_id) :
    t.Listens L s ∨ ∃ entry, act = .listen true L entry ∧ entry.service_id = s := by
  cases hsends with
  | listenersTold hreach =>
    obtain ⟨rfl, _, item, hitem, hid⟩ := hadds
    obtain ⟨⟨id, c⟩, hvisit, rfl⟩ := List.mem_map.mp hitem
    have hlookup := env.order.mem_visit.mp hvisit
    obtain rfl : c = L := hown c (hwf.lookup_listeners_live hlookup) hid
    exact .inl (hwf.listens_of_lookup hlookup)
  | @listenerChanged reg client provider entry _ hprovider hreach =>
    obtain ⟨hs, rfl, item, hitem, hid⟩ := hadds
    obtain rfl := List.mem_singleton.mp hitem
    obtain rfl : client = L := hown client hallows hid
    exact .inr ⟨entry, rfl, (hwf.listenedItem_id entry).symm.trans hs⟩
  | answered =>
    cases msg with
    | listener_change_to_provider => exact hanswer.elim
    | _ => exact hadds.elim
  | _ => exact hadds.elim

end Tables

namespace Event

def Subscribes (L : ClientPtr) (s : UInt32) (r : LocalRegistry) (label : Env × Event) : Prop :=
  match label.2 with
  | .message _ (.listen_service msg) => msg.reg = true ∧ named r msg.listener_client = some L ∧
      ∃ entry ∈ msg.listen_services, entry.service_id = s
  | _ => False

instance (L : ClientPtr) (s : UInt32) (r : LocalRegistry) : ∀ label, Decidable (Subscribes L s r label)
  | (_, .message _ (.listen_service _)) => inferInstanceAs (Decidable (_ ∧ _))
  | (_, .message _ (.register_client ..)) | (_, .message _ (.get_client ..)) | (_, .message _ (.register_service _))
  | (_, .message _ (.get_service ..)) | (_, .message _ (.service_set_status _)) | (_, .message _ (.ctrl_get_clients _))
  | (_, .message _ (.ctrl_get_services _)) | (_, .connect _) | (_, .close _) => .isFalse id

theorem subscribes_of_listen {r : LocalRegistry} {request : Request} {L : ClientPtr} {entry : StLocalServiceItem}
    (hact : MessageAct r request (.listen true L entry)) (env : Env) (channel : SocketChannel) :
    Subscribes L entry.service_id r (env, .message channel request) := by
  generalize hlisten : Act.listen true L entry = act at hact
  cases hact with
  | listen hclient hentry =>
    obtain ⟨hreg, rfl, rfl⟩ := Act.listen.inj hlisten
    exact ⟨hreg.symm, hclient, entry, hentry, rfl⟩
  | _ => cases hlisten

end Event

namespace LocalRegistry

section Step

variable {r r' : LocalRegistry} {L : ClientPtr} {s : UInt32} {label : Env × Event}

theorem step_adds_frames {env : Env} {event : Event} (Inv : Tables → Prop)
    (hkeep : ∀ channel request, event = .message channel request → ∀ t act, MessageAct r request act →
      Inv t → Inv (t.perform act))
    (hstart : Inv r.toTables) (hstep : r.step (env, event) = some r') :
    ∃ frames, r'.sent = r.sent ++ frames ∧ ∀ frame ∈ frames, ∀ {s k}, frame.payload.Adds s k →
      ∃ channel request t act, event = .message channel request ∧ MessageAct r request act ∧ Inv t ∧
        act.Sends env t frame.channel_id frame.payload := by
  have hstate := step_acts hstep
  by_cases hmessage : ∃ channel request, event = .message channel request
  · obtain ⟨channel, request, rfl⟩ := hmessage
    have hacts : ∀ t act, act ∈ messageActs env r channel request → Inv t → Inv (t.perform act) :=
      fun t act hmem => hkeep channel request rfl t act (messageAct_of_mem hmem)
    obtain ⟨frames, hsent, honly, _⟩ := foldl_perform_sent env r Inv hacts hstart
    refine ⟨frames, (congrArg sent hstate).trans hsent, fun frame hframe _ _ _ => ?_⟩
    obtain ⟨t, act, hmem, hinv, hsends⟩ := honly frame hframe
    exact ⟨channel, request, t, act, rfl, messageAct_of_mem hmem, hinv, hsends⟩
  · obtain ⟨frames, hsent, honly, _⟩ :=
      foldl_perform_sent env r (fun _ => True) (fun _ _ (_ : _ ∈ event.acts env r) _ => trivial) trivial
    refine ⟨frames, (congrArg sent hstate).trans hsent, fun frame hframe _ _ hadds => ?_⟩
    obtain ⟨t, act, hmem, _, hsends⟩ := honly frame hframe
    generalize frame.payload = msg at hsends hadds
    cases eventAct_of_mem hmem with
    | dropService =>
      cases hsends with
      | dropped => exact hadds.elim
    | message hact => exact absurd ⟨_, _, rfl⟩ hmessage
    | _ => cases hsends

theorem step_adds (hwf : r.WellFormed) (hown : r.OwnId L) (hstep : r.step label = some r') :
    (r'.Listens L s → r.Listens L s ∨ Subscribes L s r label) ∧
      ∃ frames, r'.sent = r.sent ++ frames ∧ ∀ frame ∈ frames, frame.payload.Adds s (r.client L).client_id →
        r.Listens L s ∨ Subscribes L s r label := by
  obtain ⟨env, event⟩ := label
  let Inv : Tables → Prop := fun t => Midway r t ∧
    (t.Listens L s → r.Listens L s ∨ Subscribes L s r (env, event))
  have hkeep : ∀ channel request, event = .message channel request → ∀ t act, MessageAct r request act →
      Inv t → Inv (t.perform act) := by
    rintro channel request rfl t act hact ⟨hmid, hlistens⟩
    refine ⟨hmid.perform hwf hact, fun hafter => ?_⟩
    rcases listens_perform_cases hmid.wellFormed hact.onServices hafter with hbefore | ⟨entry, rfl, rfl⟩
    · exact hlistens hbefore
    · exact .inr (subscribes_of_listen hact env channel)
  have hstart : Inv r.toTables := ⟨.start hwf, .inl⟩
  constructor
  · by_cases hmessage : ∃ channel request, event = .message channel request
    · obtain ⟨channel, request, rfl⟩ := hmessage
      rw [step_tables hstep]
      exact (foldl_invariant Inv (fun t act hmem => hkeep channel request rfl t act (messageAct_of_mem hmem))
        hstart).2
    · intro hafter
      rw [Listens, listeners_of_not_message (fun channel request heq => hmessage ⟨channel, request, heq⟩) hstep]
        at hafter
      exact .inl (hwf.listens_of_lookup hafter)
  · obtain ⟨frames, hsent, hframes⟩ := step_adds_frames Inv hkeep hstart hstep
    refine ⟨frames, hsent, fun frame hframe hadds => ?_⟩
    obtain ⟨channel, request, t, act, rfl, hact, ⟨hmid, hlistens⟩, hsends⟩ := hframes frame hframe hadds
    rw [← hmid.same.id L] at hadds
    rcases sends_adds hmid.wellFormed (hmid.same.ownId hown) (hact.allows hwf hmid.same) hact.answers hsends
      hadds with hbefore | ⟨entry, rfl, rfl⟩
    · exact hlistens hbefore
    · exact .inr (subscribes_of_listen hact env channel)

end Step

/-- The process behind the channel, which started in the state `process channel_id` and has
read everything, has the client `k` among the listeners of the service. -/
def Shows (r : LocalRegistry) (process : UInt32 → soa.Client) (s channel_id k : UInt32) : Prop :=
  ((process channel_id).receives (payloadsTo channel_id r.sent)).Lists s k

instance (r : LocalRegistry) (process : UInt32 → soa.Client) (s channel_id k : UInt32) :
    Decidable (r.Shows process s channel_id k) :=
  inferInstanceAs (Decidable (((process channel_id).receives (payloadsTo channel_id r.sent)).Lists s k))

/-- The cancellation of `L` is in effect: it is no listener, no provider was told
of it as a listener since, and no process with an open channel has it on its own
list. -/
structure Cancelled (r : LocalRegistry) (process : UInt32 → soa.Client) (since : Nat) (s : UInt32) (L : ClientPtr) :
    Prop where
  unlisted : ¬ r.Listens L s
  silent : ∀ frame ∈ r.sent.drop since, ¬ frame.payload.Adds s (r.client L).client_id
  agreed : ∀ id, (r.m_server.getChannelById id).isSome → ¬ r.Shows process s id (r.client L).client_id

section Shows

variable {r r' : LocalRegistry} {process : UInt32 → soa.Client} {s channel_id k : UInt32} {frames : List Sent}

theorem receives_sent (hsent : r'.sent = r.sent ++ frames) :
    (process channel_id).receives (payloadsTo channel_id r'.sent) =
      ((process channel_id).receives (payloadsTo channel_id r.sent)).receives (payloadsTo channel_id frames) := by
  rw [hsent, payloadsTo, List.filter_append, List.map_append, receives, List.foldl_append]
  rfl

variable (hoffers : ∀ id, ((process id).find_service s).isSome)

include hoffers

theorem adds_of_shows (hsent : r'.sent = r.sent ++ frames) (hshows : r'.Shows process s channel_id k) :
    r.Shows process s channel_id k ∨ ∃ frame ∈ frames, frame.channel_id = channel_id ∧ frame.payload.Adds s k := by
  rw [Shows, receives_sent hsent] at hshows
  rcases adds_of_lists_receives (offers_receives (hoffers channel_id) _) hshows with
    hbefore | ⟨payload, hmem, hadds⟩
  · exact .inl hbefore
  · obtain ⟨frame, hframe, hid, rfl⟩ := mem_payloadsTo.mp hmem
    exact .inr ⟨frame, hframe, hid, hadds⟩

def ShownIssued (r : LocalRegistry) (process : UInt32 → soa.Client) (s k : UInt32) : Prop :=
  ∀ channel_id, r.Shows process s channel_id k → channel_id ∈ r.m_server.issued

theorem step_shownIssued {label : Env × Event}
    (hwf : r.WellFormed) (hconn : r.Connected) (hshown : r.ShownIssued process s k) (hstep : r.step label = some r') :
    r'.ShownIssued process s k := by
  intro channel_id hshows
  obtain ⟨env, event⟩ := label
  obtain ⟨frames, hsent, hframes⟩ := step_adds_frames (Midway r)
    (fun _ _ _ _ _ hact hmid => hmid.perform hwf hact) (.start hwf) hstep
  apply step_issued hwf hstep
  rcases adds_of_shows hoffers hsent hshows with hbefore | ⟨frame, hframe, rfl, hadds⟩
  · exact hshown channel_id hbefore
  · obtain ⟨_, _, t, act, _, hact, hmid, hsends⟩ := hframes frame hframe hadds
    obtain ⟨c, hreach⟩ := sends_adds_reaches hact.answers hsends hadds
    obtain ⟨_, channel, hchannel, hid⟩ := (hmid.same.reaches c _).mp hreach
    rw [← hid, hwf.channels_keyed hchannel]
    exact hconn.open_issued hchannel

theorem daemonRun_shownIssued (hnew : ∀ id, ¬ (process id).Lists s k) {labels : List (Env × Event)}
    (hfresh : Meets step FreshChannel init labels) (h : daemonRun labels = some r) :
    r.ShownIssued process s k := by
  refine (run_invariant_of_meets (fun next : LocalRegistry => next.WellFormed ∧ next.Connected ∧
    next.ShownIssued process s k) ?_ ⟨init_wellFormed, init_connected, ?_⟩ hfresh h).2.2
  · rintro state label next ⟨hwf, hconn, hshown⟩ hlabel hstep
    exact ⟨step_wellFormed hwf hstep, step_connected hwf hconn hlabel hstep,
      step_shownIssued hoffers hwf hconn hshown hstep⟩
  · exact fun channel_id hshows => absurd hshows (hnew channel_id)

variable {channel : SocketChannel} {msg : StListenService} {L : ClientPtr} {env : Env} (hreg : msg.reg = false)
  (hclient : named r msg.listener_client = some L) (hentry : ∃ entry ∈ msg.listen_services, entry.service_id = s)
  (hstep : r.step (env, .message channel (.listen_service msg)) = some r')

include hreg hclient hentry hstep

omit hoffers in
theorem cancel_frames (hwf : r.WellFormed) :
    ∃ frames, r'.sent = r.sent ++ frames ∧ (∀ frame ∈ frames, ¬ frame.payload.Adds s k) ∧
      (∀ frame ∈ frames, frame.payload.Removes s k → ∃ c, r.provider s = some c ∧ r.Reaches c frame.channel_id) ∧
      (env.transport.Reliable → ∀ c id, r.provider s = some c → r.Reaches c id →
        ∃ frame ∈ frames, frame.channel_id = id ∧ frame.payload.Removes s (r.client L).client_id) := by
  have hacts : messageActs env r channel (.listen_service msg) =
      msg.listen_services.map (Act.listen false L) := by
    simp [messageActs, hclient, hreg]
  let Inv : Tables → Prop := fun t => Midway r t ∧ t.provider s = r.provider s
  have hkeep : ∀ t act, act ∈ messageActs env r channel (.listen_service msg) → Inv t → Inv (t.perform act) := by
    rintro t act hmem ⟨hmid, hprovider⟩
    refine ⟨hmid.perform hwf (messageAct_of_mem hmem), ?_⟩
    rw [hacts] at hmem
    obtain ⟨entry, _, rfl⟩ := List.mem_map.mp hmem
    exact (provider_listenTables hmid.wellFormed false L entry _).trans hprovider
  obtain ⟨frames, hsent, honly, hwritten⟩ := foldl_perform_sent env r Inv hkeep ⟨.start hwf, rfl⟩
  have hframe : ∀ frame ∈ frames, ¬ frame.payload.Adds s k ∧
      (frame.payload.Removes s k → ∃ c, r.provider s = some c ∧ r.Reaches c frame.channel_id) := by
    intro frame hmem
    obtain ⟨t, act, hact, ⟨hmid, hprovider⟩, hsends⟩ := honly frame hmem
    rw [hacts] at hact
    obtain ⟨entry, _, rfl⟩ := List.mem_map.mp hact
    generalize frame.payload = payload at hsends
    cases hsends with
    | @listenerChanged _ _ c _ _ hlistened hreach =>
      refine ⟨fun hadds => Bool.noConfusion hadds.2.1, fun hremoves => ?_⟩
      have hs : entry.service_id = s := (hmid.wellFormed.listenedItem_id entry).symm.trans hremoves.1
      rw [listenedItem_provider, hs, hprovider] at hlistened
      exact ⟨c, hlistened, (hmid.same.reaches c _).mp hreach⟩
  refine ⟨frames, (congrArg sent (step_acts hstep)).trans hsent, fun frame hmem => (hframe frame hmem).1,
    fun frame hmem => (hframe frame hmem).2, ?_⟩
  intro hreliable c id hprovider hreach
  obtain ⟨entry, hmem, rfl⟩ := hentry
  have hact : Act.listen false L entry ∈ messageActs env r channel (.listen_service msg) := by
    rw [hacts]
    exact List.mem_map_of_mem hmem
  refine hwritten hreliable _ hact
    (fun channel_id payload => channel_id = id ∧ payload.Removes entry.service_id (r.client L).client_id) ?_
  rintro t ⟨hmid, hsame⟩
  have hlistened := (t.listenedItem_provider entry).trans (hsame.trans hprovider)
  have hreach' := (hmid.same.reaches c id).mpr hreach
  refine ⟨id, _, .listenerChanged hlistened hreach', rfl, hmid.wellFormed.listenedItem_id entry, rfl, ?_⟩
  exact congrArg some (hmid.same.id L)

theorem cancel_shows_iff (hwf : r.WellFormed) (hreliable : env.transport.Reliable) :
    r'.Shows process s channel_id (r.client L).client_id ↔
      r.Shows process s channel_id (r.client L).client_id ∧
        ¬ ∃ c, r.provider s = some c ∧ r.Reaches c channel_id := by
  obtain ⟨frames, hsent, hnone, hremoved, htold⟩ :=
    cancel_frames (k := (r.client L).client_id) hreg hclient hentry hstep hwf
  have hoffers' := offers_receives (hoffers channel_id) (payloadsTo channel_id r.sent)
  have hsilent : ∀ payload ∈ payloadsTo channel_id frames, ¬ payload.Adds s (r.client L).client_id := by
    intro payload hpayload
    obtain ⟨frame, hmem, _, rfl⟩ := mem_payloadsTo.mp hpayload
    exact hnone frame hmem
  constructor
  · intro hshows
    constructor
    · rcases adds_of_shows hoffers hsent hshows with hbefore | ⟨frame, hmem, _, hadds⟩
      · exact hbefore
      · exact absurd hadds (hnone frame hmem)
    · rintro ⟨c, hprovider, hreach⟩
      obtain ⟨frame, hmem, hid, hremoves⟩ := htold hreliable c channel_id hprovider hreach
      rw [Shows, receives_sent hsent] at hshows
      exact not_lists_receives_of_removes hoffers' hsilent
        ⟨frame.payload, mem_payloadsTo.mpr ⟨frame, hmem, hid, rfl⟩, hremoves⟩ hshows
  · rintro ⟨hshows, hother⟩
    rw [Shows, receives_sent hsent]
    refine lists_receives_of_not_removes hoffers' hshows fun payload hpayload hremoves => hother ?_
    obtain ⟨frame, hmem, rfl, rfl⟩ := mem_payloadsTo.mp hpayload
    exact hremoved frame hmem hremoves

theorem cancelled_iff {labels : List (Env × Event)} (hidentified : r.Identified labels)
    (hreliable : env.transport.Reliable) :
    r'.Cancelled process r.sent.length s L ↔
      (r.Listens L s → (r.service s).map LocalServiceItem.service_type = some LOCAL_SERVICE_TYPE_METHOD) ∧
      ∀ id, (r.m_server.getChannelById id).isSome → r.Shows process s id (r.client L).client_id →
        ∃ c, r.provider s = some c ∧ r.Reaches c id := by
  have hwf := hidentified.wellFormed
  have hlive := live_of_named hwf hclient
  have hsame := message_sameClients hstep
  have hnot : ¬ Subscribes L s r (env, .message channel (.listen_service msg)) :=
    fun hsub => Bool.noConfusion (hreg.symm.trans hsub.1)
  have hlistens := (step_adds (s := s) hwf (hidentified.ownId hlive) hstep).1
  obtain ⟨frames, hsent, hnone, _⟩ := cancel_frames (k := (r.client L).client_id) hreg hclient hentry hstep hwf
  have hunlisted : ¬ r'.Listens L s ↔
      (r.Listens L s → (r.service s).map LocalServiceItem.service_type = some LOCAL_SERVICE_TYPE_METHOD) := by
    by_cases hbefore : r.Listens L s
    · rw [step_listens_iff hidentified hbefore hstep, not_not]
      exact ⟨fun hends _ => hends.2.2.1, fun htype => ⟨hreg, hclient, htype hbefore, hentry⟩⟩
    · exact iff_of_true (fun hafter => (hlistens hafter).elim hbefore hnot) fun h => absurd h hbefore
  have hshows : ∀ id, r'.Shows process s id (r.client L).client_id ↔
      r.Shows process s id (r.client L).client_id ∧ ¬ ∃ c, r.provider s = some c ∧ r.Reaches c id :=
    fun id => cancel_shows_iff hoffers hreg hclient hentry hstep hwf hreliable
  constructor
  · intro h
    refine ⟨hunlisted.mp h.unlisted, fun id hopen hbefore => ?_⟩
    by_contra hother
    refine h.agreed id ?_ ?_
    · rw [hsame.server]
      exact hopen
    · rw [hsame.id L]
      exact (hshows id).mpr ⟨hbefore, hother⟩
  · rintro ⟨htype, hproviders⟩
    refine ⟨hunlisted.mpr htype, ?_, ?_⟩
    · intro frame hframe
      rw [hsent, List.drop_left] at hframe
      rw [hsame.id L]
      exact hnone frame hframe
    · intro id hopen hafter
      rw [hsame.server] at hopen
      rw [hsame.id L] at hafter
      obtain ⟨hbefore, hother⟩ := (hshows id).mp hafter
      exact hother (hproviders id hopen hbefore)

end Shows

section Cancelled

variable {r r' : LocalRegistry} {process : UInt32 → soa.Client} {since : Nat} {s : UInt32} {L : ClientPtr}

variable {labels : List (Env × Event)} (hoffers : ∀ id, ((process id).find_service s).isSome)

include hoffers

theorem Cancelled.step {label : Env × Event} (h : r.Cancelled process since s L) (hidentified : r.Identified labels)
    (hlive : r.clients.Live L) (hsince : since ≤ r.sent.length)
    (hshown : r.ShownIssued process s (r.client L).client_id) (hfresh : FreshChannel r label)
    (hnot : ¬ Subscribes L s r label) (hstep : r.step label = some r') :
    r'.Cancelled process since s L ∧ since ≤ r'.sent.length := by
  have hwf := hidentified.wellFormed
  have hid := (step_keeps_client hwf hstep (hwf.live_named hlive)).2
  obtain ⟨hlistens, frames, hsent, hadds⟩ := step_adds (s := s) hwf (hidentified.ownId hlive) hstep
  have hquiet : ¬ (r.Listens L s ∨ Subscribes L s r label) := not_or.mpr ⟨h.unlisted, hnot⟩
  have hlength : since ≤ r'.sent.length := by
    rw [hsent, List.length_append]
    omega
  refine ⟨⟨fun hafter => hquiet (hlistens hafter), ?_, ?_⟩, hlength⟩
  · intro frame hframe
    rw [hsent, List.drop_append_of_le_length hsince] at hframe
    rw [hid]
    rcases List.mem_append.mp hframe with hold | hnew
    · exact h.silent frame hold
    · exact fun hframe_adds => hquiet (hadds frame hnew hframe_adds)
  · intro id hopen hshows
    rw [hid] at hshows
    rcases adds_of_shows hoffers hsent hshows with hbefore | ⟨frame, hframe, _, hframe_adds⟩
    · rcases step_open hstep hopen with hold | ⟨channel, hconnect, rfl⟩
      · exact h.agreed id hold hbefore
      · obtain ⟨env, event⟩ := label
        obtain rfl : event = .connect channel := hconnect
        exact hfresh (hshown channel.id hbefore)
    · exact hquiet (hadds frame hframe hframe_adds)

theorem Cancelled.run (h : r.Cancelled process since s L) (hidentified : r.Identified labels) (hconn : r.Connected)
    (hlive : r.clients.Live L) (hsince : since ≤ r.sent.length)
    (hshown : r.ShownIssued process s (r.client L).client_id) (hfresh : Meets LocalRegistry.step FreshChannel r labels)
    (hnot : Meets LocalRegistry.step (fun state label => ¬ Subscribes L s state label) r labels)
    (hrun : run LocalRegistry.step r labels = some r') : r'.Cancelled process since s L := by
  induction labels generalizing r with
  | nil =>
    cases hrun
    exact h
  | cons label labels ih =>
    obtain ⟨next, hnext, hrest⟩ := run_cons_eq_some.mp hrun
    have hwf := hidentified.wellFormed
    obtain ⟨hname, hid⟩ := step_keeps_client hwf hnext (hwf.live_named hlive)
    obtain ⟨hcancelled, hlength⟩ := h.step hoffers hidentified hlive hsince hshown hfresh.1 hnot.1 hnext
    have hshown' := step_shownIssued hoffers hwf hconn hshown hnext
    rw [← hid] at hshown'
    exact ih hcancelled (hidentified.step hnext) (step_connected hwf hconn hfresh.1 hnext)
      ((step_wellFormed hwf hnext).names_live hname) hlength hshown' (hfresh.2 next hnext) (hnot.2 next hnext) hrest

end Cancelled

end LocalRegistry

open LocalRegistry

/-- The processes offer service `s` from their start, without `L` among its listeners. Then
a cancellation by `L` is in effect from then on, until `L` subscribes again, exactly when
the daemon has not listed `L` for an event, and no process has `L` on its list but the
current provider of `s`, which is told. -/
theorem cancellation_holds_iff {process : UInt32 → soa.Client} {before : List (Env × Event)} {env : Env}
    {channel : SocketChannel} {msg : StListenService} {s : UInt32} {L : ClientPtr} {r₀ r₁ : LocalRegistry}
    (hoffers : ∀ id, ((process id).find_service s).isSome)
    (hnew : ∀ id, ¬ (process id).Lists s (r₀.client L).client_id)
    (hfresh : Meets LocalRegistry.step Event.FreshChannel LocalRegistry.init before)
    (hnames : (connectNames before).toFinset.card < 2 ^ 32 - 1) (hbefore : daemonRun before = some r₀)
    (hclient : Event.named r₀ msg.listener_client = some L) (hreg : msg.reg = false)
    (hentry : ∃ entry ∈ msg.listen_services, entry.service_id = s) (hreliable : env.transport.Reliable)
    (hcancel : r₀.step (env, .message channel (.listen_service msg)) = some r₁) :
    (∀ after r, (connectNames (before ++ after)).toFinset.card < 2 ^ 32 - 1 →
      Meets LocalRegistry.step Event.FreshChannel r₁ after →
      Meets LocalRegistry.step (fun state label => ¬ Event.Subscribes L s state label) r₁ after →
      run LocalRegistry.step r₁ after = some r → r.Cancelled process r₀.sent.length s L) ↔
    (r₀.Listens L s → (r₀.service s).map LocalServiceItem.service_type = some LOCAL_SERVICE_TYPE_METHOD) ∧
      ∀ id, (r₀.m_server.getChannelById id).isSome → r₀.Shows process s id (r₀.client L).client_id →
        ∃ c, r₀.provider s = some c ∧ r₀.Reaches c id := by
  have hidentified₀ : r₀.Identified [] := by
    rw [← List.append_nil before] at hnames
    exact (init_identified hnames).run hbefore
  have hiff := cancelled_iff hoffers hreg hclient hentry hcancel hidentified₀ hreliable
  constructor
  · intro h
    exact hiff.mp (h [] r₁ (by rwa [List.append_nil]) trivial trivial rfl)
  · intro hcond after r hafter hfresh₁ hnot hrun
    have hwf := hidentified₀.wellFormed
    have hconn := daemonRun_connected hfresh hbefore
    have hnames' : (connectNames (before ++ (env, message channel (.listen_service msg)) :: after)).toFinset.card <
        2 ^ 32 - 1 := by
      have hsame : connectNames (before ++ (env, message channel (.listen_service msg)) :: after) =
          connectNames (before ++ after) := by
        simp [connectNames, connectName]
      rwa [hsame]
    have hidentified₁ := ((init_identified hnames').run hbefore).step hcancel
    have hlive := live_of_named hwf hclient
    obtain ⟨hname, hid⟩ := step_keeps_client hwf hcancel (hwf.live_named hlive)
    obtain ⟨frames, hsent, _⟩ := cancel_frames (k := s) hreg hclient hentry hcancel hwf
    have hshown := step_shownIssued hoffers hwf hconn
      (daemonRun_shownIssued hoffers hnew hfresh hbefore) hcancel
    rw [← hid] at hshown
    have hsilent : FreshChannel r₀ (env, .message channel (.listen_service msg)) := trivial
    refine (hiff.mpr hcond).run hoffers hidentified₁ (step_connected hwf hconn hsilent hcancel)
      (hidentified₁.wellFormed.names_live hname) ?_ hshown hfresh₁ hnot hrun
    rw [hsent, List.length_append]
    omega

def offersSeven : soa.Client :=
  (soa.Client.empty.save_service 7 LOCAL_SERVICE_TYPE_METHOD LOCAL_SERVICE_STATUS_AVAILABLE none).2

def listenedTo (service_type : UInt32) : List (Env × Event) :=
  [Peer.connects ⟨1, 11, ['a']⟩, Peer.connects ⟨2, 22, ['b']⟩,
    Peer.registers ⟨1, 11, ['a']⟩ true [⟨7, service_type, 0⟩],
    Peer.listens ⟨2, 22, ['b']⟩ true [⟨7, service_type, 0⟩]]

theorem cancellation_holds_for_method :
    ∃ r₀ r₁ r, daemonRun (listenedTo LOCAL_SERVICE_TYPE_METHOD) = some r₀ ∧
      r₀.step (Peer.listens ⟨2, 22, ['b']⟩ false [⟨7, LOCAL_SERVICE_TYPE_METHOD, 0⟩]) = some r₁ ∧
      r₁.step (Peer.registers ⟨1, 11, ['a']⟩ true [⟨7, LOCAL_SERVICE_TYPE_METHOD, 0⟩]) = some r ∧
      r₀.Listens ⟨1⟩ 7 ∧ r₀.Shows (fun _ => offersSeven) 7 1 (r₀.client ⟨1⟩).client_id ∧
      r.Cancelled (fun _ => offersSeven) r₀.sent.length 7 ⟨1⟩ := by
  refine ⟨_, _, _, rfl, rfl, rfl, by decide, by decide, ?_⟩
  have hoffers : (offersSeven.find_service 7).isSome := by decide
  have hnew : ∀ k, ¬ offersSeven.Lists 7 k := by
    rintro k ⟨it, hfind, hlookup⟩
    cases hfind
    cases hlookup
  refine (@cancellation_holds_iff (fun _ => offersSeven) (listenedTo LOCAL_SERVICE_TYPE_METHOD) .plain
    (Peer.channel ⟨2, 22, ['b']⟩)
    ⟨[⟨7, LOCAL_SERVICE_TYPE_METHOD, 0⟩], some (Peer.item ⟨2, 22, ['b']⟩), false⟩ 7 ⟨1⟩ _ _
    (fun _ => hoffers) (fun _ => hnew _) (by decide) (by decide) rfl rfl rfl (by decide) (by simp) rfl).mpr ?_
    [Peer.registers ⟨1, 11, ['a']⟩ true [⟨7, LOCAL_SERVICE_TYPE_METHOD, 0⟩]] _ (by decide) (by decide) (by decide) rfl
  refine ⟨fun _ => by decide, fun id hopen hshows => ?_⟩
  have hmem : id ∈ ([2, 1] : List UInt32) := AList.lookup_isSome.mp hopen
  obtain rfl | rfl : id = 2 ∨ id = 1 := by simpa using hmem
  · exact absurd hshows (by decide)
  · exact ⟨⟨0⟩, by decide, by decide, _, rfl, rfl⟩

/-- After its cancellation of the event, client `b` is still a listener for the daemon, and
the provider is told of it again when it registers the service once more. -/
theorem cancellation_lost_for_event :
    ∃ r₀ r₁ r, daemonRun (listenedTo LOCAL_SERVICE_TYPE_EVENT) = some r₀ ∧
      r₀.step (Peer.listens ⟨2, 22, ['b']⟩ false [⟨7, LOCAL_SERVICE_TYPE_EVENT, 0⟩]) = some r₁ ∧
      r₁.step (Peer.registers ⟨1, 11, ['a']⟩ true [⟨7, LOCAL_SERVICE_TYPE_EVENT, 0⟩]) = some r ∧
      r₁.Listens ⟨1⟩ 7 ∧ ¬ r₁.Shows (fun _ => offersSeven) 7 1 (r₁.client ⟨1⟩).client_id ∧
      ∃ frame ∈ r.sent.drop r₁.sent.length, frame.payload.Adds 7 (r₁.client ⟨1⟩).client_id := by
  exact ⟨_, _, _, rfl, rfl, rfl, by decide, by decide, by decide⟩

end hub.local_registry
