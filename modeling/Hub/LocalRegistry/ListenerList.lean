import Hub.Lib.FixedArray
import Hub.LocalRegistry.Crowd

namespace hub.local_registry

open Event

namespace LocalRegistry

/-- `e2c_msg.listener_clients` of `register_service`, which its loop fills without looking at
the size. There is no array when a write lands outside. -/
def fill_listener_clients (env : Env) (r : LocalRegistry) (service_item : ItemPtr) :
    Option (FixedArray StLocalClientItem LOCAL_REGISTRY_CLIENT_ONCE_COUNT_MAX) :=
  FixedArray.empty.pushAll ((env.order.visit (r.item service_item).service_listeners).map
    fun listener => r.clientItem listener.2)

def tell_provider_bounded (env : Env) (r : LocalRegistry) (client : ClientPtr) (service_item : ItemPtr) :
    Option LocalRegistry :=
  if (r.client client).client_status = .ONLINE then
    (fill_listener_clients env r service_item).map fun listener_clients =>
      notify env r client LOCAL_REGISTRY_SERVICE_ID_EVENT_LISTENER_CHANGE_TO_PROVIDER
        (.listener_change_to_provider
          { service_id := (r.item service_item).service_id
            listener_clients := listener_clients.items
            reg := true })
  else some r

def register_one_bounded (env : Env) (client : ClientPtr) (r : LocalRegistry) (entry : StLocalServiceItem) :
    Option LocalRegistry :=
  let service_item := r.registeredItem entry
  let r := r.withTables (r.offerItem client entry)
  let r := r.withTables (r.addProduce client entry.service_id service_item)
  (tell_provider_bounded env r client service_item).map fun r => tell_available env r client service_item

def register_service_bounded (env : Env) (r : LocalRegistry) (msg : StRegisterService) :
    Option (Int × LocalRegistry) :=
  match msg.provider_client with
  | none => some (-1, r)
  | some provider_client =>
    if msg.produce_services.length = 0 then some (0, r)
    else
      match r.m_clients_by_name.lookup provider_client.client_name with
      | none => some (-1, r)
      | some client =>
        if msg.reg then (run (register_one_bounded env client) r msg.produce_services).map fun r => (0, r)
        else some (0, msg.produce_services.foldl (unregister_one env client) r)

/-- The listeners of `s` that the `LISTENER_CHANGE_TO_PROVIDER` messages among the frames
report to one channel, in the order in which they are sent. -/
def toldListeners (s channel_id : UInt32) (frames : List Sent) : List StLocalClientItem :=
  frames.flatMap fun frame =>
    match frame.payload with
    | .listener_change_to_provider e2c_msg =>
      if frame.channel_id = channel_id ∧ e2c_msg.service_id = s ∧ e2c_msg.reg = true then e2c_msg.listener_clients
      else []
    | _ => []

end LocalRegistry

namespace Tables

def listenerItems (env : Env) (t : Tables) (s : UInt32) : List StLocalClientItem :=
  (env.order.visit (t.listeners s)).map fun listener => t.clientItem listener.2

/-- The loop over `service_listeners` writes inside the array of the message, if it runs. -/
def ListFits (t : Tables) (client : ClientPtr) (s : UInt32) : Prop :=
  (t.client client).client_status = .ONLINE → (t.listeners s).keys.length ≤ LOCAL_REGISTRY_CLIENT_ONCE_COUNT_MAX

structure Registering (t t' : Tables) : Prop where
  wellFormed : t'.WellFormed
  same : SameClients t t'
  listeners : ∀ s, t'.listeners s = t.listeners s

variable {t t' t'' : Tables} {client : ClientPtr}

theorem Registering.refl (hwf : t.WellFormed) : Registering t t :=
  ⟨hwf, .refl t, fun _ => rfl⟩

theorem Registering.trans (h : Registering t t') (h' : Registering t' t'') : Registering t t'' where
  wellFormed := h'.wellFormed
  same := h.same.trans h'.same
  listeners s := (h'.listeners s).trans (h.listeners s)

theorem WellFormed.registering (hwf : t.WellFormed) (hlive : t.clients.Live client) (entry : StLocalServiceItem) :
    Registering t (t.registerTables client entry) where
  wellFormed := hwf.registerTables hlive entry
  same := .registerTables t client entry
  listeners := listeners_registerTables hwf client entry

theorem Registering.listFits_iff (h : Registering t t') (s : UInt32) : t'.ListFits client s ↔ t.ListFits client s := by
  rw [ListFits, ListFits, h.same.status, h.listeners]

theorem Registering.listenerItems (h : Registering t t') (env : Env) (s : UInt32) :
    t'.listenerItems env s = t.listenerItems env s := by
  unfold Tables.listenerItems
  rw [h.listeners]
  simp only [h.same.clientItem]

theorem length_listenerItems (env : Env) (t : Tables) (s : UInt32) :
    (t.listenerItems env s).length = (t.listeners s).keys.length := by
  rw [listenerItems, List.length_map, env.order.length_visit]

def reported (env : Env) (t : Tables) (client : ClientPtr) (s : UInt32) : List StLocalClientItem :=
  if (t.client client).client_status = .ONLINE ∧ (t.channelOf client).isSome = true then t.listenerItems env s else []

theorem Registering.reported (h : Registering t t') (env : Env) (s : UInt32) :
    t'.reported env client s = t.reported env client s := by
  rw [Tables.reported, Tables.reported, h.same.status, h.same.channelOf, h.listenerItems]

theorem exists_reaches_iff (t : Tables) (client : ClientPtr) :
    (∃ channel_id, t.Reaches client channel_id) ↔
      (t.client client).client_status = .ONLINE ∧ (t.channelOf client).isSome = true := by
  rw [Option.isSome_iff_exists]
  constructor
  · rintro ⟨_, honline, channel, hchannel, -⟩
    exact ⟨honline, channel, hchannel⟩
  · rintro ⟨honline, channel, hchannel⟩
    exact ⟨channel.id, honline, channel, hchannel, rfl⟩

end Tables

namespace LocalRegistry

section Told

variable {s channel_id : UInt32}

theorem toldListeners_append (first second : List Sent) :
    toldListeners s channel_id (first ++ second) = toldListeners s channel_id first ++
      toldListeners s channel_id second :=
  List.flatMap_append

end Told

variable {env : Env} {r r' : LocalRegistry} {client : ClientPtr} {entry : StLocalServiceItem}

theorem tell_provider_bounded_eq_some {service_item : ItemPtr} :
    tell_provider_bounded env r client service_item = some r' ↔
      ((r.client client).client_status = .ONLINE →
        (r.item service_item).service_listeners.keys.length ≤ LOCAL_REGISTRY_CLIENT_ONCE_COUNT_MAX) ∧
      tell_provider env r client service_item = r' := by
  let items := (env.order.visit (r.item service_item).service_listeners).map fun listener => r.clientItem listener.2
  have hlength : items.length = (r.item service_item).service_listeners.keys.length := by
    rw [List.length_map, env.order.length_visit]
  unfold tell_provider_bounded tell_provider
  split
  · rename_i honline
    simp only [Option.map_eq_some_iff, fill_listener_clients, FixedArray.pushAll_eq_some_iff]
    constructor
    · rintro ⟨listener_clients, hitems, rfl⟩
      have hfits := listener_clients.fits
      rw [hitems] at hfits ⊢
      exact ⟨fun _ => hlength ▸ hfits, rfl⟩
    · rintro ⟨hfits, rfl⟩
      exact ⟨⟨items, hlength ▸ hfits honline⟩, rfl, rfl⟩
  · rename_i honline
    simp [honline]

theorem register_one_bounded_eq_some :
    register_one_bounded env client r entry = some r' ↔
      r.ListFits client entry.service_id ∧ register_one env client r entry = r' := by
  let r1 := r.withTables (r.registerTables client entry)
  have hsame : Tables.SameClients r.toTables r1.toTables := .registerTables r.toTables client entry
  have hitem : r1.item (r.registeredItem entry) = _ := (r.files_offerItem client entry).item_self
  have hbounded : register_one_bounded env client r entry = (tell_provider_bounded env r1 client
      (r.registeredItem entry)).map fun r2 => tell_available env r2 client (r.registeredItem entry) := rfl
  rw [hbounded, Option.map_eq_some_iff]
  simp only [tell_provider_bounded_eq_some, hsame.status, hitem]
  constructor
  · rintro ⟨_, ⟨hfits, rfl⟩, rfl⟩
    exact ⟨hfits, rfl⟩
  · rintro ⟨hfits, rfl⟩
    exact ⟨_, ⟨hfits, rfl⟩, rfl⟩

theorem registering_register_one (env : Env) (hwf : r.WellFormed) (hlive : r.clients.Live client)
    (entry : StLocalServiceItem) :
    Tables.Registering r.toTables (register_one env client r entry).toTables := by
  rw [register_one_toTables]
  exact hwf.registering hlive entry

theorem run_register_one_bounded {entries : List StLocalServiceItem} (hwf : r.WellFormed)
    (hlive : r.clients.Live client) :
    run (register_one_bounded env client) r entries = some r' ↔
      (∀ entry ∈ entries, r.ListFits client entry.service_id) ∧ entries.foldl (register_one env client) r = r' := by
  induction entries generalizing r with
  | nil => simp
  | cons entry entries ih =>
    have hnext := registering_register_one env hwf hlive entry
    have hrest := ih hnext.wellFormed (hnext.same.live.mpr hlive)
    simp only [hnext.listFits_iff] at hrest
    simp only [run_cons_eq_some, register_one_bounded_eq_some, List.forall_mem_cons, List.foldl_cons]
    constructor
    · rintro ⟨_, ⟨hfits, rfl⟩, hrun⟩
      exact ⟨⟨hfits, (hrest.mp hrun).1⟩, (hrest.mp hrun).2⟩
    · rintro ⟨⟨hfits, hothers⟩, hlast⟩
      exact ⟨_, ⟨hfits, rfl⟩, hrest.mpr ⟨hothers, hlast⟩⟩

theorem tell_provider_told (henv : env.transport.Reliable) (hwf : r.WellFormed)
    (client : ClientPtr) (service_item : ItemPtr) :
    ∃ frames, (tell_provider env r client service_item).sent = r.sent ++ frames ∧
      ∀ s, toldListeners s (r.client client).client_channel_id frames =
        if (r.item service_item).service_id = s ∧ (r.client client).client_status = .ONLINE ∧
            (r.channelOf client).isSome = true then
          (env.order.visit (r.item service_item).service_listeners).map fun listener => r.clientItem listener.2
        else [] := by
  unfold tell_provider
  split
  · rename_i honline
    cases hchannel : r.channelOf client with
    | none =>
      refine ⟨[], ?_, fun s => ?_⟩
      · rw [notify, hchannel, List.append_nil]
        rfl
      · simp [toldListeners]
    | some channel =>
      obtain ⟨frame, hsent, hid, hpayload⟩ := notify_reliable henv hchannel
        LOCAL_REGISTRY_SERVICE_ID_EVENT_LISTENER_CHANGE_TO_PROVIDER _
      have hkeyed : channel.id = (r.client client).client_channel_id := hwf.channels_keyed hchannel
      refine ⟨[frame], hsent, fun s => ?_⟩
      simp [toldListeners, hid, hpayload, hkeyed, honline]
  · rename_i honline
    exact ⟨[], by simp, fun s => by simp [toldListeners, honline]⟩

theorem register_one_told (henv : env.transport.Reliable) (hwf : r.WellFormed) (hlive : r.clients.Live client)
    (entry : StLocalServiceItem) :
    ∃ frames, (register_one env client r entry).sent = r.sent ++ frames ∧
      ∀ s, toldListeners s (r.client client).client_channel_id frames =
        if entry.service_id = s then r.reported env client s else [] := by
  let r1 := r.withTables (r.registerTables client entry)
  have hnext : Tables.Registering r.toTables r1.toTables := hwf.registering hlive entry
  have hitem : r1.item (r.registeredItem entry) = _ := (r.files_offerItem client entry).item_self
  obtain ⟨first, hfirst, htold⟩ := tell_provider_told henv hnext.wellFormed client (r.registeredItem entry)
  obtain ⟨second, hsecond, honly, -⟩ : Writes env (tell_provider env r1 client (r.registeredItem entry))
    (tell_available env _ client (r.registeredItem entry)) _ := announce_method_writes ..
  have hnone (s channel_id : UInt32) : toldListeners s channel_id second = [] := by
    rw [toldListeners, List.flatMap_eq_nil_iff]
    intro frame hframe
    obtain ⟨-, _, _, -, -, hpayload⟩ := honly frame hframe
    rw [hpayload]
  refine ⟨first ++ second, ?_, fun s => ?_⟩
  · rw [← List.append_assoc]
    exact hsecond.trans (congrArg (· ++ second) hfirst)
  · have hs := htold s
    rw [hitem, hnext.same.channel_id, hnext.same.status, hnext.same.channelOf] at hs
    simp only [hnext.same.clientItem] at hs
    rw [toldListeners_append, hnone, List.append_nil, hs]
    by_cases hentry : entry.service_id = s
    · subst hentry
      simp only [true_and, if_true]
      rfl
    · rw [if_neg hentry, if_neg fun h => hentry h.1]

theorem foldl_register_one_told (henv : env.transport.Reliable) (hwf : r.WellFormed) (hlive : r.clients.Live client)
    (entries : List StLocalServiceItem) :
    Tables.Registering r.toTables (entries.foldl (register_one env client) r).toTables ∧
    ∃ frames, (entries.foldl (register_one env client) r).sent = r.sent ++ frames ∧
      ∀ s, toldListeners s (r.client client).client_channel_id frames =
        (List.replicate (entries.countP (·.service_id = s)) (r.reported env client s)).flatten := by
  induction entries generalizing r with
  | nil => exact ⟨.refl hwf, [], by simp, fun s => by simp [toldListeners]⟩
  | cons entry entries ih =>
    have hnext := registering_register_one env hwf hlive entry
    obtain ⟨hlast, rest, hrest, htold⟩ := ih hnext.wellFormed (hnext.same.live.mpr hlive)
    obtain ⟨first, hfirst, hone⟩ := register_one_told henv hwf hlive entry
    refine ⟨hnext.trans hlast, first ++ rest, ?_, fun s => ?_⟩
    · rw [List.foldl_cons, hrest, hfirst, List.append_assoc]
    · have hs := htold s
      rw [hnext.same.channel_id, hnext.reported] at hs
      rw [toldListeners_append, hone, hs, List.countP_cons]
      by_cases hentry : entry.service_id = s
      · simp [hentry, List.replicate_succ]
      · simp [hentry]

theorem flatten_replicate_perm_iff {α : Type} {count : Nat} {items : List α} :
    (List.replicate count items).flatten.Perm items ↔ items = [] ∨ count = 1 := by
  constructor
  · intro hperm
    have hlength : count * items.length = items.length := by simpa using hperm.length_eq
    rcases Nat.eq_zero_or_pos items.length with hnil | hpos
    · exact .inl (List.length_eq_zero_iff.mp hnil)
    · exact .inr (Nat.eq_of_mul_eq_mul_right hpos (by omega))
  · rintro (rfl | rfl)
    · simp
    · simp

theorem reported_perm_iff {s : UInt32} {count : Nat} :
    (List.replicate count (r.reported env client s)).flatten.Perm (r.listenerItems env s) ↔
      (r.listeners s).keys = [] ∨ (∃ channel_id, r.Reaches client channel_id) ∧ count = 1 := by
  have hkeys : r.listenerItems env s = [] ↔ (r.listeners s).keys = [] := by
    rw [← List.length_eq_zero_iff, Tables.length_listenerItems, List.length_eq_zero_iff]
  rw [Tables.reported, r.exists_reaches_iff]
  split
  · rename_i hreach
    rw [flatten_replicate_perm_iff, hkeys]
    simp only [hreach, and_self, true_and]
  · rename_i hreach
    simp only [List.flatten_replicate_nil, List.nil_perm, hkeys, hreach, false_and, or_false]

theorem register_service_eq {msg : StRegisterService} (hreg : msg.reg = true)
    (hclient : named r msg.provider_client = some client) (env : Env) :
    r.register_service env msg = (0, msg.produce_services.foldl (register_one env client) r) := by
  obtain ⟨provider_client, hprovider, hlookup⟩ := Option.bind_eq_some_iff.mp hclient
  simp only [register_service, hprovider, hlookup, hreg, if_true]
  split
  · rename_i hnil
    rw [List.length_eq_zero_iff.mp hnil]
    rfl
  · rfl

theorem register_service_bounded_eq_some {msg : StRegisterService} {ret : Int} (hwf : r.WellFormed)
    (hreg : msg.reg = true) (hclient : named r msg.provider_client = some client) :
    r.register_service_bounded env msg = some (ret, r') ↔
      (∀ entry ∈ msg.produce_services, r.ListFits client entry.service_id) ∧
      r.register_service env msg = (ret, r') := by
  have hlive := live_of_named hwf hclient
  have hcall := register_service_eq (r := r) hreg hclient env
  obtain ⟨provider_client, hprovider, hlookup⟩ := Option.bind_eq_some_iff.mp hclient
  simp only [register_service_bounded, hprovider, hlookup, hreg, if_true]
  split
  · rename_i hnil
    rw [hcall, List.length_eq_zero_iff.mp hnil]
    simp
  · simp only [Option.map_eq_some_iff, run_register_one_bounded hwf hlive, hcall, Prod.mk.injEq]
    constructor
    · rintro ⟨_, ⟨hfits, rfl⟩, rfl, rfl⟩
      exact ⟨hfits, rfl, rfl⟩
    · rintro ⟨hfits, rfl, rfl⟩
      exact ⟨_, ⟨hfits, rfl⟩, rfl, rfl⟩

/-- `register_service` writes inside its arrays and reports every listener once exactly when
each service it names has no listener, or at most as many as the message holds, is named
once and has a provider that can be reached. -/
theorem listener_lists_complete_iff {labels : List (Env × Event)} (hrun : daemonRun labels = some r)
    (henv : env.transport.Reliable) {msg : StRegisterService} (hreg : msg.reg = true)
    (hclient : Event.named r msg.provider_client = some client) :
    (∃ ret r' frames, r.register_service_bounded env msg = some (ret, r') ∧ r'.sent = r.sent ++ frames ∧
      ∀ entry ∈ msg.produce_services,
        (toldListeners entry.service_id (r.client client).client_channel_id frames).Perm
          ((r'.listeners entry.service_id).entries.map fun listener => r'.clientItem listener.2)) ↔
    ∀ entry ∈ msg.produce_services, (r.listeners entry.service_id).keys = [] ∨
      (r.listeners entry.service_id).keys.length ≤ LOCAL_REGISTRY_CLIENT_ONCE_COUNT_MAX ∧
      (∃ channel_id, r.Reaches client channel_id) ∧
      msg.produce_services.countP (·.service_id = entry.service_id) = 1 := by
  have hwf := daemonRun_wellFormed hrun
  have hlive := live_of_named hwf hclient
  obtain ⟨hregistering, frames, hsent, htold⟩ := foldl_register_one_told henv hwf hlive msg.produce_services
  have hcomplete : ∀ s, (toldListeners s (r.client client).client_channel_id frames).Perm
      (((msg.produce_services.foldl (register_one env client) r).listeners s).entries.map fun listener =>
        (msg.produce_services.foldl (register_one env client) r).clientItem listener.2) ↔
      (r.listeners s).keys = [] ∨ (∃ channel_id, r.Reaches client channel_id) ∧
        msg.produce_services.countP (·.service_id = s) = 1 := by
    intro s
    have hitems : ((msg.produce_services.foldl (register_one env client) r).listenerItems env s).Perm _ :=
      (env.order.perm _).map _
    rw [hregistering.listenerItems] at hitems
    rw [htold, ← hitems.congr_right, reported_perm_iff]
  simp only [register_service_bounded_eq_some hwf hreg hclient, register_service_eq hreg hclient, Prod.mk.injEq]
  constructor
  · rintro ⟨_, _, frames', ⟨hfits, rfl, rfl⟩, hsent', hlisted⟩ entry hentry
    have hframes : frames' = frames := List.append_cancel_left (hsent'.symm.trans hsent)
    subst hframes
    refine ((hcomplete _).mp (hlisted entry hentry)).imp_right fun hone => ⟨?_, hone⟩
    exact hfits entry hentry ((r.exists_reaches_iff client).mp hone.1).1
  · intro hall
    refine ⟨_, _, frames, ⟨fun entry hentry honline => ?_, rfl, rfl⟩, hsent, fun entry hentry => ?_⟩
    · rcases hall entry hentry with hnone | ⟨hfits, -⟩
      · rw [hnone]
        exact Nat.zero_le _
      · exact hfits
    · exact (hcomplete _).mpr ((hall entry hentry).imp_right And.right)

def offerBy (k : Nat) (produce_services : List StLocalServiceItem) : StRegisterService where
  produce_services := produce_services
  provider_client := some (Peer.numbered k).item
  reg := true

def methodSeven : StLocalServiceItem := ⟨7, LOCAL_SERVICE_TYPE_METHOD, LOCAL_SERVICE_STATUS_AVAILABLE⟩

/-- The method that process 0 is about to offer has these processes as listeners. -/
def listening (ks : List Nat) : List (Env × Event) :=
  (Peer.numbered 0).connects ::
    ks.flatMap fun k => [(Peer.numbered k).connects, (Peer.numbered k).listens true [methodSeven]]

def twoServices : List StLocalServiceItem := [methodSeven, { methodSeven with service_id := 8 }]

theorem two_listeners_told :
    ∃ r client, daemonRun (listening [1, 2]) = some r ∧
      Event.named r (offerBy 0 twoServices).provider_client = some client ∧ (r.listeners 7).keys.length = 2 ∧
      ∃ ret r' frames, r.register_service_bounded .plain (offerBy 0 twoServices) = some (ret, r') ∧
        r'.sent = r.sent ++ frames ∧ ∀ entry ∈ twoServices,
          (toldListeners entry.service_id (r.client client).client_channel_id frames).Perm
            ((r'.listeners entry.service_id).entries.map fun listener => r'.clientItem listener.2) := by
  have hruns : ∃ r client channel, daemonRun (listening [1, 2]) = some r ∧
      named r (offerBy 0 twoServices).provider_client = some client ∧ (r.listeners 7).keys.length = 2 ∧
      (r.listeners 8).keys = [] ∧ (r.client client).client_status = .ONLINE ∧ r.channelOf client = some channel :=
    ⟨_, _, _, rfl, rfl, rfl, rfl, rfl, rfl⟩
  obtain ⟨r, client, channel, hrun, hclient, hlength, hnone, honline, hchannel⟩ := hruns
  refine ⟨r, client, hrun, hclient, hlength, ?_⟩
  have hreg : (offerBy 0 twoServices).reg = true := rfl
  refine (listener_lists_complete_iff hrun Env.plain_reliable hreg hclient).mpr fun entry hentry => ?_
  rcases List.mem_pair.mp hentry with rfl | rfl
  · exact .inr ⟨hlength.trans_le (by decide), ⟨channel.id, honline, channel, hchannel, rfl⟩, rfl⟩
  · exact .inl hnone

theorem Crowd.list_overflows {s : UInt32} {n : Nat} (h : r.Crowd s n) (hn : n ≤ 2147483647)
    (hmany : LOCAL_REGISTRY_CLIENT_ONCE_COUNT_MAX < n) (env : Env) (hentry : entry.service_id = s) :
    (r.joined n).register_service_bounded env (offerBy n [entry]) = none := by
  have hwf : (r.joined n).WellFormed := step_wellFormed h.wellFormed (h.step_connects hn)
  rw [Option.eq_none_iff_forall_ne_some]
  rintro ⟨ret, r'⟩ hcall
  have hclient : named (r.joined n) (offerBy n [entry]).provider_client = some r.clients.fresh := h.lookup_joined
  obtain ⟨hfits, -⟩ := (register_service_bounded_eq_some hwf rfl hclient).mp hcall
  have hlisteners : ((r.joined n).listeners s).keys.length = n := h.listeners_length
  have hroom := hfits entry (List.mem_singleton_self entry) (r.reaches_joined n).1
  rw [hentry, hlisteners] at hroom
  omega

/-- With 129 listeners the offer of the service writes outside its message, and an offer
that names the service twice reports its only listener twice. -/
theorem listeners_outgrow_message :
    (∃ labels r client channel_id, daemonRun labels = some r ∧
      Event.named r (offerBy 129 [methodSeven]).provider_client = some client ∧ r.Reaches client channel_id ∧
      (r.listeners 7).keys.length = 129 ∧ r.register_service_bounded .plain (offerBy 129 [methodSeven]) = none) ∧
    (∃ r r' frames, daemonRun (listening [1]) = some r ∧
      r.register_service_bounded .plain (offerBy 0 [methodSeven, methodSeven]) = some (0, r') ∧
      r'.sent = r.sent ++ frames ∧ (r'.listeners 7).keys.length = 1 ∧ (toldListeners 7 1 frames).length = 2) := by
  constructor
  · obtain ⟨r, hr⟩ := exists_crowd 7 (n := 129) (by decide)
    obtain ⟨labels, hrun⟩ := hr.reached
    have hjoin := hr.step_connects (by decide)
    exact ⟨labels ++ [(Peer.numbered 129).connects], r.joined 129, r.clients.fresh, _,
      run_append_eq_some.mpr ⟨r, hrun, run_cons_eq_some.mpr ⟨_, hjoin, rfl⟩⟩, hr.lookup_joined, r.reaches_joined 129,
      hr.listeners_length, hr.list_overflows (by decide) (by decide) .plain rfl⟩
  · exact ⟨_, _, _, rfl, rfl, rfl, rfl, rfl⟩

end LocalRegistry

end hub.local_registry
