import Hub.LocalRegistry.Messages
import Hub.LocalRegistry.Ownership

namespace hub.local_registry

open LocalServiceItem LocalRegistry Event Act

def LocalServiceItem.reset (item : LocalServiceItem) : LocalServiceItem :=
  { item with service_status := LOCAL_SERVICE_STATUS_DEFAULT }

theorem LocalServiceItem.reset_eq_iff {item item' : LocalServiceItem} :
    item.reset = item'.reset ↔ item.service_id = item'.service_id ∧ item.service_type = item'.service_type ∧
      item.service_provider = item'.service_provider ∧ item.service_listeners = item'.service_listeners := by
  simp [reset]

namespace Tables

theorem item_foldl_dropService (t : Tables) (is : List ItemPtr) (j : ItemPtr) :
    ((is.map dropService).foldl perform t).item j = if j ∈ is then (t.item j).reset else t.item j := by
  induction is generalizing t with
  | nil => simp
  | cons i is ih =>
    have hitem : (t.perform (.dropService i)).item j = if j = i then (t.item i).reset else t.item j :=
      item_setItem ..
    rw [List.map_cons, List.foldl_cons, ih, hitem]
    by_cases hji : j = i
    · subst hji
      simp [reset]
    · simp [hji]

theorem m_services_foldl_dropService (t : Tables) (is : List ItemPtr) :
    ((is.map dropService).foldl perform t).m_services = t.m_services := by
  refine foldl_invariant (fun t' : Tables => t'.m_services = t.m_services) ?_ rfl
  intro t' act hmem hsame
  obtain ⟨i, _, rfl⟩ := List.mem_map.mp hmem
  exact hsame

theorem reaches_takeOffline (t : Tables) (A L : ClientPtr) (channel_id : UInt32) :
    (t.takeOffline A).Reaches L channel_id ↔ L ≠ A ∧ t.Reaches L channel_id := by
  by_cases hL : L = A
  · subst hL
    refine iff_of_false ?_ fun h => h.1 rfl
    rintro ⟨honline, _⟩
    rw [takeOffline, client_setClient_self] at honline
    cases honline
  · have hclient : (t.takeOffline A).client L = t.client L := by
      rw [takeOffline, client_setClient, if_neg hL]
    unfold Reaches channelOf
    rw [hclient]
    exact ⟨fun h => ⟨hL, h⟩, fun h => h.2⟩

end Tables

namespace LocalRegistry

variable {r r' : LocalRegistry} {env : Env} {channel_id : UInt32} {channel : SocketChannel} {A : ClientPtr}

def produced (env : Env) (r : LocalRegistry) (A : ClientPtr) : List ItemPtr :=
  (env.order.visit (r.client A).client_produce_services).map (·.2)

theorem mem_produced {j : ItemPtr} :
    j ∈ produced env r A ↔ ∃ s, (r.client A).client_produce_services.lookup s = some j := by
  simp only [produced, List.mem_map, Sigma.exists]
  constructor
  · rintro ⟨s, i, hvisit, rfl⟩
    exact ⟨s, env.order.mem_visit.mp hvisit⟩
  · rintro ⟨s, hlookup⟩
    exact ⟨s, j, env.order.mem_visit.mpr hlookup, rfl⟩

/-- What the event loop reports as a closing is the end of a client's connection,
or of a connection that no record belongs to, or nothing at all. -/
theorem close_cases (r : LocalRegistry) (env : Env) (channel_id : UInt32) :
    (∃ channel A, r.m_server.getChannelById channel_id = some channel ∧
      channel.peeraddr.strstr LOCAL_REGISTRY_CTRL_SOCKET_FILE = false ∧
      r.findByChannel env channel.id = some A) ∨
    (∃ channel, r.m_server.getChannelById channel_id = some channel ∧
      (channel.peeraddr.strstr LOCAL_REGISTRY_CTRL_SOCKET_FILE = true ∨ r.findByChannel env channel.id = none) ∧
      acts env r (.close channel_id) = [.removeChannel channel_id]) ∨
    (r.m_server.getChannelById channel_id = none ∧ acts env r (.close channel_id) = []) := by
  cases hopen : r.m_server.getChannelById channel_id with
  | none => exact .inr (.inr ⟨rfl, by simp [acts, hopen]⟩)
  | some channel =>
    cases hctrl : channel.peeraddr.strstr LOCAL_REGISTRY_CTRL_SOCKET_FILE with
    | true => exact .inr (.inl ⟨channel, rfl, .inl hctrl, by simp [acts, hopen, closeActs, hctrl]⟩)
    | false =>
      cases hfind : r.findByChannel env channel.id with
      | none =>
        exact .inr (.inl ⟨channel, rfl, .inr hfind, by simp [acts, hopen, closeActs, hctrl, hfind]⟩)
      | some A => exact .inl ⟨channel, A, rfl, hctrl, hfind⟩

theorem service_of_lookup {r r' : LocalRegistry} (hservices : r'.m_services = r.m_services) {s : UInt32} {i : ItemPtr}
    (hlookup : r.m_services.lookup s = some i) : r'.service s = r.service s ↔ r'.item i = r.item i := by
  simp [Tables.service, hservices, hlookup]

section Closing

variable (hopen : r.m_server.getChannelById channel_id = some channel)
  (hclient : channel.peeraddr.strstr LOCAL_REGISTRY_CTRL_SOCKET_FILE = false)
  (hfind : r.findByChannel env channel.id = some A)

include hopen hclient hfind

/-- The closing of a client's connection, as a list of units of work. -/
theorem close_acts :
    acts env r (.close channel_id) =
      .takeOffline A :: (((produced env r A).map dropService) ++ [.removeChannel channel_id]) := by
  simp [acts, hopen, closeActs, hclient, hfind, produced]

section

variable (hstep : r.step (env, .close channel_id) = some r')

include hstep

/-- The state after the closing: the entries of `m_services` are the old ones, and
exactly the client's own items are reset. -/
theorem close_tables :
    r'.m_services = r.m_services ∧
      ∀ j, r'.item j = if j ∈ produced env r A then (r.item j).reset else r.item j := by
  have htables := step_tables hstep
  rw [close_acts hopen hclient hfind, List.foldl_cons, List.foldl_append] at htables
  constructor
  · have hservices : r'.m_services =
        (((produced env r A).map dropService).foldl Tables.perform (r.takeOffline A)).m_services := by
      rw [htables]
      rfl
    rw [hservices, Tables.m_services_foldl_dropService]
    rfl
  · intro j
    have hitem : r'.item j =
        (((produced env r A).map dropService).foldl Tables.perform (r.takeOffline A)).item j := by
      rw [htables]
      rfl
    rw [hitem, Tables.item_foldl_dropService]
    rfl

theorem close_client (c : ClientPtr) :
    r'.client c = if c = A then { r.client A with client_status := .OFFLINE } else r.client c := by
  have htables := step_tables hstep
  rw [close_acts hopen hclient hfind, List.foldl_cons, List.foldl_append] at htables
  have hdrops : ∀ t : Tables, (((produced env r A).map dropService).foldl Tables.perform t).client c =
      t.client c := by
    intro t
    refine foldl_invariant (fun t' : Tables => t'.client c = t.client c) ?_ rfl
    intro t' act hmem hsame
    obtain ⟨i, _, rfl⟩ := List.mem_map.mp hmem
    exact hsame
  have hclient : r'.client c =
      (((produced env r A).map dropService).foldl Tables.perform (r.takeOffline A)).client c := by
    rw [htables]
    rfl
  rw [hclient, hdrops, Tables.takeOffline, Tables.client_setClient]

theorem close_server :
    r'.m_clients_by_name = r.m_clients_by_name ∧ r'.m_server = r.m_server.removeChannel channel_id := by
  have htables := step_tables hstep
  rw [close_acts hopen hclient hfind, List.foldl_cons, List.foldl_append] at htables
  have hsame : Tables.SameClients (r.takeOffline A)
      (((produced env r A).map dropService).foldl Tables.perform (r.takeOffline A)) := by
    refine .foldl _ fun act hmem => ?_
    obtain ⟨i, _, rfl⟩ := List.mem_map.mp hmem
    trivial
  rw [htables]
  exact ⟨hsame.names, congrArg (·.removeChannel channel_id) hsame.server⟩

/-- The frames that the closing writes: status messages about items of the client,
to their listeners other than the client itself. -/
theorem close_sent :
    ∃ frames, r'.sent = r.sent ++ frames ∧
      (∀ frame ∈ frames, ∃ j ∈ produced env r A, ∃ id L, (r.item j).service_listeners.lookup id = some L ∧
        L ≠ A ∧ r.Reaches L frame.channel_id ∧
        ∀ s, frame.payload.statusOf s =
          if (r.item j).service_id = s then some LOCAL_SERVICE_STATUS_DEFAULT else none) ∧
      (env.transport.Reliable → ∀ j ∈ produced env r A, ∀ id L ch,
        (r.item j).service_listeners.lookup id = some L → L ≠ A → r.Reaches L ch →
        ∃ frame ∈ frames, frame.payload.statusOf (r.item j).service_id = some LOCAL_SERVICE_STATUS_DEFAULT) := by
  let r1 := r.withTables (r.takeOffline A)
  let Inv : Tables → Prop := fun t => Tables.SameClients r1.toTables t ∧ ∀ j, (t.item j).reset = (r.item j).reset
  have hkeep : ∀ t act, act ∈ (produced env r A).map dropService → Inv t → Inv (t.perform act) := by
    rintro t act hmem ⟨hsame, hitems⟩
    obtain ⟨i, _, rfl⟩ := List.mem_map.mp hmem
    refine ⟨hsame.trans (.perform t trivial), fun j => ?_⟩
    have hitem : (t.perform (.dropService i)).item j = if j = i then (t.item i).reset else t.item j :=
      Tables.item_setItem ..
    rw [hitem]
    split
    · rename_i hji
      rw [hji]
      exact hitems i
    · exact hitems j
  obtain ⟨frames, hsent, honly, hreach⟩ := foldl_perform_sent env r1 Inv hkeep ⟨.refl _, fun _ => rfl⟩
  have hsent' : r'.sent = r.sent ++ frames := by
    have hacts := step_acts hstep
    rw [close_acts hopen hclient hfind, List.foldl_cons, List.foldl_append] at hacts
    rw [hacts]
    exact hsent
  refine ⟨frames, hsent', ?_, ?_⟩
  · intro frame hframe
    obtain ⟨t, act, hmem, ⟨hsame, hitems⟩, hsends⟩ := honly frame hframe
    obtain ⟨j, hj, rfl⟩ := List.mem_map.mp hmem
    obtain ⟨id, L, hlistener, hL, hpayload⟩ := sends_dropService_iff.mp hsends
    rw [hsame.reaches] at hL
    have hother := (r.reaches_takeOffline A L frame.channel_id).mp hL
    obtain ⟨hid, _, _, hlisteners⟩ := reset_eq_iff.mp (hitems j)
    refine ⟨j, hj, id, L, hlisteners ▸ hlistener, hother.1, hother.2, fun s => ?_⟩
    rw [hpayload, ← hid]
    rfl
  · intro hreliable j hj id L ch hlistener hL hLch
    refine hreach hreliable _ (List.mem_map_of_mem hj)
      (fun _ msg => msg.statusOf (r.item j).service_id = some LOCAL_SERVICE_STATUS_DEFAULT) ?_
    rintro t ⟨hsame, hitems⟩
    obtain ⟨hid, _, _, hlisteners⟩ := reset_eq_iff.mp (hitems j)
    have hLch' : t.Reaches L ch := by
      rw [hsame.reaches]
      exact (r.reaches_takeOffline A L ch).mpr ⟨hL, hLch⟩
    rw [← hlisteners] at hlistener
    exact ⟨ch, _, .dropped hlistener hLch', if_pos hid⟩

/-- Between two states of the daemon every service that another client than `A`
provides kept its entry, and nothing was written about its status. -/
def ForeignKept (r r' : LocalRegistry) (A : ClientPtr) : Prop :=
  ∀ s i B, r.m_services.lookup s = some i → (r.item i).service_provider = some B → B ≠ A →
    r'.service s = r.service s ∧ ∀ frame ∈ r'.sent.drop r.sent.length, frame.payload.statusOf s = none

/-- No entry of `A`'s produce map can touch a service of another client: it leads to an item
with the default status, or off the table and without listeners that can be reached. -/
def Harmless (r : LocalRegistry) (A : ClientPtr) : Prop :=
  ∀ s i B j, r.m_services.lookup s = some i → (r.item i).service_provider = some B → B ≠ A →
    (r.client A).client_produce_services.lookup s = some j →
    (j = i → (r.item i).service_status = LOCAL_SERVICE_STATUS_DEFAULT) ∧
      ∀ id L ch, (r.item j).service_listeners.lookup id = some L → L ≠ A → ¬ r.Reaches L ch

end

theorem foreignKept_of_harmless (hwf : r.WellFormed) (hstep : r.step (env, .close channel_id) = some r')
    (hharmless : r.Harmless A) : r.ForeignKept r' A := by
  intro s i B hlookup hprovider hB
  obtain ⟨hservices, hitems⟩ := close_tables hopen hclient hfind hstep
  obtain ⟨frames, hsent, honly, _⟩ := close_sent hopen hclient hfind hstep
  constructor
  · rw [service_of_lookup hservices hlookup, hitems]
    split
    · rename_i hmem
      obtain ⟨s', hproduce⟩ := mem_produced.mp hmem
      obtain rfl : s' = s := (hwf.produce_keyed hproduce).symm.trans (hwf.services_keyed hlookup)
      have hstatus := (hharmless s' i B i hlookup hprovider hB hproduce).1 rfl
      rw [reset, ← hstatus]
    · rfl
  · intro frame hframe
    rw [hsent, List.drop_left] at hframe
    obtain ⟨j, hj, id, L, hlistener, hL, hreach, hpayload⟩ := honly frame hframe
    obtain ⟨s', hproduce⟩ := mem_produced.mp hj
    rw [hpayload, if_neg]
    intro hid
    obtain rfl : s' = s := (hwf.produce_keyed hproduce).symm.trans hid
    exact (hharmless s' i B j hlookup hprovider hB hproduce).2 id L _ hlistener hL hreach

theorem harmless_of_foreignKept (hwf : r.WellFormed) (hreliable : env.transport.Reliable)
    (hstep : r.step (env, .close channel_id) = some r') (hkept : r.ForeignKept r' A) : r.Harmless A := by
  intro s i B j hlookup hprovider hB hproduce
  obtain ⟨hservices, hitems⟩ := close_tables hopen hclient hfind hstep
  obtain ⟨frames, hsent, _, hreach⟩ := close_sent hopen hclient hfind hstep
  obtain ⟨hservice, hsilent⟩ := hkept s i B hlookup hprovider hB
  have hj : j ∈ produced env r A := mem_produced.mpr ⟨s, hproduce⟩
  constructor
  · rintro rfl
    rw [service_of_lookup hservices hlookup, hitems, if_pos hj] at hservice
    rw [← hservice]
    rfl
  · intro id L ch hlistener hL hLch
    obtain ⟨frame, hframe, hstatus⟩ := hreach hreliable j hj id L ch hlistener hL hLch
    rw [hsent, List.drop_left] at hsilent
    rw [hwf.produce_keyed hproduce, hsilent frame hframe] at hstatus
    cases hstatus

end Closing

theorem harmless_of_owned (howned : r.Owned) (A : ClientPtr) : r.Harmless A := by
  intro s i B j hlookup hprovider hB hproduce
  obtain ⟨hlookup', hprovider'⟩ := (howned A s j).mp hproduce
  cases hlookup.symm.trans hlookup'
  exact absurd (Option.some.inj (hprovider.symm.trans hprovider')) hB

end LocalRegistry

/-- When all sends succeed, the closing of `A`'s connection leaves the services of other
clients alone exactly when the produce map of `A` is harmless to them. In runs in which
nobody registers or withdraws a service of another client it always does. -/
theorem disconnect_keeps_foreign_iff {labels : List (Env × Event)} {r r' : LocalRegistry} {env : Env}
    {channel_id : UInt32} {channel : SocketChannel} {A : ClientPtr} (hrun : daemonRun labels = some r)
    (hopen : r.m_server.getChannelById channel_id = some channel)
    (hclient : channel.peeraddr.strstr LOCAL_REGISTRY_CTRL_SOCKET_FILE = false)
    (hfind : r.findByChannel env channel.id = some A) (hstep : r.step (env, .close channel_id) = some r') :
    (env.transport.Reliable → (r.ForeignKept r' A ↔ r.Harmless A)) ∧
      (Meets LocalRegistry.step Event.Uncontested LocalRegistry.init labels → r.ForeignKept r' A) := by
  have hwf := daemonRun_wellFormed hrun
  constructor
  · intro hreliable
    exact ⟨harmless_of_foreignKept hopen hclient hfind hwf hreliable hstep,
      foreignKept_of_harmless hopen hclient hfind hwf hstep⟩
  · intro huncontested
    have howned := daemonRun_owned huncontested hrun
    exact foreignKept_of_harmless hopen hclient hfind hwf hstep
      (harmless_of_owned howned A)

def twoProviders : List (Env × Event) :=
  [Peer.connects ⟨1, 11, ['a']⟩, Peer.connects ⟨2, 22, ['b']⟩,
    Peer.registers ⟨1, 11, ['a']⟩ true [⟨7, LOCAL_SERVICE_TYPE_METHOD, 0⟩],
    Peer.registers ⟨2, 22, ['b']⟩ true [⟨8, LOCAL_SERVICE_TYPE_METHOD, 0⟩]]

theorem disconnect_keeps_foreign_of_two :
    ∃ r r', daemonRun twoProviders = some r ∧ r.step (.plain, .close 1) = some r' ∧
      (r.client ⟨0⟩).client_pid = 11 ∧ (r'.client ⟨0⟩).client_status = .OFFLINE ∧ r.ForeignKept r' ⟨0⟩ := by
  refine ⟨_, _, rfl, rfl, by decide, by decide, ?_⟩
  exact (@disconnect_keeps_foreign_iff twoProviders _ _ .plain 1 (Peer.channel ⟨1, 11, ['a']⟩) ⟨0⟩
    rfl rfl (by decide) (by decide) rfl).2 (by decide)

/-- The client of pid 22 took service 7 over. When the client of pid 11, which had
registered it before, leaves, the service loses its status although its provider
is online, and the listener of pid 33 is told so. -/
theorem disconnect_resets_foreign_service :
    ∃ r r', daemonRun
        [Peer.connects ⟨1, 11, ['a']⟩, Peer.connects ⟨2, 22, ['b']⟩, Peer.connects ⟨3, 33, ['c']⟩,
          Peer.listens ⟨3, 33, ['c']⟩ true [⟨7, LOCAL_SERVICE_TYPE_METHOD, 0⟩],
          Peer.registers ⟨1, 11, ['a']⟩ true [⟨7, LOCAL_SERVICE_TYPE_METHOD, 0⟩],
          Peer.registers ⟨2, 22, ['b']⟩ true [⟨7, LOCAL_SERVICE_TYPE_METHOD, 0⟩]] = some r ∧
      r.step (.plain, .close 1) = some r' ∧
      (r.service 7).map LocalServiceItem.service_provider = some (some ⟨1⟩) ∧
      (r.client ⟨1⟩).client_pid = 22 ∧ (r'.client ⟨0⟩).client_status = .OFFLINE ∧
      (r.service 7).map LocalServiceItem.service_status = some LOCAL_SERVICE_STATUS_AVAILABLE ∧
      (r'.service 7).map LocalServiceItem.service_status = some LOCAL_SERVICE_STATUS_DEFAULT ∧
      (r'.sent.drop r.sent.length).map (fun frame => (frame.channel_id, frame.payload.statusOf 7)) =
        [(3, some LOCAL_SERVICE_STATUS_DEFAULT)] ∧
      ¬ r.ForeignKept r' ⟨0⟩ := by
  refine ⟨_, _, rfl, rfl, by decide, by decide, by decide, by decide, by decide, by decide, ?_⟩
  intro hkept
  have hsame := (hkept 7 ⟨0⟩ ⟨1⟩ (by decide) (by decide) (by decide)).1
  have hstatus := congrArg (Option.map service_status) hsame
  revert hstatus
  decide

end hub.local_registry
