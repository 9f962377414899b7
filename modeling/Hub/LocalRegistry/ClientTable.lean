import Mathlib.Algebra.Group.Nat.Defs
import Mathlib.Data.Finset.Card
import Hub.LocalRegistry.Disconnect

namespace hub.local_registry

open UnorderedMap Event

namespace Tables

/-- Clients are numbered in the order of their records, as far as 32 bits go. -/
structure Numbered (t : Tables) : Prop where
  next_id : t.m_next_client_id = UInt32.ofNat (t.clients.next + 1)
  id_of_live : ∀ {c}, t.clients.Live c → (t.client c).client_id = UInt32.ofNat (c.addr + 1)
  count : t.m_clients_by_name.keys.length = t.clients.next

theorem init_numbered : LocalRegistry.init.toTables.Numbered where
  next_id := rfl
  id_of_live hlive := absurd hlive (Nat.not_lt_zero _)
  count := rfl

section Numbered

variable {t : Tables}

variable {c : ClientPtr}

namespace Numbered

variable (h : t.Numbered)

include h

theorem setClient {record : LocalClient}
    (hid : record.client_id = (t.client c).client_id) : (t.setClient c record).Numbered where
  next_id := h.next_id
  id_of_live {other} hlive := (t.clients.map_get_set LocalClient.client_id hid other).trans (h.id_of_live hlive)
  count := h.count

theorem createClient (channel : SocketChannel) (client_pid : Int) {client_name : Str}
    (hnew : t.m_clients_by_name.lookup client_name = none) :
    (t.createClient channel client_pid client_name).Numbered where
  next_id := by
    change t.m_next_client_id + 1 = UInt32.ofNat (t.clients.next + 1 + 1)
    rw [h.next_id, UInt32.ofNat_add (t.clients.next + 1) 1]
    rfl
  id_of_live := by
    intro c hlive
    by_cases hc : c = t.clients.fresh
    · subst hc
      have hid : ((t.createClient channel client_pid client_name).client t.clients.fresh).client_id =
          t.m_next_client_id := by
        simp [Tables.createClient, Tables.client]
      rw [hid]
      exact h.next_id
    · have hsame : (t.createClient channel client_pid client_name).client c = t.client c :=
        Heap.get_alloc_ne _ _ hc
      rw [hsame]
      exact h.id_of_live (Heap.Live.of_alloc hlive hc)
  count := by
    change (t.m_clients_by_name.insertNew client_name t.clients.fresh).keys.length = t.clients.next + 1
    rw [keys_insertNew_of_none _ hnew, List.length_cons, h.count]

theorem sameClients {t' : Tables} (hsame : SameClients t t') : t'.Numbered where
  next_id := by rw [hsame.next_id, hsame.next, h.next_id]
  id_of_live := by
    intro c hlive
    rw [hsame.id c]
    exact h.id_of_live (hsame.live.mp hlive)
  count := by rw [hsame.names, hsame.next, h.count]

theorem perform {act : Act} (hallows : t.Allows act) : (t.perform act).Numbered := by
  cases act with
  | addChannel channel | removeChannel channel_id => exact ⟨h.next_id, h.id_of_live, h.count⟩
  | bringOnline client channel client_pid client_name | takeOffline client => exact h.setClient rfl
  | createClient channel client_pid client_name => exact h.createClient channel client_pid hallows
  | _ =>
    exact h.sameClients (.perform t trivial)

section

variable (hroom : t.m_clients_by_name.keys.length < 2 ^ 32 - 1)

include hroom

theorem next_toNat :
    t.m_next_client_id.toNat = t.clients.next + 1 := by
  rw [h.count] at hroom
  rw [h.next_id, UInt32.toNat_ofNat']
  exact Nat.mod_eq_of_lt (by omega)

theorem id_toNat (hlive : t.clients.Live c) : (t.client c).client_id.toNat = c.addr + 1 := by
  rw [h.count] at hroom
  have hlt : c.addr < t.clients.next := hlive
  rw [h.id_of_live hlive, UInt32.toNat_ofNat']
  exact Nat.mod_eq_of_lt (by omega)

theorem id_inj {c c' : ClientPtr} (hlive : t.clients.Live c)
    (hlive' : t.clients.Live c') (hid : (t.client c).client_id = (t.client c').client_id) : c = c' := by
  have haddr := h.id_toNat hroom hlive
  have haddr' := h.id_toNat hroom hlive'
  rw [hid, haddr'] at haddr
  exact Ptr.ext (by omega)

end

end Numbered

end Numbered

section Names

variable {t : Tables}

theorem names_perform (t : Tables) {act : Act} (hact : ∀ channel pid name, act ≠ .createClient channel pid name) :
    (t.perform act).m_clients_by_name = t.m_clients_by_name := by
  by_cases hservices : act.OnServices
  · exact (SameClients.perform t hservices).names
  · cases act with
    | addChannel | removeChannel | bringOnline | takeOffline => rfl
    | createClient channel pid name => exact absurd rfl (hact channel pid name)
    | _ => exact absurd trivial hservices

theorem WellFormed.keeps_client (hwf : t.WellFormed) {name : Str} {c : ClientPtr}
    (hlookup : t.m_clients_by_name.lookup name = some c) (act : Act) :
    (t.perform act).m_clients_by_name.lookup name = some c ∧
      ((t.perform act).client c).client_id = (t.client c).client_id := by
  have hset : ∀ client record, record.client_id = (t.client client).client_id →
      ((t.setClient client record).client c).client_id = (t.client c).client_id :=
    fun _ _ hid => t.clients.map_get_set LocalClient.client_id hid c
  by_cases hservices : act.OnServices
  · have hsame := SameClients.perform t hservices
    exact ⟨hsame.names ▸ hlookup, hsame.id c⟩
  · cases act with
    | addChannel | removeChannel => exact ⟨hlookup, rfl⟩
    | bringOnline client channel pid name' | takeOffline client => exact ⟨hlookup, hset client _ rfl⟩
    | createClient channel pid name' =>
      constructor
      · exact lookup_insertNew_eq_some.mpr (.inl hlookup)
      · have hsame : (t.createClient channel pid name').client c = t.client c :=
          Heap.get_alloc_ne _ _ (Heap.ne_fresh (hwf.names_live hlookup))
        exact congrArg LocalClient.client_id hsame
    | _ => exact absurd trivial hservices

end Names

end Tables

/-- The name under which `onConnection` files a connection. -/
def Event.connectName : Event → Option Str
  | .connect channel =>
    if channel.peeraddr.strstr LOCAL_REGISTRY_CTRL_SOCKET_FILE then none
    else
      match parse_localaddr channel.peeraddr with
      | .parsed _ client_name => some client_name
      | _ => none
  | _ => none

def connectNames (labels : List (Env × Event)) : List Str := labels.filterMap fun label => label.2.connectName

namespace LocalRegistry

variable {labels : List (Env × Event)} {r r' : LocalRegistry} {label : Env × Event} {name : Str}

theorem step_keeps_client (hwf : r.WellFormed)
    (h : r.step label = some r') {c : ClientPtr} (hlookup : r.m_clients_by_name.lookup name = some c) :
    r'.m_clients_by_name.lookup name = some c ∧ (r'.client c).client_id = (r.client c).client_id := by
  refine step_invariant (fun t => t.m_clients_by_name.lookup name = some c ∧
    (t.client c).client_id = (r.client c).client_id) ?_ hwf ⟨hlookup, rfl⟩ h
  rintro t act hwf _ ⟨hlookup, hid⟩
  obtain ⟨hlookup', hid'⟩ := hwf.keeps_client hlookup act
  exact ⟨hlookup', hid'.trans hid⟩

theorem step_names {env : Env} {event : Event} (h : r.step (env, event) = some r')
    (hmem : name ∈ r'.m_clients_by_name.keys) :
    name ∈ r.m_clients_by_name.keys ∨ event.connectName = some name := by
  rw [step_tables h] at hmem
  revert hmem
  refine foldl_invariant (fun t : Tables => name ∈ t.m_clients_by_name.keys →
    name ∈ r.m_clients_by_name.keys ∨ event.connectName = some name) ?_ .inl
  intro t act hact hinv hmem
  cases eventAct_of_mem hact with
  | createClient hctrl hparse hlookup =>
    rename_i channel pid name'
    by_cases hname : name = name'
    · refine .inr ?_
      simp [connectName, hctrl, hparse, hname]
    · apply hinv
      have hlookup' : ((t.m_clients_by_name.insertNew name' t.clients.fresh).lookup name).isSome :=
        AList.lookup_isSome.mpr hmem
      rw [lookup_insertNew_ne _ _ hname] at hlookup'
      exact AList.lookup_isSome.mp hlookup'
  | addChannel | bringOnline | takeOffline | dropService | removeChannel =>
    rw [Tables.names_perform t (fun _ _ _ => Act.noConfusion)] at hmem
    exact hinv hmem
  | message hmsg =>
    rw [(Tables.SameClients.perform t hmsg.onServices).names] at hmem
    exact hinv hmem

/-- With the names that are still to come there are fewer names than client ids. -/
def RoomFor (r : LocalRegistry) (labels : List (Env × Event)) : Prop :=
  (r.m_clients_by_name.keys.toFinset ∪ (connectNames labels).toFinset).card < 2 ^ 32 - 1

theorem init_roomFor (h : (connectNames labels).toFinset.card < 2 ^ 32 - 1) :
    init.RoomFor labels := by
  have hkeys : init.m_clients_by_name.keys.toFinset = ∅ := rfl
  rw [RoomFor, hkeys, Finset.empty_union]
  exact h

theorem RoomFor.keys_length {r : LocalRegistry} (h : r.RoomFor labels) :
    r.m_clients_by_name.keys.length < 2 ^ 32 - 1 := by
  rw [← List.toFinset_card_of_nodup r.m_clients_by_name.keys_nodup]
  exact lt_of_le_of_lt (Finset.card_le_card Finset.subset_union_left) h

theorem RoomFor.step (h : r.RoomFor (label :: labels)) (hstep : r.step label = some r') : r'.RoomFor labels := by
  refine lt_of_le_of_lt (Finset.card_le_card fun name hname => ?_) h
  simp only [Finset.mem_union, List.mem_toFinset, connectNames, List.mem_filterMap, List.mem_cons] at hname ⊢
  rcases hname with hkey | ⟨other, hother, hname⟩
  · rcases step_names hstep hkey with hold | hnew
    · exact .inl hold
    · exact .inr ⟨label, .inl rfl, hnew⟩
  · exact .inr ⟨other, .inr hother, hname⟩

/-- What makes the client ids of a state unambiguous, up to the end of a run. -/
structure Identified (r : LocalRegistry) (labels : List (Env × Event)) : Prop where
  wellFormed : r.WellFormed
  numbered : r.Numbered
  room : r.RoomFor labels

theorem init_identified (h : (connectNames labels).toFinset.card < 2 ^ 32 - 1) :
    init.Identified labels :=
  ⟨Tables.init_wellFormed, Tables.init_numbered, init_roomFor h⟩

theorem Identified.step
    (h : r.Identified (label :: labels)) (hstep : r.step label = some r') : r'.Identified labels where
  wellFormed := step_wellFormed h.wellFormed hstep
  numbered := step_invariant Tables.Numbered (fun _ _ _ hallows hnumbered => hnumbered.perform hallows) h.wellFormed
    h.numbered hstep
  room := h.room.step hstep

theorem Identified.run {first second : List (Env × Event)}
    (h : r.Identified (first ++ second)) (hrun : run LocalRegistry.step r first = some r') : r'.Identified second := by
  induction first generalizing r with
  | nil =>
    cases hrun
    exact h
  | cons label labels ih =>
    obtain ⟨next, hnext, hrest⟩ := run_cons_eq_some.mp hrun
    exact ih (h.step hnext) hrest

theorem Identified.id_inj {r : LocalRegistry} (h : r.Identified labels) {c c' : ClientPtr}
    (hlive : r.clients.Live c) (hlive' : r.clients.Live c') (hid : (r.client c).client_id = (r.client c').client_id) :
    c = c' :=
  h.numbered.id_inj h.room.keys_length hlive hlive' hid

end LocalRegistry

namespace Tables

/-- How the records go with the channels. No two records share a channel id, not
even an old one, and a record is online exactly while its channel is open. -/
structure Connected (t : Tables) : Prop where
  open_issued : ∀ {id channel}, t.m_server.channels.lookup id = some channel → id ∈ t.m_server.issued
  client_issued : ∀ {name c}, t.m_clients_by_name.lookup name = some c →
    (t.client c).client_channel_id ∈ t.m_server.issued
  channel_inj : ∀ {name c name' c'}, t.m_clients_by_name.lookup name = some c →
    t.m_clients_by_name.lookup name' = some c' →
    (t.client c).client_channel_id = (t.client c').client_channel_id → c = c'
  online_iff : ∀ {name c}, t.m_clients_by_name.lookup name = some c →
    ((t.client c).client_status = .ONLINE ↔ (t.channelOf c).isSome)
  not_ctrl : ∀ {name c channel}, t.m_clients_by_name.lookup name = some c → t.channelOf c = some channel →
    channel.peeraddr.strstr LOCAL_REGISTRY_CTRL_SOCKET_FILE = false

structure Unclaimed (t : Tables) (channel : SocketChannel) : Prop where
  is_open : t.m_server.channels.lookup channel.id = some channel
  unclaimed : ∀ {name c}, t.m_clients_by_name.lookup name = some c → (t.client c).client_channel_id ≠ channel.id

theorem init_connected : LocalRegistry.init.toTables.Connected where
  open_issued h := by simp [LocalRegistry.init] at h
  client_issued h := by simp [LocalRegistry.init] at h
  channel_inj h := by simp [LocalRegistry.init] at h
  online_iff h := by simp [LocalRegistry.init] at h
  not_ctrl h := by simp [LocalRegistry.init] at h

section Connected

variable {t : Tables}

variable {channel : SocketChannel} {t' : Tables} {name : Str}

namespace Connected

variable (h : t.Connected)

include h

theorem frame (hopen : ∀ {id channel}, t'.m_server.channels.lookup id = some channel → id ∈ t'.m_server.issued)
    (hissued : t.m_server.issued ⊆ t'.m_server.issued) (hnames : t'.m_clients_by_name = t.m_clients_by_name)
    (hid : ∀ c, (t'.client c).client_channel_id = (t.client c).client_channel_id)
    (hrecord : ∀ {name c}, t.m_clients_by_name.lookup name = some c →
      (t'.client c).client_status = (t.client c).client_status ∧ t'.channelOf c = t.channelOf c ∨
        (t'.client c).client_status = .OFFLINE ∧ t'.channelOf c = none) : t'.Connected where
  open_issued := hopen
  client_issued := by
    intro name c hlookup
    rw [hnames] at hlookup
    rw [hid]
    exact hissued (h.client_issued hlookup)
  channel_inj := by
    intro name c name' c' hlookup hlookup' heq
    rw [hnames] at hlookup hlookup'
    rw [hid, hid] at heq
    exact h.channel_inj hlookup hlookup' heq
  online_iff := by
    intro name c hlookup
    rw [hnames] at hlookup
    obtain ⟨hstatus, hchannel⟩ | ⟨hstatus, hchannel⟩ := hrecord hlookup
    · rw [hstatus, hchannel]
      exact h.online_iff hlookup
    · simp [hstatus, hchannel]
  not_ctrl := by
    intro name c channel hlookup hopen
    rw [hnames] at hlookup
    obtain ⟨-, hchannel⟩ | ⟨-, hchannel⟩ := hrecord hlookup
    · exact h.not_ctrl hlookup (hchannel ▸ hopen)
    · cases hchannel.symm.trans hopen

theorem sameClients (hsame : SameClients t t') : t'.Connected := by
  refine h.frame ?_ ?_ hsame.names hsame.channel_id fun {_ c} _ => .inl ⟨hsame.status c, hsame.channelOf c⟩
  · rw [hsame.server]
    exact h.open_issued
  · rw [hsame.server]
    exact List.Subset.refl _

theorem channelOf_addChannel (hfresh : channel.id ∉ t.m_server.issued) {c : ClientPtr}
    (hlookup : t.m_clients_by_name.lookup name = some c) :
    (t.perform (.addChannel channel)).channelOf c = t.channelOf c := by
  have hne : (t.client c).client_channel_id ≠ channel.id := by
    intro heq
    exact hfresh (heq ▸ h.client_issued hlookup)
  exact AList.lookup_insert_ne hne

theorem addChannel (hfresh : channel.id ∉ t.m_server.issued) :
    (t.perform (.addChannel channel)).Connected := by
  refine h.frame ?_ (List.subset_cons_self ..) rfl (fun _ => rfl) fun hlookup =>
    .inl ⟨rfl, h.channelOf_addChannel hfresh hlookup⟩
  intro id other hopen
  change id ∈ channel.id :: t.m_server.issued
  rcases lookup_insert_eq_some.mp hopen with ⟨hid, _⟩ | ⟨_, hold⟩
  · rw [hid]
    exact List.mem_cons_self
  · exact List.mem_cons_of_mem _ (h.open_issued hold)

theorem claim (hchannel : t.Unclaimed channel)
    (hctrl : channel.peeraddr.strstr LOCAL_REGISTRY_CTRL_SOCKET_FILE = false) {client : ClientPtr}
    (hserver : t'.m_server = t.m_server)
    (hnames : ∀ name c, t'.m_clients_by_name.lookup name = some c →
      c = client ∨ (c ≠ client ∧ t.m_clients_by_name.lookup name = some c ∧ t'.client c = t.client c))
    (hid : (t'.client client).client_channel_id = channel.id)
    (hstatus : (t'.client client).client_status = .ONLINE) : t'.Connected := by
  have hself : t'.channelOf client = some channel := by
    rw [Tables.channelOf, hid, hserver]
    exact hchannel.is_open
  have hother : ∀ {c}, t'.client c = t.client c → t'.channelOf c = t.channelOf c := by
    intro c hsame
    rw [Tables.channelOf, hsame, hserver]
    rfl
  constructor
  case open_issued =>
    rw [hserver]
    exact h.open_issued
  case client_issued =>
    intro name c hlookup
    rw [hserver]
    rcases hnames name c hlookup with rfl | ⟨_, hold, hsame⟩
    · rw [hid]
      exact h.open_issued hchannel.is_open
    · rw [hsame]
      exact h.client_issued hold
  case channel_inj =>
    intro name c name' c' hlookup hlookup' heq
    rcases hnames name c hlookup with rfl | ⟨_, hold, hsame⟩
    · rcases hnames name' c' hlookup' with rfl | ⟨_, hold', hsame'⟩
      · rfl
      · rw [hid, hsame'] at heq
        exact absurd heq.symm (hchannel.unclaimed hold')
    · rcases hnames name' c' hlookup' with rfl | ⟨_, hold', hsame'⟩
      · rw [hid, hsame] at heq
        exact absurd heq (hchannel.unclaimed hold)
      · rw [hsame, hsame'] at heq
        exact h.channel_inj hold hold' heq
  case online_iff =>
    intro name c hlookup
    rcases hnames name c hlookup with rfl | ⟨_, hold, hsame⟩
    · simp [hself, hstatus]
    · rw [hother hsame, hsame]
      exact h.online_iff hold
  case not_ctrl =>
    intro name c other hlookup hopen
    rcases hnames name c hlookup with rfl | ⟨_, hold, hsame⟩
    · cases hself.symm.trans hopen
      exact hctrl
    · rw [hother hsame] at hopen
      exact h.not_ctrl hold hopen

theorem bringOnline
    (hchannel : t.Unclaimed channel) (hctrl : channel.peeraddr.strstr LOCAL_REGISTRY_CTRL_SOCKET_FILE = false)
    (client : ClientPtr) (client_pid : Int) (client_name : Str) :
    (t.bringOnline client channel client_pid client_name).Connected := by
  have hself : (t.bringOnline client channel client_pid client_name).client client = _ :=
    t.client_setClient_self client _
  refine h.claim hchannel hctrl rfl ?_ (by rw [hself]) (by rw [hself])
  intro name c hlookup
  by_cases hc : c = client
  · exact .inl hc
  · exact .inr ⟨hc, hlookup, (t.client_setClient client c _).trans (if_neg hc)⟩

theorem createClient
    (hchannel : t.Unclaimed channel) (hctrl : channel.peeraddr.strstr LOCAL_REGISTRY_CTRL_SOCKET_FILE = false)
    (client_pid : Int) (client_name : Str) : (t.createClient channel client_pid client_name).Connected := by
  have hself : (t.createClient channel client_pid client_name).client t.clients.fresh = _ :=
    Heap.get_alloc_fresh ..
  refine h.claim hchannel hctrl rfl ?_ (by rw [hself]) (by rw [hself])
  intro name c hlookup
  by_cases hc : c = t.clients.fresh
  · exact .inl hc
  · refine .inr ⟨hc, ?_, Heap.get_alloc_ne _ _ hc⟩
    exact (lookup_insertNew_eq_some.mp hlookup).resolve_right fun hnew => hc hnew.2.2

variable {channel_id : UInt32}

theorem removeChannel
    (hunused : ∀ {name c}, t.m_clients_by_name.lookup name = some c → (t.client c).client_channel_id ≠ channel_id) :
    (t.perform (.removeChannel channel_id)).Connected :=
  h.frame (fun hopen => h.open_issued (lookup_erase_eq_some.mp hopen).2) (List.Subset.refl _) rfl (fun _ => rfl)
    fun hlookup => .inl ⟨rfl, AList.lookup_erase_ne (hunused hlookup)⟩

theorem leave {A : ClientPtr} (hA : t.m_clients_by_name.lookup name = some A)
    (hid : (t.client A).client_channel_id = channel_id) (hnames : t'.m_clients_by_name = t.m_clients_by_name)
    (hserver : t'.m_server = t.m_server.removeChannel channel_id)
    (hclient : ∀ c, t'.client c = if c = A then { t.client A with client_status := .OFFLINE } else t.client c) :
    t'.Connected := by
  have hchannel_id : ∀ c, (t'.client c).client_channel_id = (t.client c).client_channel_id := by
    intro c
    rw [hclient]
    split
    · rename_i heq
      rw [heq]
    · rfl
  have hself : t'.channelOf A = none := by
    rw [Tables.channelOf, hchannel_id, hid, hserver]
    exact AList.lookup_erase ..
  refine h.frame ?_ ?_ hnames hchannel_id fun {_ c} hlookup => ?_
  · intro id channel hopen
    rw [hserver] at hopen ⊢
    exact h.open_issued (lookup_erase_eq_some.mp hopen).2
  · rw [hserver]
    exact List.Subset.refl _
  · by_cases hc : c = A
    · subst hc
      refine .inr ⟨?_, hself⟩
      rw [hclient, if_pos rfl]
    · refine .inl ⟨?_, ?_⟩
      · rw [hclient, if_neg hc]
      · rw [Tables.channelOf, hchannel_id, hserver]
        refine AList.lookup_erase_ne fun heq => hc ?_
        exact h.channel_inj hlookup hA (heq.trans hid.symm)

end Connected

end Connected

end Tables

namespace Event

/-- The event library hands out every channel id once. -/
def FreshChannel (r : LocalRegistry) (label : Env × Event) : Prop :=
  match label.2 with
  | .connect channel => channel.id ∉ r.m_server.issued
  | _ => True

instance (r : LocalRegistry) : ∀ label, Decidable (FreshChannel r label)
  | (_, .connect channel) => inferInstanceAs (Decidable (channel.id ∉ r.m_server.issued))
  | (_, .close _) | (_, .message ..) => .isTrue trivial

end Event

namespace LocalRegistry

variable {r r' : LocalRegistry} {label : Env × Event} {channel : SocketChannel} {env : Env}

theorem connect_connected (hconn : r.Connected) (hfresh : channel.id ∉ r.m_server.issued)
    (h : r.step (env, .connect channel) = some r') : r'.Connected := by
  have htables := step_tables h
  have hadd := hconn.addChannel hfresh
  have hunclaimed : (r.toTables.perform (.addChannel channel)).Unclaimed channel := by
    refine ⟨AList.lookup_insert .., ?_⟩
    intro name c hlookup heq
    exact hfresh (heq ▸ hconn.client_issued hlookup)
  rw [acts, List.foldl_cons] at htables
  cases hacts : connectActs (r.perform env (.addChannel channel)) channel with
  | nil =>
    rw [hacts] at htables
    rw [htables]
    exact hadd
  | cons act acts =>
    have hmem : act ∈ connectActs (r.perform env (.addChannel channel)) channel := by
      rw [hacts]
      exact List.mem_cons_self
    obtain ⟨hctrl, pid, name, _, ⟨client, _, _, hlist, _⟩ | ⟨_, hlist, _⟩⟩ := mem_connectActs hmem
    · rw [hlist] at htables
      rw [htables]
      exact hadd.bringOnline hunclaimed hctrl client pid name
    · rw [hlist] at htables
      rw [htables]
      exact hadd.createClient hunclaimed hctrl pid name

theorem close_connected (hwf : r.WellFormed) (hconn : r.Connected)
    {channel_id : UInt32} (h : r.step (env, .close channel_id) = some r') : r'.Connected := by
  rcases close_cases r env channel_id with
    ⟨channel, A, hopen, hclient, hfind⟩ | ⟨channel, hopen, hnone, hacts⟩ | ⟨_, hacts⟩
  · obtain ⟨⟨name, hA⟩, hid⟩ := findByChannel_some hfind
    obtain ⟨hnames, hserver⟩ := close_server hopen hclient hfind h
    rw [hwf.channels_keyed hopen] at hid
    exact hconn.leave hA hid hnames hserver (close_client hopen hclient hfind h)
  · have htables := step_tables h
    rw [hacts] at htables
    rw [htables]
    refine hconn.removeChannel fun {name c} hlookup heq => ?_
    rcases hnone with hctrl | hfind
    · have hchannel : r.channelOf c = some channel := by
        rw [Tables.channelOf, heq]
        exact hopen
      rw [hconn.not_ctrl hlookup hchannel] at hctrl
      cases hctrl
    · -- the loop of `remove_client` has found no record with the channel
      rw [Tables.findByChannel, Option.map_eq_none_iff, List.find?_eq_none] at hfind
      have hne := hfind ⟨name, c⟩ (env.order.mem_visit.mpr hlookup)
      simp [heq, hwf.channels_keyed hopen] at hne
  · have htables := step_tables h
    rw [hacts] at htables
    rw [htables]
    exact hconn

theorem message_sameClients {request : Request}
    (h : r.step (env, .message channel request) = some r') : Tables.SameClients r.toTables r'.toTables := by
  rw [step_tables h]
  exact .foldl _ fun act hmem => (messageAct_of_mem hmem).onServices

theorem step_connected (hwf : r.WellFormed) (hconn : r.Connected)
    (hfresh : FreshChannel r label) (h : r.step label = some r') : r'.Connected := by
  obtain ⟨env, event⟩ := label
  cases event with
  | connect channel => exact connect_connected hconn hfresh h
  | close channel_id => exact close_connected hwf hconn h
  | message channel request => exact hconn.sameClients (message_sameClients h)

variable {id : UInt32}

theorem step_open (hstep : r.step label = some r') (hopen : (r'.m_server.getChannelById id).isSome) :
    (r.m_server.getChannelById id).isSome ∨ ∃ channel, label.2 = .connect channel ∧ channel.id = id := by
  obtain ⟨env, event⟩ := label
  rw [step_tables hstep] at hopen
  revert hopen
  refine foldl_invariant (fun t : Tables => (t.m_server.getChannelById id).isSome →
    (r.m_server.getChannelById id).isSome ∨ ∃ channel, event = .connect channel ∧ channel.id = id) ?_ .inl
  intro t act hmem hinv hopen
  cases eventAct_of_mem hmem with
  | @addChannel channel =>
    by_cases hid : channel.id = id
    · exact .inr ⟨channel, rfl, hid⟩
    · apply hinv
      have hne : id ≠ channel.id := fun heq => hid heq.symm
      have hlookup : (AList.lookup id (AList.insert channel.id channel t.m_server.channels)).isSome := hopen
      rw [AList.lookup_insert_ne hne] at hlookup
      exact hlookup
  | @removeChannel channel_id =>
    apply hinv
    have hlookup : (AList.lookup id (t.m_server.channels.erase channel_id)).isSome := hopen
    obtain ⟨channel, hchannel⟩ := Option.isSome_iff_exists.mp hlookup
    exact Option.isSome_of_eq_some (lookup_erase_eq_some.mp hchannel).2
  | message hact =>
    rw [(Tables.SameClients.perform t hact.onServices).server] at hopen
    exact hinv hopen
  | _ => exact hinv hopen

theorem step_issued (hwf : r.WellFormed)
    (hstep : r.step label = some r') (hid : id ∈ r.m_server.issued) : id ∈ r'.m_server.issued := by
  refine step_invariant (fun t => id ∈ t.m_server.issued) ?_ hwf hid hstep
  intro t act _ _ hmem
  by_cases hservices : act.OnServices
  · rw [(Tables.SameClients.perform t hservices).server]
    exact hmem
  · cases act with
    | addChannel channel => exact List.mem_cons_of_mem _ hmem
    | removeChannel | bringOnline | createClient | takeOffline => exact hmem
    | _ => exact absurd trivial hservices

variable {labels : List (Env × Event)}

theorem daemonRun_connected {r : LocalRegistry}
    (hfresh : Meets step FreshChannel init labels) (h : daemonRun labels = some r) : r.Connected := by
  refine (run_invariant_of_meets (fun r : LocalRegistry => r.WellFormed ∧ r.Connected) ?_
    ⟨Tables.init_wellFormed, Tables.init_connected⟩ hfresh h).2
  rintro r label next ⟨hwf, hconn⟩ hlabel hstep
  exact ⟨step_wellFormed hwf hstep, step_connected hwf hconn hlabel hstep⟩

theorem run_keeps_client (hwf : r.WellFormed) (h : run step r labels = some r') {name : Str} {c : ClientPtr}
    (hlookup : r.m_clients_by_name.lookup name = some c) :
    r'.m_clients_by_name.lookup name = some c ∧ (r'.client c).client_id = (r.client c).client_id := by
  refine (run_invariant (fun next : LocalRegistry => next.WellFormed ∧
    next.m_clients_by_name.lookup name = some c ∧ (next.client c).client_id = (r.client c).client_id) ?_
    ⟨hwf, hlookup, rfl⟩ h).2
  rintro state label next ⟨hwf, hlookup, hid⟩ hstep
  obtain ⟨hlookup', hid'⟩ := step_keeps_client hwf hstep hlookup
  exact ⟨step_wellFormed hwf hstep, hlookup', hid'.trans hid⟩

structure ClientTable (r : LocalRegistry) : Prop where
  keyed : ∀ name c, r.m_clients_by_name.lookup name = some c → (r.client c).client_name = name
  id_inj : ∀ name c name' c', r.m_clients_by_name.lookup name = some c →
    r.m_clients_by_name.lookup name' = some c' → (r.client c).client_id = (r.client c').client_id → name = name'
  id_pos : ∀ name c, r.m_clients_by_name.lookup name = some c → 1 ≤ (r.client c).client_id
  id_lt_next : ∀ name c, r.m_clients_by_name.lookup name = some c → (r.client c).client_id < r.m_next_client_id
  online_iff_open : ∀ name c, r.m_clients_by_name.lookup name = some c →
    ((r.client c).client_status = .ONLINE ↔ (r.m_server.getChannelById (r.client c).client_channel_id).isSome)
  online_inj : ∀ name c name' c', r.m_clients_by_name.lookup name = some c →
    r.m_clients_by_name.lookup name' = some c' → (r.client c).client_status = .ONLINE →
    (r.client c').client_status = .ONLINE →
    (r.client c).client_channel_id = (r.client c').client_channel_id → name = name'

theorem Identified.clientTable {r : LocalRegistry} (h : r.Identified labels)
    (hconn : r.Connected) : r.ClientTable where
  keyed _ _ hlookup := h.wellFormed.names_keyed hlookup
  id_inj name c name' c' hlookup hlookup' hid := by
    have hwf := h.wellFormed
    have hc := h.id_inj (hwf.names_live hlookup) (hwf.names_live hlookup') hid
    exact hwf.name_inj hlookup (hc ▸ hlookup')
  id_pos name c hlookup := by
    have hid := h.numbered.id_toNat h.room.keys_length (h.wellFormed.names_live hlookup)
    rw [UInt32.le_iff_toNat_le, hid]
    exact Nat.le_add_left 1 c.addr
  id_lt_next name c hlookup := by
    have hlive : c.addr < r.clients.next := h.wellFormed.names_live hlookup
    have hid := h.numbered.id_toNat h.room.keys_length (h.wellFormed.names_live hlookup)
    have hnext := h.numbered.next_toNat h.room.keys_length
    rw [UInt32.lt_iff_toNat_lt, hid, hnext]
    omega
  online_iff_open _ _ hlookup := hconn.online_iff hlookup
  online_inj name c name' c' hlookup hlookup' _ _ heq := by
    have hc := hconn.channel_inj hlookup hlookup' heq
    exact h.wellFormed.name_inj hlookup (hc ▸ hlookup')

end LocalRegistry

/-- With channel ids never reused and fewer names than client ids, the client table is as it
should be after every event, and a name keeps its record and client id. -/
theorem client_table_invariant {before after : List (Env × Event)} {r r' : LocalRegistry}
    (hfresh : Meets LocalRegistry.step Event.FreshChannel LocalRegistry.init (before ++ after))
    (hnames : (connectNames (before ++ after)).toFinset.card < 2 ^ 32 - 1)
    (hbefore : daemonRun before = some r) (hafter : run LocalRegistry.step r after = some r') :
    r'.ClientTable ∧ ∀ name c, r.m_clients_by_name.lookup name = some c →
      ∃ c', r'.m_clients_by_name.lookup name = some c' ∧ (r'.client c').client_id = (r.client c).client_id := by
  have hidentified := (LocalRegistry.init_identified hnames).run hbefore
  have hrun : daemonRun (before ++ after) = some r' := run_append_eq_some.mpr ⟨r, hbefore, hafter⟩
  constructor
  · rw [← List.append_nil after] at hidentified
    exact (hidentified.run hafter).clientTable (LocalRegistry.daemonRun_connected hfresh hrun)
  · intro name c hlookup
    exact ⟨c, LocalRegistry.run_keeps_client hidentified.wellFormed hafter hlookup⟩

def duplicateStart : List (Env × Event) :=
  [Peer.connects ⟨1, 11, ['a']⟩, Peer.connects ⟨2, 22, ['b']⟩, Peer.connects ⟨3, 12, ['a']⟩]

/-- The first client leaves, its rejected double too, and a third one comes. -/
def restart : List (Env × Event) :=
  [Peer.closes ⟨1, 11, ['a']⟩, Peer.closes ⟨3, 12, ['a']⟩, Peer.connects ⟨4, 13, ['a']⟩]

theorem client_table_after_restart :
    ∃ r r', daemonRun duplicateStart = some r ∧ run LocalRegistry.step r restart = some r' ∧
      (r.client ⟨0⟩).client_pid = 11 ∧ (r'.client ⟨0⟩).client_pid = 13 ∧ r'.ClientTable ∧
      ∃ c', r'.m_clients_by_name.lookup ['a'] = some c' ∧ (r'.client c').client_id = (r.client ⟨0⟩).client_id := by
  refine ⟨_, _, rfl, rfl, by decide, by decide, ?_⟩
  have hinvariant := @client_table_invariant duplicateStart restart _ _ (by decide) (by decide) rfl rfl
  exact ⟨hinvariant.1, hinvariant.2 ['a'] ⟨0⟩ (by decide)⟩

end hub.local_registry
