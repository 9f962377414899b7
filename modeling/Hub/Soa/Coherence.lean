import Hub.Soa.Registration

namespace hub.soa

open local_registry LocalRegistry

variable {ι : Type} {processes : Processes ι}

namespace Processes

theorem parse_channel (processes : Processes ι) (p : ι) (id : UInt32) :
    parse_localaddr (processes.channel p id).peeraddr =
      .parsed (processes.client_pid p) (processes.client_name p) :=
  parse_localaddr_fmt (processes.pid_le p) (processes.no_slash p) (processes.no_dot p)

theorem eq_of_pid (processes : Processes ι) {p q : ι}
    (h : (processes.client_pid p : Int) = processes.client_pid q) : p = q :=
  processes.pid_inj (Int.ofNat_inj.mp h)

theorem eq_of_channel (processes : Processes ι) {p q : ι} {id : UInt32}
    (h : processes.channel p id = processes.channel q id) : p = q := by
  have hparse := processes.parse_channel p id
  rw [h, processes.parse_channel] at hparse
  exact processes.eq_of_pid (ParsedAddr.parsed.inj hparse).1.symm

end Processes

/-- How the client table goes with the processes and the connections that they have open.
A process that is connected is in no record but that of its connection. -/
structure Coherent (processes : Processes ι) (t : Tables) (channel : ι → Option UInt32) : Prop where
  wellFormed : t.WellFormed
  connected : t.Connected
  opened : ∀ {p id}, channel p = some id → t.m_server.getChannelById id = some (processes.channel p id)
  named : ∀ {c p}, t.clients.Live c → (t.client c).client_pid = processes.client_pid p →
    (t.client c).client_name = processes.client_name p ∧
      (processes.channel p 0).peeraddr.strstr LOCAL_REGISTRY_CTRL_SOCKET_FILE = false
  current : ∀ {c p id}, t.clients.Live c → (t.client c).client_pid = processes.client_pid p →
    channel p = some id → (t.client c).client_channel_id = id

/-- The record of the process's name has the client id, and the pid of the process as long
as it is connected. -/
structure Recorded (processes : Processes ι) (t : Tables) (channel : ι → Option UInt32) (p : ι)
    (client_id : UInt32) : Prop where
  accepted : (processes.channel p 0).peeraddr.strstr LOCAL_REGISTRY_CTRL_SOCKET_FILE = false
  record : ∃ c, t.m_clients_by_name.lookup (processes.client_name p) = some c ∧ (t.client c).client_id = client_id ∧
    ((channel p).isSome → (t.client c).client_pid = processes.client_pid p)

section Opens

variable {r r' : LocalRegistry} {channel : ι → Option UInt32} {env : Env} {p : ι} {id : UInt32}

namespace Coherent

variable (h : Coherent processes r.toTables channel) (hfresh : id ∉ r.m_server.issued)

include h hfresh

theorem ne_of_fresh {q : ι} {other : UInt32} (hq : channel q = some other) : other ≠ id := by
  rintro rfl
  exact hfresh (h.connected.open_issued (h.opened hq))

theorem client_ne_of_fresh {c : ClientPtr} (hlive : r.clients.Live c) : (r.client c).client_channel_id ≠ id := by
  rintro rfl
  exact hfresh (h.connected.client_issued (h.wellFormed.live_named hlive))

theorem channelOf_accept {c : ClientPtr} (hlive : r.clients.Live c) :
    (r.accept (processes.channel p id)).channelOf c = r.channelOf c := by
  have hchannel := r.getChannelById_accept (processes.channel p id) (r.client c).client_channel_id
  have hid : (r.client c).client_channel_id ≠ (processes.channel p id).id := h.client_ne_of_fresh hfresh hlive
  rw [if_neg hid] at hchannel
  exact hchannel

end Coherent

theorem opens_records (hstep : r.step (env, .connect (processes.channel p id)) = some r') {c : ClientPtr}
    (hlive : r'.clients.Live c) :
    (r.clients.Live c ∧ r'.client c = r.client c) ∨
    ((processes.channel p 0).peeraddr.strstr LOCAL_REGISTRY_CTRL_SOCKET_FILE = false ∧
      (r'.client c).client_pid = processes.client_pid p ∧ (r'.client c).client_name = processes.client_name p ∧
      (r'.client c).client_channel_id = id) := by
  apply (connect_records hstep hlive).imp_right
  rintro ⟨hctrl, hparse, hid⟩
  obtain ⟨hpid, hname⟩ := ParsedAddr.parsed.inj (hparse.symm.trans (processes.parse_channel p id))
  exact ⟨hctrl, hpid, hname, hid⟩

theorem Coherent.takes_over (h : Coherent processes r.toTables channel) (hfresh : id ∉ r.m_server.issued)
    (hctrl : (processes.channel p 0).peeraddr.strstr LOCAL_REGISTRY_CTRL_SOCKET_FILE = false)
    (hstep : r.step (env, .connect (processes.channel p id)) = some r') {c : ClientPtr}
    (hlookup : r.m_clients_by_name.lookup (processes.client_name p) = some c) (hfree : r.channelOf c = none) :
    (r'.client c).client_channel_id = id ∧ (r'.client c).client_pid = processes.client_pid p := by
  obtain ⟨c', hlookup', hid⟩ := connect_taken (processes.parse_channel p id) hctrl hstep fun c' hc' => by
    cases hlookup.symm.trans hc'
    exact (h.channelOf_accept hfresh (h.wellFormed.names_live hlookup)).trans hfree
  have hkeeps := (step_keeps_client h.wellFormed hstep hlookup).1
  cases hkeeps.symm.trans hlookup'
  refine ⟨hid, ?_⟩
  rcases opens_records hstep ((step_wellFormed h.wellFormed hstep).names_live hlookup') with
    ⟨hlive, hsame⟩ | ⟨_, hpid, _⟩
  · rw [hsame] at hid
    exact absurd hid (h.client_ne_of_fresh hfresh hlive)
  · exact hpid

variable [DecidableEq ι]

theorem Coherent.opens (h : Coherent processes r.toTables channel) (hfresh : id ∉ r.m_server.issued)
    (hreleased : ∀ c ∈ r.m_clients_by_name.lookup (processes.client_name p),
      (r.client c).client_pid = processes.client_pid p → r.channelOf c = none)
    (hstep : r.step (env, .connect (processes.channel p id)) = some r') :
    Coherent processes r'.toTables (Function.update channel p (some id)) := by
  refine ⟨step_wellFormed h.wellFormed hstep, connect_connected h.connected hfresh hstep, ?_, ?_, ?_⟩
  · intro q other hq
    rw [connect_channels hstep]
    by_cases hqp : q = p
    · subst hqp
      cases (Function.update_self ..).symm.trans hq
      exact if_pos rfl
    · rw [Function.update_of_ne hqp] at hq
      exact (if_neg (h.ne_of_fresh hfresh hq)).trans (h.opened hq)
  · intro c q hlive hpid
    rcases opens_records hstep hlive with ⟨hlive, hsame⟩ | ⟨hctrl, hpid', hname, _⟩
    · rw [hsame] at hpid ⊢
      exact h.named hlive hpid
    · cases processes.eq_of_pid (hpid'.symm.trans hpid)
      exact ⟨hname, hctrl⟩
  · intro c q other hlive hpid hq
    rcases opens_records hstep hlive with ⟨hlive, hsame⟩ | ⟨_, hpid', _, hid⟩
    · rw [hsame] at hpid
      by_cases hqp : q = p
      · subst hqp
        cases (Function.update_self ..).symm.trans hq
        obtain ⟨hname, hctrl⟩ := h.named hlive hpid
        have hlookup := hname ▸ h.wellFormed.live_named hlive
        exact (h.takes_over hfresh hctrl hstep hlookup (hreleased c hlookup hpid)).1
      · rw [Function.update_of_ne hqp] at hq
        exact (congrArg LocalClient.client_channel_id hsame).trans (h.current hlive hpid hq)
    · cases processes.eq_of_pid (hpid'.symm.trans hpid)
      cases (Function.update_self ..).symm.trans hq
      exact hid

theorem Recorded.opens {q : ι} {client_id : UInt32} (hrecorded : Recorded processes r.toTables channel q client_id)
    (h : Coherent processes r.toTables channel) (hfresh : id ∉ r.m_server.issued)
    (hreleased : q = p → ∀ c ∈ r.m_clients_by_name.lookup (processes.client_name p), r.channelOf c = none)
    (hstep : r.step (env, .connect (processes.channel p id)) = some r') :
    Recorded processes r'.toTables (Function.update channel p (some id)) q client_id := by
  obtain ⟨hctrl, c, hlookup, hid, hpid⟩ := hrecorded
  obtain ⟨hlookup', hid'⟩ := step_keeps_client h.wellFormed hstep hlookup
  refine ⟨hctrl, c, hlookup', hid'.trans hid, fun hopen => ?_⟩
  by_cases hqp : q = p
  · subst hqp
    exact (h.takes_over hfresh hctrl hstep hlookup (hreleased rfl c hlookup)).2
  · rw [Function.update_of_ne hqp] at hopen
    obtain ⟨other, hq⟩ := Option.isSome_iff_exists.mp hopen
    have hlive := h.wellFormed.names_live hlookup
    have hconnected : ((r.accept (processes.channel p id)).channelOf c).isSome := by
      rw [h.channelOf_accept hfresh hlive, Tables.channelOf, h.current hlive (hpid hopen) hq, h.opened hq]
      rfl
    rw [(connect_kept hstep hlive hconnected).2]
    exact hpid hopen

end Opens

section Closes

variable {r r' : LocalRegistry} {channel : ι → Option UInt32} {env : Env} {p : ι} {id : UInt32}

theorem Coherent.closes [DecidableEq ι] (h : Coherent processes r.toTables channel) (p : ι) :
    Coherent processes r.toTables (Function.update channel p none) := by
  have hothers : ∀ {q other}, Function.update channel p none q = some other → channel q = some other := by
    intro q other hq
    by_cases hqp : q = p
    · subst hqp
      cases (Function.update_self ..).symm.trans hq
    · exact (Function.update_of_ne hqp ..).symm.trans hq
  exact ⟨h.wellFormed, h.connected, fun hq => h.opened (hothers hq), h.named,
    fun hlive hpid hq => h.current hlive hpid (hothers hq)⟩

theorem Recorded.closes [DecidableEq ι] {q : ι} {client_id : UInt32}
    (h : Recorded processes r.toTables channel q client_id) (p : ι) :
    Recorded processes r.toTables (Function.update channel p none) q client_id := by
  obtain ⟨hctrl, c, hlookup, hid, hpid⟩ := h
  refine ⟨hctrl, c, hlookup, hid, fun hopen => hpid ?_⟩
  by_cases hqp : q = p
  · subst hqp
    rw [Function.update_self] at hopen
    cases hopen
  · rwa [Function.update_of_ne hqp] at hopen

variable (hstep : r.step (env, .close id) = some r')

include hstep

theorem Coherent.disconnects (h : Coherent processes r.toTables channel)
    (hchannel : r.m_server.getChannelById id = some (processes.channel p id)) (hclosed : channel p ≠ some id) :
    Coherent processes r'.toTables channel := by
  obtain ⟨_, hnext, hrecords⟩ := close_identity hstep
  have hlive : ∀ {c}, r'.clients.Live c → r.clients.Live c := by
    intro c hlive
    rwa [Heap.Live, hnext] at hlive
  refine ⟨step_wellFormed h.wellFormed hstep, close_connected h.wellFormed h.connected hstep, ?_, ?_, ?_⟩
  · intro q other hq
    rw [close_channels hstep, if_neg]
    · exact h.opened hq
    · rintro rfl
      have hsame := hchannel.symm.trans (h.opened hq)
      cases processes.eq_of_channel (Option.some.inj hsame)
      exact hclosed hq
  · intro c q hc hq
    obtain ⟨_, hpid, _, hname⟩ := hrecords c
    rw [hname]
    exact h.named (hlive hc) (hpid.symm.trans hq)
  · intro c q other hc hq hqchannel
    obtain ⟨_, hpid, hid, _⟩ := hrecords c
    exact hid.trans (h.current (hlive hc) (hpid.symm.trans hq) hqchannel)

theorem Recorded.disconnects {q : ι} {client_id : UInt32} (h : Recorded processes r.toTables channel q client_id) :
    Recorded processes r'.toTables channel q client_id := by
  obtain ⟨hnames, _, hrecords⟩ := close_identity hstep
  obtain ⟨hctrl, c, hlookup, hid, hpid⟩ := h
  obtain ⟨hid', hpid', _⟩ := hrecords c
  exact ⟨hctrl, c, hnames ▸ hlookup, hid'.trans hid, fun hopen => hpid'.trans (hpid hopen)⟩

end Closes

section Answers

variable {r : LocalRegistry} {name : Str} {p : ι}
  (hpid : (r.registerResp (r.m_clients_by_name.lookup name)).client_pid = processes.client_pid p)

include hpid

theorem record_of_registerResp : ∃ c, r.m_clients_by_name.lookup name = some c ∧
    (r.client c).client_id = (r.registerResp (r.m_clients_by_name.lookup name)).client_id ∧
    (r.client c).client_pid = processes.client_pid p := by
  cases hlookup : r.m_clients_by_name.lookup name with
  | none =>
    rw [hlookup] at hpid
    have hpos := processes.pid_pos p
    simp only [registerResp] at hpid
    omega
  | some c =>
    rw [hlookup] at hpid
    exact ⟨c, rfl, rfl, hpid⟩

theorem Coherent.recorded {channel : ι → Option UInt32} (h : Coherent processes r.toTables channel) :
    Recorded processes r.toTables channel p (r.registerResp (r.m_clients_by_name.lookup name)).client_id := by
  obtain ⟨c, hlookup, hid, hpid⟩ := record_of_registerResp hpid
  have hlive := h.wellFormed.names_live hlookup
  obtain ⟨hname, hctrl⟩ := h.named hlive hpid
  exact ⟨hctrl, c, hname ▸ h.wellFormed.live_named hlive, hid, fun _ => hpid⟩

end Answers

end hub.soa
