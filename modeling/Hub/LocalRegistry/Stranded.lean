import Hub.LocalRegistry.Connection

namespace hub.local_registry

open LocalRegistry Event

namespace LocalRegistry

variable (r : LocalRegistry)

def Claims (name : Str) (id : UInt32) : Prop :=
  ∃ c, r.m_clients_by_name.lookup name = some c ∧ (r.client c).client_channel_id = id

def Holds (name : Str) (id : UInt32) : Prop :=
  ∃ c, r.m_clients_by_name.lookup name = some c ∧ (r.client c).client_status = .ONLINE ∧
    (r.client c).client_channel_id = id

def Running (name : Str) : Prop :=
  ∃ c, r.m_clients_by_name.lookup name = some c ∧ (r.client c).client_status = .ONLINE

instance (name : Str) : Decidable (r.Running name) :=
  match hlookup : r.m_clients_by_name.lookup name with
  | none => .isFalse (by simp [Running, hlookup])
  | some c => decidable_of_iff ((r.client c).client_status = .ONLINE) (by simp [Running, hlookup])

section Claims

variable {r} {r' : LocalRegistry} {env : Env} {name : Str} {id : UInt32}

theorem holds_iff_claims (hconn : r.Connected) (hopen : (r.m_server.getChannelById id).isSome) :
    r.Holds name id ↔ r.Claims name id := by
  constructor
  · rintro ⟨c, hlookup, _, hid⟩
    exact ⟨c, hlookup, hid⟩
  · rintro ⟨c, hlookup, rfl⟩
    exact ⟨c, hlookup, (hconn.online_iff hlookup).mpr hopen, rfl⟩

theorem step_claims_iff {label : Env × Event} (hwf : r.WellFormed) (hfresh : FreshChannel r label)
    (hstep : r.step label = some r') (hid : id ∈ r.m_server.issued)
    (hopen : (r'.m_server.getChannelById id).isSome) : r'.Claims name id ↔ r.Claims name id := by
  obtain ⟨env, event⟩ := label
  cases event with
  | connect channel =>
    have hne : id ≠ channel.id := fun heq => hfresh (heq ▸ hid)
    constructor
    · rintro ⟨c, hlookup, hc⟩
      have hwf' := step_wellFormed hwf hstep
      rcases connect_records hstep (hwf'.names_live hlookup) with ⟨hlive, hsame⟩ | ⟨_, _, hnew⟩
      · have hname := hwf.live_named hlive
        rw [← hsame, hwf'.names_keyed hlookup] at hname
        rw [hsame] at hc
        exact ⟨c, hname, hc⟩
      · exact absurd (hc.symm.trans hnew) hne
    · rintro ⟨c, hlookup, hc⟩
      have hchannel : ((r.accept channel).channelOf c).isSome := by
        have haccept : (r.accept channel).channelOf c = _ :=
          r.getChannelById_accept channel (r.client c).client_channel_id
        rw [haccept, hc, ← connect_channels hstep]
        exact hopen
      have hkept := (connect_kept hstep (hwf.names_live hlookup) hchannel).2
      refine ⟨c, (step_keeps_client hwf hstep hlookup).1, ?_⟩
      rw [hkept]
      exact hc
  | close channel_id =>
    obtain ⟨hnames, _, hrecords⟩ := close_identity hstep
    simp only [Claims, hnames, hrecords]
  | message channel request =>
    have hsame := message_sameClients hstep
    simp only [Claims, hsame.names, hsame.channel_id]

theorem run_open {labels : List (Env × Event)} (hwf : r.WellFormed) (hfresh : Meets step FreshChannel r labels)
    (hrun : run step r labels = some r') (hid : id ∈ r.m_server.issued)
    (hopen : (r'.m_server.getChannelById id).isSome) : (r.m_server.getChannelById id).isSome := by
  induction labels generalizing r with
  | nil =>
    cases hrun
    exact hopen
  | cons label labels ih =>
    obtain ⟨next, hstep, hrest⟩ := run_cons_eq_some.mp hrun
    have hnext := ih (step_wellFormed hwf hstep) (hfresh.2 next hstep) hrest (step_issued hwf hstep hid)
    apply (step_open hstep hnext).resolve_right
    rintro ⟨channel, hconnect, rfl⟩
    have hlabel := hfresh.1
    rw [FreshChannel, hconnect] at hlabel
    exact hlabel hid

theorem run_claims_iff {labels : List (Env × Event)} (hwf : r.WellFormed)
    (hfresh : Meets step FreshChannel r labels) (hrun : run step r labels = some r')
    (hid : id ∈ r.m_server.issued) (hopen : (r'.m_server.getChannelById id).isSome) :
    r'.Claims name id ↔ r.Claims name id := by
  induction labels generalizing r with
  | nil =>
    cases hrun
    rfl
  | cons label labels ih =>
    obtain ⟨next, hstep, hrest⟩ := run_cons_eq_some.mp hrun
    have hwf' := step_wellFormed hwf hstep
    have hid' := step_issued hwf hstep hid
    have hnext := run_open hwf' (hfresh.2 next hstep) hrest hid' hopen
    rw [ih hwf' (hfresh.2 next hstep) hrest hid', step_claims_iff hwf hfresh.1 hstep hid hnext]

end Claims

/-- An open channel that a record carries is a channel for the name of the record. -/
def Addressed : Prop :=
  ∀ c channel, r.clients.Live c → r.channelOf c = some channel →
    parse_localaddr channel.peeraddr = .parsed (r.client c).client_pid (r.client c).client_name

section Addressed

variable {r} {r' : LocalRegistry} {label : Env × Event}

theorem step_addressed (haddressed : r.Addressed) (hwf : r.WellFormed) (hconn : r.Connected)
    (hfresh : FreshChannel r label) (hstep : r.step label = some r') : r'.Addressed := by
  obtain ⟨env, event⟩ := label
  cases event with
  | connect channel =>
    intro c found hlive hfound
    rw [Tables.channelOf, connect_channels hstep] at hfound
    rcases connect_records hstep hlive with ⟨hlive, hsame⟩ | ⟨_, hparse, hid⟩
    · have hid : (r.client c).client_channel_id ≠ channel.id := by
        intro heq
        apply hfresh
        rw [← heq]
        exact hconn.client_issued (hwf.live_named hlive)
      rw [hsame, if_neg hid] at hfound
      rw [hsame]
      exact haddressed c found hlive hfound
    · rw [if_pos hid] at hfound
      cases hfound
      exact hparse
  | close id =>
    intro c found hlive hfound
    obtain ⟨_, hnext, hrecords⟩ := close_identity hstep
    obtain ⟨_, hpid, hid, hname⟩ := hrecords c
    rw [Heap.Live, hnext] at hlive
    rw [Tables.channelOf, close_channels hstep, hid] at hfound
    rw [hpid, hname]
    split at hfound
    · cases hfound
    · exact haddressed c found hlive hfound
  | message channel request =>
    intro c found hlive hfound
    have hsame := message_sameClients hstep
    rw [hsame.channelOf] at hfound
    rw [hsame.client_pid, hsame.client_name]
    exact haddressed c found (hsame.live.mp hlive) hfound

theorem daemonRun_addressed {labels : List (Env × Event)} (hfresh : Meets step FreshChannel init labels)
    (h : daemonRun labels = some r) : r.Addressed := by
  refine (run_invariant_of_meets (fun r : LocalRegistry => r.WellFormed ∧ r.Connected ∧ r.Addressed) ?_
    ⟨Tables.init_wellFormed, Tables.init_connected, ?_⟩ hfresh h).2.2
  · rintro r label next ⟨hwf, hconn, haddressed⟩ hlabel hstep
    exact ⟨step_wellFormed hwf hstep, step_connected hwf hconn hlabel hstep,
      step_addressed haddressed hwf hconn hlabel hstep⟩
  · intro c channel hlive
    exact absurd hlive (Nat.not_lt_zero _)

end Addressed

theorem connect_claims_self_iff {r r' : LocalRegistry} {env : Env} {channel : SocketChannel} {client_pid : Int}
    {client_name : Str} (hparse : parse_localaddr channel.peeraddr = .parsed client_pid client_name)
    (hwf : r.WellFormed) (hconn : r.Connected) (hfresh : channel.id ∉ r.m_server.issued)
    (hstep : r.step (env, .connect channel) = some r') :
    r'.Claims client_name channel.id ↔
      channel.peeraddr.strstr LOCAL_REGISTRY_CTRL_SOCKET_FILE = false ∧ ¬ r.Running client_name := by
  have hold : ∀ {name c}, r.m_clients_by_name.lookup name = some c →
      (r.accept channel).channelOf c = r.channelOf c := by
    intro name c hlookup
    refine (r.getChannelById_accept channel (r.client c).client_channel_id).trans (if_neg ?_)
    intro heq
    exact hfresh (heq ▸ hconn.client_issued hlookup)
  constructor
  · rintro ⟨c, hlookup, hc⟩
    have hold' : ¬ (r.clients.Live c ∧ r'.client c = r.client c) := by
      rintro ⟨hlive, hsame⟩
      rw [hsame] at hc
      exact hfresh (hc ▸ hconn.client_issued (hwf.live_named hlive))
    have hlive' := (step_wellFormed hwf hstep).names_live hlookup
    refine ⟨((connect_records hstep hlive').resolve_left hold').1, ?_⟩
    rintro ⟨running, hrunning, honline⟩
    cases hlookup.symm.trans (step_keeps_client hwf hstep hrunning).1
    have hopen := (hconn.online_iff hrunning).mp honline
    rw [← hold hrunning] at hopen
    have hlive := hwf.names_live hrunning
    exact hold' ⟨hlive, (connect_kept hstep hlive hopen).2⟩
  · rintro ⟨hctrl, hfree⟩
    apply connect_taken hparse hctrl hstep
    intro c hlookup
    rw [hold hlookup, ← Option.not_isSome_iff_eq_none, ← hconn.online_iff hlookup]
    exact fun honline => hfree ⟨c, hlookup, honline⟩

end LocalRegistry

/-- As long as its channel is open, the record of a process's name is online on it exactly
if the process was not refused as running again when it came, and it was not refused when no
channel for the name was open. -/
theorem open_channel_recorded_iff {before after : List (Env × Event)} {env : Env} {peer : Peer}
    {r r' : LocalRegistry} (hpid : peer.client_pid ≤ 2147483647) (hslash : '/' ∉ peer.client_name)
    (hdot : '.' ∉ peer.client_name)
    (hfresh : Meets LocalRegistry.step Event.FreshChannel LocalRegistry.init
      (before ++ (env, .connect peer.channel) :: after))
    (hbefore : daemonRun before = some r)
    (hafter : run LocalRegistry.step r ((env, .connect peer.channel) :: after) = some r')
    (hopen : (r'.m_server.getChannelById peer.id).isSome) :
    (r'.Holds peer.client_name peer.id ↔
      peer.channel.peeraddr.strstr LOCAL_REGISTRY_CTRL_SOCKET_FILE = false ∧ ¬ r.Running peer.client_name) ∧
    ((∀ id channel pid, r.m_server.getChannelById id = some channel →
      parse_localaddr channel.peeraddr ≠ .parsed pid peer.client_name) → ¬ r.Running peer.client_name) := by
  have hwf := daemonRun_wellFormed hbefore
  have hconn := daemonRun_connected hfresh.append_left hbefore
  have hrest := hfresh.append_right hbefore
  have hrun : daemonRun (before ++ (env, .connect peer.channel) :: after) = some r' :=
    run_append_eq_some.mpr ⟨r, hbefore, hafter⟩
  obtain ⟨next, hstep, hnext⟩ := run_cons_eq_some.mp hafter
  constructor
  · have hparse : parse_localaddr peer.channel.peeraddr = _ := parse_localaddr_fmt hpid hslash hdot
    have hwf' := step_wellFormed hwf hstep
    have hconn' := connect_connected hconn hrest.1 hstep
    have hid : peer.id ∈ next.m_server.issued :=
      hconn'.open_issued ((connect_channels hstep peer.id).trans (if_pos rfl))
    rw [holds_iff_claims (daemonRun_connected hfresh hrun) hopen,
      run_claims_iff hwf' (hrest.2 next hstep) hnext hid hopen]
    exact connect_claims_self_iff hparse hwf hconn hrest.1 hstep
  · rintro hnone ⟨c, hlookup, honline⟩
    obtain ⟨channel, hchannel⟩ := Option.isSome_iff_exists.mp ((hconn.online_iff hlookup).mp honline)
    apply hnone _ channel (r.client c).client_pid hchannel
    rw [← hwf.names_keyed hlookup]
    exact daemonRun_addressed hfresh.append_left hbefore c channel (hwf.names_live hlookup) hchannel

/-- A process that has gone and comes back, and a double of it. -/
theorem restarted_process_recorded :
    ∃ r r', daemonRun [Peer.connects ⟨1, 11, ['a']⟩, Peer.closes ⟨1, 11, ['a']⟩] = some r ∧
      run LocalRegistry.step r [Peer.connects ⟨2, 12, ['a']⟩, Peer.connects ⟨3, 13, ['a']⟩] = some r' ∧
      r'.Holds ['a'] 2 := by
  refine ⟨_, _, rfl, rfl, ?_⟩
  have hrecorded := @open_channel_recorded_iff [Peer.connects ⟨1, 11, ['a']⟩, Peer.closes ⟨1, 11, ['a']⟩]
    [Peer.connects ⟨3, 13, ['a']⟩] .plain ⟨2, 12, ['a']⟩ _ _ (by decide) (by decide) (by decide) (by decide)
    rfl rfl (by decide)
  exact hrecorded.1.mpr (by decide)

/-- The process comes back before the daemon has seen its old connection close. Its channel
is then the only one open, and the record of its name is offline. -/
theorem restarted_process_stranded :
    Meets LocalRegistry.step Event.FreshChannel LocalRegistry.init
      [Peer.connects ⟨1, 11, ['a']⟩, Peer.connects ⟨2, 12, ['a']⟩, Peer.closes ⟨1, 11, ['a']⟩] ∧
    ∃ r, daemonRun [Peer.connects ⟨1, 11, ['a']⟩, Peer.connects ⟨2, 12, ['a']⟩, Peer.closes ⟨1, 11, ['a']⟩] = some r ∧
      r.m_server.channels.keys = [2] ∧ r.m_clients_by_name.lookup ['a'] = some ⟨0⟩ ∧
      (r.client ⟨0⟩).client_status = .OFFLINE ∧ (r.client ⟨0⟩).client_channel_id = 1 :=
  ⟨by decide, _, rfl, by decide, by decide, by decide, by decide⟩

end hub.local_registry
