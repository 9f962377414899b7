import Hub.LocalRegistry.Queries
import Hub.Soa.LookupCache

namespace hub.soa

open local_registry Function LocalRegistry

variable {φ κ : Type}

namespace LookupSystem

structure Quiet (sys : LookupSystem φ κ) : Prop where
  outbox : sys.outbox = []
  inbox : sys.inbox = []

variable (sys : LookupSystem φ κ)

/-- The daemon has the process online on its connection, under the name in its messages. -/
def Attached (channel_id : UInt32) : Prop :=
  ∃ c, sys.daemon.m_clients_by_name.lookup sys.lib.clientItem.client_name = some c ∧ sys.daemon.Reaches c channel_id

/-- The call has returned the service as an available method of the client with that id. -/
def Yields (k : κ) (client_id : UInt32) : Prop :=
  ∃ it, sys.lookup k = .returned (some it) ∧ it.service_type = LOCAL_SERVICE_TYPE_METHOD ∧
    it.service_status = LOCAL_SERVICE_STATUS_AVAILABLE ∧
    it.service_provider.map ProcessClient.client_id = some client_id

/-- What happens next when nothing interrupts the call: messages under way arrive, then
the thread goes on. -/
def turn (k : κ) (service_id : UInt32) (env : Env) : LookupEvent φ κ :=
  match sys.outbox, sys.inbox, sys.lookup k with
  | _ :: _, _, _ => .deliver env
  | [], _ :: _, _ => .receive
  | [], [], .idle => .get_service k service_id true
  | [], [], _ => .proceed k true

/-- What the daemon and the process keep while the call goes on. -/
structure Serving (sys : LookupSystem φ κ) (s client_id channel_id : UInt32) : Prop where
  wellFormed : sys.daemon.WellFormed
  lists : sys.daemon.ListsMethod s client_id
  attached : sys.Attached channel_id
  online : sys.lib.client_status = .ONLINE

section Serving

variable {sys} {next : LookupSystem φ κ} {s client_id channel_id : UInt32}

theorem Serving.of_same (h : sys.Serving s client_id channel_id) (htables : next.daemon.toTables = sys.daemon.toTables)
    (hname : next.lib.client_name = sys.lib.client_name) (hstatus : next.lib.client_status = sys.lib.client_status) :
    next.Serving s client_id channel_id where
  wellFormed := by
    rw [htables]
    exact h.wellFormed
  lists := by
    rw [htables]
    exact h.lists
  attached := by
    obtain ⟨c, hlookup, hreach⟩ := h.attached
    refine ⟨c, ?_, by rwa [htables]⟩
    rw [htables, Library.clientItem, hname]
    exact hlookup
  online := hstatus.trans h.online

end Serving

/-- Where the uninterrupted call stands, with a bound on the turns that it still takes. -/
inductive Underway (s client_id : UInt32) (sys : LookupSystem φ κ) (k : κ) : Nat → Prop where
  | saving {resp : StGetServiceResp} {client : ProcessClient} (hlookup : sys.lookup k = .saving resp (some client))
      (hquiet : sys.Quiet) (hnames : resp.Names s client_id) (hclient : client.client_id = client_id) :
      Underway s client_id sys k 1
  | fetched {resp : StGetServiceResp} {item : StLocalClientItem} (hlookup : sys.lookup k = .fetched resp ⟨some item⟩)
      (hquiet : sys.Quiet) (hnames : resp.Names s client_id) (hitem : item.client_id = client_id) :
      Underway s client_id sys k 2
  | found {resp : StGetServiceResp} {msg_seqid : UInt32} {frame : Sent} {item : StLocalClientItem}
      (hlookup : sys.lookup k = .fetching resp msg_seqid) (houtbox : sys.outbox = []) (hinbox : sys.inbox = [frame])
      (hpending : sys.pending_requests.lookup frame.header.msg_seqid = some k)
      (hpayload : frame.payload = .get_client_resp ⟨some item⟩) (hnames : resp.Names s client_id)
      (hitem : item.client_id = client_id) : Underway s client_id sys k 3
  | fetching {resp : StGetServiceResp} {msg_seqid : UInt32} {header : StLocalMsgHeader}
      (hlookup : sys.lookup k = .fetching resp msg_seqid) (houtbox : sys.outbox = [.get_client header ⟨client_id⟩])
      (hinbox : sys.inbox = []) (hpending : sys.pending_requests.lookup header.msg_seqid = some k)
      (hnames : resp.Names s client_id) : Underway s client_id sys k 4
  | answered {resp : StGetServiceResp} (hlookup : sys.lookup k = .answered resp) (hquiet : sys.Quiet)
      (hnext : sys.pending_requests.lookup sys.lib.m_msg_seqid = none) (hnames : resp.Names s client_id) :
      Underway s client_id sys k 5
  | listed {resp : StGetServiceResp} {msg_seqid : UInt32} {frame : Sent}
      (hlookup : sys.lookup k = .asking msg_seqid) (houtbox : sys.outbox = []) (hinbox : sys.inbox = [frame])
      (hpending : sys.pending_requests.lookup frame.header.msg_seqid = some k)
      (hnext : sys.pending_requests.lookup sys.lib.m_msg_seqid = none)
      (hpayload : frame.payload = .get_service_resp resp) (hnames : resp.Names s client_id) :
      Underway s client_id sys k 6
  | asking {msg_seqid : UInt32} {header : StLocalMsgHeader} (hlookup : sys.lookup k = .asking msg_seqid)
      (houtbox : sys.outbox = [.get_service header ⟨s, some sys.lib.clientItem⟩]) (hinbox : sys.inbox = [])
      (hpending : sys.pending_requests.lookup header.msg_seqid = some k)
      (hnext : sys.pending_requests.lookup sys.lib.m_msg_seqid = none) : Underway s client_id sys k 7
  | idle (hlookup : sys.lookup k = .idle) (hquiet : sys.Quiet) (hfits : sys.lib.g_client.Fits s client_id)
      (hpending : sys.pending_requests.lookup sys.lib.m_msg_seqid = none)
      (hnext : sys.pending_requests.lookup (sys.lib.m_msg_seqid + 1) = none) : Underway s client_id sys k 8

section Underway

variable [DecidableEq κ] {sys} {next : LookupSystem φ κ} {s client_id : UInt32}
  {channel : SocketChannel} {k : κ}

/-- One turn of the call: it returns the service, or comes nearer to that. -/
def Advances (channel : SocketChannel) (sys : LookupSystem φ κ) (s client_id : UInt32) (k : κ) (event : LookupEvent φ κ)
    (turns : Nat) : Prop :=
  ∃ next, sys.step channel event = some next ∧ next.Serving s client_id channel.id ∧
    (next.Yields k client_id ∨ ∃ fewer < turns, Underway s client_id next k fewer)

theorem send_msg_to_daemon_sync_outbox (sys : LookupSystem φ κ) (k : κ) (service_id : UInt32)
    (request : StLocalMsgHeader → Request) (waiting : UInt32 → Lookup) (failed : Lookup) (houtbox : sys.outbox = []) :
    (sys.send_msg_to_daemon_sync k true service_id request waiting failed).outbox =
      [request ⟨MODULE_ID_AUTOLIB_LOCAL_REGISTRY, sys.lib.m_msg_seqid, E_IPC_HV_SOA_MSG_TYPE_METHOD_REQUEST_SYNC,
        service_id, 0⟩] := by
  change sys.outbox ++ _ = _
  rw [houtbox]
  rfl

theorem send_msg_to_daemon_sync_pending (sys : LookupSystem φ κ) (k : κ) (service_id : UInt32)
    (request : StLocalMsgHeader → Request) (waiting : UInt32 → Lookup) (failed : Lookup)
    (hpending : sys.pending_requests.lookup sys.lib.m_msg_seqid = none) :
    (sys.send_msg_to_daemon_sync k true service_id request waiting failed).pending_requests.lookup
      sys.lib.m_msg_seqid = some k := by
  change (sys.pending_requests.insertNew sys.lib.m_msg_seqid k).lookup sys.lib.m_msg_seqid = some k
  rw [UnorderedMap.lookup_insertNew_self, hpending]
  rfl

variable {resp : StGetServiceResp} {frame : Sent} {env : Env}

theorem deliver_answer {request : Request} (houtbox : sys.outbox = [request])
    (hinbox : sys.inbox = []) (hchannel : frame.channel_id = channel.id)
    (hstep : sys.daemon.step (env, .message channel request) =
      some { sys.daemon with sent := sys.daemon.sent ++ [frame] }) :
    sys.step channel (.deliver env) =
      some { sys with
        daemon := { sys.daemon with sent := sys.daemon.sent ++ [frame] }
        outbox := []
        inbox := [frame] } := by
  simp [step, houtbox, handle, hstep, hinbox, hchannel]

section

variable (hserving : sys.Serving s client_id channel.id)

include hserving

theorem receive_answer (hinbox : sys.inbox = [frame])
    (hanswer : frame.payload.IsAnswer) (hpending : sys.pending_requests.lookup frame.header.msg_seqid = some k) :
    sys.step channel .receive =
      some { { sys with inbox := [] }.setLookup k ((sys.lookup k).wake frame.payload) with
        pending_requests := sys.pending_requests.erase frame.header.msg_seqid } := by
  simp only [step, hinbox, if_pos hserving.online, on_recv_daemon]
  split
  · rename_i hpayload
    rw [hpayload] at hanswer
    exact hanswer.elim
  · rename_i hpayload
    rw [hpayload] at hanswer
    exact hanswer.elim
  · simp only [hpending]

theorem advances_answered (hlookup : sys.lookup k = .answered resp) (hquiet : sys.Quiet)
    (hnext : sys.pending_requests.lookup sys.lib.m_msg_seqid = none) (hnames : resp.Names s client_id) :
    sys.Advances channel s client_id k (.proceed k true) 5 := by
  obtain ⟨provider_client, hprovider, rfl⟩ := hnames.provider
  have hstep : sys.step channel (.proceed k true) =
      some (sys.get_process_client k resp provider_client.client_id true) := by
    simp only [step, proceed, hlookup, hprovider]
  refine ⟨_, hstep, ?_⟩
  unfold get_process_client
  cases hfind : sys.lib.g_client.find_process_client provider_client.client_id with
  | some client =>
    refine ⟨hserving.of_same rfl rfl rfl, .inr ⟨1, by omega, ?_⟩⟩
    exact .saving (update_self ..) ⟨hquiet.outbox, hquiet.inbox⟩ hnames (sys.lib.g_client.keyed hfind)
  | none =>
    rw [if_neg (not_not_intro hserving.online)]
    refine ⟨hserving.of_same rfl rfl rfl, .inr ⟨4, by omega, ?_⟩⟩
    exact .fetching (update_self ..) (send_msg_to_daemon_sync_outbox _ _ _ _ _ _ hquiet.outbox) hquiet.inbox
      (send_msg_to_daemon_sync_pending _ _ _ _ _ _ hnext) hnames

theorem advances_idle (hlookup : sys.lookup k = .idle) (hquiet : sys.Quiet)
    (hfits : sys.lib.g_client.Fits s client_id) (hpending : sys.pending_requests.lookup sys.lib.m_msg_seqid = none)
    (hnext : sys.pending_requests.lookup (sys.lib.m_msg_seqid + 1) = none) :
    sys.Advances channel s client_id k (.get_service k s true) 8 := by
  have hstep : sys.step channel (.get_service k s true) = some (sys.get_service k s true) := by
    simp only [step, hlookup]
  refine ⟨_, hstep, ?_⟩
  unfold get_service
  split
  · rename_i hknown
    refine ⟨hserving.of_same rfl rfl rfl, .inl ?_⟩
    unfold Library.need_query at hknown
    cases hfind : sys.lib.g_client.find_service s with
    | none => simp [hfind] at hknown
    | some it =>
      obtain ⟨htype, hstatus⟩ := hfits it hfind
      rcases hstatus with hdefault | ⟨havailable, hprovider⟩
      · simp [hfind, htype, hdefault, E_IPC_HV_SOA_SERVICE_TYPE_METHOD, LOCAL_SERVICE_TYPE_METHOD] at hknown
      · exact ⟨it, update_self .., htype, havailable, hprovider⟩
  · rw [if_neg (not_not_intro hserving.online)]
    refine ⟨hserving.of_same rfl rfl rfl, .inr ⟨7, by omega, ?_⟩⟩
    refine .asking (update_self ..) (send_msg_to_daemon_sync_outbox _ _ _ _ _ _ hquiet.outbox) hquiet.inbox
      (send_msg_to_daemon_sync_pending _ _ _ _ _ _ hpending) ?_
    change (sys.pending_requests.insertNew sys.lib.m_msg_seqid k).lookup (sys.lib.m_msg_seqid + 1) = none
    have hne : sys.lib.m_msg_seqid + 1 ≠ sys.lib.m_msg_seqid := by simp
    rw [UnorderedMap.lookup_insertNew_ne _ _ hne]
    exact hnext

end

variable {header : StLocalMsgHeader} {item : StLocalClientItem} {turns : Nat}

theorem Underway.advances (h : Underway s client_id sys k turns)
    (hserving : sys.Serving s client_id channel.id) (henv : env.transport.Reliable) :
    sys.Advances channel s client_id k (sys.turn k s env) turns := by
  cases h with
  | @saving resp client hlookup hquiet hnames hclient =>
    simp only [turn, hquiet.outbox, hquiet.inbox, hlookup]
    obtain ⟨htype, hstatus, hprovider⟩ := sys.lib.g_client.save_service_available s client
    have hstep : sys.step channel (.proceed k true) =
        some ({ sys with lib := (sys.lib.save_answer resp (some client)).2 }.setLookup k
          (.returned (some (sys.lib.save_answer resp (some client)).1))) := by
      simp only [step, proceed, hlookup]
    refine ⟨_, hstep, hserving.of_same rfl rfl rfl, .inl ⟨_, update_self .., ?_⟩⟩
    simp only [Library.save_answer, hnames.service]
    refine ⟨htype, hstatus, (congrArg (Option.map ProcessClient.client_id) hprovider).trans ?_⟩
    rw [Option.map_some, hclient]
  | @fetched resp item hlookup hquiet hnames hitem =>
    simp only [turn, hquiet.outbox, hquiet.inbox, hlookup]
    have hstep : sys.step channel (.proceed k true) =
        some ({ sys with
          lib := { sys.lib with
            g_client := (sys.lib.g_client.save_process_client item.client_id item.client_name).2 } }.setLookup k
          (.saving resp (some (sys.lib.g_client.save_process_client item.client_id item.client_name).1))) := by
      simp only [step, proceed, hlookup]
    refine ⟨_, hstep, hserving.of_same rfl rfl rfl, .inr ⟨1, by omega, ?_⟩⟩
    exact .saving (update_self ..) ⟨hquiet.outbox, hquiet.inbox⟩ hnames hitem
  | @found _ _ frame _ hlookup houtbox hinbox hpending hpayload hnames hitem =>
    simp only [turn, houtbox, hinbox]
    have hanswer : frame.payload.IsAnswer := by
      rw [hpayload]
      trivial
    refine ⟨_, receive_answer hserving hinbox hanswer hpending, hserving.of_same rfl rfl rfl, .inr ⟨2, by omega, ?_⟩⟩
    refine .fetched ?_ ⟨houtbox, rfl⟩ hnames hitem
    rw [hlookup, hpayload]
    exact update_self ..
  | @fetching _ _ header hlookup houtbox hinbox hpending hnames =>
    simp only [turn, houtbox]
    obtain ⟨item, c, hservice, -, -, hprovider, hid⟩ := hserving.lists
    obtain ⟨i, -, rfl⟩ := Option.map_eq_some_iff.mp hservice
    obtain ⟨found, hfind, hfound⟩ := hserving.wellFormed.findById env (hserving.wellFormed.provider_live hprovider)
    obtain ⟨frame, hchannel, hnumber, hpayload, hstep⟩ :=
      step_get_client (r := sys.daemon) henv channel header ⟨client_id⟩
    rw [hid] at hfind hfound
    rw [hfind, Option.map_some] at hpayload
    refine ⟨_, deliver_answer houtbox hinbox hchannel hstep, hserving.of_same rfl rfl rfl, .inr ⟨3, by omega, ?_⟩⟩
    exact .found hlookup rfl rfl (hnumber ▸ hpending) hpayload hnames hfound
  | answered hlookup hquiet hnext hnames =>
    simp only [turn, hquiet.outbox, hquiet.inbox, hlookup]
    exact advances_answered hserving hlookup hquiet hnext hnames
  | @listed _ _ frame hlookup houtbox hinbox hpending hnext hpayload hnames =>
    simp only [turn, houtbox, hinbox]
    have hanswer : frame.payload.IsAnswer := by
      rw [hpayload]
      trivial
    refine ⟨_, receive_answer hserving hinbox hanswer hpending, hserving.of_same rfl rfl rfl, .inr ⟨5, by omega, ?_⟩⟩
    refine .answered ?_ ⟨houtbox, rfl⟩ ?_ hnames
    · rw [hlookup, hpayload]
      exact update_self ..
    · have hne : sys.lib.m_msg_seqid ≠ frame.header.msg_seqid := by
        intro heq
        rw [heq, hpending] at hnext
        cases hnext
      exact (AList.lookup_erase_ne hne).trans hnext
  | @asking _ header hlookup houtbox hinbox hpending hnext =>
    simp only [turn, houtbox]
    obtain ⟨c, hclient, hreach⟩ := hserving.attached
    obtain ⟨frame, hchannel, hnumber, hpayload, hstep⟩ :=
      step_get_service (s := s) henv hclient hreach channel header
    refine ⟨_, deliver_answer houtbox hinbox hchannel hstep, hserving.of_same rfl rfl rfl, .inr ⟨6, by omega, ?_⟩⟩
    exact .listed hlookup rfl rfl (hnumber ▸ hpending) hnext hpayload
      (serviceResp_names hserving.wellFormed hserving.lists)
  | idle hlookup hquiet hfits hpending hnext =>
    simp only [turn, hquiet.outbox, hquiet.inbox, hlookup]
    exact advances_idle hserving hlookup hquiet hfits hpending hnext

theorem Underway.yields (h : Underway s client_id sys k turns) (hserving : sys.Serving s client_id channel.id)
    {envs : List Env} (hreliable : ∀ env ∈ envs, env.transport.Reliable) (hturns : turns ≤ envs.length) :
    ∃ n ≤ envs.length, ∃ last, run (fun sys env => step channel sys (turn sys k s env)) sys (envs.take n) = some last ∧
      last.Yields k client_id := by
  induction envs generalizing sys turns with
  | nil =>
    obtain rfl := Nat.le_zero.mp hturns
    cases h
  | cons env envs ih =>
    obtain ⟨next, hstep, hserving', hyields | ⟨fewer, hfewer, hunderway⟩⟩ :=
      h.advances hserving (hreliable env List.mem_cons_self)
    · exact ⟨1, Nat.le_add_left .., next, run_cons_eq_some.mpr ⟨next, hstep, rfl⟩, hyields⟩
    · obtain ⟨n, hn, last, hrun, hyields⟩ :=
        ih hunderway hserving' (fun other hother => hreliable other (.tail _ hother))
        (by simp only [List.length_cons] at hturns; omega)
      exact ⟨n + 1, Nat.succ_le_succ hn, last, run_cons_eq_some.mpr ⟨next, hstep, hrun⟩, hyields⟩

end Underway

section Runs

/-- The processes of the runs below, with the client ids 1, 2 and 3, and their method. -/
def provider : Peer := ⟨1, 11, ['p']⟩

def providerAgain : Peer := { provider with id := 4 }

def rival : Peer := ⟨2, 12, ['q']⟩

def user : Peer := ⟨3, 13, ['c']⟩

def method : StLocalServiceItem := ⟨7, LOCAL_SERVICE_TYPE_METHOD, 0⟩

def connected (more : List (Env × Event)) : List (Env × Event) :=
  [provider.connects, rival.connects, user.connects] ++ more

def daemonEvent (label : Env × Event) : LookupEvent Unit Unit := .daemon label.1 label.2

/-- The events of a lookup that nothing interrupts. The process fetches the provider's name
if it does not know it. -/
def lookupEvents (fetches : Bool) : List (LookupEvent Unit Unit) :=
  [.get_service () method.service_id true, .deliver .plain, .receive, .proceed () true] ++
    (if fetches then [.deliver .plain, .receive, .proceed () true] else []) ++
    [.proceed () true, .finish () .method_request]

/-- The user looks the method up after some history. The daemon lists it as an available
method of the provider by then, no message is under way and the user is connected, and `it`
is what the user gets. -/
def Returns (more : List (Env × Event)) (events : List (LookupEvent Unit Unit)) (it : Service) : Prop :=
  ∃ daemon sys next, daemonRun (connected more) = some daemon ∧
    run (step user.channel) (start daemon 3 user.client_pid user.client_name 1 []) events = some sys ∧
    sys.Quiet ∧ sys.daemon.ListsMethod method.service_id 1 ∧ sys.Attached user.id ∧ sys.lib.client_status = .ONLINE ∧
    sys.step user.channel (.get_service () method.service_id true) = some next ∧ next.lookup () = .returned (some it)

/-- What the user gets after a lookup before the method was registered, while another
client provided it, and while it was not available, and after it has offered or revoked
the method itself. -/
theorem stale_service_returned :
    (∃ it, Returns [] (lookupEvents false ++ [daemonEvent (provider.registers true [method])]) it ∧
      it.service_type = LOCAL_SERVICE_TYPE_UNKNOWN ∧ it.service_provider.map ProcessClient.client_id = none) ∧
    (∃ it, Returns [rival.registers true [method]]
      (lookupEvents true ++ [daemonEvent (provider.registers true [method])]) it ∧
      it.service_status = LOCAL_SERVICE_STATUS_AVAILABLE ∧ it.service_provider.map ProcessClient.client_id = some 2) ∧
    (∃ it, Returns [provider.registers true [method],
          provider.setsStatus [{ method with service_status := LOCAL_SERVICE_STATUS_UNAVAILABLE }]]
        (lookupEvents true ++
          [daemonEvent (provider.setsStatus [{ method with service_status := LOCAL_SERVICE_STATUS_AVAILABLE }])]) it ∧
      it.service_status = LOCAL_SERVICE_STATUS_UNAVAILABLE) ∧
    (∃ it, Returns [] [.call (.provider_service_offer [⟨method.service_id, method.service_type, none⟩]) true,
          .deliver .plain, .receive, daemonEvent (provider.registers true [method])] it ∧
      it.service_status = LOCAL_SERVICE_STATUS_AVAILABLE ∧ it.service_provider.map ProcessClient.client_id = some 3) ∧
    ∃ it, Returns [provider.registers true [method]]
        (lookupEvents true ++ [.call (.provider_service_revoke [method.service_id]) true, .deliver .plain,
          daemonEvent (provider.registers true [method])]) it ∧
      it.service_status = LOCAL_SERVICE_STATUS_UNAVAILABLE := by
  refine ⟨⟨_, ⟨_, _, _, rfl, rfl, ⟨rfl, rfl⟩, ⟨_, _, rfl, rfl, rfl, rfl, rfl⟩,
    ⟨_, rfl, rfl, _, rfl, rfl⟩, rfl, rfl, rfl⟩, rfl, rfl⟩, ?_, ?_, ?_, ?_⟩
  · exact ⟨_, ⟨_, _, _, rfl, rfl, ⟨rfl, rfl⟩, ⟨_, _, rfl, rfl, rfl, rfl, rfl⟩,
      ⟨_, rfl, rfl, _, rfl, rfl⟩, rfl, rfl, rfl⟩, rfl, rfl⟩
  · exact ⟨_, ⟨_, _, _, rfl, rfl, ⟨rfl, rfl⟩, ⟨_, _, rfl, rfl, rfl, rfl, rfl⟩,
      ⟨_, rfl, rfl, _, rfl, rfl⟩, rfl, rfl, rfl⟩, rfl⟩
  · exact ⟨_, ⟨_, _, _, rfl, rfl, ⟨rfl, rfl⟩, ⟨_, _, rfl, rfl, rfl, rfl, rfl⟩,
      ⟨_, rfl, rfl, _, rfl, rfl⟩, rfl, rfl, rfl⟩, rfl, rfl⟩
  · exact ⟨_, ⟨_, _, _, rfl, rfl, ⟨rfl, rfl⟩, ⟨_, _, rfl, rfl, rfl, rfl, rfl⟩,
      ⟨_, rfl, rfl, _, rfl, rfl⟩, rfl, rfl, rfl⟩, rfl⟩

end Runs

/-- Lookups follow the registry as long as earlier ones did: if nobody subscribes to the
service under the name of the process, the process neither revokes it nor offers it as
another client, and earlier answers were of a method not yet available or of the client
`client_id`, then a call of `get_service` that starts while no message is under way and the
daemon lists the service as an available method of that client returns it as such. -/
theorem get_service_follows_registry [DecidableEq κ] {s client_id : UInt32} {channel : SocketChannel}
    {before : List (Env × Event)} {daemon : LocalRegistry} (hbefore : daemonRun before = some daemon)
    {own_id : UInt32} {client_pid : Int} {client_name : Str} {m_msg_seqid : UInt32} {inbox : List Sent}
    (hspares : ∀ label ∈ before, label.2.Spares s client_name channel.id)
    (hinbox : ∀ frame ∈ inbox, frame ∈ daemon.sent ∧ frame.channel_id = channel.id)
    {events : List (LookupEvent φ κ)} {sys : LookupSystem φ κ}
    (hrun : run (step channel) (start daemon own_id client_pid client_name m_msg_seqid inbox) events = some sys)
    (hundisturbed : Meets (step channel) (Undisturbed s client_id client_name channel)
      (start daemon own_id client_pid client_name m_msg_seqid inbox) events)
    (hquiet : sys.Quiet) (hlists : sys.daemon.ListsMethod s client_id) (hattached : sys.Attached channel.id)
    (honline : sys.lib.client_status = .ONLINE) {k : κ} (hidle : sys.lookup k = .idle)
    (hpending : sys.pending_requests.lookup sys.lib.m_msg_seqid = none)
    (hnext : sys.pending_requests.lookup (sys.lib.m_msg_seqid + 1) = none)
    {envs : List Env} (hreliable : ∀ env ∈ envs, env.transport.Reliable) (hturns : 8 ≤ envs.length) :
    ∃ n ≤ envs.length, ∃ last, run (fun sys env => step channel sys (turn sys k s env)) sys (envs.take n) = some last ∧
      last.Yields k client_id := by
  have huntold := daemonRun_untold hbefore hspares
  have htracks : sys.Tracks s client_id client_name channel := by
    refine Tracks.run ⟨huntold, ?_, ?_, ?_⟩ hundisturbed hrun
    · rintro _ hrequest
      cases hrequest
    · exact fun frame hframe => huntold.sent frame (hinbox frame hframe).1 (hinbox frame hframe).2
    · rintro it hfind
      cases hfind
  have hserving : sys.Serving s client_id channel.id := ⟨htracks.untold.wellFormed, hlists, hattached, honline⟩
  exact (Underway.idle hidle hquiet htracks.fits hpending hnext).yields hserving hreliable hturns

/-- A lookup while the provider is away does no harm: the provider comes back, on a new
channel, and registers the method again. -/
theorem returned_provider_followed :
    ∃ daemon sys, daemonRun (connected [provider.registers true [method], provider.closes]) = some daemon ∧
      run (step user.channel) (start daemon 3 user.client_pid user.client_name 1 []) (lookupEvents true ++
        [daemonEvent providerAgain.connects, daemonEvent (providerAgain.registers true [method])]) = some sys ∧
      ∃ n ≤ 8, ∃ last, run (fun sys env => step user.channel sys (turn sys () method.service_id env)) sys
        ((List.replicate 8 Env.plain).take n) = some last ∧ last.Yields () 1 := by
  refine ⟨_, _, rfl, rfl, ?_⟩
  exact @get_service_follows_registry Unit Unit _ method.service_id 1 user.channel
    (connected [provider.registers true [method], provider.closes]) _ rfl 3 user.client_pid user.client_name 1 []
    (by decide) (by simp) (lookupEvents true ++
      [daemonEvent providerAgain.connects, daemonEvent (providerAgain.registers true [method])]) _ rfl
    (by decide +kernel) ⟨rfl, rfl⟩ ⟨_, _, rfl, rfl, rfl, rfl, rfl⟩ ⟨_, rfl, rfl, _, rfl, rfl⟩ rfl () rfl rfl rfl
    (List.replicate 8 Env.plain) (by simp) (Nat.le_refl 8)

end LookupSystem

end hub.soa
