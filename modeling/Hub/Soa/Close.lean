import Hub.Soa.DaemonCall
import Hub.Soa.Delivery

namespace hub.soa

open local_registry SyncState

/-- An `hio_t`: its `hio_id` and its userdata, the id of a process client. -/
structure Io where
  id : UInt32
  userdata : UInt32

/-- `ipc_hv_soa_process_client`, with the `hio_id` of its sockets and the calls that wait
for it. -/
structure ProcessConnection (ι κ : Type) where
  client_send_io : Option UInt32
  client_recv_io : Option UInt32
  client_status : LocalClientStatus
  connect_ctx : Option ContextPtr
  calls : SyncState ι κ SyncComplete

/-- `g_client` with the calls that wait for the daemon. -/
structure Connections (ι κ : Type) where
  client_id : UInt32
  client_status : LocalClientStatus
  m_daemon_io : Option UInt32
  m_listen_io : Option UInt32
  connect_ctx : Option ContextPtr
  calls : SyncState ι κ (DaemonFrame ι)
  process_clients_map : UnorderedMap UInt32 (ProcessConnection ι κ)

namespace SyncState

variable {ι κ φ : Type}

def wakeAll (s : SyncState ι κ φ) : SyncState ι κ φ :=
  { s with contexts := (s.pending_requests.entries.map Sigma.snd).foldl wake s.contexts }

def forgetAll (s : SyncState ι κ φ) : SyncState ι κ φ := { s with pending_requests := ∅ }

theorem forgetAll_eq_self_iff {s : SyncState ι κ φ} : s.forgetAll = s ↔ s.pending_requests = ∅ := by
  constructor
  · intro hself
    rw [← hself]
    rfl
  · intro hempty
    obtain ⟨contexts, sync_pool, pending_requests, lock, calls, completions⟩ := s
    cases hempty
    rfl

end SyncState

namespace Connections

variable {ι κ : Type}

variable (s : Connections ι κ)

def closeDaemon : Connections ι κ :=
  { s with
    calls := s.calls.wakeAll.forgetAll
    m_daemon_io := none
    connect_ctx := none
    client_status := .OFFLINE
    process_clients_map := s.process_clients_map.erase s.client_id }

/-- `on_close` of the socket over which requests go to a process. The requests that are
forgotten are those to the daemon. -/
def closeSend (client_id : UInt32) (client : ProcessConnection ι κ) : Connections ι κ :=
  { s with
    calls := s.calls.forgetAll
    process_clients_map := s.process_clients_map.insert client_id
      { client with
        calls := client.calls.wakeAll
        client_send_io := none
        connect_ctx := none
        client_status := .OFFLINE } }

def closeRecv (client_id : UInt32) (client : ProcessConnection ι κ) : Connections ι κ :=
  { s with
    process_clients_map := s.process_clients_map.insert client_id
      { client with client_status := .OFFLINE, client_recv_io := none } }

def on_close (io : Io) : Connections ι κ :=
  if s.m_daemon_io = some io.id then s.closeDaemon
  else if s.m_listen_io = some io.id then { s with m_listen_io := none }
  else
    match s.process_clients_map.lookup io.userdata with
    | none => s
    | some client =>
      if client.client_send_io = some io.id then s.closeSend io.userdata client
      else if client.client_recv_io = some io.id then s.closeRecv io.userdata client
      else
        { s with process_clients_map :=
          s.process_clients_map.insert io.userdata { client with client_status := .OFFLINE } }

/-- The close of the connection of process `P` fails exactly the calls to `P`: they are
completed with `DISCONNECTED` and forgotten, what waits for the daemon and for other
processes stays, and a response of the daemon still completes its call. -/
structure FailsOnly [DecidableEq ι] [DecidableEq κ] (s s' : Connections ι κ) (P : UInt32) : Prop where
  completed : ∀ client client', s.process_clients_map.lookup P = some client →
    s'.process_clients_map.lookup P = some client' → ∀ n ctx, client.calls.pending_requests.lookup n = some ctx →
      (client'.calls.context ctx).ready = true ∧
        (client'.calls.context ctx).result = IPC_HV_SOA_COND_STATE_DISCONNECTED
  emptied : ∀ client', s'.process_clients_map.lookup P = some client' → client'.calls.pending_requests = ∅
  daemon : s'.calls.pending_requests = s.calls.pending_requests
  others : ∀ Q, Q ≠ P → s'.process_clients_map.lookup Q = s.process_clients_map.lookup Q
  later : ∀ i k ctx frame, s.calls.Awaiting i k ctx frame.msg_seqid →
    ∃ next, run (SyncState.step (daemonProtocol ι)) s'.calls (SyncState.answering i k frame) = some next ∧
      (next.calls i).stage = .holding ctx (.erase (SyncState.outcome (daemonProtocol ι) (s.calls.calls i).args
        IPC_HV_SOA_COND_STATE_SUCCESS (frame.write (s.calls.context ctx).data)))

theorem closeSend_steps [DecidableEq ι] [DecidableEq κ] (proto : Protocol SyncComplete) {s : Connections ι κ}
    {client_id : UInt32} {client : ProcessConnection ι κ} (hlock : client.calls.lock = none)
    (hlock_daemon : s.calls.lock = none) :
    client.calls.step proto .disconnect = some client.calls.wakeAll ∧
      s.calls.step (daemonProtocol ι) .clear = some (s.closeSend client_id client).calls := by
  constructor
  · simp [step, disconnect, wakeAll, hlock]
  · simp [step, clear, closeSend, forgetAll, hlock_daemon]

/-- `on_close` clears the wrong map: it gets it right exactly when there is nothing to
clear, in either map. -/
theorem close_fails_only_iff [DecidableEq ι] [DecidableEq κ] {s : Connections ι κ} {io : Io}
    {client : ProcessConnection ι κ} (hdaemon : s.m_daemon_io ≠ some io.id) (hlisten : s.m_listen_io ≠ some io.id)
    (hclient : s.process_clients_map.lookup io.userdata = some client) (hsend : client.client_send_io = some io.id) :
    FailsOnly s (s.on_close io) io.userdata ↔
      client.calls.pending_requests = ∅ ∧ s.calls.pending_requests = ∅ := by
  have hclose : s.on_close io = s.closeSend io.userdata client := by
    rw [on_close, if_neg hdaemon, if_neg hlisten, hclient]
    exact if_pos hsend
  rw [hclose]
  have hafter : (s.closeSend io.userdata client).process_clients_map.lookup io.userdata =
      some { client with
        calls := client.calls.wakeAll, client_send_io := none, connect_ctx := none, client_status := .OFFLINE } :=
    AList.lookup_insert _
  constructor
  · intro h
    have hempty := h.emptied _ hafter
    exact ⟨hempty, h.daemon.symm⟩
  · rintro ⟨hempty, hempty_daemon⟩
    have hsame : (s.closeSend io.userdata client).calls = s.calls := forgetAll_eq_self_iff.mpr hempty_daemon
    refine ⟨?_, ?_, by rw [hsame], ?_, ?_⟩
    · intro client₀ client' h₀ h' n ctx hpending
      cases hclient.symm.trans h₀
      cases hafter.symm.trans h'
      have hmem : ctx ∈ client.calls.pending_requests.entries.map Sigma.snd :=
        List.mem_map.mpr ⟨⟨n, ctx⟩, AList.mem_lookup_iff.mp hpending, rfl⟩
      have hwoken : client.calls.wakeAll.context ctx = _ := (get_foldl_wake ..).trans (if_pos hmem)
      rw [hwoken]
      exact ⟨rfl, rfl⟩
    · intro client' h'
      cases hafter.symm.trans h'
      exact hempty
    · exact fun Q hQ => AList.lookup_insert_ne hQ
    · intro i k ctx frame hawaiting
      rw [hsame]
      exact hawaiting.answered

/-- A process that is connected to the daemon, over socket 5 to process 2 and over socket 6 to
process 3. -/
def connected (calls : SyncState ι κ (DaemonFrame ι)) (client_calls other_calls : SyncState ι κ SyncComplete) :
    Connections ι κ where
  client_id := 1
  client_status := .ONLINE
  m_daemon_io := some 3
  m_listen_io := some 4
  connect_ctx := none
  calls := calls
  process_clients_map := ((∅ : UnorderedMap _ _).insert 3 ⟨some 6, none, .ONLINE, none, other_calls⟩).insert 2
    ⟨some 5, none, .ONLINE, none, client_calls⟩

def waitingArgs : SyncArgs := ⟨1, 1, 1, 7, 0, ⟨none, none⟩, 1000⟩

/-- With no call to process 2 and none to the daemon there is nothing to lose, and the call to
process 3 goes on. -/
theorem close_fails_only_idle :
    ∃ (calls : SyncState Unit Unit SyncComplete) (ctx : ContextPtr), run (SyncState.step (processProtocol 1))
        SyncState.init (.enter () waitingArgs :: List.replicate 5 (.advance ())) = some calls ∧
      calls.pending_requests.lookup waitingArgs.msg_seqid = some ctx ∧
      FailsOnly (connected SyncState.init SyncState.init calls)
        ((connected SyncState.init SyncState.init calls).on_close ⟨5, 2⟩) 2 :=
  ⟨_, _, rfl, rfl, (close_fails_only_iff (s := connected init init _) (by decide) (by decide) rfl rfl).mpr ⟨rfl, rfl⟩⟩

/-- One thread waits for the daemon and one for `P`. When the connection to `P` is closed,
the call to `P` stays in its table, and the response of the daemon finds nobody. -/
theorem close_loses_daemon_call :
    ∃ (frame : DaemonFrame Unit) (s : Connections Unit Unit) (client client' : ProcessConnection Unit Unit)
      (ctx : ContextPtr) (missed : SyncState Unit Unit (DaemonFrame Unit)),
      run (SyncState.step (daemonProtocol Unit)) SyncState.init
          (.enter () waitingArgs :: List.replicate 5 (.advance ())) = some s.calls ∧
        run (SyncState.step (κ := Unit) (processProtocol 1)) SyncState.init
          (.enter () waitingArgs :: List.replicate 5 (.advance ())) = some client.calls ∧
        s = connected s.calls client.calls SyncState.init ∧ s.process_clients_map.lookup 2 = some client ∧
        s.calls.Awaiting () () ctx frame.msg_seqid ∧
        (s.on_close ⟨5, 2⟩).process_clients_map.lookup 2 = some client' ∧
        (client'.calls.pending_requests.lookup waitingArgs.msg_seqid).isSome = true ∧
        (s.on_close ⟨5, 2⟩).calls.step (daemonProtocol Unit) (.receive () frame) = some missed ∧
        missed.completions () = .missed frame ∧ ¬ FailsOnly s (s.on_close ⟨5, 2⟩) 2 := by
  let frame : DaemonFrame Unit := ⟨(), 1, 1, 3, 7, 0, fun _ => 0, 0⟩
  have hdaemon : ∃ (calls : SyncState Unit Unit (DaemonFrame Unit)) (ctx : ContextPtr),
      run (step (daemonProtocol Unit)) init
        (.enter () waitingArgs :: List.replicate 5 (.advance ())) = some calls ∧
      calls.Awaiting () () ctx frame.msg_seqid := ⟨_, _, rfl, rfl, rfl, rfl, rfl⟩
  have hprocess : ∃ (calls : SyncState Unit Unit SyncComplete) (ctx : ContextPtr),
      run (step (processProtocol 1)) init
        (.enter () waitingArgs :: List.replicate 5 (.advance ())) = some calls ∧
      calls.pending_requests.lookup waitingArgs.msg_seqid = some ctx := ⟨_, _, rfl, rfl⟩
  obtain ⟨calls, ctx, hcalls, hawaiting⟩ := hdaemon
  obtain ⟨client_calls, peer_ctx, hclient_calls, hpending⟩ := hprocess
  refine ⟨frame, connected calls client_calls init, ⟨some 5, none, .ONLINE, none, client_calls⟩,
    ⟨none, none, .OFFLINE, none, client_calls.wakeAll⟩, ctx, calls.forgetAll.setCompletion () (.missed frame), hcalls,
    hclient_calls, rfl, rfl, hawaiting, rfl, ?_, ?_, rfl, ?_⟩
  · change (client_calls.pending_requests.lookup waitingArgs.msg_seqid).isSome = true
    rw [hpending]
    rfl
  · change calls.forgetAll.step (daemonProtocol Unit) (.receive () frame) =
      some (calls.forgetAll.setCompletion () (.missed frame))
    simp only [step, receive, forgetAll, hawaiting.idle, hawaiting.unlocked]
    rfl
  · intro h
    have hempty := h.emptied ⟨none, none, .OFFLINE, none, client_calls.wakeAll⟩ rfl
    have hpending' : client_calls.wakeAll.pending_requests.lookup waitingArgs.msg_seqid = some peer_ctx := hpending
    rw [hempty] at hpending'
    cases hpending'

end Connections

end hub.soa
