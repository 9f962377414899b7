import Hub.LocalRegistry.Types
import Hub.Soa.LateResponse

namespace hub.soa

open local_registry

/-- A response frame of the provider. `request` is the call whose request it answers,
and `complete` is what `on_recv_process` passes on. -/
structure ProcessFrame (ι : Type) where
  request : ι
  complete : SyncComplete

def methodProtocol (ι : Type) (client_id : UInt32) : Protocol (ProcessFrame ι) where
  daemon := (processProtocol client_id).daemon
  msg_seqid frame := (processProtocol client_id).msg_seqid frame.complete
  init := (processProtocol client_id).init
  write frame := (processProtocol client_id).write frame.complete
  deliver := (processProtocol client_id).deliver

/-- Why a thread needs the provider: to connect to it once it is known, or for one of
the three calls of a method. -/
inductive MethodCall where
  | connect
  | notify
  | sync
  | async
deriving DecidableEq

inductive ConnectRef where

/-- Where a call stands until its request can be written. It reads `client_status` and
`client_send_io`, and goes through `connect_with_process_client` when there is no
connection. -/
inductive Caller where
  | idle
  | checking
  | checkingIo
  | opening
  | binding
  | preparing
  | connecting
  | waiting (ctx : Ptr ConnectRef)
  | sending
  | returned (ret : Int)

/-- What is left to do for `on_connect`. -/
inductive Connected where
  | idle
  | clearing
  | setting

structure Hio where
  opened : Bool

/-- The provider's `ipc_hv_soa_process_client` and the calls to it. `answered` are the
requests that the provider has responded to. -/
structure Provider (ι κ : Type) where
  sync : SyncState ι κ (ProcessFrame ι)
  client_status : LocalClientStatus
  client_send_io : Option Hio
  msg_seqid : UInt32
  connect_ctx : Option (Ptr ConnectRef)
  connects : Heap ConnectRef (SyncContext Unit)
  method : ι → MethodCall
  callers : ι → Caller
  on_connect : Connected
  answered : List ι

inductive ProviderEvent (ι κ : Type) where
  /-- A thread starts. A method call draws a number, which replaces the one in `args`. -/
  | call (i : ι) (method : MethodCall) (args : SyncArgs)
  /-- The call goes on until its request can be written; `ok` says whether what it does
  succeeds in time. -/
  | proceed (i : ι) (ok : Bool)
  /-- The steps of `send_msg_to_process_sync` once there is a connection. -/
  | advance (i : ι)
  | refuse (i : ι)
  | expire (i : ι)
  | receive (k : κ) (frame : ProcessFrame ι)
  | complete (k : κ)
  /-- `on_connect` of the socket, one lock at a time. -/
  | connected
  | clear
  | set
  | closed
  /-- The provider connects to this process or leaves it. -/
  | status (client_status : LocalClientStatus)

namespace Provider

variable {ι κ : Type}

def init : Provider ι κ where
  sync := .init
  client_status := .INIT
  client_send_io := none
  msg_seqid := 1
  connect_ctx := none
  connects := .empty
  method := fun _ => .notify
  callers := fun _ => .idle
  on_connect := .idle
  answered := []

/-- The provider responds to each request at most once, with its number and service. -/
abbrev Responds (s : Provider ι κ) (frame : ProcessFrame ι) : Prop :=
  s.sync.Awaits s.answered frame.request frame.complete.msg_seqid frame.complete.service_id

variable [DecidableEq ι] [DecidableEq κ]

def setCaller (s : Provider ι κ) (i : ι) (caller : Caller) : Provider ι κ :=
  { s with callers := Function.update s.callers i caller }

variable (client_id : UInt32)

def fail (s : Provider ι κ) (i : ι) (ret : Int) : Option (Provider ι κ) :=
  match s.method i with
  | .sync =>
    (s.sync.step (methodProtocol ι client_id) (.abandon i ret)).map fun sync =>
      { s with sync := sync }.setCaller i (.returned ret)
  | .connect | .notify | .async => some (s.setCaller i (.returned ret))

def start (s : Provider ι κ) (i : ι) (method : MethodCall) (caller : Caller) : Provider ι κ :=
  { s with method := Function.update s.method i method }.setCaller i caller

/-- `fetch_add`, and the start of `send_msg_to_process` or `send_msg_to_process_sync`.
`save_process_client` connects without drawing a number. -/
def call (s : Provider ι κ) (i : ι) (method : MethodCall) (args : SyncArgs) :
    Option (Provider ι κ) :=
  match s.callers i, method with
  | .idle, .connect => some (s.start i method .opening)
  | .idle, .sync =>
    (s.sync.step (methodProtocol ι client_id) (.enter i { args with msg_seqid := s.msg_seqid })).map fun sync =>
      { s with sync := sync, msg_seqid := s.msg_seqid + 1 }.start i method .checking
  | .idle, .notify | .idle, .async => some ({ s with msg_seqid := s.msg_seqid + 1 }.start i method .checking)
  | _, _ => none

/-- Looking for a connection, `connect_with_process_client`, and the `hio_write` of a
call that does not wait. -/
def proceed (s : Provider ι κ) (i : ι) (ok : Bool) : Option (Provider ι κ) :=
  match s.callers i with
  | .checking => some (s.setCaller i (if s.client_status ≠ .ONLINE then .opening else .checkingIo))
  | .checkingIo => some (s.setCaller i (if s.client_send_io.any Hio.opened then .sending else .opening))
  | .opening =>
    match s.client_send_io with
    | some _ => { s with client_send_io := some ⟨false⟩ }.fail client_id i IPC_HV_SOA_RET_FAIL
    | none =>
      if ok then some ({ s with client_send_io := some ⟨true⟩ }.setCaller i .binding)
      else s.fail client_id i IPC_HV_SOA_RET_FAIL
  | .binding =>
    if ok then some ({ s with msg_seqid := 1 }.setCaller i .preparing) else s.fail client_id i IPC_HV_SOA_RET_FAIL
  | .preparing =>
    some ({ s with connect_ctx := some s.connects.fresh, connects := s.connects.alloc .Reset }.setCaller i .connecting)
  | .connecting =>
    if ok then s.connect_ctx.map fun ctx => s.setCaller i (.waiting ctx) else s.fail client_id i IPC_HV_SOA_RET_FAIL
  | .waiting ctx =>
    ((s.connects.get ctx).Wait 1500 (!ok)).bind fun wait_result =>
      if wait_result < 0 then s.fail client_id i IPC_HV_SOA_RET_TIMEOUT
      else if wait_result ≠ IPC_HV_SOA_COND_STATE_CONNECTED then s.fail client_id i IPC_HV_SOA_RET_FAIL
      else some ({ s with client_status := .ONLINE }.setCaller i .sending)
  | .sending =>
    match s.method i with
    | .sync => none
    | .connect => some (s.setCaller i (.returned IPC_HV_SOA_RET_SUCCESS))
    | .notify | .async =>
      some (s.setCaller i (.returned (if ok then IPC_HV_SOA_RET_SUCCESS else IPC_HV_SOA_RET_FAIL)))
  | .idle | .returned _ => none

/-- A step of `send_msg_to_process_sync` after the connection was found. -/
def whileSending (s : Provider ι κ) (i : ι) (event : SyncEvent ι κ (ProcessFrame ι)) :
    Option (Provider ι κ) :=
  match s.callers i with
  | .sending => (s.sync.step (methodProtocol ι client_id) event).map fun sync => { s with sync := sync }
  | _ => none

def step (s : Provider ι κ) : ProviderEvent ι κ → Option (Provider ι κ)
  | .call i method args => s.call client_id i method args
  | .proceed i ok => s.proceed client_id i ok
  | .advance i => s.whileSending client_id i (.advance i)
  | .refuse i => s.whileSending client_id i (.refuse i)
  | .expire i => s.whileSending client_id i (.expire i)
  | .receive k frame =>
    if s.Responds frame then
      (s.sync.step (methodProtocol ι client_id) (.receive k frame)).map fun sync =>
        { s with sync := sync, answered := frame.request :: s.answered }
    else none
  | .complete k => (s.sync.step (methodProtocol ι client_id) (.complete k)).map fun sync => { s with sync := sync }
  | .connected =>
    match s.on_connect, s.client_send_io with
    | .idle, some _ => some { s with client_status := .ONLINE, on_connect := .clearing }
    | _, _ => none
  | .clear =>
    match s.on_connect with
    | .clearing => (s.sync.step (methodProtocol ι client_id) .clear).map fun sync =>
        { s with sync := sync, on_connect := .setting }
    | _ => none
  | .set =>
    match s.on_connect, s.connect_ctx with
    | .setting, some ctx =>
      some { s with
        connects := s.connects.set ctx ((s.connects.get ctx).SetResult IPC_HV_SOA_COND_STATE_CONNECTED)
        on_connect := .idle }
    | .setting, none => some { s with on_connect := .idle }
    | _, _ => none
  | .closed =>
    match s.client_send_io with
    | some _ => (s.sync.step (methodProtocol ι client_id) .disconnect).map fun sync =>
        { s with sync := sync, client_send_io := none, connect_ctx := none, client_status := .OFFLINE }
    | none => none
  | .status client_status => some { s with client_status := client_status }

/-- The number that a synchronous call draws is not in use: no call in progress, no
completion under way and no request without a response has it. A completion finds its
context either given back or still with the call that it answers. -/
def Unused (s : Provider ι κ) : ProviderEvent ι κ → Prop
  | .call _ .sync _ =>
    (∀ j, s.sync.msg_seqid j = s.msg_seqid →
      s.sync.standing j = .absent ∧ ((s.sync.calls j).sent = true → j ∈ s.answered)) ∧
    ∀ k, ∀ aim ∈ s.sync.target (methodProtocol ι client_id) k, aim.1 ≠ s.msg_seqid
  | .complete k =>
    ∀ aim ∈ s.sync.target (methodProtocol ι client_id) k, ∀ i, s.sync.holds i = some aim.2 → s.sync.msg_seqid i = aim.1
  | _ => True

instance [Fintype ι] [Fintype κ] (client_id : UInt32) (s : Provider ι κ) : DecidablePred (s.Unused client_id)
  | .call _ .sync _ => inferInstanceAs (Decidable (_ ∧ _))
  | .complete k => inferInstanceAs (Decidable (∀ aim ∈ s.sync.target (methodProtocol ι client_id) k, _))
  | .call _ .connect _ | .call _ .notify _ | .call _ .async _ | .proceed _ _ | .advance _ | .refuse _ | .expire _
  | .receive _ _ | .connected | .clear | .set | .closed | .status _ => .isTrue trivial

end Provider

end hub.soa
