import Hub.Soa.Library

namespace hub.soa

open local_registry

/-- Where a thread stands in a call of `get_service`. It waits while it is `asking` or
`fetching`, for the answer to `GET_SERVICE` or to `GET_CLIENT`. -/
inductive Lookup where
  | idle
  | asking (msg_seqid : UInt32)
  | answered (resp : StGetServiceResp)
  | fetching (resp : StGetServiceResp) (msg_seqid : UInt32)
  | fetched (resp : StGetServiceResp) (reply : StGetClientResp)
  | saving (resp : StGetServiceResp) (client : Option ProcessClient)
  | returned (service_item : Option Service)

/-- The waiting thread is woken by an answer. One to another query makes the query fail. -/
def Lookup.wake : Lookup → Payload → Lookup
  | .asking _, .get_service_resp resp => .answered resp
  | .asking _, _ => .returned none
  | .fetching resp _, .get_client_resp reply => .fetched resp reply
  | .fetching resp _, _ => .saving resp none
  | lookup, _ => lookup

/-- Who called `get_service`: `ipc_hv_soa_method_notify` or `ipc_hv_soa_method_sync`,
`ipc_hv_soa_method_async`, or a function that does not send a request. -/
inductive LookupCaller (φ : Type) where
  | method_request
  | method_async (async_cb : Option φ)
  | other

/-- The daemon and one process, with the messages between them. `pending_requests` holds
the waiting threads. -/
structure LookupSystem (φ κ : Type) where
  daemon : LocalRegistry
  lib : Library φ
  pending_requests : UnorderedMap UInt32 κ
  outbox : List Request
  inbox : List Sent
  lookup : κ → Lookup

/-- What happens in the daemon or in the process. `ok` says whether a message could be
written. -/
inductive LookupEvent (φ κ : Type) where
  | get_service (k : κ) (service_id : UInt32) (ok : Bool)
  /-- A thread that does not wait takes the next step of `get_service`. -/
  | proceed (k : κ) (ok : Bool)
  /-- A thread stops waiting without an answer. -/
  | expire (k : κ)
  /-- The caller goes on with the result of `get_service`. -/
  | finish (k : κ) (caller : LookupCaller φ)
  | call (call : ServiceCall φ) (ok : Bool)
  | own (event : LibraryEvent φ)
  | close
  /-- The daemon handles the next message of the process. -/
  | deliver (env : Env)
  | receive
  /-- The daemon handles an event of another process, or a connection. -/
  | daemon (env : Env) (event : Event)

/-- The events of `LibraryEvent` that are not events of `LookupEvent` themselves. -/
def LibraryEvent.IsOwn {φ : Type} : LibraryEvent φ → Bool
  | .draw _ | .connect _ | .accept _ _ | .recv_process _ | .handle | .self_status _ => true
  | _ => false

def IsForeign (channel : SocketChannel) : Event → Bool
  | .message other _ => other.id != channel.id
  | _ => true

namespace Library

variable {φ : Type}

/-- The rest of a method call after `get_service`, up to the send. -/
def finish (lib : Library φ) (service_item : Option Service) : LookupCaller φ → Library φ
  | .other => lib
  | .method_request =>
    match service_item.bind methodProvider with
    | none => lib
    | some provider => lib.draw provider.client_id
  | .method_async async_cb =>
    match service_item with
    | none => lib
    | some it =>
      match methodProvider it with
      | none => lib
      | some provider => (lib.setAsyncHandler it.service_id async_cb).draw provider.client_id

end Library

namespace LookupSystem

variable {φ κ : Type}

/-- The daemon and a process whose `ipc_hv_soa_init` has succeeded. Of the messages that
the daemon has sent, those in `inbox` have not arrived. -/
def start (daemon : LocalRegistry) (client_id : UInt32) (client_pid : Int) (client_name : Str) (m_msg_seqid : UInt32)
    (inbox : List Sent) : LookupSystem φ κ where
  daemon := daemon
  lib := .init client_id client_pid client_name m_msg_seqid
  pending_requests := ∅
  outbox := []
  inbox := inbox
  lookup := fun _ => .idle

/-- The daemon handles an event. What it writes to the channel is under way. -/
def handle (channel : SocketChannel) (sys : LookupSystem φ κ) (env : Env) (event : Event) :
    Option (LookupSystem φ κ) :=
  (sys.daemon.step (env, event)).map fun daemon =>
    { sys with
      daemon := daemon
      inbox := sys.inbox ++
        (daemon.sent.drop sys.daemon.sent.length).filter fun frame => frame.channel_id == channel.id }

variable [DecidableEq κ]

variable (sys : LookupSystem φ κ)

def setLookup (k : κ) (lookup : Lookup) : LookupSystem φ κ :=
  { sys with lookup := Function.update sys.lookup k lookup }

/-- `send_msg_to_daemon_sync` up to the wait. The handlers of the daemon do not read
`msg_len`. -/
def send_msg_to_daemon_sync (k : κ) (ok : Bool) (service_id : UInt32)
    (request : StLocalMsgHeader → Request) (waiting : UInt32 → Lookup) (failed : Lookup) : LookupSystem φ κ :=
  let msg_seqid := sys.lib.m_msg_seqid
  let sys := { sys with lib := { sys.lib with m_msg_seqid := msg_seqid + 1 } }
  if ok then
    { sys.setLookup k (waiting msg_seqid) with
      pending_requests := sys.pending_requests.insertNew msg_seqid k
      outbox := sys.outbox ++ [request
        { client_id := MODULE_ID_AUTOLIB_LOCAL_REGISTRY
          msg_seqid := msg_seqid
          msg_type := E_IPC_HV_SOA_MSG_TYPE_METHOD_REQUEST_SYNC
          service_id := service_id
          msg_len := 0 }] }
  else sys.setLookup k failed

def get_service (k : κ) (service_id : UInt32) (ok : Bool) : LookupSystem φ κ :=
  if sys.lib.need_query service_id = false then
    sys.setLookup k (.returned (sys.lib.g_client.find_service service_id))
  else if sys.lib.client_status ≠ .ONLINE then sys.setLookup k (.returned none)
  else
    sys.send_msg_to_daemon_sync k ok LOCAL_REGISTRY_SERVICE_ID_METHOD_GET_SERVICE
      (fun header => .get_service header { service_id := service_id, listener_client := some sys.lib.clientItem })
      .asking (.returned none)

def get_process_client (k : κ) (resp : StGetServiceResp) (client_id : UInt32) (ok : Bool) :
    LookupSystem φ κ :=
  match sys.lib.g_client.find_process_client client_id with
  | some client => sys.setLookup k (.saving resp (some client))
  | none =>
    if sys.lib.client_status ≠ .ONLINE then sys.setLookup k (.saving resp none)
    else
      sys.send_msg_to_daemon_sync k ok LOCAL_REGISTRY_SERVICE_ID_METHOD_GET_CLIENT
        (fun header => .get_client header { client_id := client_id }) (.fetching resp) (.saving resp none)

def proceed (k : κ) (ok : Bool) : Option (LookupSystem φ κ) :=
  match sys.lookup k with
  | .answered resp =>
    match resp.provider_client with
    | none => some (sys.setLookup k (.saving resp none))
    | some provider_client => some (sys.get_process_client k resp provider_client.client_id ok)
  | .fetched resp reply =>
    match reply.responser_client with
    | none => some (sys.setLookup k (.saving resp none))
    | some responser_client =>
      let (client, g_client) :=
        sys.lib.g_client.save_process_client responser_client.client_id responser_client.client_name
      some ({ sys with lib := { sys.lib with g_client := g_client } }.setLookup k (.saving resp (some client)))
  | .saving resp client =>
    let (service_item, lib) := sys.lib.save_answer resp client
    some ({ sys with lib := lib }.setLookup k (.returned (some service_item)))
  | _ => none

def expire (k : κ) : Option (LookupSystem φ κ) :=
  match sys.lookup k with
  | .asking msg_seqid =>
    some { sys.setLookup k (.returned none) with pending_requests := sys.pending_requests.erase msg_seqid }
  | .fetching resp msg_seqid =>
    some { sys.setLookup k (.saving resp none) with pending_requests := sys.pending_requests.erase msg_seqid }
  | _ => none

/-- `on_recv_daemon`. The answer takes the waiting thread from the map, which in the source
the thread does itself when it wakes. -/
def on_recv_daemon (frame : Sent) : LookupSystem φ κ :=
  match frame.payload with
  | .service_change_status _ | .listener_change_to_provider _ =>
    { sys with lib := sys.lib.on_recv_daemon frame.payload }
  | _ =>
    match sys.pending_requests.lookup frame.header.msg_seqid with
    | none => sys
    | some k =>
      { sys.setLookup k ((sys.lookup k).wake frame.payload) with
        pending_requests := sys.pending_requests.erase frame.header.msg_seqid }

/-- One event of the daemon or of the process, whose connection is `channel`. -/
def step (channel : SocketChannel) (sys : LookupSystem φ κ) : LookupEvent φ κ → Option (LookupSystem φ κ)
  | .get_service k service_id ok =>
    match sys.lookup k with
    | .idle => some (sys.get_service k service_id ok)
    | _ => none
  | .proceed k ok => sys.proceed k ok
  | .expire k => sys.expire k
  | .finish k caller =>
    match sys.lookup k with
    | .returned service_item => some ({ sys with lib := sys.lib.finish service_item caller }.setLookup k .idle)
    | _ => none
  | .call call ok =>
    let (_, request, lib) := sys.lib.call ok call
    some { sys with lib := lib, outbox := sys.outbox ++ request.toList }
  | .own event => if event.IsOwn then (sys.lib.step event).map fun lib => { sys with lib := lib } else none
  | .close => some { sys with lib := sys.lib.on_close, pending_requests := ∅ }
  | .deliver env =>
    match sys.outbox with
    | [] => none
    | request :: rest => { sys with outbox := rest }.handle channel env (.message channel request)
  | .receive =>
    match sys.inbox with
    | [] => none
    | frame :: rest =>
      if sys.lib.client_status = .ONLINE then some ({ sys with inbox := rest }.on_recv_daemon frame) else none
  | .daemon env event => if IsForeign channel event then sys.handle channel env event else none

end LookupSystem

end hub.soa
