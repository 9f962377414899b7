import Hub.LocalRegistry.Daemon
import Hub.Soa.Client
import Hub.Soa.SyncCall

namespace hub.soa

open local_registry

def IPC_HV_SOA_RET_ERR_ARG : Int := -2
def IPC_HV_SOA_RET_ERR_LIMIT : Int := -5

def E_IPC_HV_SOA_SERVICE_TYPE_METHOD : UInt32 := 1
def E_IPC_HV_SOA_SERVICE_TYPE_EVENT : UInt32 := 2

def E_IPC_HV_SOA_MSG_TYPE_METHOD_NOTIFY : UInt32 := 1
def E_IPC_HV_SOA_MSG_TYPE_METHOD_REQUEST_SYNC : UInt32 := 2
def E_IPC_HV_SOA_MSG_TYPE_METHOD_REQUEST_ASYNC : UInt32 := 4
def E_IPC_HV_SOA_MSG_TYPE_METHOD_RESPONSE_ASYNC : UInt32 := 5
def E_IPC_HV_SOA_MSG_TYPE_EVENT_NOTIFY : UInt32 := 6

/-- The members of the unions in `ipc_hv_soa_provider_service_t` and
`ipc_hv_soa_listener_service_t`. -/
inductive Role where
  | method_provider_cb
  | event_provider_cb
  | method_listener_cb
  | event_listener_cb
deriving DecidableEq

/-- What a `service_handler` points to. The source keeps the function only; `stored_as`
is the member it was read from. -/
structure Handler (φ : Type) where
  stored_as : Role
  cb : φ
deriving DecidableEq

/-- `ipc_hv_soa_provider_service_t` or `ipc_hv_soa_listener_service_t`. The members of
the union share their bits. -/
structure ServiceEntry (φ : Type) where
  service_id : UInt32
  service_type : UInt32
  u : Option φ

structure MsgHandle where
  msg_type : UInt32
  msg_seqid : UInt32
  client_id : UInt32
deriving DecidableEq

def MsgHandle.of (header : MsgHeader) : MsgHandle where
  msg_type := header.msg_type
  msg_seqid := header.msg_seqid
  client_id := header.client_id

/-- A call of one of the process's functions, by the place of the library that makes it.
A message stands for the service id, the data and the length in its header. -/
inductive Invocation (φ : Type) where
  | method_request (handler : Handler φ) (handle : MsgHandle) (message : SyncMessage)
  | listener_change (handler : Handler φ) (service_id : UInt32)
  | status_change (handler : Handler φ) (service_id service_status : UInt32)
  | event (handler : Handler φ) (message : SyncMessage)
  | async_response (async_cb : φ) (message : SyncMessage)

/-- What the two queries of the daemon have brought; `none` is a query that failed. -/
structure Replies where
  get_service : Option StGetServiceResp
  get_client : Option StGetClientResp

/-- The calls that tell the daemon about the process's own services and subscriptions. -/
inductive ServiceCall (φ : Type) where
  | provider_service_offer (provider_services : List (ServiceEntry φ))
  | provider_service_revoke (provider_services : List UInt32)
  | provider_service_set_status (provider_services : List UInt32) (provider_services_status : UInt32)
  | listener_service_subscribe (listener_services : List (ServiceEntry φ))
  | listener_service_unsubscribe (listener_services : List UInt32)

/-- `g_client` with the handlers of its services, by service id, and the counters of the
process clients, by client id. `invoked` lists the calls that were made of the process's
functions. -/
structure Library (φ : Type) where
  g_client : Client
  client_id : UInt32
  client_pid : Int
  client_name : Str
  client_status : LocalClientStatus
  /-- The status in the process's entry for itself in `process_clients_map`. -/
  own_status : LocalClientStatus
  m_msg_seqid : UInt32
  msg_seqid : UInt32 → UInt32
  service_handler : UInt32 → Option (Handler φ)
  service_async_handler : UInt32 → Option φ
  msg_handler_queue : List SyncMessage
  invoked : List (Invocation φ)

/-- What happens in the process. `ok` says whether a message could be written. -/
inductive LibraryEvent (φ : Type) where
  | call (call : ServiceCall φ) (ok : Bool)
  | method_notify (service_id : UInt32) (replies : Replies)
  | method_sync (service_id : UInt32) (replies : Replies)
  | method_async (service_id : UInt32) (async_cb : Option φ) (replies : Replies)
  /-- `event_trigger` or `ipc_hv_soa_inn_trigger_to_client` draws a number of a process client. -/
  | draw (client_id : UInt32)
  /-- `connect_with_process_client` starts the numbers of a process client anew. -/
  | connect (client_id : UInt32)
  /-- `on_accept` of another process. -/
  | accept (client_id : UInt32) (client_name : Str)
  /-- `on_recv_daemon`, without the answers to queries. -/
  | recv_daemon (payload : Payload)
  /-- `on_recv_process` for a frame that could be decoded. -/
  | recv_process (message : SyncMessage)
  | handle
  /-- `on_close` or `on_accept` of a connection under the process's own id. -/
  | self_status (client_status : LocalClientStatus)
  | close

/-- What a `void *` of a service entry is after `save_service`: a new entry takes the
pointer as it is, a known one keeps its own when the pointer is null. -/
def savePointer {α : Type} (known : Bool) (pointers : UInt32 → Option α) (service_id : UInt32) (pointer : Option α) :
    UInt32 → Option α :=
  if known ∧ pointer.isNone then pointers else Function.update pointers service_id pointer

namespace Library

variable {φ : Type}

def init (client_id : UInt32) (client_pid : Int) (client_name : Str) (m_msg_seqid : UInt32) : Library φ where
  g_client := (Client.empty.save_process_client client_id client_name).2
  client_id := client_id
  client_pid := client_pid
  client_name := client_name
  client_status := .ONLINE
  own_status := .ONLINE
  m_msg_seqid := m_msg_seqid
  msg_seqid := fun _ => 1
  service_handler := fun _ => none
  service_async_handler := fun _ => none
  msg_handler_queue := []
  invoked := []

variable (lib : Library φ)

def clientItem : StLocalClientItem where
  client_id := lib.client_id
  client_pid := lib.client_pid
  client_name := lib.client_name.strncpy LOCAL_REGISTRY_CLIENT_NAME_MAX
  client_status := lib.client_status.toUInt32

def save_service (service_id service_type service_status : UInt32)
    (service_handler : Option (Handler φ)) (service_async_handler : Option φ) (client : Option ProcessClient) :
    Service × Library φ :=
  let known := (lib.g_client.find_service service_id).isSome
  let (service_item, g_client) := lib.g_client.save_service service_id service_type service_status client
  (service_item,
    { lib with
      g_client := g_client
      service_handler := savePointer known lib.service_handler service_id service_handler
      service_async_handler := savePointer known lib.service_async_handler service_id service_async_handler })

def get_process_client (client_id : UInt32) (reply : Option StGetClientResp) :
    Option ProcessClient × Library φ :=
  match lib.g_client.find_process_client client_id with
  | some client => (some client, lib)
  | none =>
    if lib.client_status ≠ .ONLINE then (none, lib)
    else
      match reply.bind StGetClientResp.responser_client with
      | none => (none, lib)
      | some responser_client =>
        let (client, g_client) :=
          lib.g_client.save_process_client responser_client.client_id responser_client.client_name
        (some client, { lib with g_client := g_client })

def need_query (service_id : UInt32) : Bool :=
  match lib.g_client.find_service service_id with
  | none => true
  | some service_item =>
    service_item.service_type == E_IPC_HV_SOA_SERVICE_TYPE_METHOD &&
      service_item.service_status == LOCAL_SERVICE_STATUS_DEFAULT

/-- `get_service` gets the provider that the answer names. -/
def get_provider (resp : StGetServiceResp) (reply : Option StGetClientResp) :
    Option ProcessClient × Library φ :=
  match resp.provider_client with
  | none => (none, lib)
  | some provider_client => lib.get_process_client provider_client.client_id reply

/-- The end of `get_service`: the answer enters the map. -/
def save_answer (resp : StGetServiceResp) (client : Option ProcessClient) : Service × Library φ :=
  lib.save_service resp.service.service_id resp.service.service_type resp.service.service_status none none client

def get_service (service_id : UInt32) (replies : Replies) : Option Service × Library φ :=
  if lib.need_query service_id = false then (lib.g_client.find_service service_id, lib)
  else if lib.client_status ≠ .ONLINE then (none, lib)
  else
    match replies.get_service with
    | none => (none, lib)
    | some resp =>
      let (client, lib) := lib.get_provider resp replies.get_client
      let (service_item, lib) := lib.save_answer resp client
      (some service_item, lib)

/-- Where the functions of the process are stored by `ipc_hv_soa_provider_service_offer`. -/
def providerMember (service_type : UInt32) : Option Role :=
  if service_type = LOCAL_SERVICE_TYPE_EVENT then some .event_provider_cb
  else if service_type = LOCAL_SERVICE_TYPE_METHOD then some .method_provider_cb
  else none

/-- Where the functions of the process are stored by `ipc_hv_soa_listener_service_subscribe`. -/
def listenerMember (service_type : UInt32) : Option Role :=
  if service_type = E_IPC_HV_SOA_SERVICE_TYPE_EVENT then some .event_listener_cb
  else if service_type = LOCAL_SERVICE_TYPE_METHOD then some .method_listener_cb
  else none

/-- The loop over the entries of an offer or a subscription. An entry of another type
ends it, and what was saved before stays. -/
def save_services (member : UInt32 → Option Role) (service_status : UInt32) (client : Option ProcessClient) :
    List (ServiceEntry φ) → Library φ → Bool × Library φ
  | [], lib => (true, lib)
  | entry :: rest, lib =>
    match member entry.service_type with
    | none => (false, lib)
    | some role =>
      save_services member service_status client rest
        (lib.save_service entry.service_id entry.service_type service_status (entry.u.map (Handler.mk role)) none
          client).2

/-- The end of the five calls: when the status that they look at is ONLINE, the message
goes to `send_msg_to_daemon`, which looks at the status of the process again. -/
def send_msg_to_daemon (client_status : LocalClientStatus) (ok : Bool) (request : Request) :
    Int × Option Request × Library φ :=
  if client_status = .ONLINE then
    let sent := { lib with m_msg_seqid := lib.m_msg_seqid + 1 }
    if ok ∧ lib.client_status = .ONLINE then (IPC_HV_SOA_RET_SUCCESS, some request, sent)
    else (IPC_HV_SOA_RET_FAIL, none, sent)
  else (IPC_HV_SOA_RET_FAIL, none, lib)

/-- The result of `ipc_hv_soa_provider_service_offer`, its message to the daemon, and the
state after it. -/
def provider_service_offer (ok : Bool) (provider_services : List (ServiceEntry φ)) :
    Int × Option Request × Library φ :=
  if provider_services.length = 0 then (IPC_HV_SOA_RET_ERR_ARG, none, lib)
  else if LOCAL_REGISTRY_CLIENT_PROVIDE_SERVICES_ONCE_COUNT_MAX ≤ provider_services.length then
    (IPC_HV_SOA_RET_ERR_LIMIT, none, lib)
  else
    match lib.g_client.find_process_client lib.client_id with
    | none => (IPC_HV_SOA_RET_FAIL, none, lib)
    | some it =>
      match save_services providerMember LOCAL_SERVICE_STATUS_AVAILABLE (some it) provider_services lib with
      | (false, lib) => (IPC_HV_SOA_RET_ERR_ARG, none, lib)
      | (true, lib) =>
        lib.send_msg_to_daemon lib.client_status ok (.register_service
          { produce_services := provider_services.map fun entry =>
              ⟨entry.service_id, entry.service_type, LOCAL_SERVICE_STATUS_AVAILABLE⟩
            provider_client := some lib.clientItem
            reg := true })

def setUnavailable (service_id : UInt32) (it : Service) : Library φ :=
  { lib with
    g_client := lib.g_client.setService service_id { it with service_status := LOCAL_SERVICE_STATUS_UNAVAILABLE } }

/-- The loop of `ipc_hv_soa_provider_service_revoke`, with the entries of its message. It
ends at a service that the process does not know. -/
def revoke_services : List UInt32 → Library φ → Option (List StLocalServiceItem) × Library φ
  | [], lib => (some [], lib)
  | service_id :: rest, lib =>
    match lib.g_client.find_service service_id with
    | none => (none, lib)
    | some it =>
      let (items, lib) := revoke_services rest (lib.setUnavailable service_id it)
      (items.map (⟨it.service_id, it.service_type, LOCAL_SERVICE_STATUS_UNAVAILABLE⟩ :: ·), lib)

def provider_service_revoke (ok : Bool) (provider_services : List UInt32) :
    Int × Option Request × Library φ :=
  if provider_services.length = 0 then (IPC_HV_SOA_RET_ERR_ARG, none, lib)
  else if LOCAL_REGISTRY_CLIENT_PROVIDE_SERVICES_ONCE_COUNT_MAX ≤ provider_services.length then
    (IPC_HV_SOA_RET_ERR_LIMIT, none, lib)
  else
    match revoke_services provider_services lib with
    | (none, lib) => (IPC_HV_SOA_RET_FAIL, none, lib)
    | (some items, lib) =>
      lib.send_msg_to_daemon lib.client_status ok (.register_service
        { produce_services := items, provider_client := some lib.clientItem, reg := false })

def provider_service_set_status (ok : Bool) (provider_services : List UInt32)
    (provider_services_status : UInt32) : Int × Option Request × Library φ :=
  if provider_services.length = 0 then (IPC_HV_SOA_RET_ERR_ARG, none, lib)
  else if LOCAL_REGISTRY_CLIENT_PROVIDE_SERVICES_ONCE_COUNT_MAX < provider_services.length then
    (IPC_HV_SOA_RET_ERR_LIMIT, none, lib)
  else
    lib.send_msg_to_daemon lib.client_status ok (.service_set_status
      { services := provider_services.map fun service_id => ⟨service_id, 0, provider_services_status⟩
        provider_client := some lib.clientItem })

/-- The status that counts here is the one in the entry for the process itself. -/
def listener_service_subscribe (ok : Bool) (listener_services : List (ServiceEntry φ)) :
    Int × Option Request × Library φ :=
  if listener_services.length = 0 then (IPC_HV_SOA_RET_ERR_ARG, none, lib)
  else
    match lib.g_client.find_process_client lib.client_id with
    | none => (IPC_HV_SOA_RET_FAIL, none, lib)
    | some _ =>
      match save_services listenerMember LOCAL_SERVICE_STATUS_DEFAULT none listener_services lib with
      | (false, lib) => (IPC_HV_SOA_RET_ERR_ARG, none, lib)
      | (true, lib) =>
        lib.send_msg_to_daemon lib.own_status ok (.listen_service
          { listen_services := listener_services.map fun entry =>
              ⟨entry.service_id, entry.service_type, LOCAL_SERVICE_STATUS_DEFAULT⟩
            listener_client := some lib.clientItem
            reg := true })

def unsubscribe_services (listener_services : List UInt32) : Option (List StLocalServiceItem) :=
  listener_services.mapM fun service_id =>
    (lib.g_client.find_service service_id).map fun it => ⟨it.service_id, it.service_type, 0⟩

def listener_service_unsubscribe (ok : Bool) (listener_services : List UInt32) :
    Int × Option Request × Library φ :=
  if listener_services.length = 0 then (IPC_HV_SOA_RET_ERR_ARG, none, lib)
  else
    match lib.unsubscribe_services listener_services with
    | none => (IPC_HV_SOA_RET_FAIL, none, lib)
    | some items =>
      lib.send_msg_to_daemon lib.client_status ok (.listen_service
        { listen_services := items, listener_client := some lib.clientItem, reg := false })

def call (ok : Bool) : ServiceCall φ → Int × Option Request × Library φ
  | .provider_service_offer provider_services => lib.provider_service_offer ok provider_services
  | .provider_service_revoke provider_services => lib.provider_service_revoke ok provider_services
  | .provider_service_set_status provider_services provider_services_status =>
    lib.provider_service_set_status ok provider_services provider_services_status
  | .listener_service_subscribe listener_services => lib.listener_service_subscribe ok listener_services
  | .listener_service_unsubscribe listener_services => lib.listener_service_unsubscribe ok listener_services

/-- The provider of a service that the three method calls accept. -/
def methodProvider (it : Service) : Option ProcessClient :=
  match it.service_provider with
  | none => none
  | some provider =>
    if it.service_type ≠ E_IPC_HV_SOA_SERVICE_TYPE_METHOD ∨ it.service_status ≠ LOCAL_SERVICE_STATUS_AVAILABLE then none
    else some provider

def draw (client_id : UInt32) : Library φ :=
  { lib with msg_seqid := Function.update lib.msg_seqid client_id (lib.msg_seqid client_id + 1) }

def setAsyncHandler (service_id : UInt32) (async_cb : Option φ) : Library φ :=
  { lib with service_async_handler := Function.update lib.service_async_handler service_id async_cb }

/-- The three method calls up to the send: the provider and the number of the request,
unless the call is refused. -/
def method_request (service_id : UInt32) (replies : Replies)
    (prepare : Service → Library φ → Library φ) : Option (ProcessClient × UInt32) × Library φ :=
  match lib.get_service service_id replies with
  | (none, lib) => (none, lib)
  | (some it, lib) =>
    match methodProvider it with
    | none => (none, lib)
    | some provider =>
      let lib := prepare it lib
      (some (provider, lib.msg_seqid provider.client_id), lib.draw provider.client_id)

def method_notify (service_id : UInt32) (replies : Replies) :
    Option (ProcessClient × UInt32) × Library φ :=
  lib.method_request service_id replies fun _ lib => lib

def method_sync (service_id : UInt32) (replies : Replies) :
    Option (ProcessClient × UInt32) × Library φ :=
  lib.method_request service_id replies fun _ lib => lib

def method_async (service_id : UInt32) (async_cb : Option φ) (replies : Replies) :
    Option (ProcessClient × UInt32) × Library φ :=
  lib.method_request service_id replies fun it lib => lib.setAsyncHandler it.service_id async_cb

/-- The functions that `on_recv_daemon` calls. -/
def daemonInvocations : Payload → List (Invocation φ)
  | .service_change_status change_status =>
    match lib.g_client.find_service change_status.service.service_id,
        lib.service_handler change_status.service.service_id with
    | some it, some handler =>
      if it.service_type = E_IPC_HV_SOA_SERVICE_TYPE_METHOD then
        [.status_change handler it.service_id change_status.service.service_status]
      else []
    | _, _ => []
  | .listener_change_to_provider event_listen =>
    match lib.g_client.find_service event_listen.service_id, lib.service_handler event_listen.service_id with
    | some it, some handler =>
      -- The source compares the status with the number of a type, which is that of UNAVAILABLE.
      if event_listen.reg ∧ it.service_status = E_IPC_HV_SOA_SERVICE_TYPE_EVENT then
        event_listen.listener_clients.map fun _ => .listener_change handler it.service_id
      else []
    | _, _ => []
  | _ => []

def on_recv_daemon (payload : Payload) : Library φ :=
  { lib with
    g_client := lib.g_client.on_recv_daemon payload
    invoked := lib.invoked ++ lib.daemonInvocations payload }

/-- Responses to synchronous calls go to the waiting call. -/
def on_recv_process (message : SyncMessage) : Library φ :=
  if message.header.msg_type ≠ E_IPC_HV_SOA_MSG_TYPE_METHOD_RESPONSE_SYNC then
    { lib with msg_handler_queue := lib.msg_handler_queue ++ [message] }
  else lib

/-- The frames that `process_msg_handler` gives to the provider of a method. -/
def IsMethodRequest (msg_type : UInt32) : Prop :=
  msg_type = E_IPC_HV_SOA_MSG_TYPE_METHOD_NOTIFY ∨ msg_type = E_IPC_HV_SOA_MSG_TYPE_METHOD_REQUEST_SYNC ∨
    msg_type = E_IPC_HV_SOA_MSG_TYPE_METHOD_REQUEST_ASYNC

instance (msg_type : UInt32) : Decidable (IsMethodRequest msg_type) :=
  inferInstanceAs (Decidable (_ ∨ _ ∨ _))

/-- The function that one turn of `process_msg_handler` calls. -/
def messageInvocations (message : SyncMessage) : List (Invocation φ) :=
  match lib.g_client.find_service message.header.service_id with
  | none => []
  | some _ =>
    if IsMethodRequest message.header.msg_type then
      ((lib.service_handler message.header.service_id).map fun handler =>
        .method_request handler (MsgHandle.of message.header) message).toList
    else if message.header.msg_type = E_IPC_HV_SOA_MSG_TYPE_METHOD_RESPONSE_ASYNC then
      ((lib.service_async_handler message.header.service_id).map fun async_cb =>
        .async_response async_cb message).toList
    else if message.header.msg_type = E_IPC_HV_SOA_MSG_TYPE_EVENT_NOTIFY then
      ((lib.service_handler message.header.service_id).map fun handler => .event handler message).toList
    else []

/-- One turn of `process_msg_handler`, which waits for a message. -/
def process_msg_handler : Option (Library φ) :=
  match lib.msg_handler_queue with
  | [] => none
  | message :: rest =>
    some { lib with msg_handler_queue := rest, invoked := lib.invoked ++ lib.messageInvocations message }

def find_and_save_process_client (client_id : UInt32) (client_name : Str) : Library φ :=
  match lib.g_client.find_process_client client_id with
  | none => { lib with g_client := (lib.g_client.save_process_client client_id client_name).2 }
  | some _ => lib

/-- `on_close` of the connection to the daemon. The process leaves its own map. -/
def on_close : Library φ :=
  { lib with
    g_client :=
      { lib.g_client with
        process_clients_map := lib.g_client.process_clients_map.erase lib.client_id
        keyed := fun h => lib.g_client.keyed (UnorderedMap.lookup_erase_eq_some.mp h).2 }
    client_status := .OFFLINE }

/-- One event of the process. The daemon's frames come over a connection that is open. -/
def step : LibraryEvent φ → Option (Library φ)
  | .call call ok => some (lib.call ok call).2.2
  | .method_notify service_id replies => some (lib.method_notify service_id replies).2
  | .method_sync service_id replies => some (lib.method_sync service_id replies).2
  | .method_async service_id async_cb replies => some (lib.method_async service_id async_cb replies).2
  | .draw client_id => some (lib.draw client_id)
  | .connect client_id => some { lib with msg_seqid := Function.update lib.msg_seqid client_id 1 }
  | .accept client_id client_name => some (lib.find_and_save_process_client client_id client_name)
  | .recv_daemon payload => if lib.client_status = .ONLINE then some (lib.on_recv_daemon payload) else none
  | .recv_process message => some (lib.on_recv_process message)
  | .handle => lib.process_msg_handler
  | .self_status client_status => some { lib with own_status := client_status }
  | .close => some lib.on_close

end Library

end hub.soa
