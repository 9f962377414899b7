import Hub.LocalRegistry.Types

namespace hub.soa

open local_registry

structure ProcessClient where
  client_id : UInt32
  client_name : Str

structure Service where
  service_id : UInt32
  service_type : UInt32
  service_status : UInt32
  service_provider : Option ProcessClient
  service_listeners : UnorderedMap UInt32 ProcessClient

/-- The library's state in one process, as far as the events of the daemon touch
it. Processes are filed under their own id. -/
structure Client where
  process_clients_map : UnorderedMap UInt32 ProcessClient
  services_map : UnorderedMap UInt32 Service
  keyed : ∀ {id client}, process_clients_map.lookup id = some client → client.client_id = id

namespace Client

def empty : Client where
  process_clients_map := ∅
  services_map := ∅
  keyed h := by simp at h

variable (g_client : Client)

def find_process_client (client_id : UInt32) : Option ProcessClient :=
  g_client.process_clients_map.lookup client_id

theorem keyed_insertNew (client : ProcessClient) {id : UInt32} {other : ProcessClient}
    (h : (g_client.process_clients_map.insertNew client.client_id client).lookup id = some other) :
    other.client_id = id := by
  obtain hold | ⟨rfl, -, rfl⟩ := UnorderedMap.lookup_insertNew_eq_some.mp h
  · exact g_client.keyed hold
  · rfl

def save_process_client (client_id : UInt32) (client_name : Str) : ProcessClient × Client :=
  let client : ProcessClient := ⟨client_id, client_name⟩
  (client,
    { g_client with
      process_clients_map := g_client.process_clients_map.insertNew client.client_id client
      keyed := g_client.keyed_insertNew client })

/-- The process of that id, saved first if it is new. -/
def process_client (item : StLocalClientItem) : ProcessClient × Client :=
  match g_client.find_process_client item.client_id with
  | none => g_client.save_process_client item.client_id item.client_name
  | some client => (client, g_client)

def find_service (service_id : UInt32) : Option Service :=
  g_client.services_map.lookup service_id

def setService (service_id : UInt32) (service : Service) : Client :=
  { g_client with services_map := AList.insert service_id service g_client.services_map }

def save_service (service_id service_type service_status : UInt32)
    (client : Option ProcessClient) : Service × Client :=
  let service_item : Service :=
    match g_client.find_service service_id with
    | none =>
      ⟨service_id, service_type, if client.isNone then LOCAL_SERVICE_STATUS_DEFAULT else service_status, none, ∅⟩
    | some service_item => { service_item with service_type := service_type, service_status := service_status }
  let service_item : Service :=
    match client with
    | none => service_item
    | some _ => { service_item with service_provider := client }
  (service_item, g_client.setService service_id service_item)

/-- The loop over the listeners of one message. A cancellation names one client and
leaves the loop. -/
def change_listeners (reg : Bool) : List StLocalClientItem → Service → Client → Service × Client
  | [], it, g_client => (it, g_client)
  | p_client :: rest, it, g_client =>
    let (client, g_client) := g_client.process_client p_client
    if reg then
      change_listeners reg rest
        { it with service_listeners := it.service_listeners.insertNew client.client_id client } g_client
    else ({ it with service_listeners := it.service_listeners.erase client.client_id }, g_client)

/-- What `on_recv_daemon` makes of the two events. Answers are left to the request
that waits for them. -/
def on_recv_daemon : Payload → Client
  | .service_change_status change_status =>
    match g_client.find_service change_status.service.service_id with
    | none => g_client
    | some it =>
      let it := { it with service_status := change_status.service.service_status }
      match change_status.provider_client with
      | none => g_client.setService change_status.service.service_id it
      | some provider_client =>
        let (client, g_client) := g_client.process_client provider_client
        g_client.setService change_status.service.service_id { it with service_provider := some client }
  | .listener_change_to_provider event_listen =>
    match g_client.find_service event_listen.service_id with
    | none => g_client
    | some it =>
      let (it, g_client) := change_listeners event_listen.reg event_listen.listener_clients it g_client
      g_client.setService event_listen.service_id it
  | _ => g_client

end Client

end hub.soa
