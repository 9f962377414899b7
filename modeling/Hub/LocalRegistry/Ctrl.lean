import Hub.LocalRegistry.Send

namespace hub.local_registry

namespace Tables

/-- One entry of a client listing. The loop over the produced services stops
once it has filled the array of its entry. -/
def clientInfo (env : Env) (t : Tables) (c : ClientPtr) : StLocalClientInfo where
  client := t.clientItem c
  produce_services :=
    ((env.order.visit (t.client c).client_produce_services).take
      LOCAL_REGISTRY_CLIENT_PROVIDE_SERVICES_ONCE_COUNT_MAX).map fun service =>
        { service_id := service.1
          service_type := (t.item service.2).service_type
          service_status := (t.item service.2).service_status }

/-- One entry of a service listing. The loop over the listeners stops once it
has filled the array of its entry. -/
def serviceInfo (env : Env) (t : Tables) (i : ItemPtr) : StLocalServiceInfo where
  service := t.serviceItem i
  provider_client := (t.item i).service_provider.map t.clientItem
  listener_clients :=
    ((env.order.visit (t.item i).service_listeners).take LOCAL_REGISTRY_CLIENT_ONCE_COUNT_MAX).map
      fun listener => t.clientItem listener.2

end Tables

namespace LocalRegistry

/-- The paging loop that `ctr_get_clients` and `ctr_get_services` share: a page
is sent when it holds `each_count` entries or its last entry is `full`, what
is left over is sent after the loop, and an empty page with `more_flag` zero
closes the listing. -/
def send_pages {α : Type} (env : Env) (r : LocalRegistry) (client_channel : SocketChannel)
    (recv_msg_header : StLocalMsgHeader) (service_id : UInt32) (each_count : Nat) (full : α → Bool)
    (resp : List α → UInt32 → Payload) (entries : List α) : LocalRegistry :=
  let send (r : LocalRegistry) (msg : Payload) : LocalRegistry :=
    (send_msg_to_client env r (some client_channel) service_id recv_msg_header.msg_seqid
      (recv_msg_header.msg_type + 1) msg).2
  let state := entries.foldl (fun (state : LocalRegistry × List α × UInt32) entry =>
    let page := state.2.1 ++ [entry]
    if full entry ∨ each_count ≤ page.length then
      (send state.1 (resp page (state.2.2 + 1)), [], state.2.2 + 1)
    else (state.1, page, state.2.2)) (r, [], 0)
  let r := if state.2.1.length ≠ 0 then send state.1 (resp state.2.1 (state.2.2 + 1)) else state.1
  send r (resp [] 0)

def ctr_get_clients (env : Env) (r : LocalRegistry) (recv_msg_header : StLocalMsgHeader)
    (client_channel : SocketChannel) : Int × LocalRegistry :=
  (0, send_pages env r client_channel recv_msg_header LOCAL_REGISTRY_SERVICE_ID_METHOD_CTRL_GET_CLIENTS 1
    (fun info => LOCAL_REGISTRY_CLIENT_PROVIDE_SERVICES_ONCE_COUNT_MAX ≤ info.produce_services.length)
    (fun clients more_flag => .ctrl_get_clients { clients := clients, more_flag := more_flag })
    ((env.order.visit r.m_clients_by_name).map fun c => r.clientInfo env c.2))

def ctr_get_services (env : Env) (r : LocalRegistry) (recv_msg_header : StLocalMsgHeader)
    (client_channel : SocketChannel) : Int × LocalRegistry :=
  (0, send_pages env r client_channel recv_msg_header LOCAL_REGISTRY_SERVICE_ID_METHOD_CTRL_GET_SERVICES 1
    (fun info => LOCAL_REGISTRY_CLIENT_ONCE_COUNT_MAX ≤ info.listener_clients.length)
    (fun services more_flag => .ctrl_get_services { services := services, more_flag := more_flag })
    ((env.order.visit r.m_services).map fun s => r.serviceInfo env s.2))

end LocalRegistry

end hub.local_registry
