import Hub.LocalRegistry.Clients
import Hub.LocalRegistry.Ctrl
import Hub.LocalRegistry.Services

namespace hub.local_registry

/-- A decoded frame, by the `service_id` of its header. -/
inductive Request where
  | register_client (recv_msg_header : StLocalMsgHeader) (req : StRegisterClientReq)
  | get_client (recv_msg_header : StLocalMsgHeader) (req : StGetClientReq)
  | register_service (msg : StRegisterService)
  | listen_service (msg : StListenService)
  | get_service (recv_msg_header : StLocalMsgHeader) (req : StGetServiceReq)
  | service_set_status (msg : StServiceSetStatus)
  | ctrl_get_clients (recv_msg_header : StLocalMsgHeader)
  | ctrl_get_services (recv_msg_header : StLocalMsgHeader)

def Request.IsQuery : Request → Prop
  | .register_service _ => False
  | .listen_service _ => False
  | .service_set_status _ => False
  | _ => True

inductive Event where
  | connect (channel : SocketChannel)
  | close (channel_id : UInt32)
  | message (channel : SocketChannel) (request : Request)

namespace LocalRegistry

def onConnected (r : LocalRegistry) (channel : SocketChannel) : Option LocalRegistry :=
  if channel.peeraddr.strstr LOCAL_REGISTRY_CTRL_SOCKET_FILE then some r
  else (r.add_client channel).map (·.2)

def onDisconnected (env : Env) (r : LocalRegistry) (channel : SocketChannel) : LocalRegistry :=
  if channel.peeraddr.strstr LOCAL_REGISTRY_CTRL_SOCKET_FILE then r
  else (r.remove_client env channel).2

def onMessage (env : Env) (r : LocalRegistry) (channel : SocketChannel) : Request → Option LocalRegistry
  | .register_client recv_msg_header req => (r.register_client env recv_msg_header req channel).map (·.2)
  | .get_client recv_msg_header req => some (r.get_client env recv_msg_header req channel).2
  | .register_service msg => some (r.register_service env msg).2
  | .listen_service msg => some (r.listen_service env msg).2
  | .get_service recv_msg_header req => some (r.get_service env recv_msg_header req).2
  | .service_set_status msg => some (r.service_set_status env msg).2
  | .ctrl_get_clients recv_msg_header => some (r.ctr_get_clients env recv_msg_header channel).2
  | .ctrl_get_services recv_msg_header => some (r.ctr_get_services env recv_msg_header channel).2

/-- One turn of the daemon's only event loop. A new connection enters the
channel table before `onConnection` runs, a closed one leaves it after. There
is no next state when a handler throws or reads through a null pointer. -/
def step (r : LocalRegistry) (label : Env × Event) : Option LocalRegistry :=
  match label.2 with
  | .connect channel =>
    onConnected (r.withTables { r.toTables with m_server := r.m_server.addChannel channel }) channel
  | .close channel_id =>
    match r.m_server.getChannelById channel_id with
    | none => some r
    | some channel =>
      let r := onDisconnected label.1 r channel
      some (r.withTables { r.toTables with m_server := r.m_server.removeChannel channel_id })
  | .message channel request => onMessage label.1 r channel request

end LocalRegistry

def daemonRun (labels : List (Env × Event)) : Option LocalRegistry :=
  run LocalRegistry.step LocalRegistry.init labels

end hub.local_registry
