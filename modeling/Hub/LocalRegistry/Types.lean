import Hub.Lib.Heap
import Hub.Lib.StdString
import Hub.Lib.UnorderedMap

namespace hub.local_registry

inductive LocalClientStatus where
  | INIT
  | ONLINE
  | OFFLINE
deriving DecidableEq

/-- The value that a `uint32` message field receives. -/
def LocalClientStatus.toUInt32 : LocalClientStatus → UInt32
  | .INIT => 0
  | .ONLINE => 1
  | .OFFLINE => 2

def LOCAL_SERVICE_TYPE_UNKNOWN : UInt32 := 0
def LOCAL_SERVICE_TYPE_METHOD : UInt32 := 1
def LOCAL_SERVICE_TYPE_EVENT : UInt32 := 2

def LOCAL_SERVICE_STATUS_DEFAULT : UInt32 := 0
def LOCAL_SERVICE_STATUS_AVAILABLE : UInt32 := 1
def LOCAL_SERVICE_STATUS_UNAVAILABLE : UInt32 := 2

def LOCAL_MSG_TYPE_EVENT_NOTIFY : UInt32 := 6

def MODULE_ID_AUTOLIB_LOCAL_REGISTRY : UInt32 := 0

def LOCAL_REGISTRY_SERVICE_ID_METHOD_REGISTER_CLIENT : UInt32 := 1
def LOCAL_REGISTRY_SERVICE_ID_METHOD_GET_CLIENT : UInt32 := 2
def LOCAL_REGISTRY_SERVICE_ID_METHOD_GET_SERVICE : UInt32 := 5
def LOCAL_REGISTRY_SERVICE_ID_EVENT_SERVICE_CHANGE_STATUS : UInt32 := 7
def LOCAL_REGISTRY_SERVICE_ID_EVENT_LISTENER_CHANGE_TO_PROVIDER : UInt32 := 8
def LOCAL_REGISTRY_SERVICE_ID_METHOD_CTRL_GET_CLIENTS : UInt32 := 9
def LOCAL_REGISTRY_SERVICE_ID_METHOD_CTRL_GET_SERVICES : UInt32 := 10

def LOCAL_REGISTRY_CLIENT_NAME_MAX : Nat := 32

def LOCAL_REGISTRY_CLIENT_ONCE_COUNT_MAX : Nat := 128
def LOCAL_REGISTRY_CLIENT_PROVIDE_SERVICES_ONCE_COUNT_MAX : Nat := 128

def LOCAL_REGISTRY_CTRL_SOCKET_FILE : Str :=
  ['l', 'o', 'c', 'a', 'l', '_', 'r', 'e', 'g', 'i', 's', 't', 'r', 'y', '_', 'c', 't', 'r', 'l', '.', 'i', 'p', 'c']

structure StLocalMsgHeader where
  client_id : UInt32
  msg_seqid : UInt32
  msg_type : UInt32
  service_id : UInt32
  msg_len : UInt32
deriving DecidableEq

structure StLocalServiceItem where
  service_id : UInt32
  service_type : UInt32
  service_status : UInt32
deriving DecidableEq

structure StLocalClientItem where
  client_id : UInt32
  client_pid : Int
  client_name : Str
  client_status : UInt32
deriving DecidableEq

structure StRegisterClientReq where
  client_pid : Int
  client_name : Str

structure StRegisterClientResp where
  client_pid : Int
  client_id : UInt32
deriving DecidableEq

structure StGetClientReq where
  client_id : UInt32

/-- An optional submessage `x` with its flag `has_x` is an `Option`. -/
structure StGetClientResp where
  responser_client : Option StLocalClientItem
deriving DecidableEq

/-- A repeated field with its count is a list. -/
structure StRegisterService where
  produce_services : List StLocalServiceItem
  provider_client : Option StLocalClientItem
  reg : Bool

structure StListenService where
  listen_services : List StLocalServiceItem
  listener_client : Option StLocalClientItem
  reg : Bool

structure StGetServiceReq where
  service_id : UInt32
  listener_client : Option StLocalClientItem

structure StGetServiceResp where
  service : StLocalServiceItem
  provider_client : Option StLocalClientItem
deriving DecidableEq

structure StServiceSetStatus where
  services : List StLocalServiceItem
  provider_client : Option StLocalClientItem

structure StServiceChangeStatus where
  service : StLocalServiceItem
  provider_client : Option StLocalClientItem
deriving DecidableEq

structure StListenerChangeToProvider where
  service_id : UInt32
  listener_clients : List StLocalClientItem
  reg : Bool
deriving DecidableEq

structure StLocalClientInfo where
  client : StLocalClientItem
  produce_services : List StLocalServiceItem
deriving DecidableEq

structure StLocalServiceInfo where
  service : StLocalServiceItem
  provider_client : Option StLocalClientItem
  listener_clients : List StLocalClientItem
deriving DecidableEq

structure StCtrlGetClients where
  clients : List StLocalClientInfo
  more_flag : UInt32
deriving DecidableEq

structure StCtrlGetServices where
  services : List StLocalServiceInfo
  more_flag : UInt32
deriving DecidableEq

inductive Payload where
  | register_client_resp (resp : StRegisterClientResp)
  | get_client_resp (resp : StGetClientResp)
  | get_service_resp (resp : StGetServiceResp)
  | service_change_status (change_msg : StServiceChangeStatus)
  | listener_change_to_provider (e2c_msg : StListenerChangeToProvider)
  | ctrl_get_clients (resp : StCtrlGetClients)
  | ctrl_get_services (resp : StCtrlGetServices)
deriving DecidableEq

def Payload.IsAnswer : Payload → Prop
  | .service_change_status _ => False
  | .listener_change_to_provider _ => False
  | _ => True

structure Sent where
  channel_id : UInt32
  header : StLocalMsgHeader
  payload : Payload
deriving DecidableEq

inductive ClientRef where

inductive ItemRef where

abbrev ClientPtr : Type := Ptr ClientRef

abbrev ItemPtr : Type := Ptr ItemRef

structure LocalServiceItem where
  service_id : UInt32
  service_type : UInt32
  service_status : UInt32
  service_provider : Option ClientPtr
  service_listeners : UnorderedMap UInt32 ClientPtr
deriving Inhabited

structure LocalClient where
  client_id : UInt32
  client_pid : Int
  client_channel_id : UInt32
  client_name : Str
  client_localaddr : Str
  client_status : LocalClientStatus
  client_produce_services : UnorderedMap UInt32 ItemPtr

instance : Inhabited LocalClient :=
  ⟨{ client_id := 0, client_pid := 0, client_channel_id := 0, client_name := [], client_localaddr := [],
     client_status := .INIT, client_produce_services := ∅ }⟩

def LocalClient.identity (client : LocalClient) : LocalClient := { client with client_produce_services := ∅ }

/-- What the daemon reads of an `hv::SocketChannel`. -/
structure SocketChannel where
  id : UInt32
  peeraddr : Str
deriving DecidableEq

/-- The channel table of `hv::UdsServer`. `issued` records every channel id
that the event library has handed out; the source does not store it. -/
structure UdsServer where
  channels : UnorderedMap UInt32 SocketChannel
  issued : List UInt32

def UdsServer.getChannelById (server : UdsServer) (id : UInt32) : Option SocketChannel :=
  server.channels.lookup id

def UdsServer.addChannel (server : UdsServer) (channel : SocketChannel) : UdsServer :=
  { channels := AList.insert channel.id channel server.channels, issued := channel.id :: server.issued }

def UdsServer.removeChannel (server : UdsServer) (id : UInt32) : UdsServer :=
  { server with channels := server.channels.erase id }

/-- The part of the daemon's state that its sends leave alone: the objects, the
two maps of `LocalRegistry`, the id counter and the channel table. -/
structure Tables where
  clients : Heap ClientRef LocalClient
  items : Heap ItemRef LocalServiceItem
  m_clients_by_name : UnorderedMap Str ClientPtr
  m_services : UnorderedMap UInt32 ItemPtr
  m_next_client_id : UInt32
  m_server : UdsServer

/-- `class LocalRegistry`, with the frames written so far in `sent`. -/
structure LocalRegistry extends Tables where
  m_msg_seqid : UInt32
  sent : List Sent

def LocalRegistry.init : LocalRegistry where
  clients := .empty
  items := .empty
  m_clients_by_name := ∅
  m_services := ∅
  m_next_client_id := 1
  m_server := { channels := ∅, issued := [] }
  m_msg_seqid := 1
  sent := []

namespace Tables

variable (t : Tables)

def client (c : ClientPtr) : LocalClient := t.clients.get c

def item (i : ItemPtr) : LocalServiceItem := t.items.get i

def setClient (c : ClientPtr) (record : LocalClient) : Tables :=
  { t with clients := t.clients.set c record }

def setItem (i : ItemPtr) (record : LocalServiceItem) : Tables :=
  { t with items := t.items.set i record }

def channelOf (c : ClientPtr) : Option SocketChannel :=
  t.m_server.getChannelById (t.client c).client_channel_id

/-- The client is online and its channel, with this id, is open. -/
def Reaches (c : ClientPtr) (channel_id : UInt32) : Prop :=
  (t.client c).client_status = .ONLINE ∧ ∃ channel, t.channelOf c = some channel ∧ channel.id = channel_id

def clientItem (c : ClientPtr) : StLocalClientItem where
  client_id := (t.client c).client_id
  client_pid := (t.client c).client_pid
  client_name := (t.client c).client_name.strncpy LOCAL_REGISTRY_CLIENT_NAME_MAX
  client_status := (t.client c).client_status.toUInt32

def serviceItem (i : ItemPtr) : StLocalServiceItem where
  service_id := (t.item i).service_id
  service_type := (t.item i).service_type
  service_status := (t.item i).service_status

theorem setItem_item (i : ItemPtr) : t.setItem i (t.item i) = t := by
  simp [setItem, item]

end Tables

def LocalRegistry.withTables (r : LocalRegistry) (t : Tables) : LocalRegistry :=
  { r with toTables := t }

@[simp] theorem LocalRegistry.withTables_toTables (r : LocalRegistry) (t : Tables) :
    (r.withTables t).toTables = t := rfl

end hub.local_registry
