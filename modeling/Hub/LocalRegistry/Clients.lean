import Hub.LocalRegistry.Send

namespace hub.local_registry

/-- The outcome of reading a pid and a name out of a peer address. -/
inductive ParsedAddr where
  | invalid
  | throws
  | parsed (client_pid : Int) (client_name : Str)
deriving DecidableEq

def ParsedAddr.client_name : ParsedAddr → Option Str
  | .parsed _ client_name => some client_name
  | _ => none

/-- The first lines of `LocalRegistry::add_client`: the pid stands between the
last slash and the next dash, the name between that dash and the next dot. -/
def parse_localaddr (client_localaddr : Str) : ParsedAddr :=
  let slash := client_localaddr.rfind '/'
  let dash := client_localaddr.find '-' (Str.succNpos slash)
  let dot := client_localaddr.find '.' (Str.succNpos dash)
  match slash, dash, dot with
  | some slash, some dash, some dot =>
    match (client_localaddr.substr (slash + 1) (dash - (slash + 1))).stoi with
    | none => .throws
    | some client_pid => .parsed client_pid (client_localaddr.substr (dash + 1) (dot - (dash + 1)))
  | _, _, _ => .invalid

namespace Tables

/-- The fields that `add_client` writes into the record of a known name. -/
def bringOnline (t : Tables) (client : ClientPtr) (channel : SocketChannel) (client_pid : Int)
    (client_name : Str) : Tables :=
  t.setClient client
    { t.client client with
      client_pid := client_pid
      client_channel_id := channel.id
      client_name := client_name
      client_localaddr := channel.peeraddr
      client_status := .ONLINE }

def createClient (t : Tables) (channel : SocketChannel) (client_pid : Int) (client_name : Str) : Tables :=
  { t with
    clients := t.clients.alloc
      { client_id := t.m_next_client_id
        client_pid := client_pid
        client_channel_id := channel.id
        client_name := client_name
        client_localaddr := channel.peeraddr
        client_status := .ONLINE
        client_produce_services := ∅ }
    m_next_client_id := t.m_next_client_id + 1
    m_clients_by_name := t.m_clients_by_name.insertNew client_name t.clients.fresh }

def takeOffline (t : Tables) (client : ClientPtr) : Tables :=
  t.setClient client { t.client client with client_status := .OFFLINE }

/-- The status that `remove_client` gives to a service of that record. -/
def resetStatus (t : Tables) (i : ItemPtr) : Tables :=
  t.setItem i { t.item i with service_status := LOCAL_SERVICE_STATUS_DEFAULT }

/-- The loop of `remove_client` that looks for the record of a channel. -/
def findByChannel (env : Env) (t : Tables) (channel_id : UInt32) : Option ClientPtr :=
  ((env.order.visit t.m_clients_by_name).find? fun pair =>
    (t.client pair.2).client_channel_id == channel_id).map (·.2)

/-- The loop of `get_client` that looks for the record of a client id. -/
def findById (env : Env) (t : Tables) (client_id : UInt32) : Option ClientPtr :=
  ((env.order.visit t.m_clients_by_name).find? fun pair => (t.client pair.2).client_id == client_id).map (·.2)

end Tables

namespace LocalRegistry

/-- `none` stands for the exception of `std::stoi`, which nothing catches. -/
def add_client (r : LocalRegistry) (client_channel : SocketChannel) : Option (Int × LocalRegistry) :=
  match parse_localaddr client_channel.peeraddr with
  | .invalid => some (-1, r)
  | .throws => none
  | .parsed client_pid client_name =>
    match r.m_clients_by_name.lookup client_name with
    | some client =>
      if (r.channelOf client).isSome then some (1, r)
      else some (0, r.withTables (r.bringOnline client client_channel client_pid client_name))
    | none => some (0, r.withTables (r.createClient client_channel client_pid client_name))

/-- The body of the loop over `client_produce_services` in `remove_client`. -/
def drop_service (env : Env) (r : LocalRegistry) (i : ItemPtr) : LocalRegistry :=
  let r := announce env r (env.order.visit (r.item i).service_listeners) fun _ =>
    { service :=
        { service_id := (r.item i).service_id
          service_type := (r.item i).service_type
          service_status := LOCAL_SERVICE_STATUS_DEFAULT }
      provider_client := none }
  r.withTables (r.resetStatus i)

def remove_client (env : Env) (r : LocalRegistry) (client_channel : SocketChannel) : Int × LocalRegistry :=
  match r.findByChannel env client_channel.id with
  | none => (0, r)
  | some client =>
    let r := r.withTables (r.takeOffline client)
    (0, (env.order.visit (r.client client).client_produce_services).foldl
      (fun r pair => drop_service env r pair.2) r)

def registerResp (r : LocalRegistry) : Option ClientPtr → StRegisterClientResp
  | none => { client_pid := 0, client_id := 0 }
  | some client => { client_pid := (r.client client).client_pid, client_id := (r.client client).client_id }

/-- `none` stands for the read through a null `client` in the last log line,
which the source reaches when the name is unknown. -/
def register_client (env : Env) (r : LocalRegistry) (recv_msg_header : StLocalMsgHeader)
    (req : StRegisterClientReq) (client_channel : SocketChannel) : Option (Int × LocalRegistry) :=
  let client := r.m_clients_by_name.lookup req.client_name
  let resp := r.registerResp client
  if client = none ∧ env.ndebug = false then none
  else
    some (0, (send_msg_to_client env r (some client_channel) LOCAL_REGISTRY_SERVICE_ID_METHOD_REGISTER_CLIENT
      recv_msg_header.msg_seqid (recv_msg_header.msg_type + 1) (.register_client_resp resp)).2)

def get_client (env : Env) (r : LocalRegistry) (recv_msg_header : StLocalMsgHeader) (req : StGetClientReq)
    (client_channel : SocketChannel) : Int × LocalRegistry :=
  let resp : StGetClientResp := { responser_client := (r.findById env req.client_id).map r.clientItem }
  (0, (send_msg_to_client env r (some client_channel) LOCAL_REGISTRY_SERVICE_ID_METHOD_GET_CLIENT
    recv_msg_header.msg_seqid (recv_msg_header.msg_type + 1) (.get_client_resp resp)).2)

end LocalRegistry

end hub.local_registry
