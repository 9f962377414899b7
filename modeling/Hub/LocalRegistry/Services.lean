import Hub.LocalRegistry.Send

namespace hub.local_registry

namespace Tables

variable (t : Tables)

/-- The item that `register_service` finds or creates for one entry. -/
def registeredItem (entry : StLocalServiceItem) : ItemPtr :=
  (t.m_services.lookup entry.service_id).getD t.items.fresh

/-- `register_service`: the service is made available under its provider, in a
new item when the id is not in `m_services`. -/
def offerItem (client : ClientPtr) (entry : StLocalServiceItem) : Tables :=
  match t.m_services.lookup entry.service_id with
  | none =>
    { t with
      items := t.items.alloc
        { service_id := entry.service_id
          service_type := entry.service_type
          service_status := LOCAL_SERVICE_STATUS_AVAILABLE
          service_provider := some client
          service_listeners := ∅ }
      m_services := t.m_services.insertNew entry.service_id t.items.fresh }
  | some i =>
    t.setItem i
      { t.item i with
        service_id := entry.service_id
        service_type := entry.service_type
        service_status := LOCAL_SERVICE_STATUS_AVAILABLE
        service_provider := some client }

/-- `register_service`: the item enters the provider's own map unless that map
already has the id. -/
def addProduce (client : ClientPtr) (service_id : UInt32) (i : ItemPtr) : Tables :=
  t.setClient client
    { t.client client with
      client_produce_services := (t.client client).client_produce_services.insertNew service_id i }

def eraseService (service_id : UInt32) : Tables :=
  { t with m_services := t.m_services.erase service_id }

def eraseProduce (client : ClientPtr) (service_id : UInt32) : Tables :=
  t.setClient client
    { t.client client with
      client_produce_services := (t.client client).client_produce_services.erase service_id }

/-- `listen_service` creates an item without provider for an unknown id. -/
def ensureItem (entry : StLocalServiceItem) : Tables :=
  match t.m_services.lookup entry.service_id with
  | none =>
    { t with
      items := t.items.alloc
        { service_id := entry.service_id
          service_type := entry.service_type
          service_status := LOCAL_SERVICE_STATUS_DEFAULT
          service_provider := none
          service_listeners := ∅ }
      m_services := t.m_services.insertNew entry.service_id t.items.fresh }
  | some _ => t

def addListener (client : ClientPtr) (i : ItemPtr) : Tables :=
  t.setItem i
    { t.item i with
      service_listeners := (t.item i).service_listeners.insertNew (t.client client).client_id client }

def eraseListener (client : ClientPtr) (i : ItemPtr) : Tables :=
  t.setItem i
    { t.item i with
      service_listeners := (t.item i).service_listeners.erase (t.client client).client_id }

def setStatus (i : ItemPtr) (service_status : UInt32) : Tables :=
  t.setItem i { t.item i with service_status := service_status }

end Tables

namespace LocalRegistry

variable (env : Env) (r : LocalRegistry)

/-- The `SERVICE_CHANGE_STATUS` message that carries an item's current status
together with its provider, if it has one. -/
def changeMsg (i : ItemPtr) : StServiceChangeStatus where
  service := r.serviceItem i
  provider_client := (r.item i).service_provider.map r.clientItem

/-- `register_service` sends the whole listener map to an online provider. -/
def tell_provider (client : ClientPtr) (service_item : ItemPtr) : LocalRegistry :=
  if (r.client client).client_status = .ONLINE then
    notify env r client LOCAL_REGISTRY_SERVICE_ID_EVENT_LISTENER_CHANGE_TO_PROVIDER
      (.listener_change_to_provider
        { service_id := (r.item service_item).service_id
          listener_clients := (env.order.visit (r.item service_item).service_listeners).map
            fun listener => r.clientItem listener.2
          reg := true })
  else r

/-- `register_service` announces a method to its listeners. The provider is
described by its own id, pid and status but by the name of the listener, as
in the source. -/
def tell_available (client : ClientPtr) (service_item : ItemPtr) : LocalRegistry :=
  if (r.item service_item).service_type = LOCAL_SERVICE_TYPE_METHOD then
    announce env r (env.order.visit (r.item service_item).service_listeners) fun listener =>
      { service :=
          { service_id := (r.item service_item).service_id
            service_type := (r.item service_item).service_type
            service_status := LOCAL_SERVICE_STATUS_AVAILABLE }
        provider_client := some
          { r.clientItem client with
            client_name := (r.client listener).client_name.strncpy LOCAL_REGISTRY_CLIENT_NAME_MAX } }
  else r

/-- The body of the loop of `register_service` for `reg = true`. -/
def register_one (client : ClientPtr) (r : LocalRegistry) (entry : StLocalServiceItem) :
    LocalRegistry :=
  let service_item := r.registeredItem entry
  let r := r.withTables (r.offerItem client entry)
  let r := r.withTables (r.addProduce client entry.service_id service_item)
  let r := tell_provider env r client service_item
  tell_available env r client service_item

/-- `register_service` announces the withdrawal of a method. -/
def tell_unavailable (service_item : ItemPtr) : LocalRegistry :=
  if (r.item service_item).service_type = LOCAL_SERVICE_TYPE_METHOD then
    announce env r (env.order.visit (r.item service_item).service_listeners) fun _ =>
      { service :=
          { service_id := (r.item service_item).service_id
            service_type := (r.item service_item).service_type
            service_status := LOCAL_SERVICE_STATUS_UNAVAILABLE }
        provider_client := none }
  else r

/-- The body of the loop of `register_service` for `reg = false`. The source reads the item
through `it3` after the erase has freed the entry: where that does not read as what it was,
the loop over the listeners finds none. -/
def unregister_one (client : ClientPtr) (r : LocalRegistry) (entry : StLocalServiceItem) :
    LocalRegistry :=
  match r.m_services.lookup entry.service_id with
  | none => r
  | some _ =>
    let r := r.withTables (r.eraseService entry.service_id)
    match (r.client client).client_produce_services.lookup entry.service_id with
    | none => r
    | some service_item =>
      let r := r.withTables (r.eraseProduce client entry.service_id)
      if env.freedEntryReads then tell_unavailable env r service_item else r

def register_service (msg : StRegisterService) : Int × LocalRegistry :=
  match msg.provider_client with
  | none => (-1, r)
  | some provider_client =>
    if msg.produce_services.length = 0 then (0, r)
    else
      match r.m_clients_by_name.lookup provider_client.client_name with
      | none => (-1, r)
      | some client =>
        if msg.reg then (0, msg.produce_services.foldl (register_one env client) r)
        else (0, msg.produce_services.foldl (unregister_one env client) r)

/-- `listen_service` tells a new listener about a method that is available. -/
def tell_listener (client : ClientPtr) (service_item : ItemPtr) : LocalRegistry :=
  if (r.item service_item).service_type = LOCAL_SERVICE_TYPE_METHOD ∧
      (r.item service_item).service_status = LOCAL_SERVICE_STATUS_AVAILABLE then
    if (r.client client).client_status = .ONLINE then
      notify env r client LOCAL_REGISTRY_SERVICE_ID_EVENT_SERVICE_CHANGE_STATUS
        (.service_change_status (r.changeMsg service_item))
    else r
  else r

/-- `listen_service` tells an online provider about the listener. -/
def tell_change (reg : Bool) (client : ClientPtr) (service_item : ItemPtr) :
    LocalRegistry :=
  match (r.item service_item).service_provider with
  | none => r
  | some provider =>
    if (r.client provider).client_status = .ONLINE then
      notify env r provider LOCAL_REGISTRY_SERVICE_ID_EVENT_LISTENER_CHANGE_TO_PROVIDER
        (.listener_change_to_provider
          { service_id := (r.item service_item).service_id
            listener_clients := [r.clientItem client]
            reg := reg })
    else r

/-- The body of the loop of `listen_service`. -/
def listen_one (reg : Bool) (client : ClientPtr) (r : LocalRegistry) (entry : StLocalServiceItem) :
    LocalRegistry :=
  let service_item := r.registeredItem entry
  let r := r.withTables (r.ensureItem entry)
  let r :=
    if reg then tell_listener env (r.withTables (r.addListener client service_item)) client service_item
    else if (r.item service_item).service_type = LOCAL_SERVICE_TYPE_METHOD then
      r.withTables (r.eraseListener client service_item)
    else r
  tell_change env r reg client service_item

def listen_service (msg : StListenService) : Int × LocalRegistry :=
  match msg.listener_client with
  | none => (-1, r)
  | some listener_client =>
    if msg.listen_services.length = 0 then (0, r)
    else
      match r.m_clients_by_name.lookup listener_client.client_name with
      | none => (-1, r)
      | some client => (0, msg.listen_services.foldl (listen_one env msg.reg client) r)

/-- The answer of `get_service`. An id without an item is reported as a service
of unknown type that is not available. -/
def serviceResp (service_id : UInt32) : StGetServiceResp :=
  match r.m_services.lookup service_id with
  | none =>
    { service :=
        { service_id := service_id
          service_type := LOCAL_SERVICE_TYPE_UNKNOWN
          service_status := LOCAL_SERVICE_STATUS_UNAVAILABLE }
      provider_client := none }
  | some i =>
    { service := r.serviceItem i, provider_client := (r.item i).service_provider.map r.clientItem }

def get_service (recv_msg_header : StLocalMsgHeader) (req : StGetServiceReq) :
    Int × LocalRegistry :=
  match req.listener_client with
  | none => (-1, r)
  | some listener_client =>
    match r.m_clients_by_name.lookup listener_client.client_name with
    | none => (-1, r)
    | some client =>
      if (r.client client).client_status = .ONLINE then
        (0, (send_msg_to_client env r (r.channelOf client) LOCAL_REGISTRY_SERVICE_ID_METHOD_GET_SERVICE
          recv_msg_header.msg_seqid (recv_msg_header.msg_type + 1)
            (.get_service_resp (r.serviceResp req.service_id))).2)
      else (0, r)

/-- `service_set_status` announces the new status of a method. -/
def tell_status (i : ItemPtr) : LocalRegistry :=
  if (r.item i).service_type = LOCAL_SERVICE_TYPE_METHOD then
    announce env r (env.order.visit (r.item i).service_listeners) fun _ => r.changeMsg i
  else r

/-- The body of the loop of `service_set_status`. -/
def set_status_one (entry : StLocalServiceItem) : LocalRegistry :=
  match r.m_services.lookup entry.service_id with
  | none => r
  | some i =>
    if (r.item i).service_status ≠ entry.service_status then
      tell_status env (r.withTables (r.setStatus i entry.service_status)) i
    else r

def service_set_status (msg : StServiceSetStatus) : Int × LocalRegistry :=
  match msg.provider_client with
  | none => (-1, r)
  | some provider_client =>
    if msg.services.length = 0 then (-1, r)
    else
      match r.m_clients_by_name.lookup provider_client.client_name with
      | none => (-1, r)
      | some _ => (0, msg.services.foldl (set_status_one env) r)

section Frame

variable (client : ClientPtr) (service_item : ItemPtr)

@[simp] theorem tell_provider_toTables : (r.tell_provider env client service_item).toTables = r.toTables := by
  unfold tell_provider
  split <;> simp

@[simp] theorem tell_available_toTables : (r.tell_available env client service_item).toTables = r.toTables := by
  unfold tell_available
  split <;> simp

@[simp] theorem tell_unavailable_toTables : (r.tell_unavailable env service_item).toTables = r.toTables := by
  unfold tell_unavailable
  split <;> simp

@[simp] theorem tell_listener_toTables : (r.tell_listener env client service_item).toTables = r.toTables := by
  unfold tell_listener
  split
  · split <;> simp
  · rfl

@[simp] theorem tell_change_toTables (reg : Bool) :
    (r.tell_change env reg client service_item).toTables = r.toTables := by
  unfold tell_change
  split
  · rfl
  · split <;> simp

@[simp] theorem tell_status_toTables : (r.tell_status env service_item).toTables = r.toTables := by
  unfold tell_status
  split <;> simp

end Frame

end LocalRegistry

end hub.local_registry
