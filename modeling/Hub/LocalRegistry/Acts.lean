import Hub.LocalRegistry.Daemon

namespace hub.local_registry

open Event

/-- The units of work out of which the handlers are built. Every loop body is
one unit, so the handling of an event is a list of them. -/
inductive Act where
  | addChannel (channel : SocketChannel)
  | removeChannel (channel_id : UInt32)
  | bringOnline (client : ClientPtr) (channel : SocketChannel) (client_pid : Int) (client_name : Str)
  | createClient (channel : SocketChannel) (client_pid : Int) (client_name : Str)
  | takeOffline (client : ClientPtr)
  | dropService (i : ItemPtr)
  | register (client : ClientPtr) (entry : StLocalServiceItem)
  | unregister (client : ClientPtr) (entry : StLocalServiceItem)
  | listen (reg : Bool) (client : ClientPtr) (entry : StLocalServiceItem)
  | setStatus (entry : StLocalServiceItem)
  | reply (client_channel : Option SocketChannel) (service_id msg_seqid msg_type : UInt32) (msg : Payload)

namespace Tables

variable (t : Tables)

def registerTables (client : ClientPtr) (entry : StLocalServiceItem) : Tables :=
  (t.offerItem client entry).addProduce client entry.service_id (t.registeredItem entry)

def unregisterTables (client : ClientPtr) (entry : StLocalServiceItem) : Tables :=
  match t.m_services.lookup entry.service_id with
  | none => t
  | some _ =>
    match (t.client client).client_produce_services.lookup entry.service_id with
    | none => t.eraseService entry.service_id
    | some _ => (t.eraseService entry.service_id).eraseProduce client entry.service_id

def listenTables (reg : Bool) (client : ClientPtr) (entry : StLocalServiceItem) : Tables :=
  if reg then (t.ensureItem entry).addListener client (t.registeredItem entry)
  else if ((t.ensureItem entry).item (t.registeredItem entry)).service_type = LOCAL_SERVICE_TYPE_METHOD then
    (t.ensureItem entry).eraseListener client (t.registeredItem entry)
  else t.ensureItem entry

def setStatusTables (entry : StLocalServiceItem) : Tables :=
  match t.m_services.lookup entry.service_id with
  | none => t
  | some i => t.setStatus i entry.service_status

def perform : Act → Tables
  | .addChannel channel => { t with m_server := t.m_server.addChannel channel }
  | .removeChannel channel_id => { t with m_server := t.m_server.removeChannel channel_id }
  | .bringOnline client channel client_pid client_name => t.bringOnline client channel client_pid client_name
  | .createClient channel client_pid client_name => t.createClient channel client_pid client_name
  | .takeOffline client => t.takeOffline client
  | .dropService i => t.resetStatus i
  | .register client entry => t.registerTables client entry
  | .unregister client entry => t.unregisterTables client entry
  | .listen reg client entry => t.listenTables reg client entry
  | .setStatus entry => t.setStatusTables entry
  | .reply .. => t

end Tables

def LocalRegistry.perform (env : Env) (r : LocalRegistry) : Act → LocalRegistry
  | .dropService i => r.drop_service env i
  | .register client entry => r.register_one env client entry
  | .unregister client entry => r.unregister_one env client entry
  | .listen reg client entry => r.listen_one env reg client entry
  | .setStatus entry => r.set_status_one env entry
  | .reply client_channel service_id msg_seqid msg_type msg =>
    (r.send_msg_to_client env client_channel service_id msg_seqid msg_type msg).2
  | act => r.withTables (r.toTables.perform act)

namespace LocalRegistry

variable (env : Env)

theorem register_one_toTables (client : ClientPtr) (r : LocalRegistry) (entry : StLocalServiceItem) :
    (r.register_one env client entry).toTables = r.registerTables client entry := by
  simp [register_one, Tables.registerTables]

theorem unregister_one_toTables (client : ClientPtr) (r : LocalRegistry) (entry : StLocalServiceItem) :
    (r.unregister_one env client entry).toTables = r.unregisterTables client entry := by
  unfold unregister_one Tables.unregisterTables
  cases hservice : r.m_services.lookup entry.service_id with
  | none => rfl
  | some i =>
    have hclient : (r.eraseService entry.service_id).client client = r.client client := rfl
    simp only [withTables_toTables, hclient]
    cases hproduce : (r.client client).client_produce_services.lookup entry.service_id with
    | none => rfl
    | some service_item => cases env.freedEntryReads <;> simp

theorem listen_one_toTables (reg : Bool) (client : ClientPtr) (r : LocalRegistry)
    (entry : StLocalServiceItem) :
    (r.listen_one env reg client entry).toTables = r.listenTables reg client entry := by
  unfold listen_one Tables.listenTables
  cases reg with
  | true => simp
  | false =>
    by_cases htype : ((r.ensureItem entry).item (r.registeredItem entry)).service_type = LOCAL_SERVICE_TYPE_METHOD
    · simp [htype]
    · simp [htype]

theorem set_status_one_toTables (r : LocalRegistry) (entry : StLocalServiceItem) :
    (r.set_status_one env entry).toTables = r.setStatusTables entry := by
  unfold set_status_one Tables.setStatusTables
  cases hservice : r.m_services.lookup entry.service_id with
  | none => rfl
  | some i =>
    by_cases hsame : (r.item i).service_status = entry.service_status
    · have hstay : r.setStatus i entry.service_status = r.toTables := by
        rw [← hsame]
        exact Tables.setItem_item r.toTables i
      simp [hsame, hstay]
    · simp [hsame]

theorem perform_toTables (r : LocalRegistry) (act : Act) :
    (r.perform env act).toTables = r.toTables.perform act := by
  cases act with
  | dropService i => simp [perform, drop_service, Tables.perform]
  | register client entry => exact register_one_toTables env client r entry
  | unregister client entry => exact unregister_one_toTables env client r entry
  | listen reg client entry => exact listen_one_toTables env reg client r entry
  | setStatus entry => exact set_status_one_toTables env r entry
  | reply => simp [perform, Tables.perform]
  | _ => rfl

theorem foldl_perform_toTables (r : LocalRegistry) (acts : List Act) :
    (acts.foldl (perform env) r).toTables = acts.foldl Tables.perform r.toTables := by
  induction acts generalizing r with
  | nil => rfl
  | cons act acts ih => rw [List.foldl_cons, List.foldl_cons, ih, perform_toTables]

end LocalRegistry

/-- The pages of a listing, in the order in which they are sent. -/
def pages {α : Type} (each_count : Nat) (full : α → Bool) (resp : List α → UInt32 → Payload) :
    List α → List α → UInt32 → List Payload
  | page, [], more_flag => (if page.length ≠ 0 then [resp page (more_flag + 1)] else []) ++ [resp [] 0]
  | page, entry :: entries, more_flag =>
    if full entry ∨ each_count ≤ (page ++ [entry]).length then
      resp (page ++ [entry]) (more_flag + 1) :: pages each_count full resp [] entries (more_flag + 1)
    else pages each_count full resp (page ++ [entry]) entries more_flag

/-- The answer to a request, on the channel that the request came from. -/
def Act.answer (channel : SocketChannel) (recv_msg_header : StLocalMsgHeader) (service_id : UInt32)
    (msg : Payload) : Act :=
  .reply (some channel) service_id recv_msg_header.msg_seqid (recv_msg_header.msg_type + 1) msg

/-- The answers that `ctr_get_clients` and `ctr_get_services` send. -/
def Act.listing {α : Type} (channel : SocketChannel) (recv_msg_header : StLocalMsgHeader) (service_id : UInt32)
    (each_count : Nat) (full : α → Bool) (resp : List α → UInt32 → Payload) (entries : List α) : List Act :=
  (pages each_count full resp [] entries 0).map (Act.answer channel recv_msg_header service_id)

private theorem pages_foldl {σ α : Type} (send : σ → Payload → σ) (each_count : Nat) (full : α → Bool)
    (resp : List α → UInt32 → Payload) (entries : List α) (start : σ) (page : List α) (more_flag : UInt32) :
    let state := entries.foldl (fun (state : σ × List α × UInt32) entry =>
      let page := state.2.1 ++ [entry]
      if full entry ∨ each_count ≤ page.length then
        (send state.1 (resp page (state.2.2 + 1)), [], state.2.2 + 1)
      else (state.1, page, state.2.2)) (start, page, more_flag)
    send (if state.2.1.length ≠ 0 then send state.1 (resp state.2.1 (state.2.2 + 1)) else state.1) (resp [] 0) =
      (pages each_count full resp page entries more_flag).foldl send start := by
  induction entries generalizing start page more_flag with
  | nil =>
    by_cases hpage : page.length ≠ 0
    · simp [pages, hpage]
    · have hnil : page = [] := by simpa using hpage
      simp [pages, hnil]
  | cons entry entries ih =>
    by_cases hfull : full entry = true ∨ each_count ≤ (page ++ [entry]).length
    · simp only [pages, List.foldl_cons, if_pos hfull]
      exact ih (send start (resp (page ++ [entry]) (more_flag + 1))) [] (more_flag + 1)
    · simp only [pages, List.foldl_cons, if_neg hfull]
      exact ih start (page ++ [entry]) more_flag

theorem LocalRegistry.send_pages_eq {α : Type} (env : Env) (r : LocalRegistry) (channel : SocketChannel)
    (recv_msg_header : StLocalMsgHeader) (service_id : UInt32) (each_count : Nat) (full : α → Bool)
    (resp : List α → UInt32 → Payload) (entries : List α) :
    r.send_pages env channel recv_msg_header service_id each_count full resp entries =
      (Act.listing channel recv_msg_header service_id each_count full resp entries).foldl (perform env) r := by
  unfold send_pages Act.listing
  rw [List.foldl_map]
  exact pages_foldl (fun r msg => (send_msg_to_client env r (some channel) service_id recv_msg_header.msg_seqid
    (recv_msg_header.msg_type + 1) msg).2) each_count full resp entries r [] 0

namespace Event

/-- What `onConnection` does with a connection that has just entered the
channel table. -/
def connectActs (r : LocalRegistry) (channel : SocketChannel) : List Act :=
  if channel.peeraddr.strstr LOCAL_REGISTRY_CTRL_SOCKET_FILE then []
  else
    match parse_localaddr channel.peeraddr with
    | .parsed client_pid client_name =>
      match r.m_clients_by_name.lookup client_name with
      | some client =>
        if (r.channelOf client).isSome then []
        else [.bringOnline client channel client_pid client_name]
      | none => [.createClient channel client_pid client_name]
    | _ => []

/-- What `onConnection` does with a closed connection. -/
def closeActs (env : Env) (r : LocalRegistry) (channel : SocketChannel) : List Act :=
  if channel.peeraddr.strstr LOCAL_REGISTRY_CTRL_SOCKET_FILE then []
  else
    match r.findByChannel env channel.id with
    | none => []
    | some client =>
      .takeOffline client ::
        (env.order.visit (r.client client).client_produce_services).map fun pair => .dropService pair.2

def named (r : LocalRegistry) (client : Option StLocalClientItem) : Option ClientPtr :=
  client.bind fun client => r.m_clients_by_name.lookup client.client_name

def messageActs (env : Env) (r : LocalRegistry) (channel : SocketChannel) : Request → List Act
  | .register_client recv_msg_header req =>
    [.answer channel recv_msg_header LOCAL_REGISTRY_SERVICE_ID_METHOD_REGISTER_CLIENT
      (.register_client_resp (r.registerResp (r.m_clients_by_name.lookup req.client_name)))]
  | .get_client recv_msg_header req =>
    [.answer channel recv_msg_header LOCAL_REGISTRY_SERVICE_ID_METHOD_GET_CLIENT
      (.get_client_resp { responser_client := (r.findById env req.client_id).map r.clientItem })]
  | .register_service msg =>
    match named r msg.provider_client with
    | none => []
    | some client => msg.produce_services.map (if msg.reg then .register client else .unregister client)
  | .listen_service msg =>
    match named r msg.listener_client with
    | none => []
    | some client => msg.listen_services.map (.listen msg.reg client)
  | .get_service recv_msg_header req =>
    match named r req.listener_client with
    | none => []
    | some client =>
      if (r.client client).client_status = .ONLINE then
        [.reply (r.channelOf client) LOCAL_REGISTRY_SERVICE_ID_METHOD_GET_SERVICE recv_msg_header.msg_seqid
          (recv_msg_header.msg_type + 1) (.get_service_resp (r.serviceResp req.service_id))]
      else []
  | .service_set_status msg =>
    match named r msg.provider_client with
    | none => []
    | some _ => msg.services.map .setStatus
  | .ctrl_get_clients recv_msg_header =>
    Act.listing channel recv_msg_header LOCAL_REGISTRY_SERVICE_ID_METHOD_CTRL_GET_CLIENTS 1
      (fun info => LOCAL_REGISTRY_CLIENT_PROVIDE_SERVICES_ONCE_COUNT_MAX ≤ info.produce_services.length)
      (fun clients more_flag => .ctrl_get_clients { clients := clients, more_flag := more_flag })
      ((env.order.visit r.m_clients_by_name).map fun c => r.clientInfo env c.2)
  | .ctrl_get_services recv_msg_header =>
    Act.listing channel recv_msg_header LOCAL_REGISTRY_SERVICE_ID_METHOD_CTRL_GET_SERVICES 1
      (fun info => LOCAL_REGISTRY_CLIENT_ONCE_COUNT_MAX ≤ info.listener_clients.length)
      (fun services more_flag => .ctrl_get_services { services := services, more_flag := more_flag })
      ((env.order.visit r.m_services).map fun s => r.serviceInfo env s.2)

def acts (env : Env) (r : LocalRegistry) : Event → List Act
  | .connect channel =>
    .addChannel channel :: connectActs (r.perform env (.addChannel channel)) channel
  | .close channel_id =>
    match r.m_server.getChannelById channel_id with
    | none => []
    | some channel => closeActs env r channel ++ [.removeChannel channel_id]
  | .message channel request => messageActs env r channel request

end Event

namespace LocalRegistry

variable {r r' : LocalRegistry} {channel : SocketChannel} {env : Env}

theorem onConnected_acts (env : Env) (h : r.onConnected channel = some r') :
    r' = (connectActs r channel).foldl (perform env) r := by
  unfold onConnected at h
  unfold connectActs
  by_cases hctrl : channel.peeraddr.strstr LOCAL_REGISTRY_CTRL_SOCKET_FILE = true
  · rw [if_pos hctrl] at h ⊢
    exact (Option.some.inj h).symm
  · rw [if_neg hctrl] at h ⊢
    unfold add_client at h
    cases hparse : parse_localaddr channel.peeraddr with
    | invalid => simpa [hparse] using h.symm
    | throws => simp [hparse] at h
    | parsed client_pid client_name =>
      simp only [hparse] at h ⊢
      cases hlookup : r.m_clients_by_name.lookup client_name with
      | none =>
        simp only [hlookup, Option.map_some] at h ⊢
        exact (Option.some.inj h).symm
      | some client =>
        simp only [hlookup] at h ⊢
        by_cases hopen : (r.channelOf client).isSome = true
        · rw [if_pos hopen] at h ⊢
          exact (Option.some.inj h).symm
        · rw [if_neg hopen] at h ⊢
          exact (Option.some.inj h).symm

section

variable (r channel env)

theorem onDisconnected_acts :
    r.onDisconnected env channel = (closeActs env r channel).foldl (perform env) r := by
  unfold onDisconnected closeActs
  by_cases hctrl : channel.peeraddr.strstr LOCAL_REGISTRY_CTRL_SOCKET_FILE = true
  · rw [if_pos hctrl, if_pos hctrl]
    rfl
  · rw [if_neg hctrl, if_neg hctrl]
    unfold remove_client
    cases hfind : r.findByChannel env channel.id with
    | none => rfl
    | some client =>
      have hproduce : ((r.withTables (r.takeOffline client)).client client).client_produce_services =
          (r.client client).client_produce_services := by
        simp [Tables.takeOffline, Tables.setClient, Tables.client]
      simp only [List.foldl_cons, List.foldl_map]
      rw [hproduce]
      rfl

theorem register_service_acts (msg : StRegisterService) : (r.register_service env msg).2 =
      (messageActs env r channel (.register_service msg)).foldl (perform env) r := by
  unfold register_service
  simp only [messageActs, named]
  cases hclient : msg.provider_client with
  | none => rfl
  | some provider_client =>
    simp only [Option.bind_some]
    cases hlookup : r.m_clients_by_name.lookup provider_client.client_name with
    | none => split <;> rfl
    | some client =>
      cases hservices : msg.produce_services with
      | nil => rfl
      | cons entry entries =>
        cases hreg : msg.reg with
        | true | false =>
          simp only [List.foldl_map]
          rfl

theorem listen_service_acts (msg : StListenService) : (r.listen_service env msg).2 =
      (messageActs env r channel (.listen_service msg)).foldl (perform env) r := by
  unfold listen_service
  simp only [messageActs, named]
  cases hclient : msg.listener_client with
  | none => rfl
  | some listener_client =>
    simp only [Option.bind_some]
    cases hlookup : r.m_clients_by_name.lookup listener_client.client_name with
    | none => split <;> rfl
    | some client =>
      cases hservices : msg.listen_services with
      | nil => rfl
      | cons entry entries =>
        simp only [List.foldl_map]
        rfl

theorem service_set_status_acts (msg : StServiceSetStatus) : (r.service_set_status env msg).2 =
      (messageActs env r channel (.service_set_status msg)).foldl (perform env) r := by
  unfold service_set_status
  simp only [messageActs, named]
  cases hclient : msg.provider_client with
  | none => rfl
  | some provider_client =>
    simp only [Option.bind_some]
    cases hlookup : r.m_clients_by_name.lookup provider_client.client_name with
    | none => split <;> rfl
    | some client =>
      cases hservices : msg.services with
      | nil => rfl
      | cons entry entries =>
        simp only [List.foldl_map]
        rfl

theorem get_service_acts (recv_msg_header : StLocalMsgHeader) (req : StGetServiceReq) :
    (r.get_service env recv_msg_header req).2 =
      (messageActs env r channel (.get_service recv_msg_header req)).foldl (perform env) r := by
  unfold get_service
  simp only [messageActs, named]
  cases hclient : req.listener_client with
  | none => rfl
  | some listener_client =>
    simp only [Option.bind_some]
    cases hlookup : r.m_clients_by_name.lookup listener_client.client_name with
    | none => rfl
    | some client =>
      simp only
      split <;> rfl

end

theorem onMessage_acts {request : Request} (h : r.onMessage env channel request = some r') :
    r' = (messageActs env r channel request).foldl (perform env) r := by
  cases request with
  | register_client recv_msg_header req =>
    simp only [onMessage, register_client, Option.map_eq_some_iff, Option.ite_none_left_eq_some,
      Option.some.injEq] at h
    obtain ⟨_, ⟨_, rfl⟩, rfl⟩ := h
    rfl
  | get_client recv_msg_header req => exact (Option.some.inj h).symm
  | register_service msg => exact (Option.some.inj h).symm.trans (register_service_acts r channel env msg)
  | listen_service msg => exact (Option.some.inj h).symm.trans (listen_service_acts r channel env msg)
  | get_service recv_msg_header req =>
    exact (Option.some.inj h).symm.trans (get_service_acts r channel env recv_msg_header req)
  | service_set_status msg => exact (Option.some.inj h).symm.trans (service_set_status_acts r channel env msg)
  | ctrl_get_clients recv_msg_header =>
    simp only [onMessage, ctr_get_clients] at h
    rw [← Option.some.inj h, send_pages_eq]
    rfl
  | ctrl_get_services recv_msg_header =>
    simp only [onMessage, ctr_get_services] at h
    rw [← Option.some.inj h, send_pages_eq]
    rfl

variable {event : Event}

/-- Everything a step can do: it performs the units of work of its event. -/
theorem step_acts (h : r.step (env, event) = some r') :
    r' = (event.acts env r).foldl (perform env) r := by
  cases event with
  | connect channel => exact onConnected_acts env h
  | close channel_id =>
    simp only [step] at h
    simp only [acts]
    cases hchannel : r.m_server.getChannelById channel_id with
    | none =>
      simp only [hchannel] at h
      exact (Option.some.inj h).symm
    | some channel =>
      simp only [hchannel] at h
      rw [List.foldl_append, ← onDisconnected_acts]
      exact (Option.some.inj h).symm
  | message channel request => exact onMessage_acts h

theorem step_tables (h : r.step (env, event) = some r') :
    r'.toTables = (event.acts env r).foldl Tables.perform r.toTables := by
  rw [step_acts h, foldl_perform_toTables]

end LocalRegistry

end hub.local_registry
