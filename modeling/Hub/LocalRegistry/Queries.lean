import Hub.LocalRegistry.Peer
import Hub.LocalRegistry.Steps

namespace hub.local_registry

namespace Tables

/-- The service is listed as an available method of the client with that id. -/
def ListsMethod (t : Tables) (s client_id : UInt32) : Prop :=
  ∃ item c, t.service s = some item ∧ item.service_type = LOCAL_SERVICE_TYPE_METHOD ∧
    item.service_status = LOCAL_SERVICE_STATUS_AVAILABLE ∧ item.service_provider = some c ∧
    (t.client c).client_id = client_id

theorem WellFormed.findById {t : Tables} (hwf : t.WellFormed) (env : Env) {c : ClientPtr} (hlive : t.clients.Live c) :
    ∃ found, t.findById env (t.client c).client_id = some found ∧
      (t.client found).client_id = (t.client c).client_id := by
  have hvisit := env.order.mem_visit.mpr (hwf.live_named hlive)
  cases hfind : (env.order.visit t.m_clients_by_name).find? fun pair =>
      (t.client pair.2).client_id == (t.client c).client_id with
  | none => exact absurd (beq_self_eq_true _) (List.find?_eq_none.mp hfind _ hvisit)
  | some pair =>
    refine ⟨pair.2, by rw [Tables.findById, hfind, Option.map_some], ?_⟩
    simpa using List.find?_some hfind

end Tables

/-- The answer names the service as an available method of the client with that id. -/
structure StGetServiceResp.Names (resp : StGetServiceResp) (s client_id : UInt32) : Prop where
  service : resp.service = ⟨s, LOCAL_SERVICE_TYPE_METHOD, LOCAL_SERVICE_STATUS_AVAILABLE⟩
  provider : ∃ provider_client, resp.provider_client = some provider_client ∧ provider_client.client_id = client_id

namespace LocalRegistry

variable {r : LocalRegistry} {s client_id channel_id : UInt32}

theorem serviceResp_names (hwf : r.WellFormed) (h : r.ListsMethod s client_id) :
    (r.serviceResp s).Names s client_id := by
  obtain ⟨item, c, hservice, htype, hstatus, hprovider, hid⟩ := h
  obtain ⟨i, hlookup, rfl⟩ := Option.map_eq_some_iff.mp hservice
  have hkey := hwf.services_keyed hlookup
  constructor
  · simp only [serviceResp, hlookup, Tables.serviceItem, hkey, htype, hstatus]
  · refine ⟨r.clientItem c, ?_, hid⟩
    simp only [serviceResp, hlookup, hprovider, Option.map_some]

theorem step_get_service {env : Env} (henv : env.transport.Reliable) {client : StLocalClientItem} {c : ClientPtr}
    (hlookup : r.m_clients_by_name.lookup client.client_name = some c) (hreach : r.Reaches c channel_id)
    (channel : SocketChannel) (header : StLocalMsgHeader) :
    ∃ frame : Sent, frame.channel_id = channel_id ∧ frame.header.msg_seqid = header.msg_seqid ∧
      frame.payload = .get_service_resp (r.serviceResp s) ∧
      r.step (env, .message channel (.get_service header { service_id := s, listener_client := some client })) =
        some { r with sent := r.sent ++ [frame] } := by
  obtain ⟨honline, own, hchannel, rfl⟩ := hreach
  obtain ⟨msg_len, hsend⟩ := send_msg_to_client_reliable henv r own LOCAL_REGISTRY_SERVICE_ID_METHOD_GET_SERVICE
    header.msg_seqid (header.msg_type + 1) (.get_service_resp (r.serviceResp s))
  refine ⟨_, ?_, ?_, ?_, Eq.trans ?_ (congrArg some hsend)⟩
  · rfl
  · rfl
  · rfl
  · simp only [step, onMessage, get_service, hlookup, honline, if_true, hchannel]

theorem step_get_client {env : Env} (henv : env.transport.Reliable) (channel : SocketChannel)
    (header : StLocalMsgHeader) (req : StGetClientReq) :
    ∃ frame : Sent, frame.channel_id = channel.id ∧ frame.header.msg_seqid = header.msg_seqid ∧
      frame.payload = .get_client_resp { responser_client := (r.findById env req.client_id).map r.clientItem } ∧
      r.step (env, .message channel (.get_client header req)) = some { r with sent := r.sent ++ [frame] } := by
  obtain ⟨msg_len, hsend⟩ := send_msg_to_client_reliable henv r channel LOCAL_REGISTRY_SERVICE_ID_METHOD_GET_CLIENT
    header.msg_seqid (header.msg_type + 1)
    (.get_client_resp { responser_client := (r.findById env req.client_id).map r.clientItem })
  refine ⟨_, ?_, ?_, ?_, Eq.trans ?_ (congrArg some hsend)⟩
  · rfl
  · rfl
  · rfl
  · rfl

/-- `register_client` ends and sends one response, over the channel that the request came
from, which carries an id only for a record with the name and the pid of the request. -/
def AnswersHonestly (env : Env) (r : LocalRegistry) (recv_msg_header : StLocalMsgHeader) (req : StRegisterClientReq)
    (client_channel : SocketChannel) : Prop :=
  ∃ r' frame resp, r.register_client env recv_msg_header req client_channel = some (0, r') ∧
    r'.sent = r.sent ++ [frame] ∧ frame.channel_id = client_channel.id ∧
    frame.header.msg_seqid = recv_msg_header.msg_seqid ∧ frame.payload = .register_client_resp resp ∧
    (resp.client_id ≠ 0 → ∃ c, r.m_clients_by_name.lookup req.client_name = some c ∧
      (r.client c).client_pid = req.client_pid)

theorem register_client_sends {env : Env} (henv : env.transport.Reliable) (recv_msg_header : StLocalMsgHeader)
    (req : StRegisterClientReq) (client_channel : SocketChannel)
    (hends : r.m_clients_by_name.lookup req.client_name = none → env.ndebug = true) :
    ∃ frame : Sent, frame.channel_id = client_channel.id ∧ frame.header.msg_seqid = recv_msg_header.msg_seqid ∧
      frame.payload = .register_client_resp (r.registerResp (r.m_clients_by_name.lookup req.client_name)) ∧
      r.register_client env recv_msg_header req client_channel = some (0, { r with sent := r.sent ++ [frame] }) := by
  obtain ⟨msg_len, hsend⟩ := send_msg_to_client_reliable henv r client_channel
    LOCAL_REGISTRY_SERVICE_ID_METHOD_REGISTER_CLIENT recv_msg_header.msg_seqid (recv_msg_header.msg_type + 1)
    (.register_client_resp (r.registerResp (r.m_clients_by_name.lookup req.client_name)))
  refine ⟨_, ?_, ?_, ?_, Eq.trans ?_ (congrArg (fun r' => some (0, r')) hsend)⟩
  · rfl
  · rfl
  · rfl
  · have hlog : ¬(r.m_clients_by_name.lookup req.client_name = none ∧ env.ndebug = false) := by
      rintro ⟨hnone, hdebug⟩
      rw [hends hnone] at hdebug
      cases hdebug
    simp only [register_client]
    rw [if_neg hlog]

/-- Registration is answered honestly exactly where the name has a record with the pid of
the request, or one whose id is zero, or where the name has none and the log lines
are compiled out. -/
theorem register_client_honest_iff {env : Env} (henv : env.transport.Reliable) (r : LocalRegistry)
    (recv_msg_header : StLocalMsgHeader) (req : StRegisterClientReq) (client_channel : SocketChannel) :
    r.AnswersHonestly env recv_msg_header req client_channel ↔
      (∃ c, r.m_clients_by_name.lookup req.client_name = some c ∧
        ((r.client c).client_pid = req.client_pid ∨ (r.client c).client_id = 0)) ∨
      (r.m_clients_by_name.lookup req.client_name = none ∧ env.ndebug = true) := by
  by_cases hends : r.m_clients_by_name.lookup req.client_name = none → env.ndebug = true
  · obtain ⟨frame, hchannel, hseqid, hpayload, hanswer⟩ :=
      register_client_sends henv recv_msg_header req client_channel hends
    -- the answer is the one of `registerResp`, so only its id is left to compare
    have hhonest : r.AnswersHonestly env recv_msg_header req client_channel ↔
        ((r.registerResp (r.m_clients_by_name.lookup req.client_name)).client_id ≠ 0 →
          ∃ c, r.m_clients_by_name.lookup req.client_name = some c ∧ (r.client c).client_pid = req.client_pid) := by
      constructor
      · rintro ⟨r', other, resp, hanswer', hsent, -, -, hresp, hid⟩
        cases hanswer.symm.trans hanswer'
        cases List.append_cancel_left hsent
        cases hpayload.symm.trans hresp
        exact hid
      · intro hid
        exact ⟨_, frame, _, hanswer, rfl, hchannel, hseqid, hpayload, hid⟩
    rw [hhonest]
    cases hlookup : r.m_clients_by_name.lookup req.client_name with
    | none => simp [registerResp, hends hlookup]
    | some c =>
      simp only [registerResp, Option.some.injEq, exists_eq_left', reduceCtorEq, false_and, or_false]
      rw [Classical.or_iff_not_imp_right]
  · rw [Classical.not_imp, Bool.not_eq_true] at hends
    constructor
    · rintro ⟨r', frame, resp, hanswer, -⟩
      simp [register_client, hends.1, hends.2] at hanswer
    · rintro (⟨c, hlookup, -⟩ | ⟨-, hdebug⟩)
      · cases hends.1.symm.trans hlookup
      · cases hends.2.symm.trans hdebug

def registerHeader : StLocalMsgHeader := ⟨0, 5, 0, LOCAL_REGISTRY_SERVICE_ID_METHOD_REGISTER_CLIENT, 1⟩

/-- A process that registers after its connection, with its own name and pid. -/
theorem registered_honestly :
    ∃ r, daemonRun [Peer.connects ⟨1, 10, ['a']⟩] = some r ∧
      r.AnswersHonestly .plain registerHeader ⟨10, ['a']⟩ (Peer.channel ⟨1, 10, ['a']⟩) :=
  ⟨_, rfl, (register_client_honest_iff Env.plain_reliable _ registerHeader ⟨10, ['a']⟩ _).mpr
    (.inl ⟨⟨0⟩, rfl, .inl rfl⟩)⟩

/-- A request under a name without a record reads through a null client, and a process
with another pid than the one on record is given the id of that record. -/
theorem registered_dishonestly :
    LocalRegistry.init.register_client .plain registerHeader ⟨10, ['a']⟩ (Peer.channel ⟨1, 10, ['a']⟩) = none ∧
    ∃ r r' frame, daemonRun [Peer.connects ⟨1, 10, ['a']⟩] = some r ∧
      r.register_client .plain registerHeader ⟨11, ['a']⟩ (Peer.channel ⟨2, 11, ['a']⟩) = some (0, r') ∧
      r'.sent = r.sent ++ [frame] ∧ frame.payload = .register_client_resp ⟨10, 1⟩ :=
  ⟨rfl, _, _, _, rfl, rfl, rfl, rfl⟩

end LocalRegistry

end hub.local_registry
