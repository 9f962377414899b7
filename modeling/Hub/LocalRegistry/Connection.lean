import Hub.LocalRegistry.ClientTable

namespace hub.local_registry

namespace LocalRegistry

def accept (r : LocalRegistry) (channel : SocketChannel) : LocalRegistry :=
  r.withTables { r.toTables with m_server := r.m_server.addChannel channel }

section Connect

variable {r r' : LocalRegistry} {env : Env} {channel : SocketChannel}

/-- The three ends of `onConnection` for a new connection: it is ignored, or it
takes over the record of its name, or it gets a new record. -/
theorem connect_cases (hstep : r.step (env, .connect channel) = some r') :
    (r' = r.accept channel ∧ (channel.peeraddr.strstr LOCAL_REGISTRY_CTRL_SOCKET_FILE = true ∨
      parse_localaddr channel.peeraddr = .invalid ∨
      ∃ client_pid client_name c, parse_localaddr channel.peeraddr = .parsed client_pid client_name ∧
        r.m_clients_by_name.lookup client_name = some c ∧ ((r.accept channel).channelOf c).isSome)) ∨
    (channel.peeraddr.strstr LOCAL_REGISTRY_CTRL_SOCKET_FILE = false ∧
      ∃ client_pid client_name, parse_localaddr channel.peeraddr = .parsed client_pid client_name ∧
        ((∃ c, r.m_clients_by_name.lookup client_name = some c ∧ (r.accept channel).channelOf c = none ∧
          r' = (r.accept channel).withTables ((r.accept channel).bringOnline c channel client_pid client_name)) ∨
        (r.m_clients_by_name.lookup client_name = none ∧
          r' = (r.accept channel).withTables ((r.accept channel).createClient channel client_pid client_name)))) := by
  have hconnected : onConnected (r.accept channel) channel = some r' := hstep
  have hnames : (r.accept channel).m_clients_by_name = r.m_clients_by_name := rfl
  unfold onConnected at hconnected
  cases hctrl : channel.peeraddr.strstr LOCAL_REGISTRY_CTRL_SOCKET_FILE with
  | true =>
    rw [hctrl, if_pos rfl] at hconnected
    exact .inl ⟨(Option.some.inj hconnected).symm, .inl rfl⟩
  | false =>
    rw [hctrl, if_neg Bool.false_ne_true] at hconnected
    unfold add_client at hconnected
    cases hparse : parse_localaddr channel.peeraddr with
    | invalid =>
      simp only [hparse, Option.map_some, Option.some.injEq] at hconnected
      exact .inl ⟨hconnected.symm, .inr (.inl rfl)⟩
    | throws => simp [hparse] at hconnected
    | parsed client_pid client_name =>
      cases hlookup : r.m_clients_by_name.lookup client_name with
      | none =>
        simp only [hparse, hnames, hlookup, Option.map_some, Option.some.injEq] at hconnected
        exact .inr ⟨rfl, client_pid, client_name, rfl, .inr ⟨hlookup, hconnected.symm⟩⟩
      | some c =>
        simp only [hparse, hnames, hlookup] at hconnected
        cases hopen : (r.accept channel).channelOf c with
        | some other =>
          simp only [hopen, Option.isSome_some, if_true, Option.map_some, Option.some.injEq] at hconnected
          exact .inl ⟨hconnected.symm, .inr (.inr ⟨client_pid, client_name, c, rfl, hlookup, by rw [hopen]; rfl⟩)⟩
        | none =>
          simp only [hopen, Option.isSome_none, Bool.false_eq_true, if_false, Option.map_some, Option.some.injEq]
            at hconnected
          exact .inr ⟨rfl, client_pid, client_name, rfl, .inl ⟨c, hlookup, hopen, hconnected.symm⟩⟩

theorem step_connect_new {client_pid : Int} {client_name : Str}
    (hctrl : channel.peeraddr.strstr LOCAL_REGISTRY_CTRL_SOCKET_FILE = false)
    (hparse : parse_localaddr channel.peeraddr = .parsed client_pid client_name)
    (hnew : r.m_clients_by_name.lookup client_name = none) :
    r.step (env, .connect channel) =
      some ((r.accept channel).withTables ((r.accept channel).createClient channel client_pid client_name)) := by
  have hadd : (r.accept channel).add_client channel =
      some (0, (r.accept channel).withTables ((r.accept channel).createClient channel client_pid client_name)) := by
    have hlookup : (r.accept channel).m_clients_by_name.lookup client_name = none := hnew
    simp only [add_client, hparse, hlookup]
  change onConnected (r.accept channel) channel = _
  rw [onConnected, hctrl, if_neg Bool.false_ne_true, hadd]
  rfl

theorem getChannelById_accept (r : LocalRegistry) (channel : SocketChannel) (id : UInt32) :
    (r.accept channel).m_server.getChannelById id =
      if id = channel.id then some channel else r.m_server.getChannelById id := by
  change AList.lookup id (AList.insert channel.id channel r.m_server.channels) = _
  split
  · rename_i hid
    rw [hid, AList.lookup_insert]
  · rename_i hid
    exact AList.lookup_insert_ne hid

section

variable (hstep : r.step (env, .connect channel) = some r')

include hstep

theorem connect_sent : r'.sent = r.sent := by
  rcases connect_cases hstep with ⟨rfl, _⟩ | ⟨_, _, _, _, ⟨_, _, _, rfl⟩ | ⟨_, rfl⟩⟩ <;> rfl

theorem connect_channels (other : UInt32) :
    r'.m_server.getChannelById other = if other = channel.id then some channel
      else r.m_server.getChannelById other := by
  rw [← getChannelById_accept]
  rcases connect_cases hstep with ⟨rfl, _⟩ | ⟨_, _, _, _, ⟨_, _, _, rfl⟩ | ⟨_, rfl⟩⟩ <;> rfl

theorem connect_records {c : ClientPtr} (hlive : r'.clients.Live c) :
    (r.clients.Live c ∧ r'.client c = r.client c) ∨
    (channel.peeraddr.strstr LOCAL_REGISTRY_CTRL_SOCKET_FILE = false ∧
      parse_localaddr channel.peeraddr = .parsed (r'.client c).client_pid (r'.client c).client_name ∧
      (r'.client c).client_channel_id = channel.id) := by
  rcases connect_cases hstep with
    ⟨rfl, _⟩ | ⟨hctrl, client_pid, client_name, hparse, ⟨client, _, _, rfl⟩ | ⟨_, rfl⟩⟩
  · exact .inl ⟨hlive, rfl⟩
  · have hclient : ((r.accept channel).bringOnline client channel client_pid client_name).client c = _ :=
      (r.accept channel).client_setClient client c _
    by_cases hc : c = client
    · rw [if_pos hc] at hclient
      refine .inr ⟨hctrl, ?_⟩
      rw [withTables_toTables, hclient]
      exact ⟨hparse, rfl⟩
    · rw [if_neg hc] at hclient
      exact .inl ⟨hlive, hclient⟩
  · by_cases hc : c = r.clients.fresh
    · subst hc
      refine .inr ⟨hctrl, ?_⟩
      have hclient : ((r.accept channel).createClient channel client_pid client_name).client r.clients.fresh = _ :=
        Heap.get_alloc_fresh r.clients _
      rw [withTables_toTables, hclient]
      exact ⟨hparse, rfl⟩
    · exact .inl ⟨hlive.of_alloc hc, Heap.get_alloc_ne _ _ hc⟩

theorem connect_kept {c : ClientPtr} (hlive : r.clients.Live c) (hopen : ((r.accept channel).channelOf c).isSome) :
    r'.clients.Live c ∧ r'.client c = r.client c := by
  rcases connect_cases hstep with ⟨rfl, _⟩ | ⟨_, _, _, _, ⟨client, _, hclosed, rfl⟩ | ⟨_, rfl⟩⟩
  · exact ⟨hlive, rfl⟩
  · have hc : c ≠ client := by
      rintro rfl
      rw [hclosed] at hopen
      cases hopen
    exact ⟨hlive, ((r.accept channel).client_setClient client c _).trans (if_neg hc)⟩
  · exact ⟨hlive.alloc _, Heap.get_alloc_ne _ _ (Heap.ne_fresh hlive)⟩

end

theorem connect_taken {client_pid : Int} {client_name : Str}
    (hparse : parse_localaddr channel.peeraddr = .parsed client_pid client_name)
    (hctrl : channel.peeraddr.strstr LOCAL_REGISTRY_CTRL_SOCKET_FILE = false)
    (hstep : r.step (env, .connect channel) = some r')
    (hfree : ∀ c, r.m_clients_by_name.lookup client_name = some c → (r.accept channel).channelOf c = none) :
    ∃ c, r'.m_clients_by_name.lookup client_name = some c ∧ (r'.client c).client_channel_id = channel.id := by
  rcases connect_cases hstep with
    ⟨_, hctrl' | hinvalid | ⟨_, _, c, hparse', hlookup, hopen⟩⟩ | ⟨_, pid, name, hparse', hrecord⟩
  · exact Bool.noConfusion (hctrl.symm.trans hctrl')
  · cases hparse.symm.trans hinvalid
  · cases hparse.symm.trans hparse'
    rw [hfree c hlookup] at hopen
    cases hopen
  · cases hparse.symm.trans hparse'
    rcases hrecord with ⟨client, hlookup, _, rfl⟩ | ⟨hnew, rfl⟩
    · refine ⟨client, hlookup, ?_⟩
      have hclient : ((r.accept channel).bringOnline client channel client_pid client_name).client client = _ :=
        (r.accept channel).client_setClient_self client _
      rw [withTables_toTables, hclient]
    · refine ⟨r.clients.fresh, ?_, ?_⟩
      · have hlookup : (r.m_clients_by_name.insertNew client_name r.clients.fresh).lookup client_name = _ :=
          UnorderedMap.lookup_insertNew_self ..
        rw [hnew] at hlookup
        exact hlookup
      · have hclient : ((r.accept channel).createClient channel client_pid client_name).client r.clients.fresh = _ :=
          Heap.get_alloc_fresh r.clients _
        rw [withTables_toTables, hclient]

end Connect

section Close

variable {r r' : LocalRegistry} {env : Env} {id : UInt32}

section

variable (hstep : r.step (env, .close id) = some r')

include hstep

theorem close_identity :
    r'.m_clients_by_name = r.m_clients_by_name ∧ r'.clients.next = r.clients.next ∧
      ∀ c, (r'.client c).client_id = (r.client c).client_id ∧ (r'.client c).client_pid = (r.client c).client_pid ∧
        (r'.client c).client_channel_id = (r.client c).client_channel_id ∧
        (r'.client c).client_name = (r.client c).client_name := by
  rw [step_tables hstep]
  refine foldl_invariant (fun t : Tables => t.m_clients_by_name = r.m_clients_by_name ∧
    t.clients.next = r.clients.next ∧
    ∀ c, (t.client c).client_id = (r.client c).client_id ∧ (t.client c).client_pid = (r.client c).client_pid ∧
      (t.client c).client_channel_id = (r.client c).client_channel_id ∧
      (t.client c).client_name = (r.client c).client_name)
    ?_ ⟨rfl, rfl, fun _ => ⟨rfl, rfl, rfl, rfl⟩⟩
  rintro t act hmem ⟨hnames, hnext, hrecords⟩
  cases Event.eventAct_of_mem hmem with
  | @takeOffline _ channel client _ hfind =>
    refine ⟨hnames, hnext, fun c => ?_⟩
    have hclient : (t.perform (.takeOffline client)).client c =
        if c = client then { t.client client with client_status := .OFFLINE } else t.client c :=
      t.client_setClient client c _
    rw [hclient]
    split
    · rename_i hc
      rw [hc]
      exact hrecords client
    · exact hrecords c
  | dropService | removeChannel => exact ⟨hnames, hnext, hrecords⟩

theorem close_channels (other : UInt32) :
    r'.m_server.getChannelById other = if other = id then none else r.m_server.getChannelById other := by
  have hremoved : (r.m_server.removeChannel id).getChannelById other =
      if other = id then none else r.m_server.getChannelById other := by
    change (r.m_server.channels.erase id).lookup other = _
    split
    · rename_i hid
      rw [hid]
      exact AList.lookup_erase id r.m_server.channels
    · rename_i hid
      exact AList.lookup_erase_ne hid
  have htables := step_tables hstep
  rcases close_cases r env id with ⟨channel, A, hopen, hclient, hfind⟩ | ⟨_, _, _, hacts⟩ | ⟨hclosed, hacts⟩
  · rw [(close_server hopen hclient hfind hstep).2]
    exact hremoved
  · rw [htables, hacts]
    exact hremoved
  · rw [htables, hacts]
    split
    · rename_i hid
      rw [hid]
      exact hclosed
    · rfl

theorem close_answers : ∃ frames, r'.sent = r.sent ++ frames ∧ ∀ frame ∈ frames, ¬ frame.payload.IsAnswer := by
  obtain ⟨frames, hsent, honly, _⟩ := foldl_perform_sent env r (fun _ => True)
    (fun _ act (_ : act ∈ Event.acts env r (.close id)) _ => trivial) trivial
  refine ⟨frames, by rw [step_acts hstep, hsent], fun frame hframe hanswer => ?_⟩
  obtain ⟨t, act, hmem, _, hsends⟩ := honly frame hframe
  cases Event.eventAct_of_mem hmem with
  | dropService =>
    obtain ⟨_, _, _, _, hpayload⟩ := Act.sends_dropService_iff.mp hsends
    rw [hpayload] at hanswer
    exact hanswer
  | takeOffline | removeChannel => cases hsends

end

end Close

section Register

variable {r r' : LocalRegistry} {env : Env} {channel : SocketChannel} {recv_msg_header : StLocalMsgHeader}
  {req : StRegisterClientReq}

theorem register_client_step
    (hstep : r.step (env, .message channel (.register_client recv_msg_header req)) = some r') :
    r'.toTables = r.toTables ∧ ∃ frames, r'.sent = r.sent ++ frames ∧ ∀ frame ∈ frames, frame.channel_id = channel.id ∧
      frame.payload = .register_client_resp (r.registerResp (r.m_clients_by_name.lookup req.client_name)) := by
  have hsend : r' = (r.send_msg_to_client env (some channel) LOCAL_REGISTRY_SERVICE_ID_METHOD_REGISTER_CLIENT
      recv_msg_header.msg_seqid (recv_msg_header.msg_type + 1)
      (.register_client_resp (r.registerResp (r.m_clients_by_name.lookup req.client_name)))).2 := step_acts hstep
  obtain ⟨frames, hsent, honly, _⟩ := send_msg_to_client_writes env r (some channel)
    LOCAL_REGISTRY_SERVICE_ID_METHOD_REGISTER_CLIENT recv_msg_header.msg_seqid (recv_msg_header.msg_type + 1)
    (.register_client_resp (r.registerResp (r.m_clients_by_name.lookup req.client_name)))
  refine ⟨by rw [hsend, send_msg_to_client_toTables], frames, by rw [hsend, hsent], fun frame hframe => ?_⟩
  obtain ⟨hpayload, other, hother, hid⟩ := honly frame hframe
  cases hother
  exact ⟨hid.symm, hpayload⟩

end Register

end LocalRegistry

end hub.local_registry
