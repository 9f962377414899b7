import Hub.Lib.Run
import Hub.LocalRegistry.Types

namespace hub.local_registry

/-- What the message encoder and the socket answer. Both are libraries outside
the repository; a negative `write` means that nothing was written. -/
structure Transport where
  pb_get_encoded_size : Payload → Option Nat
  pb_encode : Payload → Bool
  write : UInt32 → StLocalMsgHeader → Payload → Int

/-- Encoding and writing to live channels always succeed. -/
structure Transport.Reliable (transport : Transport) : Prop where
  sized : ∀ msg, (transport.pb_get_encoded_size msg).isSome
  encoded : ∀ msg, transport.pb_encode msg = true
  written : ∀ id header msg, 0 ≤ transport.write id header msg

/-- A transport on which every message has one byte and every write succeeds. -/
def Transport.perfect : Transport where
  pb_get_encoded_size _ := some 1
  pb_encode _ := true
  write _ _ _ := 0

theorem Transport.perfect_reliable : Transport.perfect.Reliable where
  sized _ := rfl
  encoded _ := rfl
  written _ _ _ := Int.le_refl 0

/-- What the handling of one event takes from outside: the order of loops over unordered
maps, the answers of encoder and socket, whether `NDEBUG` compiles the log lines out, and
whether a freed entry still reads as what it was. -/
structure Env where
  order : IterationOrder
  transport : Transport
  ndebug : Bool
  freedEntryReads : Bool

def Env.plain : Env where
  order := .stored
  transport := .perfect
  ndebug := false
  freedEntryReads := false

@[simp] theorem Env.plain_reliable : Env.plain.transport.Reliable := Transport.perfect_reliable

namespace LocalRegistry

variable (env : Env) (r : LocalRegistry)

def send_msg_to_client (client_channel : Option SocketChannel)
    (service_id msg_seqid msg_type : UInt32) (msg : Payload) : Int × LocalRegistry :=
  match client_channel with
  | none => (-1, r)
  | some channel =>
    match env.transport.pb_get_encoded_size msg with
    | none => (-1, r)
    | some encoded_size =>
      if 0 < encoded_size ∧ env.transport.pb_encode msg = false then (-1, r)
      else
        let header : StLocalMsgHeader :=
          { client_id := MODULE_ID_AUTOLIB_LOCAL_REGISTRY
            msg_seqid := msg_seqid
            msg_type := msg_type
            service_id := service_id
            msg_len := encoded_size.toUInt32 }
        let ret := env.transport.write channel.id header msg
        if ret < 0 then (ret, r)
        else (0, { r with sent := r.sent ++ [{ channel_id := channel.id, header := header, payload := msg }] })

/-- The send of an event to a client's channel, which draws the next
`m_msg_seqid` whether or not the channel is there. -/
def notify (client : ClientPtr) (service_id : UInt32) (msg : Payload) :
    LocalRegistry :=
  (send_msg_to_client env { r with m_msg_seqid := r.m_msg_seqid + 1 } (r.channelOf client) service_id
    r.m_msg_seqid LOCAL_MSG_TYPE_EVENT_NOTIFY msg).2

/-- A loop that sends `SERVICE_CHANGE_STATUS` to the listeners of a service
that are online. -/
def announce (service_listeners : List (Σ _ : UInt32, ClientPtr))
    (change_msg : ClientPtr → StServiceChangeStatus) : LocalRegistry :=
  service_listeners.foldl (fun r listener =>
    if (r.client listener.2).client_status = .ONLINE then
      notify env r listener.2 LOCAL_REGISTRY_SERVICE_ID_EVENT_SERVICE_CHANGE_STATUS
        (.service_change_status (change_msg listener.2))
    else r) r

@[simp] theorem send_msg_to_client_toTables
    (client_channel : Option SocketChannel) (service_id msg_seqid msg_type : UInt32) (msg : Payload) :
    (send_msg_to_client env r client_channel service_id msg_seqid msg_type msg).2.toTables = r.toTables := by
  unfold send_msg_to_client
  split
  · rfl
  · split
    · rfl
    · split
      · rfl
      · dsimp only
        split <;> rfl

@[simp] theorem notify_toTables (client : ClientPtr) (service_id : UInt32)
    (msg : Payload) : (notify env r client service_id msg).toTables = r.toTables := by
  simp [notify]

@[simp] theorem announce_toTables
    (service_listeners : List (Σ _ : UInt32, ClientPtr)) (change_msg : ClientPtr → StServiceChangeStatus) :
    (announce env r service_listeners change_msg).toTables = r.toTables := by
  unfold announce
  refine foldl_invariant (fun r' : LocalRegistry => r'.toTables = r.toTables) ?_ rfl
  intro r' listener _ hsame
  split
  · simpa using hsame
  · exact hsame

/-- The frames that were written between two states: none outside `S`, and all
of `S` over a reliable transport. -/
def Writes (r r' : LocalRegistry) (S : UInt32 → Payload → Prop) : Prop :=
  ∃ frames, r'.sent = r.sent ++ frames ∧ (∀ frame ∈ frames, S frame.channel_id frame.payload) ∧
    (env.transport.Reliable → ∀ id msg, S id msg → ∃ frame ∈ frames, frame.channel_id = id ∧ frame.payload = msg)

variable {env} {S S' : UInt32 → Payload → Prop} {r} {r' : LocalRegistry}

theorem Writes.none (h : r'.sent = r.sent) (hnone : ∀ id msg, ¬S id msg) : Writes env r r' S :=
  ⟨[], by rw [h, List.append_nil], by simp, fun _ id msg hS => absurd hS (hnone id msg)⟩

theorem Writes.congr (h : Writes env r r' S) (hiff : ∀ id msg, S id msg ↔ S' id msg) : Writes env r r' S' := by
  have hS : S = S' := funext fun id => funext fun msg => propext (hiff id msg)
  exact hS ▸ h

theorem Writes.of_sent {r r₀ r' r₁ : LocalRegistry} {S : UInt32 → Payload → Prop}
    (h : Writes env r r' S) (hbefore : r₀.sent = r.sent) (hafter : r₁.sent = r'.sent) : Writes env r₀ r₁ S := by
  obtain ⟨frames, hsent, honly, hreach⟩ := h
  exact ⟨frames, by rw [hafter, hbefore, hsent], honly, hreach⟩

theorem Writes.trans {r r' r'' : LocalRegistry} (h : Writes env r r' S) (h' : Writes env r' r'' S') :
    Writes env r r'' fun id msg => S id msg ∨ S' id msg := by
  obtain ⟨first, hfirst, honly, hreach⟩ := h
  obtain ⟨second, hsecond, honly', hreach'⟩ := h'
  refine ⟨first ++ second, by rw [hsecond, hfirst, List.append_assoc], ?_, ?_⟩
  · intro frame hframe
    rcases List.mem_append.mp hframe with hmem | hmem
    · exact .inl (honly frame hmem)
    · exact .inr (honly' frame hmem)
  · rintro hreliable id msg (hS | hS)
    · obtain ⟨frame, hmem, hframe⟩ := hreach hreliable id msg hS
      exact ⟨frame, List.mem_append_left _ hmem, hframe⟩
    · obtain ⟨frame, hmem, hframe⟩ := hreach' hreliable id msg hS
      exact ⟨frame, List.mem_append_right _ hmem, hframe⟩

theorem send_msg_to_client_writes (env : Env) (r : LocalRegistry) (client_channel : Option SocketChannel)
    (service_id msg_seqid msg_type : UInt32) (msg : Payload) :
    Writes env r (send_msg_to_client env r client_channel service_id msg_seqid msg_type msg).2
      fun id m => m = msg ∧ ∃ channel, client_channel = some channel ∧ channel.id = id := by
  cases client_channel with
  | none => exact ⟨[], by simp [send_msg_to_client], by simp, by simp⟩
  | some channel =>
    cases hsize : env.transport.pb_get_encoded_size msg with
    | none =>
      refine ⟨[], by simp [send_msg_to_client, hsize], by simp, ?_⟩
      intro hreliable
      have hsized := hreliable.sized msg
      simp [hsize] at hsized
    | some encoded_size =>
      by_cases hencode : 0 < encoded_size ∧ env.transport.pb_encode msg = false
      · refine ⟨[], by simp [send_msg_to_client, hsize, hencode], by simp, ?_⟩
        intro hreliable
        have hencoded := hreliable.encoded msg
        simp [hencode.2] at hencoded
      · let header : StLocalMsgHeader :=
          { client_id := MODULE_ID_AUTOLIB_LOCAL_REGISTRY, msg_seqid := msg_seqid, msg_type := msg_type,
            service_id := service_id, msg_len := encoded_size.toUInt32 }
        by_cases hwrite : env.transport.write channel.id header msg < 0
        · refine ⟨[], ?_, by simp, ?_⟩
          · simp only [send_msg_to_client, hsize]
            rw [if_neg hencode, if_pos hwrite, List.append_nil]
          · intro hreliable
            have hwritten := hreliable.written channel.id header msg
            omega
        · refine ⟨[{ channel_id := channel.id, header := header, payload := msg }], ?_, by simp, ?_⟩
          · simp only [send_msg_to_client, hsize]
            rw [if_neg hencode, if_neg hwrite]
          · rintro _ id m ⟨rfl, other, hother, rfl⟩
            cases hother
            exact ⟨_, List.mem_singleton_self _, rfl, rfl⟩

theorem send_msg_to_client_reliable (henv : env.transport.Reliable) (r : LocalRegistry)
    (channel : SocketChannel) (service_id msg_seqid msg_type : UInt32) (msg : Payload) :
    ∃ msg_len, (send_msg_to_client env r (some channel) service_id msg_seqid msg_type msg).2 =
      { r with sent := r.sent ++
          [{ channel_id := channel.id
             header := ⟨MODULE_ID_AUTOLIB_LOCAL_REGISTRY, msg_seqid, msg_type, service_id, msg_len⟩
             payload := msg }] } := by
  obtain ⟨encoded_size, hsize⟩ := Option.isSome_iff_exists.mp (henv.sized msg)
  refine ⟨encoded_size.toUInt32, ?_⟩
  have hencode : ¬(0 < encoded_size ∧ env.transport.pb_encode msg = false) := by
    rintro ⟨-, hfail⟩
    rw [henv.encoded msg] at hfail
    cases hfail
  simp only [send_msg_to_client, hsize]
  rw [if_neg hencode, if_neg (Int.not_lt.mpr (henv.written ..))]

theorem notify_reliable (henv : env.transport.Reliable) {r : LocalRegistry} {client : ClientPtr}
    {channel : SocketChannel} (hchannel : r.channelOf client = some channel) (service_id : UInt32) (msg : Payload) :
    ∃ frame : Sent, (notify env r client service_id msg).sent = r.sent ++ [frame] ∧ frame.channel_id = channel.id ∧
      frame.payload = msg := by
  obtain ⟨msg_len, hsend⟩ := send_msg_to_client_reliable henv { r with m_msg_seqid := r.m_msg_seqid + 1 } channel
    service_id r.m_msg_seqid LOCAL_MSG_TYPE_EVENT_NOTIFY msg
  rw [notify, hchannel, hsend]
  exact ⟨_, rfl, rfl, rfl⟩

theorem notify_writes (env : Env) (r : LocalRegistry) (client : ClientPtr) (service_id : UInt32) (msg : Payload) :
    Writes env r
      (if (r.client client).client_status = .ONLINE then notify env r client service_id msg else r)
      fun id m => r.Reaches client id ∧ m = msg := by
  by_cases honline : (r.client client).client_status = .ONLINE
  · rw [if_pos honline]
    have hsend := send_msg_to_client_writes env { r with m_msg_seqid := r.m_msg_seqid + 1 } (r.channelOf client)
      service_id r.m_msg_seqid LOCAL_MSG_TYPE_EVENT_NOTIFY msg
    have hnotify : Writes env r (notify env r client service_id msg) _ := hsend.of_sent rfl rfl
    apply hnotify.congr
    intro id m
    constructor
    · rintro ⟨hmsg, hchannel⟩
      exact ⟨⟨honline, hchannel⟩, hmsg⟩
    · rintro ⟨⟨_, hchannel⟩, hmsg⟩
      exact ⟨hmsg, hchannel⟩
  · rw [if_neg honline]
    exact .none rfl fun _ _ h => honline h.1.1

theorem announce_writes (env : Env) (r : LocalRegistry) (service_listeners : List (Σ _ : UInt32, ClientPtr))
    (change_msg : ClientPtr → StServiceChangeStatus) :
    Writes env r (announce env r service_listeners change_msg) fun id m =>
      ∃ listener ∈ service_listeners, r.Reaches listener.2 id ∧
        m = .service_change_status (change_msg listener.2) := by
  induction service_listeners generalizing r with
  | nil => exact .none rfl (by simp)
  | cons listener rest ih =>
    let r1 := if (r.client listener.2).client_status = .ONLINE then
        notify env r listener.2 LOCAL_REGISTRY_SERVICE_ID_EVENT_SERVICE_CHANGE_STATUS
          (.service_change_status (change_msg listener.2))
      else r
    have htables : r1.toTables = r.toTables := by
      simp only [r1]
      split
      · exact notify_toTables ..
      · rfl
    have hfirst : Writes env r r1 _ := notify_writes env r listener.2 _ _
    have hrest := ih r1
    rw [htables] at hrest
    apply (hfirst.trans hrest).congr
    intro id m
    simp only [List.mem_cons, exists_eq_or_imp]

end LocalRegistry

end hub.local_registry
