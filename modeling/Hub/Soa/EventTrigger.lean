import Hub.Soa.Library

namespace hub.soa

open local_registry

variable {φ : Type}

/-- What `send_msg_to_process` meets: the state of the connection, what
`connect_with_process_client` returns and whether it starts the numbers anew, whether the
tables have the module, and the results of encoder and `hio_write`. -/
structure Link where
  online : Bool
  opened : Bool
  connect : Int
  renumbers : Bool
  described : Bool
  encoded_size : Option Nat
  encodes : Bool
  written : Int

def Link.connected (link : Link) : Bool := link.online && link.opened

/-- The result of `send_msg_to_process`. -/
def send_msg_to_process (dest : Option ProcessClient) (link : Link) (msg_len : UInt32)
    (msgdata : Option (Nat → UInt8)) : Int :=
  match dest with
  | none => IPC_HV_SOA_RET_ERR_ARG
  | some _ =>
    let ret := if link.connected then IPC_HV_SOA_RET_SUCCESS else link.connect
    if ret = IPC_HV_SOA_RET_SUCCESS then
      if ¬ link.described then IPC_HV_SOA_RET_FAIL
      else
        let encoded_size := if msgdata.isSome ∧ 0 < msg_len then link.encoded_size else some 0
        match encoded_size with
        | none => IPC_HV_SOA_RET_FAIL
        | some encoded_size =>
          if msgdata.isSome ∧ 0 < encoded_size ∧ ¬ link.encodes then IPC_HV_SOA_RET_FAIL
          else if link.written < 0 then IPC_HV_SOA_RET_FAIL
          else IPC_HV_SOA_RET_SUCCESS
    else ret

structure Attempt where
  dest : ProcessClient
  client_id : UInt32
  msg_seqid : UInt32
  msg_type : UInt32
  service_id : UInt32
  msg_len : UInt32
  msgdata : Option (Nat → UInt8)
  ret : Int

structure Triggering (φ : Type) where
  lib : Library φ
  ret : Int
  attempts : List Attempt

def eventData (event_data : Option (Nat → UInt8)) (event_data_len : UInt32) : UInt32 × Option (Nat → UInt8) :=
  if event_data.isNone ∨ event_data_len = 0 then (0, none) else (event_data_len, event_data)

namespace Library

/-- What a send changes: a connection that is made anew may start the numbers anew. -/
def afterSend (lib : Library φ) (link : Link) (client_id : UInt32) : Library φ :=
  if link.connected = false ∧ link.renumbers then
    { lib with msg_seqid := Function.update lib.msg_seqid client_id 1 }
  else lib

/-- One listener. The result of the listener before is lost. -/
def triggerOne (service_id : UInt32) (data : UInt32 × Option (Nat → UInt8)) (links : UInt32 → Link)
    (t : Triggering φ) (listener : Σ _ : UInt32, ProcessClient) : Triggering φ :=
  let msg_seqid := t.lib.msg_seqid listener.2.client_id
  let ret := send_msg_to_process (some listener.2) (links listener.1) data.1 data.2
  { lib := (t.lib.draw listener.2.client_id).afterSend (links listener.1) listener.2.client_id
    ret := ret
    attempts := t.attempts ++ [{
      dest := listener.2
      client_id := t.lib.client_id
      msg_seqid := msg_seqid
      msg_type := E_IPC_HV_SOA_MSG_TYPE_EVENT_NOTIFY
      service_id := service_id
      msg_len := data.1
      msgdata := data.2
      ret := ret }] }

/-- `ipc_hv_soa_event_trigger`. `links` are by the id under which a listener is filed. -/
def ipc_hv_soa_event_trigger (lib : Library φ) (g_init_flag : Bool) (order : IterationOrder) (links : UInt32 → Link)
    (replies : Replies) (service_id : UInt32) (event_data : Option (Nat → UInt8)) (event_data_len : UInt32) :
    Triggering φ :=
  if ¬ g_init_flag then ⟨lib, IPC_HV_SOA_RET_ERR_ARG, []⟩
  else
    match lib.get_service service_id replies with
    | (none, lib) => ⟨lib, IPC_HV_SOA_RET_ERR_ARG, []⟩
    | (some it, lib) =>
      if it.service_provider.isNone then ⟨lib, IPC_HV_SOA_RET_ERR_ARG, []⟩
      else if it.service_type ≠ E_IPC_HV_SOA_SERVICE_TYPE_EVENT ∨
        it.service_status ≠ LOCAL_SERVICE_STATUS_AVAILABLE then
        ⟨lib, IPC_HV_SOA_RET_ERR_ARG, []⟩
      else
        (order.visit it.service_listeners).foldl (triggerOne service_id (eventData event_data event_data_len) links)
          ⟨lib, IPC_HV_SOA_RET_SUCCESS, []⟩

/-- The call finds the service, an event that this process can trigger. -/
structure FindsEvent (lib next : Library φ) (replies : Replies) (service_id : UInt32) (it : Service) : Prop where
  found : lib.get_service service_id replies = (some it, next)
  provided : it.service_provider.isNone = false
  type : it.service_type = E_IPC_HV_SOA_SERVICE_TYPE_EVENT
  status : it.service_status = LOCAL_SERVICE_STATUS_AVAILABLE

section Loop

variable {service_id : UInt32} {data : UInt32 × Option (Nat → UInt8)} {links : UInt32 → Link}

variable (listeners : List (Σ _ : UInt32, ProcessClient)) (t : Triggering φ)

def sendTo (links : UInt32 → Link) (data : UInt32 × Option (Nat → UInt8))
    (listener : Σ _ : UInt32, ProcessClient) : Int :=
  send_msg_to_process (some listener.2) (links listener.1) data.1 data.2

theorem foldl_triggerOne_attempts :
    (listeners.foldl (triggerOne service_id data links) t).attempts.map (fun attempt => (attempt.dest, attempt.ret)) =
      t.attempts.map (fun attempt => (attempt.dest, attempt.ret)) ++
        listeners.map fun listener => (listener.2, sendTo links data listener) := by
  induction listeners generalizing t with
  | nil => simp
  | cons listener listeners ih =>
    rw [List.foldl_cons, ih, triggerOne]
    simp [sendTo]

theorem foldl_triggerOne_ret :
    (listeners.foldl (triggerOne service_id data links) t).ret =
      (listeners.getLast?.map (sendTo links data)).getD t.ret := by
  induction listeners generalizing t with
  | nil => rfl
  | cons listener listeners ih =>
    rw [List.foldl_cons, ih, List.getLast?_cons]
    cases listeners.getLast? with
    | none | some last => rfl

/-- The events of the process that the loop is made of. -/
def triggerEvents (links : UInt32 → Link) (listener : Σ _ : UInt32, ProcessClient) : List (LibraryEvent φ) :=
  .draw listener.2.client_id ::
    if (links listener.1).connected = false ∧ (links listener.1).renumbers then [.connect listener.2.client_id] else []

theorem foldl_triggerOne_lib : run Library.step t.lib (listeners.flatMap (triggerEvents links)) =
      some (listeners.foldl (triggerOne service_id data links) t).lib := by
  induction listeners generalizing t with
  | nil => rfl
  | cons listener listeners ih =>
    rw [List.flatMap_cons, List.foldl_cons, run_append_eq_some]
    refine ⟨(triggerOne service_id data links t listener).lib, ?_, ih _⟩
    simp only [triggerEvents, triggerOne, afterSend]
    split
    · rfl
    · rfl

end Loop

end Library

open Library

/-- Every listener is tried once, in every order. A failure is reported exactly when it is
not followed by a success with the listener that happens to come last. -/
theorem event_failures_reported_iff {lib next : Library φ} {replies : Replies} {service_id : UInt32} {it : Service}
    (h : lib.FindsEvent next replies service_id it) (order : IterationOrder) (links : UInt32 → Link)
    (event_data : Option (Nat → UInt8)) (event_data_len : UInt32) :
    ((lib.ipc_hv_soa_event_trigger true order links replies service_id event_data event_data_len).attempts.map
        Attempt.dest).Perm (it.service_listeners.entries.map fun listener => listener.2) ∧
      (((lib.ipc_hv_soa_event_trigger true order links replies service_id event_data event_data_len).ret =
            IPC_HV_SOA_RET_SUCCESS →
          ∀ attempt ∈ (lib.ipc_hv_soa_event_trigger true order links replies service_id event_data
            event_data_len).attempts, attempt.ret = IPC_HV_SOA_RET_SUCCESS) ↔
        ∀ last ∈ (order.visit it.service_listeners).getLast?,
          sendTo links (eventData event_data event_data_len) last = IPC_HV_SOA_RET_SUCCESS →
            ∀ listener ∈ order.visit it.service_listeners,
              sendTo links (eventData event_data event_data_len) listener = IPC_HV_SOA_RET_SUCCESS) := by
  have hvalid : ¬(it.service_type ≠ E_IPC_HV_SOA_SERVICE_TYPE_EVENT ∨
      it.service_status ≠ LOCAL_SERVICE_STATUS_AVAILABLE) := by
    simp [h.type, h.status]
  simp only [ipc_hv_soa_event_trigger, h.found, h.provided]
  rw [if_neg (by simp), if_neg (by simp), if_neg hvalid]
  generalize hdata : eventData event_data event_data_len = data
  have hattempts := @foldl_triggerOne_attempts φ service_id data links (order.visit it.service_listeners)
    ⟨next, IPC_HV_SOA_RET_SUCCESS, []⟩
  have hret := @foldl_triggerOne_ret φ service_id data links (order.visit it.service_listeners)
    ⟨next, IPC_HV_SOA_RET_SUCCESS, []⟩
  generalize (order.visit it.service_listeners).foldl (triggerOne service_id data links)
    ⟨next, IPC_HV_SOA_RET_SUCCESS, []⟩ = out at hattempts hret ⊢
  rw [List.map_nil, List.nil_append] at hattempts
  constructor
  · have hdests := congrArg (List.map Prod.fst) hattempts
    simp only [List.map_map, Function.comp_def] at hdests
    rw [hdests]
    exact (order.perm _).map _
  · have hrets : out.attempts.map Attempt.ret = (order.visit it.service_listeners).map (sendTo links data) := by
      have hsecond := congrArg (List.map Prod.snd) hattempts
      simpa only [List.map_map, Function.comp_def] using hsecond
    rw [← List.forall_mem_map (P := fun ret => ret = IPC_HV_SOA_RET_SUCCESS), hrets, List.forall_mem_map, hret]
    cases hlast : (order.visit it.service_listeners).getLast? with
    | none =>
      rw [List.getLast?_eq_none_iff.mp hlast]
      simp
    | some last => simp

def goodLink : Link where
  online := true
  opened := true
  connect := IPC_HV_SOA_RET_SUCCESS
  renumbers := false
  described := true
  encoded_size := some 2
  encodes := true
  written := 22

def brokenLink : Link := { goodLink with online := false, opened := false, connect := IPC_HV_SOA_RET_TIMEOUT }

def twoListeners : Library Unit :=
  (((Library.init 1 10 [] 1).call true
    (.provider_service_offer [⟨7, E_IPC_HV_SOA_SERVICE_TYPE_EVENT, some ()⟩])).2.2).on_recv_daemon
    (.listener_change_to_provider ⟨7, [⟨2, 20, ['b'], 1⟩, ⟨3, 30, ['c'], 1⟩], true⟩)

def eventSeven : Service where
  service_id := 7
  service_type := E_IPC_HV_SOA_SERVICE_TYPE_EVENT
  service_status := LOCAL_SERVICE_STATUS_AVAILABLE
  service_provider := some ⟨1, []⟩
  service_listeners := AList.insert 3 ⟨3, ['c']⟩ (AList.insert 2 ⟨2, ['b']⟩ ∅)

theorem both_listeners_reached :
    (twoListeners.ipc_hv_soa_event_trigger true .stored (fun _ => goodLink) ⟨none, none⟩ 7 none 0).ret =
        IPC_HV_SOA_RET_SUCCESS ∧
      ∀ attempt ∈ (twoListeners.ipc_hv_soa_event_trigger true .stored (fun _ => goodLink)
        ⟨none, none⟩ 7 none 0).attempts,
        attempt.ret = IPC_HV_SOA_RET_SUCCESS := by
  have hfinds : twoListeners.FindsEvent twoListeners ⟨none, none⟩ 7 eventSeven := ⟨rfl, rfl, rfl, rfl⟩
  have hreported := (event_failures_reported_iff hfinds .stored (fun _ => goodLink) none 0).2.mpr
    fun _ _ _ _ _ => rfl
  exact ⟨rfl, hreported rfl⟩

/-- The first of two listeners cannot be reached, and the call returns `SUCCESS`. -/
theorem event_failure_lost :
    (twoListeners.ipc_hv_soa_event_trigger true .stored
      (fun id => if id = 3 then brokenLink else goodLink) ⟨none, none⟩ 7
          none 0).ret = IPC_HV_SOA_RET_SUCCESS ∧
      (twoListeners.ipc_hv_soa_event_trigger true .stored (fun id => if id = 3 then brokenLink else goodLink)
          ⟨none, none⟩ 7 none 0).attempts.map (fun attempt => (attempt.dest.client_id, attempt.ret)) =
        [(3, IPC_HV_SOA_RET_TIMEOUT), (2, IPC_HV_SOA_RET_SUCCESS)] :=
  ⟨rfl, rfl⟩

end hub.soa
