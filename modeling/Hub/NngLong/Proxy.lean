import Hub.Lib.Run
import Hub.NngLong.Types

namespace hub.nng_long

/-- What the client process at the other end of a connection does in
`_ipc_nng_long_init_reg` and in `server_cb_recv`. -/
inductive ClientEvent where
  /-- `_ipc_nng_long_init_reg` is entered, which happens once for a module of a
  process. -/
  | start (module_id : UInt32)
  /-- `nng_send` of the `REGISTER`, and whether it succeeds. -/
  | send (module_id : UInt32) (sent : Bool)
  | deliver (n : Nat)
  /-- `nng_cv_until` returns after a wake-up. -/
  | wake (module_id : UInt32)
  /-- `nng_cv_until` runs into its deadline. -/
  | expire (module_id : UInt32)

/-- What happens in the daemon and at its connections. The daemon's callbacks are
cut at their critical sections. -/
inductive ProxyEvent where
  | connect
  | client (c : ConnectionPtr) (event : ClientEvent)
  /-- `pair_recv_proxy_cb` takes the next `REGISTER` and looks its module up. -/
  | lookup (c : ConnectionPtr)
  /-- The critical section of `g_proxy_reg_map_mtx` of a new module. -/
  | insert (c : ConnectionPtr)
  /-- The critical section of `reg_item->mtx` of a new module. -/
  | append (c : ConnectionPtr)
  /-- The answer is sent, unless the send fails, and the next message is awaited. -/
  | answer (c : ConnectionPtr) (sent : Bool)
  /-- The pipe is removed and `pair_disconnect_cb` schedules `unreg_cb`. -/
  | remove (c : ConnectionPtr)
  /-- `unreg_cb` marks the item and stops its receiver. -/
  | stop (c : ConnectionPtr)
  | unreg (c : ConnectionPtr)

/-- The condition `register_retry_count++ < 3` at the end of the loop of
`_ipc_nng_long_init_reg`. -/
def next_attempt (retry : Nat) (slot_ret ret : Int) : InitReg :=
  if retry < 3 then .sending (retry + 1) slot_ret else .returned ret

namespace Connection

def create : Connection where
  reg_item := ⟨D_IPC_NNG_LONG_MSG_TAG, false, []⟩
  handler := .receiving
  pipe := true
  unreg_due := false
  requests := []
  replies := []
  init_reg := fun _ => .absent

def setInitReg (record : Connection) (module_id : UInt32) (call : InitReg) : Connection :=
  { record with init_reg := fun m => if m = module_id then call else record.init_reg m }

/-- The `REGISTER` branch of `server_cb_recv`. It takes the mutex of the message pair, which
the registration holds except while it waits. -/
def server_cb_recv (record : Connection) (n : Nat) : Option Connection :=
  match record.replies[n]? with
  | none => none
  | some (module_id, result) =>
    let taken := { record with replies := record.replies.eraseIdx n }
    match record.init_reg module_id with
    | .sending _ _ => none
    | .waiting retry _ => some (taken.setInitReg module_id (.waiting retry result))
    | .absent | .returned _ => some taken

/-- One step of `_ipc_nng_long_init_reg` or `server_cb_recv`. -/
def client (record : Connection) : ClientEvent → Option Connection
  | .start module_id =>
    if record.pipe ∧ record.init_reg module_id = .absent then
      some (record.setInitReg module_id (.sending 0 (-1)))
    else none
  | .send module_id sent =>
    match record.init_reg module_id with
    | .sending retry ret =>
      if sent then
        some { record.setInitReg module_id (.waiting retry ret) with
          requests := record.requests ++ [module_id] }
      else some (record.setInitReg module_id (next_attempt retry ret (-1)))
    | _ => none
  | .deliver n => record.server_cb_recv n
  | .wake module_id =>
    match record.init_reg module_id with
    | .waiting _ ret => some (record.setInitReg module_id (.returned (if ret = -3 then 0 else ret)))
    | _ => none
  | .expire module_id =>
    match record.init_reg module_id with
    | .waiting retry ret => some (record.setInitReg module_id (next_attempt retry ret (-8)))
    | _ => none

variable {record next : Connection}

theorem server_cb_recv_eq_some {n : Nat} (h : record.server_cb_recv n = some next) :
    ∃ module_id result, (module_id, result) ∈ record.replies ∧
      ((∃ retry ret, record.init_reg module_id = .waiting retry ret ∧
        next = { record with replies := record.replies.eraseIdx n }.setInitReg module_id (.waiting retry result)) ∨
      next = { record with replies := record.replies.eraseIdx n }) := by
  unfold server_cb_recv at h
  split at h
  · cases h
  · rename_i module_id result hreply
    refine ⟨module_id, result, List.mem_of_getElem? hreply, ?_⟩
    split at h
    · cases h
    · rename_i retry ret hwaiting
      exact .inl ⟨retry, ret, hwaiting, (Option.some.inj h).symm⟩
    · exact .inr (Option.some.inj h).symm
    · exact .inr (Option.some.inj h).symm

/-- The part of a connection that only the daemon writes. -/
def SameItem (record next : Connection) : Prop :=
  next.reg_item = record.reg_item ∧ next.handler = record.handler ∧ next.pipe = record.pipe ∧
    next.unreg_due = record.unreg_due

theorem client_sameItem {event : ClientEvent} (h : record.client event = some next) :
    record.SameItem next := by
  cases event with
  | start module_id =>
    simp only [client, Option.ite_none_right_eq_some, Option.some.injEq] at h
    obtain ⟨-, rfl⟩ := h
    exact ⟨rfl, rfl, rfl, rfl⟩
  | send module_id sent =>
    simp only [client] at h
    split at h
    · split at h
      · cases h
        exact ⟨rfl, rfl, rfl, rfl⟩
      · cases h
        exact ⟨rfl, rfl, rfl, rfl⟩
    · cases h
  | deliver n =>
    obtain ⟨module_id, result, -, ⟨retry, ret, -, rfl⟩ | rfl⟩ := server_cb_recv_eq_some h
    · exact ⟨rfl, rfl, rfl, rfl⟩
    · exact ⟨rfl, rfl, rfl, rfl⟩
  | wake module_id | expire module_id =>
    simp only [client] at h
    split at h
    · cases h
      exact ⟨rfl, rfl, rfl, rfl⟩
    · cases h

end Connection

namespace Proxy

variable (p : Proxy)

/-- The `REGISTER` branch of `pair_recv_proxy_cb` up to the end of
`find_proxy_reg_item`. -/
def register_lookup (c : ConnectionPtr) : Option Proxy :=
  let record := p.connection c
  match record.handler, record.requests with
  | .receiving, src_id :: requests =>
    if record.reg_item.closed then none
    else
      let handler : Handler :=
        match p.find_proxy_reg_item src_id with
        | some _ => .answering src_id (-3)
        | none => .inserting src_id
      some (p.setConnection c { record with requests, handler })
  | _, _ => none

def register_insert (c : ConnectionPtr) : Option Proxy :=
  match (p.connection c).handler with
  | .inserting src_id =>
    some ({ p with g_proxy_reg_map := p.g_proxy_reg_map.insertNew src_id c }.setConnection c
      { p.connection c with handler := .appending src_id })
  | _ => none

def register_append (c : ConnectionPtr) : Option Proxy :=
  let record := p.connection c
  match record.handler with
  | .appending src_id =>
    some (p.setConnection c
      { record with
        reg_item := { record.reg_item with list := record.reg_item.list ++ [src_id] }
        handler := .answering src_id 0 })
  | _ => none

def register_answer (c : ConnectionPtr) (sent : Bool) : Option Proxy :=
  let record := p.connection c
  match record.handler with
  | .answering src_id result =>
    some ({ p with
        g_registered_module_array :=
          if src_id ∈ p.g_registered_module_array then p.g_registered_module_array
          else p.g_registered_module_array ++ [src_id] }.setConnection c
      { record with
        handler := .receiving
        replies := if sent then record.replies ++ [(src_id, result)] else record.replies })
  | _ => none

def pair_disconnect_cb (c : ConnectionPtr) : Option Proxy :=
  if (p.connection c).pipe then
    some (p.setConnection c { p.connection c with pipe := false, unreg_due := true })
  else none

/-- `unreg_cb` before its critical section. `nng_aio_stop` returns once the receive
callback is not running, and it does not run again. -/
def unreg_cb_stop (c : ConnectionPtr) : Option Proxy :=
  let record := p.connection c
  if record.unreg_due ∧ record.reg_item.tag = D_IPC_NNG_LONG_MSG_TAG ∧ record.reg_item.closed = false ∧
      record.handler = .receiving then
    some (p.setConnection c { record with reg_item := { record.reg_item with closed := true, tag := 0 } })
  else none

def unreg_cb (c : ConnectionPtr) : Option Proxy :=
  let record := p.connection c
  if record.unreg_due ∧ record.reg_item.closed then
    some ({ p with
        g_proxy_reg_map := record.reg_item.list.foldl (fun m id => m.erase id) p.g_proxy_reg_map }.setConnection c
      { record with reg_item := { record.reg_item with list := [] }, unreg_due := false })
  else none

variable {c : ConnectionPtr} {p} {next : Proxy} {sent : Bool}

theorem register_lookup_eq_some (h : p.register_lookup c = some next) :
    ∃ src_id requests, (p.connection c).handler = .receiving ∧ (p.connection c).requests = src_id :: requests ∧
      (p.connection c).reg_item.closed = false ∧
      ((∃ found, p.g_proxy_reg_map.lookup src_id = some found ∧
        next = p.setConnection c { p.connection c with requests, handler := .answering src_id (-3) }) ∨
      (p.g_proxy_reg_map.lookup src_id = none ∧
        next = p.setConnection c { p.connection c with requests, handler := .inserting src_id })) := by
  simp only [register_lookup, find_proxy_reg_item] at h
  split at h
  · rename_i src_id requests hhandler hrequests
    simp only [Option.ite_none_left_eq_some, Option.some.injEq, Bool.not_eq_true] at h
    refine ⟨src_id, requests, hhandler, hrequests, h.1, ?_⟩
    cases hfind : p.g_proxy_reg_map.lookup src_id with
    | none =>
      rw [hfind] at h
      exact .inr ⟨rfl, h.2.symm⟩
    | some found =>
      rw [hfind] at h
      exact .inl ⟨found, rfl, h.2.symm⟩
  · cases h

theorem register_insert_eq_some (h : p.register_insert c = some next) :
    ∃ src_id, (p.connection c).handler = .inserting src_id ∧
      next = { p with g_proxy_reg_map := p.g_proxy_reg_map.insertNew src_id c }.setConnection c
        { p.connection c with handler := .appending src_id } := by
  unfold register_insert at h
  split at h
  · rename_i src_id hhandler
    exact ⟨src_id, hhandler, (Option.some.inj h).symm⟩
  · cases h

theorem register_append_eq_some (h : p.register_append c = some next) :
    ∃ src_id, (p.connection c).handler = .appending src_id ∧
      next = p.setConnection c
        { p.connection c with
          reg_item := { (p.connection c).reg_item with list := (p.connection c).reg_item.list ++ [src_id] }
          handler := .answering src_id 0 } := by
  simp only [register_append] at h
  split at h
  · rename_i src_id hhandler
    exact ⟨src_id, hhandler, (Option.some.inj h).symm⟩
  · cases h

theorem register_answer_eq_some (h : p.register_answer c sent = some next) :
    ∃ src_id result array replies, (p.connection c).handler = .answering src_id result ∧
      (∀ reply ∈ replies, reply ∈ (p.connection c).replies ∨ reply = (src_id, result)) ∧
      next = { p with g_registered_module_array := array }.setConnection c
        { p.connection c with handler := .receiving, replies := replies } := by
  simp only [register_answer] at h
  split at h
  · rename_i src_id result hhandler
    refine ⟨src_id, result, _, _, hhandler, ?_, (Option.some.inj h).symm⟩
    intro reply hreply
    split at hreply
    · simpa using hreply
    · exact .inl hreply
  · cases h

theorem pair_disconnect_cb_eq_some (h : p.pair_disconnect_cb c = some next) :
    next = p.setConnection c { p.connection c with pipe := false, unreg_due := true } := by
  simp only [pair_disconnect_cb, Option.ite_none_right_eq_some, Option.some.injEq] at h
  exact h.2.symm

theorem unreg_cb_stop_eq_some (h : p.unreg_cb_stop c = some next) :
    (p.connection c).unreg_due ∧ (p.connection c).handler = .receiving ∧
      next = p.setConnection c
        { p.connection c with reg_item := { (p.connection c).reg_item with closed := true, tag := 0 } } := by
  simp only [unreg_cb_stop, Option.ite_none_right_eq_some, Option.some.injEq] at h
  obtain ⟨⟨hdue, -, -, hhandler⟩, rfl⟩ := h
  exact ⟨hdue, hhandler, rfl⟩

theorem unreg_cb_eq_some (h : p.unreg_cb c = some next) :
    (p.connection c).unreg_due ∧ (p.connection c).reg_item.closed ∧
      next = { p with
          g_proxy_reg_map :=
            (p.connection c).reg_item.list.foldl (fun m id => m.erase id) p.g_proxy_reg_map }.setConnection c
        { p.connection c with
          reg_item := { (p.connection c).reg_item with list := [] }
          unreg_due := false } := by
  simp only [unreg_cb, Option.ite_none_right_eq_some, Option.some.injEq] at h
  obtain ⟨⟨hdue, hclosed⟩, rfl⟩ := h
  exact ⟨hdue, hclosed, rfl⟩

def on (p : Proxy) (c : ConnectionPtr) (event : Proxy → ConnectionPtr → Option Proxy) : Option Proxy :=
  if c.addr < p.connections.next then event p c else none

theorem on_eq_some {event : Proxy → ConnectionPtr → Option Proxy} :
    p.on c event = some next ↔ p.connections.Live c ∧ event p c = some next := by
  simp [on, Heap.Live]

/-- One event. There is no next state for an event that cannot happen. -/
def step (p : Proxy) : ProxyEvent → Option Proxy
  | .connect => some { p with connections := p.connections.alloc .create }
  | .client c event => p.on c fun p c => ((p.connection c).client event).map (p.setConnection c)
  | .lookup c => p.on c register_lookup
  | .insert c => p.on c register_insert
  | .append c => p.on c register_append
  | .answer c sent => p.on c (register_answer · · sent)
  | .remove c => p.on c pair_disconnect_cb
  | .stop c => p.on c unreg_cb_stop
  | .unreg c => p.on c unreg_cb

theorem step_client_eq_some {event : ClientEvent} (h : p.step (.client c event) = some next) :
    ∃ record, (p.connection c).client event = some record ∧ next = p.setConnection c record := by
  have hon : p.on c (fun p c => ((p.connection c).client event).map (p.setConnection c)) = some next := h
  obtain ⟨record, hrecord, hset⟩ := Option.map_eq_some_iff.mp (on_eq_some.mp hon).2
  exact ⟨record, hrecord, hset.symm⟩

theorem step_answer_eq_some (h : p.step (.answer c sent) = some next) : p.register_answer c sent = some next := by
  have hon : p.on c (fun p c => p.register_answer c sent) = some next := h
  exact (on_eq_some.mp hon).2

end Proxy

def proxyRun (labels : List ProxyEvent) : Option Proxy := run Proxy.step .init labels

end hub.nng_long
