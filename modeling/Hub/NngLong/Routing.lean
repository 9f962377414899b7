import Hub.NngLong.Table

namespace hub.nng_long

open Connection

/-- An answer of the daemon has reached the call, or the call has returned 0. -/
def InitReg.Answered : InitReg → Prop
  | .absent => False
  | .sending _ ret | .waiting _ ret => ret ≠ -1
  | .returned ret => ret = 0

/-- The daemon has entered the module for this connection, has answered that it is
registered, or the answer has arrived. -/
def Connection.Assured (record : Connection) (module_id : UInt32) : Prop :=
  record.handler = .appending module_id ∨ (∃ result, record.handler = .answering module_id result) ∨
    (∃ result, (module_id, result) ∈ record.replies) ∨ (record.init_reg module_id).Answered

namespace Connection

variable {module_id : UInt32} {record : Connection} {call : InitReg}

theorem Assured.of_setInitReg {module_id other : UInt32} (h : (record.setInitReg module_id call).Assured other) :
    record.Assured other ∨ other = module_id ∧ call.Answered := by
  rcases h with happending | hanswering | hreply | hanswered
  · exact .inl (.inl happending)
  · exact .inl (.inr (.inl hanswering))
  · exact .inl (.inr (.inr (.inl hreply)))
  · by_cases hother : other = module_id
    · simp only [setInitReg, hother, if_true] at hanswered
      exact .inr ⟨hother, hanswered⟩
    · simp only [setInitReg, hother, if_false] at hanswered
      exact .inl (.inr (.inr (.inr hanswered)))

theorem Assured.of_eraseIdx {n : Nat}
    (h : Assured { record with replies := record.replies.eraseIdx n } module_id) : record.Assured module_id := by
  rcases h with happending | hanswering | ⟨result, hmem⟩ | hanswered
  · exact .inl happending
  · exact .inr (.inl hanswering)
  · exact .inr (.inr (.inl ⟨result, List.mem_of_mem_eraseIdx hmem⟩))
  · exact .inr (.inr (.inr hanswered))

theorem Assured.of_answered
    (hcall : record.init_reg module_id = call) (h : call.Answered) : record.Assured module_id :=
  .inr (.inr (.inr (hcall ▸ h)))

theorem Assured.of_handler {next : Connection} (h : next.Assured module_id) (record : Connection)
    (hreplies : next.replies = record.replies) (hcall : next.init_reg = record.init_reg) :
    record.Assured module_id ∨ next.handler = .appending module_id ∨
      ∃ result, next.handler = .answering module_id result := by
  rcases h with happending | hanswering | hreply | hanswered
  · exact .inr (.inl happending)
  · exact .inr (.inr hanswering)
  · exact .inl (.inr (.inr (.inl (hreplies ▸ hreply))))
  · exact .inl (.inr (.inr (.inr (hcall ▸ hanswered))))

theorem answered_next_attempt {retry : Nat} {slot_ret ret : Int} (hret : ret ≠ 0)
    (h : (next_attempt retry slot_ret ret).Answered) : slot_ret ≠ -1 := by
  unfold next_attempt at h
  split at h
  · exact h
  · exact absurd h hret

theorem answered_wake {ret : Int} (h : (InitReg.returned (if ret = -3 then 0 else ret)).Answered) : ret ≠ -1 := by
  intro hret
  simp [hret, InitReg.Answered] at h

theorem Assured.of_client {record next : Connection} {event : ClientEvent}
    (hnext : record.client event = some next) (h : next.Assured module_id) :
    record.Assured module_id := by
  cases event with
  | start started =>
    simp only [client, Option.ite_none_right_eq_some, Option.some.injEq] at hnext
    obtain ⟨-, rfl⟩ := hnext
    rcases h.of_setInitReg with h | ⟨-, hcall⟩
    · exact h
    · simp [InitReg.Answered] at hcall
  | send sender sent =>
    simp only [client] at hnext
    split at hnext
    · rename_i retry ret hsending
      split at hnext
      · cases hnext
        have hset : (record.setInitReg sender (.waiting retry ret)).Assured module_id := h
        rcases hset.of_setInitReg with h | ⟨rfl, hcall⟩
        · exact h
        · exact .of_answered hsending hcall
      · cases hnext
        rcases h.of_setInitReg with h | ⟨rfl, hcall⟩
        · exact h
        · exact .of_answered hsending (answered_next_attempt (by decide) hcall)
    · cases hnext
  | deliver n =>
    obtain ⟨receiver, result, hreply, ⟨retry, ret, -, rfl⟩ | rfl⟩ := server_cb_recv_eq_some hnext
    · rcases h.of_setInitReg with h | ⟨rfl, -⟩
      · exact h.of_eraseIdx
      · exact .inr (.inr (.inl ⟨result, hreply⟩))
    · exact h.of_eraseIdx
  | wake waker =>
    simp only [client] at hnext
    split at hnext
    · rename_i retry ret hwaiting
      cases hnext
      rcases h.of_setInitReg with h | ⟨rfl, hcall⟩
      · exact h
      · exact .of_answered hwaiting (answered_wake hcall)
    · cases hnext
  | expire waiter =>
    simp only [client] at hnext
    split at hnext
    · rename_i retry ret hwaiting
      cases hnext
      rcases h.of_setInitReg with h | ⟨rfl, hcall⟩
      · exact h
      · exact .of_answered hwaiting (answered_next_attempt (by decide) hcall)
    · cases hnext

end Connection

/-- No `REGISTER` handler finds its module registered for another connection, when it looks
it up or when it inserts it. In particular a restarted process registers only after the
`unreg_cb` of its old connection. -/
def Unclaimed (p : Proxy) : ProxyEvent → Prop
  | .lookup c => ∀ src_id ∈ (p.connection c).requests.head?, ∀ found ∈ p.g_proxy_reg_map.lookup src_id, found = c
  | event => Unraced p event

instance (p : Proxy) : DecidablePred (Unclaimed p)
  | .lookup c =>
    have (src_id : UInt32) : Decidable (∀ found ∈ p.g_proxy_reg_map.lookup src_id, found = c) :=
      Option.decidableForallMem _
    Option.decidableForallMem (p.connection c).requests.head?
  | .insert c => inferInstanceAs (Decidable (Unraced p (.insert c)))
  | .connect | .client _ _ | .append _ | .answer _ _ | .remove _ | .stop _ | .unreg _ => .isTrue trivial

/-- While its pipe is up, a connection owns every module it was assured of. -/
structure Proxy.Routed (p : Proxy) : Prop extends p.Mirrored where
  assured : ∀ c module_id, (p.connection c).pipe = true → (p.connection c).Assured module_id →
    p.g_proxy_reg_map.lookup module_id = some c
  removed : ∀ c, (p.connection c).unreg_due = true ∨ (p.connection c).reg_item.closed = true →
    (p.connection c).pipe = false

namespace Proxy

theorem Routed.init : Routed .init where
  toMirrored := .init
  assured c module_id hpipe := by simp [Proxy.init, Proxy.connection, Heap.get, Heap.empty, default] at hpipe
  removed c _ := rfl

variable {c : ConnectionPtr} {p next : Proxy} {record : Connection}

theorem Routed.setConnection {p : Proxy} (h : p.Routed)
    (hmirrored : (p.setConnection c record).Mirrored)
    (hassured : ∀ module_id, record.pipe = true → record.Assured module_id →
      p.g_proxy_reg_map.lookup module_id = some c)
    (hremoved : record.unreg_due = true ∨ record.reg_item.closed = true → record.pipe = false) :
    (p.setConnection c record).Routed where
  toMirrored := hmirrored
  assured other module_id := by
    rw [connection_setConnection, setConnection_reg_map]
    split
    · rename_i heq
      rw [heq]
      exact hassured module_id
    · exact h.assured other module_id
  removed other := by
    rw [connection_setConnection]
    split
    · exact hremoved
    · exact h.removed other

theorem Routed.connect {p : Proxy} (h : p.Routed) :
    Routed { p with connections := p.connections.alloc .create } where
  toMirrored := h.toMirrored.connect
  assured c module_id := by
    by_cases hfresh : c = p.connections.fresh
    · subst hfresh
      simp [Proxy.connection, Assured, create, InitReg.Answered]
    · change ((p.connections.alloc create).get c).pipe = true →
        ((p.connections.alloc create).get c).Assured module_id → _
      rw [Heap.get_alloc_ne _ _ hfresh]
      exact h.assured c module_id
  removed c := by
    by_cases hfresh : c = p.connections.fresh
    · subst hfresh
      simp [Proxy.connection, create]
    · change ((p.connections.alloc create).get c).unreg_due = true ∨
        ((p.connections.alloc create).get c).reg_item.closed = true →
        ((p.connections.alloc create).get c).pipe = false
      rw [Heap.get_alloc_ne _ _ hfresh]
      exact h.removed c

theorem Routed.client {p : Proxy} (h : p.Routed) {event : ClientEvent}
    (hrecord : (p.connection c).client event = some record) : (p.setConnection c record).Routed := by
  have hmirrored := h.toMirrored.client (client_sameItem hrecord)
  obtain ⟨hitem, -, hpipe, hdue⟩ := client_sameItem hrecord
  refine h.setConnection hmirrored (fun module_id hup hassured => ?_) ?_
  · exact h.assured c module_id (hpipe ▸ hup) (hassured.of_client hrecord)
  · rw [hitem, hdue, hpipe]
    exact h.removed c

namespace Routed

variable (h : p.Routed)

include h

theorem lookup (hunclaimed : Unclaimed p (.lookup c)) (hnext : p.register_lookup c = some next) : next.Routed := by
  have hmirrored := h.toMirrored.lookup hnext
  obtain ⟨src_id, requests, hhandler, hrequests, -, ⟨found, hfound, rfl⟩ | ⟨-, rfl⟩⟩ := register_lookup_eq_some hnext
  · refine h.setConnection hmirrored (fun module_id hup hassured => ?_) (h.removed c)
    have hown : found = c := hunclaimed src_id (by simp [hrequests]) found hfound
    rcases hassured.of_handler (p.connection c) rfl rfl with hold | happending | ⟨result, hanswering⟩
    · exact h.assured c module_id hup hold
    · cases happending
    · cases hanswering
      rw [hfound, hown]
  · refine h.setConnection hmirrored (fun module_id hup hassured => ?_) (h.removed c)
    rcases hassured.of_handler (p.connection c) rfl rfl with hold | happending | ⟨result, hanswering⟩
    · exact h.assured c module_id hup hold
    · cases happending
    · cases hanswering

theorem insert (hlive : p.connections.Live c)
    (hunraced : Unraced p (.insert c)) (hnext : p.register_insert c = some next) : next.Routed := by
  have hmirrored := h.toMirrored.insert hlive hunraced hnext
  obtain ⟨src_id, hhandler, rfl⟩ := register_insert_eq_some hnext
  have hnone : p.g_proxy_reg_map.lookup src_id = none := hunraced src_id (by simp [hhandler, Handler.entering])
  -- the new entry hides none of the old ones
  have hkept : ∀ module_id other, p.g_proxy_reg_map.lookup module_id = some other →
      (p.g_proxy_reg_map.insertNew src_id c).lookup module_id = some other := by
    intro module_id other hentry
    have hne : module_id ≠ src_id := by
      rintro rfl
      rw [hnone] at hentry
      cases hentry
    rw [UnorderedMap.lookup_insertNew_ne _ _ hne, hentry]
  refine ⟨hmirrored, fun other module_id => ?_, fun other => ?_⟩
  · rw [connection_setConnection, setConnection_reg_map]
    split
    · rename_i heq
      subst heq
      intro hup hassured
      rcases hassured.of_handler (p.connection other) rfl rfl with hold | happending | ⟨result, hanswering⟩
      · exact hkept module_id other (h.assured other module_id hup hold)
      · cases happending
        rw [UnorderedMap.lookup_insertNew_self, hnone]
        rfl
      · cases hanswering
    · exact fun hup hassured => hkept module_id other (h.assured other module_id hup hassured)
  · rw [connection_setConnection]
    split
    · exact h.removed c
    · exact h.removed other

theorem append (hnext : p.register_append c = some next) : next.Routed := by
  have hmirrored := h.toMirrored.append hnext
  obtain ⟨src_id, hhandler, rfl⟩ := register_append_eq_some hnext
  refine h.setConnection hmirrored (fun module_id hup hassured => ?_) (h.removed c)
  rcases hassured.of_handler (p.connection c) rfl rfl with hold | happending | ⟨result, hanswering⟩
  · exact h.assured c module_id hup hold
  · cases happending
  · cases hanswering
    exact h.assured c src_id hup (.inl hhandler)

theorem answer {sent : Bool} (hnext : p.register_answer c sent = some next) : next.Routed := by
  have hmirrored := h.toMirrored.answer hnext
  obtain ⟨src_id, result, array, replies, hhandler, hreplies, rfl⟩ := register_answer_eq_some hnext
  have hsame : Routed { p with g_registered_module_array := array } :=
    ⟨⟨h.live, h.entry_iff, h.stopped⟩, h.assured, h.removed⟩
  refine hsame.setConnection hmirrored (fun module_id hup hassured => ?_) (h.removed c)
  rcases hassured with happending | ⟨result', hanswering⟩ | ⟨result', hmem⟩ | hanswered
  · cases happending
  · cases hanswering
  · rcases hreplies _ hmem with hold | hnew
    · exact h.assured c module_id hup (.inr (.inr (.inl ⟨result', hold⟩)))
    · cases hnew
      exact h.assured c src_id hup (.inr (.inl ⟨result, hhandler⟩))
  · exact h.assured c module_id hup (.inr (.inr (.inr hanswered)))

theorem remove (hnext : p.pair_disconnect_cb c = some next) : next.Routed := by
  have hmirrored := h.toMirrored.remove hnext
  cases pair_disconnect_cb_eq_some hnext
  refine h.setConnection hmirrored (fun module_id hup => ?_) (fun _ => rfl)
  cases hup

theorem stop (hnext : p.unreg_cb_stop c = some next) : next.Routed := by
  have hmirrored := h.toMirrored.stop hnext
  obtain ⟨hdue, -, rfl⟩ := unreg_cb_stop_eq_some hnext
  exact h.setConnection hmirrored (h.assured c) (fun _ => h.removed c (.inl hdue))

theorem unreg (hnext : p.unreg_cb c = some next) : next.Routed := by
  have hentry := h.toMirrored.unreg_entry hnext
  have hmirrored := h.toMirrored.unreg hnext
  obtain ⟨hdue, -, rfl⟩ := unreg_cb_eq_some hnext
  have hdown := h.removed c (.inl hdue)
  refine ⟨hmirrored, fun other module_id hup hassured => ?_, fun other => ?_⟩
  · rw [connection_setConnection] at hup hassured
    split at hup
    · rw [hdown] at hup
      cases hup
    · rename_i hne
      rw [if_neg hne] at hassured
      exact (hentry module_id other).mpr ⟨hne, h.assured other module_id hup hassured⟩
  · rw [connection_setConnection]
    split
    · exact fun _ => hdown
    · exact h.removed other

theorem step {event : ProxyEvent} (hunclaimed : Unclaimed p event)
    (hnext : p.step event = some next) : next.Routed := by
  cases event with
  | connect =>
    cases hnext
    exact h.connect
  | client c event =>
    obtain ⟨record, hrecord, rfl⟩ := step_client_eq_some hnext
    exact h.client hrecord
  | lookup c => exact h.lookup hunclaimed (on_eq_some.mp hnext).2
  | insert c =>
    obtain ⟨hlive, hinsert⟩ := on_eq_some.mp hnext
    exact h.insert hlive hunclaimed hinsert
  | append c => exact h.append (on_eq_some.mp hnext).2
  | answer c sent => exact h.answer (step_answer_eq_some hnext)
  | remove c => exact h.remove (on_eq_some.mp hnext).2
  | stop c => exact h.stop (on_eq_some.mp hnext).2
  | unreg c => exact h.unreg (on_eq_some.mp hnext).2

end Routed

end Proxy

/-- Every module whose registration has returned 0 over a connection that is up is
routed to that connection. -/
def Proxy.RoutesRegistered (p : Proxy) : Prop :=
  ∀ c module_id, (p.connection c).pipe = true → (p.connection c).init_reg module_id = .returned 0 →
    p.find_proxy_reg_item module_id = some c

/-- A registered module stays routed to its connection as long as nobody registers
a module that the map still holds for another connection. -/
theorem registered_module_routed_of_unclaimed {labels : List ProxyEvent}
    (hmeets : Meets Proxy.step Unclaimed .init labels) :
    Throughout Proxy.step Proxy.RoutesRegistered .init labels := by
  refine hmeets.throughout Proxy.Routed (fun _ _ _ h hunclaimed hnext => h.step hunclaimed hnext) ?_ .init
  intro p h c module_id hup hreturned
  exact h.assured c module_id hup (.of_answered hreturned rfl)

/-- A process registers a module, dies and is started again after the daemon has
unregistered its old connection. -/
def unhurriedRestart : List ProxyEvent :=
  [.connect, .client ⟨0⟩ (.start 1), .client ⟨0⟩ (.send 1 true), .lookup ⟨0⟩, .insert ⟨0⟩, .append ⟨0⟩,
    .answer ⟨0⟩ true, .client ⟨0⟩ (.deliver 0), .client ⟨0⟩ (.wake 1), .remove ⟨0⟩, .stop ⟨0⟩, .unreg ⟨0⟩,
    .connect, .client ⟨1⟩ (.start 1), .client ⟨1⟩ (.send 1 true), .client ⟨1⟩ (.expire 1),
    .client ⟨1⟩ (.send 1 true), .lookup ⟨1⟩, .insert ⟨1⟩, .append ⟨1⟩, .answer ⟨1⟩ false, .lookup ⟨1⟩,
    .answer ⟨1⟩ true, .client ⟨1⟩ (.deliver 0), .client ⟨1⟩ (.wake 1)]

theorem registered_module_routed_after_unhurried_restart :
    (∃ p, proxyRun unhurriedRestart = some p ∧ (p.connection ⟨1⟩).init_reg 1 = .returned 0) ∧
      Throughout Proxy.step Proxy.RoutesRegistered .init unhurriedRestart :=
  ⟨⟨_, rfl, by decide⟩, registered_module_routed_of_unclaimed (by decide)⟩

/-- The process is started again, and registers, before `unreg_cb` of its old
connection runs. -/
def hurriedRestart : List ProxyEvent :=
  [.connect, .client ⟨0⟩ (.start 1), .client ⟨0⟩ (.send 1 true), .lookup ⟨0⟩, .insert ⟨0⟩, .append ⟨0⟩,
    .answer ⟨0⟩ true, .client ⟨0⟩ (.deliver 0), .client ⟨0⟩ (.wake 1), .remove ⟨0⟩,
    .connect, .client ⟨1⟩ (.start 1), .client ⟨1⟩ (.send 1 true), .lookup ⟨1⟩, .answer ⟨1⟩ true,
    .client ⟨1⟩ (.deliver 0), .client ⟨1⟩ (.wake 1), .stop ⟨0⟩, .unreg ⟨0⟩]

/-- Its registration returns 0 over the new connection, which is up, and the map has
no entry for the module. -/
theorem registered_module_lost_by_hurried_restart : ∃ p, proxyRun hurriedRestart = some p ∧
    (p.connection ⟨1⟩).pipe = true ∧ (p.connection ⟨1⟩).init_reg 1 = .returned 0 ∧
    p.find_proxy_reg_item 1 = none :=
  ⟨_, rfl, by decide, by decide, by decide⟩

end hub.nng_long
