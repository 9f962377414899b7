import Hub.NngLong.Proxy

namespace hub.nng_long

open Connection UnorderedMap

/-- The module is in the item's list, or its handler has entered it in the map and
is about to append it. -/
def Connection.Claims (record : Connection) (module_id : UInt32) : Prop :=
  module_id ∈ record.reg_item.list ∨ record.handler = .appending module_id

/-- The map and the lists mirror each other at the granularity of the critical
sections, and a stopped receiver does not handle anything. -/
structure Proxy.Mirrored (p : Proxy) : Prop where
  live : ∀ module_id c, p.g_proxy_reg_map.lookup module_id = some c → p.connections.Live c
  entry_iff : ∀ module_id c, p.g_proxy_reg_map.lookup module_id = some c ↔ (p.connection c).Claims module_id
  stopped : ∀ c, (p.connection c).reg_item.closed = true → (p.connection c).handler = .receiving

/-- A handler that inserts its module in the map finds it still absent: no other
connection has registered the module since the handler looked it up. -/
def Unraced (p : Proxy) : ProxyEvent → Prop
  | .insert c => ∀ src_id ∈ (p.connection c).handler.entering, p.g_proxy_reg_map.lookup src_id = none
  | _ => True

instance (p : Proxy) : DecidablePred (Unraced p)
  | .insert c => Option.decidableForallMem (p.connection c).handler.entering
  | .connect | .client _ _ | .lookup _ | .append _ | .answer _ _ | .remove _ | .stop _ | .unreg _ => .isTrue trivial

namespace Proxy

theorem Mirrored.init : Mirrored .init where
  live module_id c hentry := by simp [Proxy.init] at hentry
  entry_iff module_id c := by
    simp [Proxy.init, Proxy.connection, Heap.get, Heap.empty, Claims, default]
  stopped c hclosed := rfl

variable {c : ConnectionPtr} {p next : Proxy} {record : Connection}

theorem Mirrored.setConnection {p : Proxy} (h : p.Mirrored)
    (hclaims : ∀ module_id, record.Claims module_id ↔ (p.connection c).Claims module_id)
    (hstopped : record.reg_item.closed = true → record.handler = .receiving) :
    (p.setConnection c record).Mirrored where
  live := h.live
  entry_iff module_id other := by
    rw [setConnection_reg_map, connection_setConnection, h.entry_iff]
    split
    · rename_i heq
      rw [hclaims, heq]
    · rfl
  stopped other hclosed := by
    rw [connection_setConnection] at hclosed ⊢
    split
    · rename_i heq
      rw [if_pos heq] at hclosed
      exact hstopped hclosed
    · rename_i hne
      rw [if_neg hne] at hclosed
      exact h.stopped other hclosed

theorem Mirrored.exclusive {p : Proxy} (h : p.Mirrored) {module_id : UInt32} {c other : ConnectionPtr}
    (hc : (p.connection c).Claims module_id) (hother : (p.connection other).Claims module_id) : c = other := by
  have hentry := (h.entry_iff module_id c).mpr hc
  rw [(h.entry_iff module_id other).mpr hother] at hentry
  exact (Option.some.inj hentry).symm

theorem Mirrored.connect {p : Proxy} (h : p.Mirrored) :
    Mirrored { p with connections := p.connections.alloc .create } where
  live module_id c hentry := (h.live module_id c hentry).alloc _
  entry_iff module_id c := by
    by_cases hfresh : c = p.connections.fresh
    · subst hfresh
      have hnone : p.g_proxy_reg_map.lookup module_id ≠ some p.connections.fresh :=
        fun hentry => Heap.ne_fresh (h.live _ _ hentry) rfl
      simp [hnone, Proxy.connection, Claims, create]
    · change _ ↔ ((p.connections.alloc create).get c).Claims module_id
      rw [Heap.get_alloc_ne _ _ hfresh]
      exact h.entry_iff module_id c
  stopped c hclosed := by
    by_cases hfresh : c = p.connections.fresh
    · subst hfresh
      simp [Proxy.connection, create]
    · change ((p.connections.alloc create).get c).handler = .receiving
      change ((p.connections.alloc create).get c).reg_item.closed = true at hclosed
      rw [Heap.get_alloc_ne _ _ hfresh] at hclosed ⊢
      exact h.stopped c hclosed

theorem Mirrored.client {p : Proxy} (h : p.Mirrored)
    (hsame : (p.connection c).SameItem record) : (p.setConnection c record).Mirrored := by
  obtain ⟨hitem, hhandler, -, -⟩ := hsame
  refine h.setConnection (fun module_id => ?_) ?_
  · rw [Claims, Claims, hitem, hhandler]
  · rw [hitem, hhandler]
    exact h.stopped c

theorem Mirrored.lookup (h : p.Mirrored) (hnext : p.register_lookup c = some next) : next.Mirrored := by
  obtain ⟨src_id, requests, hhandler, -, hopen, ⟨found, -, rfl⟩ | ⟨-, rfl⟩⟩ := register_lookup_eq_some hnext
  · refine h.setConnection (fun module_id => ?_) ?_
    · simp [Claims, hhandler]
    · simp [hopen]
  · refine h.setConnection (fun module_id => ?_) ?_
    · simp [Claims, hhandler]
    · simp [hopen]

theorem Mirrored.insert (h : p.Mirrored) (hlive : p.connections.Live c)
    (hunraced : Unraced p (.insert c)) (hnext : p.register_insert c = some next) : next.Mirrored := by
  obtain ⟨src_id, hhandler, rfl⟩ := register_insert_eq_some hnext
  have hnone := hunraced src_id (by simp [hhandler, Handler.entering])
  have hopen : (p.connection c).reg_item.closed = false := by
    by_contra hclosed
    have hidle := h.stopped c (by simpa using hclosed)
    rw [hhandler] at hidle
    cases hidle
  have hlookup : ∀ module_id other, (p.g_proxy_reg_map.insertNew src_id c).lookup module_id = some other ↔
      (module_id = src_id ∧ other = c) ∨ (module_id ≠ src_id ∧ p.g_proxy_reg_map.lookup module_id = some other) := by
    intro module_id other
    rw [insertNew_of_none c hnone, lookup_insert_eq_some]
  constructor
  · intro module_id other hentry
    rcases (hlookup module_id other).mp hentry with ⟨-, rfl⟩ | ⟨-, hold⟩
    · exact hlive
    · exact h.live module_id other hold
  · intro module_id other
    rw [setConnection_reg_map, hlookup, connection_setConnection, h.entry_iff]
    by_cases hother : other = c
    · subst hother
      have hunclaimed : ¬(p.connection other).Claims src_id := by
        rw [← h.entry_iff, hnone]
        simp
      by_cases hmodule : module_id = src_id
      · subst hmodule
        simp [Claims]
      · simp [Claims, hhandler, hmodule, Ne.symm hmodule]
    · have hfree : ¬(p.connection other).Claims src_id := by
        rw [← h.entry_iff, hnone]
        simp
      rw [if_neg hother]
      constructor
      · rintro (⟨-, heq⟩ | ⟨-, hclaims⟩)
        · exact absurd heq hother
        · exact hclaims
      · intro hclaims
        refine .inr ⟨?_, hclaims⟩
        rintro rfl
        exact hfree hclaims
  · intro other hclosed
    rw [connection_setConnection] at hclosed ⊢
    by_cases hother : other = c
    · rw [if_pos hother] at hclosed
      rw [hopen] at hclosed
      cases hclosed
    · rw [if_neg hother] at hclosed ⊢
      exact h.stopped other hclosed

theorem Mirrored.append (h : p.Mirrored) (hnext : p.register_append c = some next) : next.Mirrored := by
  obtain ⟨src_id, hhandler, rfl⟩ := register_append_eq_some hnext
  refine h.setConnection (fun module_id => ?_) ?_
  · simp [Claims, hhandler, eq_comm]
  · intro hclosed
    have hidle := h.stopped c hclosed
    rw [hhandler] at hidle
    cases hidle

theorem Mirrored.answer (h : p.Mirrored) {sent : Bool}
    (hnext : p.register_answer c sent = some next) : next.Mirrored := by
  obtain ⟨src_id, result, array, replies, hhandler, -, rfl⟩ := register_answer_eq_some hnext
  have hsame : Mirrored { p with g_registered_module_array := array } := ⟨h.live, h.entry_iff, h.stopped⟩
  refine hsame.setConnection (fun module_id => ?_) (fun _ => rfl)
  change _ ↔ (p.connection c).Claims module_id
  simp [Claims, hhandler]

theorem Mirrored.remove (h : p.Mirrored) (hnext : p.pair_disconnect_cb c = some next) : next.Mirrored := by
  cases pair_disconnect_cb_eq_some hnext
  exact h.setConnection (fun module_id => Iff.rfl) (h.stopped c)

theorem Mirrored.stop (h : p.Mirrored) (hnext : p.unreg_cb_stop c = some next) : next.Mirrored := by
  obtain ⟨-, hhandler, rfl⟩ := unreg_cb_stop_eq_some hnext
  exact h.setConnection (fun module_id => Iff.rfl) (fun _ => hhandler)

theorem Mirrored.unreg_entry (h : p.Mirrored)
    (hnext : p.unreg_cb c = some next) (module_id : UInt32) (other : ConnectionPtr) :
    next.g_proxy_reg_map.lookup module_id = some other ↔
      other ≠ c ∧ p.g_proxy_reg_map.lookup module_id = some other := by
  obtain ⟨-, hclosed, rfl⟩ := unreg_cb_eq_some hnext
  refine lookup_foldl_erase_eq_some.trans ?_
  have hidle := h.stopped c hclosed
  constructor
  · rintro ⟨habsent, hentry⟩
    refine ⟨?_, hentry⟩
    rintro rfl
    rcases (h.entry_iff module_id other).mp hentry with hmem | happending
    · exact habsent hmem
    · rw [hidle] at happending
      cases happending
  · rintro ⟨hne, hentry⟩
    refine ⟨fun hmem => hne ?_, hentry⟩
    exact h.exclusive ((h.entry_iff module_id other).mp hentry) (.inl hmem)

theorem Mirrored.unreg (h : p.Mirrored) (hnext : p.unreg_cb c = some next) : next.Mirrored := by
  have hentry := h.unreg_entry hnext
  obtain ⟨-, hclosed, hrecord⟩ := unreg_cb_eq_some hnext
  have hidle := h.stopped c hclosed
  have hconnection : ∀ other, next.connection other =
      if other = c then
        { p.connection c with
          reg_item := { (p.connection c).reg_item with list := [] }
          unreg_due := false }
      else p.connection other := by
    intro other
    rw [hrecord, connection_setConnection]
    rfl
  constructor
  · intro module_id other hlookup
    rw [hrecord]
    exact h.live module_id other ((hentry module_id other).mp hlookup).2
  · intro module_id other
    rw [hentry, hconnection, h.entry_iff]
    by_cases hother : other = c
    · simp [hother, Claims, hidle]
    · simp [hother]
  · intro other hother
    rw [hconnection] at hother ⊢
    split
    · exact hidle
    · rename_i hne
      rw [if_neg hne] at hother
      exact h.stopped other hother

theorem Mirrored.step {event : ProxyEvent} (h : p.Mirrored) (hunraced : Unraced p event)
    (hnext : p.step event = some next) : next.Mirrored := by
  cases event with
  | connect =>
    cases hnext
    exact h.connect
  | client c event =>
    obtain ⟨record, hrecord, rfl⟩ := step_client_eq_some hnext
    exact h.client (client_sameItem hrecord)
  | lookup c => exact h.lookup (on_eq_some.mp hnext).2
  | insert c =>
    obtain ⟨hlive, hinsert⟩ := on_eq_some.mp hnext
    exact h.insert hlive hunraced hinsert
  | append c => exact h.append (on_eq_some.mp hnext).2
  | answer c sent => exact h.answer (step_answer_eq_some hnext)
  | remove c => exact h.remove (on_eq_some.mp hnext).2
  | stop c => exact h.stop (on_eq_some.mp hnext).2
  | unreg c => exact h.unreg (on_eq_some.mp hnext).2

end Proxy

def Handler.Settled : Handler → Prop
  | .receiving | .answering _ _ => True
  | .inserting _ | .appending _ => False

/-- While no handler is between its critical sections, the map has exactly the
entries of the lists and no module is in two lists; and the unregistration of a
connection leaves every entry that points to another one. -/
structure Proxy.TableConsistent (p : Proxy) : Prop where
  mirror : (∀ c, (p.connection c).handler.Settled) → ∀ module_id c,
    p.g_proxy_reg_map.lookup module_id = some c ↔ module_id ∈ (p.connection c).reg_item.list
  exclusive : (∀ c, (p.connection c).handler.Settled) → ∀ module_id c other,
    module_id ∈ (p.connection c).reg_item.list → module_id ∈ (p.connection other).reg_item.list → c = other
  unreg_own : ∀ c next, p.step (.unreg c) = some next → ∀ module_id other, other ≠ c →
    p.g_proxy_reg_map.lookup module_id = some other → next.g_proxy_reg_map.lookup module_id = some other

theorem Proxy.Mirrored.tableConsistent {p : Proxy} (h : p.Mirrored) : p.TableConsistent := by
  refine ⟨fun hsettled module_id c => ?_, fun _ module_id c other hc hother => ?_, ?_⟩
  · have hnot : (p.connection c).handler ≠ .appending module_id := by
      intro happending
      have hc := hsettled c
      rw [happending] at hc
      exact hc
    rw [h.entry_iff, Claims, or_iff_left hnot]
  · exact h.exclusive (.inl hc) (.inl hother)
  · intro c next hnext module_id other hne hentry
    exact (h.unreg_entry (Proxy.on_eq_some.mp hnext).2 module_id other).mpr ⟨hne, hentry⟩

/-- The table stays consistent as long as no two connections register one module
at the same time. -/
theorem table_consistent_of_unraced {labels : List ProxyEvent} (hmeets : Meets Proxy.step Unraced .init labels) :
    Throughout Proxy.step Proxy.TableConsistent .init labels :=
  hmeets.throughout Proxy.Mirrored (fun _ _ _ h hunraced hnext => h.step hunraced hnext)
    (fun _ h => h.tableConsistent) .init

/-- A client with one module registers it, and so does another client with another
module; then the first client goes away. -/
def separateRegistrations : List ProxyEvent :=
  [.connect, .connect, .client ⟨0⟩ (.start 1), .client ⟨1⟩ (.start 2), .client ⟨0⟩ (.send 1 true),
    .client ⟨1⟩ (.send 2 true), .lookup ⟨0⟩, .lookup ⟨1⟩, .insert ⟨1⟩, .insert ⟨0⟩, .append ⟨0⟩, .append ⟨1⟩,
    .answer ⟨0⟩ true, .answer ⟨1⟩ true, .remove ⟨0⟩, .stop ⟨0⟩, .unreg ⟨0⟩]

theorem table_consistent_of_separate :
    (proxyRun separateRegistrations).isSome ∧
      Throughout Proxy.step Proxy.TableConsistent .init separateRegistrations :=
  ⟨by decide, table_consistent_of_unraced (by decide)⟩

/-- Two clients register the same module. Both handlers look it up before either
inserts it; then the second client goes away. -/
def racedRegistration : List ProxyEvent :=
  [.connect, .connect, .client ⟨0⟩ (.start 1), .client ⟨1⟩ (.start 1), .client ⟨0⟩ (.send 1 true),
    .client ⟨1⟩ (.send 1 true), .lookup ⟨0⟩, .lookup ⟨1⟩, .insert ⟨0⟩, .insert ⟨1⟩, .append ⟨0⟩, .append ⟨1⟩,
    .answer ⟨0⟩ true, .answer ⟨1⟩ true, .remove ⟨1⟩, .stop ⟨1⟩]

/-- The module ends up in both lists, and the unregistration of the second client
removes the entry that points to the first. -/
theorem table_inconsistent_after_race : ∃ p next, proxyRun racedRegistration = some p ∧
    (∀ c, (p.connection c).handler.Settled) ∧
    1 ∈ (p.connection ⟨0⟩).reg_item.list ∧ 1 ∈ (p.connection ⟨1⟩).reg_item.list ∧
    p.g_proxy_reg_map.lookup 1 = some ⟨0⟩ ∧
    p.step (.unreg ⟨1⟩) = some next ∧ next.g_proxy_reg_map.lookup 1 = none := by
  refine ⟨_, _, rfl, ?_, by decide, by decide, by decide, rfl, by decide⟩
  rintro ⟨_ | _ | addr⟩
  · trivial
  · trivial
  · trivial

end hub.nng_long
