import Hub.LocalRegistry.Connection

namespace hub.local_registry

open UnorderedMap

def Peer.numbered (k : Nat) : Peer where
  id := UInt32.ofNat (k + 1)
  client_pid := k
  client_name := Nat.toDigits 10 k

namespace Peer

variable {k : Nat}

theorem numbered_parse (hk : k ≤ 2147483647) :
    parse_localaddr (numbered k).channel.peeraddr = .parsed k (numbered k).client_name :=
  parse_localaddr_fmt hk (not_mem_toDigits (by decide) k) (not_mem_toDigits (by decide) k)

theorem numbered_not_ctrl (k : Nat) :
    (numbered k).channel.peeraddr.strstr LOCAL_REGISTRY_CTRL_SOCKET_FILE = false := by
  have hdigits : 'l' ∉ Nat.toDigits 10 k := by
    intro hmem
    have hdigit := Nat.isDigit_of_mem_toDigits (by decide) (by decide) hmem
    exact absurd hdigit (by decide)
  apply Str.strstr_eq_false (c := 'l') (by decide)
  simp [Peer.channel, Peer.numbered, LOCAL_REGISTEY_SOCKET_FMT, SOCKET_PATH_PREFIX, hdigits]

theorem numbered_name_inj {j k : Nat} (hname : Nat.toDigits 10 j = Nat.toDigits 10 k) : j = k :=
  calc
    j = Nat.ofDigitChars 10 (Nat.toDigits 10 j) 0 := Nat.ofDigitChars_ten_toDigits.symm
    _ = Nat.ofDigitChars 10 (Nat.toDigits 10 k) 0 := by rw [hname]
    _ = k := Nat.ofDigitChars_ten_toDigits

end Peer

namespace LocalRegistry

/-- A state that the daemon reaches, in which the clients are the processes below `n` and
all of them listen to one service. -/
structure Crowd (s : UInt32) (n : Nat) (r : LocalRegistry) : Prop where
  reached : ∃ labels, daemonRun labels = some r
  numbered : r.Numbered
  names : ∀ {name c}, r.m_clients_by_name.lookup name = some c → ∃ k < n, name = Nat.toDigits 10 k
  names_length : r.m_clients_by_name.keys.length = n
  listeners_length : (r.listeners s).keys.length = n

variable {s : UInt32} {n : Nat} {r : LocalRegistry}

theorem Crowd.init (s : UInt32) : LocalRegistry.init.Crowd s 0 where
  reached := ⟨[], rfl⟩
  numbered := Tables.init_numbered
  names h := by cases h
  names_length := rfl
  listeners_length := rfl

def joined (r : LocalRegistry) (n : Nat) : LocalRegistry :=
  (r.accept (Peer.numbered n).channel).withTables
    ((r.accept (Peer.numbered n).channel).createClient (Peer.numbered n).channel n (Peer.numbered n).client_name)

section

variable (h : r.Crowd s n)

include h

theorem Crowd.new_name : r.m_clients_by_name.lookup (Peer.numbered n).client_name = none := by
  rw [Option.eq_none_iff_forall_ne_some]
  intro c hlookup
  obtain ⟨k, hk, hname⟩ := h.names hlookup
  have heq : n = k := Peer.numbered_name_inj hname
  omega

theorem Crowd.step_connects (hn : n ≤ 2147483647) :
    r.step (Peer.numbered n).connects = some (r.joined n) :=
  step_connect_new (Peer.numbered_not_ctrl n) (Peer.numbered_parse hn) h.new_name

theorem Crowd.lookup_joined :
    (r.joined n).m_clients_by_name.lookup (Peer.numbered n).client_name = some r.clients.fresh := by
  have hlookup : (r.m_clients_by_name.insertNew (Peer.numbered n).client_name r.clients.fresh).lookup
      (Peer.numbered n).client_name = _ := lookup_insertNew_self ..
  rw [h.new_name] at hlookup
  exact hlookup

theorem Crowd.wellFormed : r.WellFormed := by
  obtain ⟨labels, hrun⟩ := h.reached
  exact daemonRun_wellFormed hrun

theorem Crowd.keys_joined :
    (r.joined n).m_clients_by_name.keys = (Peer.numbered n).client_name :: r.m_clients_by_name.keys :=
  keys_insertNew_of_none _ h.new_name

theorem Crowd.numbered_joined (hn : n ≤ 2147483647) : (r.joined n).Numbered :=
  step_invariant Tables.Numbered (fun _ _ _ hallows hnumbered => hnumbered.perform hallows) h.wellFormed h.numbered
    (h.step_connects hn)

end

theorem reaches_joined (r : LocalRegistry) (n : Nat) :
    (r.joined n).Reaches r.clients.fresh (Peer.numbered n).id := by
  have hclient : (r.joined n).client r.clients.fresh = _ := Heap.get_alloc_fresh r.clients _
  refine ⟨by rw [hclient], (Peer.numbered n).channel, ?_, rfl⟩
  rw [Tables.channelOf, hclient]
  exact (getChannelById_accept r (Peer.numbered n).channel _).trans (if_pos rfl)

theorem Crowd.id_free (h : r.Crowd s n) (hn : n ≤ 2147483647) :
    (r.listeners s).lookup ((r.joined n).client r.clients.fresh).client_id = none := by
  have hwf : (r.joined n).WellFormed := step_wellFormed h.wellFormed (h.step_connects hn)
  have hroom : (r.joined n).m_clients_by_name.keys.length < 2 ^ 32 - 1 := by
    rw [h.keys_joined, List.length_cons, h.names_length]
    omega
  rw [Option.eq_none_iff_forall_ne_some]
  intro c hlookup
  have hold : r.clients.Live c := h.wellFormed.lookup_listeners_live hlookup
  have hid : ((r.joined n).client c).client_id = ((r.joined n).client r.clients.fresh).client_id :=
    hwf.lookup_listeners_id (s := s) hlookup
  have heq : c = r.clients.fresh :=
    (h.numbered_joined hn).id_inj hroom (hold.alloc _) (hwf.names_live h.lookup_joined) hid
  exact Heap.ne_fresh hold heq

theorem Crowd.next (h : r.Crowd s n) (hn : n ≤ 2147483647) : ∃ r' : LocalRegistry, r'.Crowd s (n + 1) := by
  have hjoin := h.step_connects hn
  have hwf : (r.joined n).WellFormed := step_wellFormed h.wellFormed hjoin
  let entry : StLocalServiceItem := ⟨s, LOCAL_SERVICE_TYPE_METHOD, LOCAL_SERVICE_STATUS_DEFAULT⟩
  obtain ⟨r', hlisten⟩ : ∃ r', (r.joined n).step ((Peer.numbered n).listens true [entry]) = some r' := ⟨_, rfl⟩
  have htables : r'.toTables = (r.joined n).listenTables true r.clients.fresh entry := by
    rw [step_tables hlisten]
    simp [Event.acts, Event.messageActs, Event.named, Peer.item, h.lookup_joined, Tables.perform]
  have hsame : Tables.SameClients (r.joined n).toTables r'.toTables := by
    rw [htables]
    exact .listenTables ..
  refine ⟨r', ⟨?_, (h.numbered_joined hn).sameClients hsame, ?_, ?_, ?_⟩⟩
  · obtain ⟨labels, hrun⟩ := h.reached
    exact ⟨labels ++ [(Peer.numbered n).connects, (Peer.numbered n).listens true [entry]],
      run_append_eq_some.mpr ⟨r, hrun, run_cons_eq_some.mpr ⟨_, hjoin, run_cons_eq_some.mpr ⟨_, hlisten, rfl⟩⟩⟩⟩
  · intro name c hlookup
    rw [hsame.names] at hlookup
    obtain hold | ⟨hname, -, -⟩ := lookup_insertNew_eq_some.mp hlookup
    · obtain ⟨k, hk, hname⟩ := h.names hold
      exact ⟨k, by omega, hname⟩
    · exact ⟨n, Nat.lt_succ_self n, hname⟩
  · rw [hsame.names, h.keys_joined, List.length_cons, h.names_length]
  · have hlisteners : r'.listeners s =
        (r.listeners s).insertNew ((r.joined n).client r.clients.fresh).client_id r.clients.fresh := by
      rw [htables, Tables.listeners_listenTables hwf, if_pos rfl, Tables.listenersAfter, if_pos rfl,
        Tables.listenedItem_listeners]
      rfl
    rw [hlisteners, keys_insertNew_of_none _ (h.id_free hn), List.length_cons, h.listeners_length]

theorem exists_crowd (s : UInt32) {n : Nat} (hn : n ≤ 2147483648) : ∃ r : LocalRegistry, r.Crowd s n := by
  induction n with
  | zero => exact ⟨_, .init s⟩
  | succ n ih =>
    obtain ⟨r, hr⟩ := ih (by omega)
    exact hr.next (by omega)

end LocalRegistry

end hub.local_registry
