import Hub.LocalRegistry.Daemon

namespace hub.local_registry

open Str

/-- The room for a socket address in its arrays, and the size of `sun_path`. -/
def LOCAL_REGISTRY_SOCKET_LEN_MAX : Nat := 108

def SOCKET_PATH_PREFIX : Str := ['/', 't', 'm', 'p', '/']

/-- `LOCAL_REGISTEY_SOCKET_FMT`, the address from which a client process talks to
the daemon. -/
def LOCAL_REGISTEY_SOCKET_FMT (client_pid : Nat) (client_name : Str) : Str :=
  SOCKET_PATH_PREFIX ++ Nat.toDigits 10 client_pid ++ ['-'] ++ client_name ++ ['.', 'i', 'p', 'c']

section Address

variable {client_pid : Nat} {client_name : Str}

theorem not_mem_toDigits {c : Char} (hc : c.toNat < 48) (n : Nat) : c ∉ Nat.toDigits 10 n :=
  fun hmem => ne_of_isDigit (Nat.isDigit_of_mem_toDigits (by decide) (by decide) hmem) hc rfl

theorem parse_localaddr_append {before pid_str name rest : Str} (hslash : '/' ∉ pid_str ++ '-' :: (name ++ '.' :: rest))
    (hdash : '-' ∉ pid_str) (hdot : '.' ∉ name) :
    parse_localaddr (before ++ '/' :: (pid_str ++ '-' :: (name ++ '.' :: rest))) =
      match pid_str.stoi with
      | none => .throws
      | some client_pid => .parsed client_pid name := by
  let addr := before ++ '/' :: (pid_str ++ '-' :: (name ++ '.' :: rest))
  have hpid : addr = (before ++ ['/']) ++ (pid_str ++ '-' :: (name ++ '.' :: rest)) := by simp [addr]
  have hname : addr = (before ++ '/' :: (pid_str ++ ['-'])) ++ (name ++ '.' :: rest) := by simp [addr]
  have hpid_length : (before ++ ['/']).length = before.length + 1 := by simp
  have hname_length : (before ++ '/' :: (pid_str ++ ['-'])).length = before.length + 1 + pid_str.length + 1 := by
    simp only [List.length_append, List.length_cons, List.length_nil]
    omega
  have hrfind : addr.rfind '/' = some before.length := rfind_append hslash
  have hfind : addr.find '-' (before.length + 1) = some (before.length + 1 + pid_str.length) := by
    rw [hpid, ← hpid_length]
    exact find_append hdash
  have hfind' : addr.find '.' (before.length + 1 + pid_str.length + 1) =
      some (before.length + 1 + pid_str.length + 1 + name.length) := by
    rw [hname, ← hname_length]
    exact find_append hdot
  have hsubstr : addr.substr (before.length + 1) pid_str.length = pid_str := by
    rw [hpid, ← hpid_length]
    exact substr_append
  have hsubstr' : addr.substr (before.length + 1 + pid_str.length + 1) name.length = name := by
    rw [hname, ← hname_length]
    exact substr_append
  change parse_localaddr addr = _
  cases hstoi : pid_str.stoi <;>
    simp only [parse_localaddr, hrfind, succNpos, hfind, hfind', Nat.add_sub_cancel_left, hsubstr, hsubstr', hstoi]

theorem parse_localaddr_fmt_stem (hpid : client_pid ≤ 2147483647) (hslash : '/' ∉ client_name) :
    parse_localaddr (LOCAL_REGISTEY_SOCKET_FMT client_pid client_name) = .parsed client_pid (stem client_name) := by
  have hdigits : '/' ∉ Nat.toDigits 10 client_pid := not_mem_toDigits (by decide) client_pid
  have hname : '/' ∉ stem client_name := fun hmem => hslash (mem_of_mem_stem hmem)
  obtain ⟨rest, hcut, hrest⟩ : ∃ rest, client_name ++ ['.', 'i', 'p', 'c'] = stem client_name ++ '.' :: rest ∧
      '/' ∉ rest := by
    by_cases hmem : '.' ∈ client_name
    · obtain ⟨first, rest, rfl, hfirst⟩ := List.eq_append_cons_of_mem hmem
      refine ⟨rest ++ ['.', 'i', 'p', 'c'], by simp [stem_append hfirst], ?_⟩
      simp only [List.mem_append, List.mem_cons, not_or] at hslash
      simp [hslash.2.2]
    · exact ⟨['i', 'p', 'c'], by rw [stem_eq_self_iff.mpr hmem], by decide⟩
  have haddr : LOCAL_REGISTEY_SOCKET_FMT client_pid client_name =
      ['/', 't', 'm', 'p'] ++ '/' :: (Nat.toDigits 10 client_pid ++ '-' :: (stem client_name ++ '.' :: rest)) := by
    rw [← hcut]
    simp [LOCAL_REGISTEY_SOCKET_FMT, SOCKET_PATH_PREFIX]
  rw [haddr, parse_localaddr_append (by simp [hdigits, hname, hrest]) (not_mem_toDigits (by decide) client_pid)
    dot_not_mem_stem, stoi_toDigits hpid]

theorem parse_localaddr_fmt (hpid : client_pid ≤ 2147483647) (hslash : '/' ∉ client_name) (hdot : '.' ∉ client_name) :
    parse_localaddr (LOCAL_REGISTEY_SOCKET_FMT client_pid client_name) = .parsed client_pid client_name := by
  rw [parse_localaddr_fmt_stem hpid hslash, stem_eq_self_iff.mpr hdot]

end Address

/-- A connection of a client process to the daemon. -/
structure Peer where
  id : UInt32
  client_pid : Nat
  client_name : Str

namespace Peer

variable (peer : Peer)

def channel : SocketChannel where
  id := peer.id
  peeraddr := LOCAL_REGISTEY_SOCKET_FMT peer.client_pid peer.client_name

def item : StLocalClientItem where
  client_id := 0
  client_pid := peer.client_pid
  client_name := peer.client_name
  client_status := LocalClientStatus.ONLINE.toUInt32

/-- The connection is opened, in the plain environment as all events below. -/
def connects : Env × Event := (.plain, .connect peer.channel)

def closes : Env × Event := (.plain, .close peer.id)

def registers (reg : Bool) (produce_services : List StLocalServiceItem) : Env × Event :=
  (.plain, .message peer.channel (.register_service
    { produce_services := produce_services, provider_client := some peer.item, reg := reg }))

def listens (reg : Bool) (listen_services : List StLocalServiceItem) : Env × Event :=
  (.plain, .message peer.channel (.listen_service
    { listen_services := listen_services, listener_client := some peer.item, reg := reg }))

def setsStatus (services : List StLocalServiceItem) : Env × Event :=
  (.plain, .message peer.channel (.service_set_status
    { services := services, provider_client := some peer.item }))

section Plain

variable (reg : Bool) (services : List StLocalServiceItem)

@[simp] theorem connects_fst : peer.connects.1 = .plain := rfl

@[simp] theorem closes_fst : peer.closes.1 = .plain := rfl

@[simp] theorem registers_fst : (peer.registers reg services).1 = .plain := rfl

@[simp] theorem listens_fst : (peer.listens reg services).1 = .plain := rfl

@[simp] theorem setsStatus_fst : (peer.setsStatus services).1 = .plain := rfl

end Plain

end Peer

end hub.local_registry
