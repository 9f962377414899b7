import Hub.LocalRegistry.Connection

namespace hub.local_registry

open LocalRegistry Str

/-- A client process, with a pid of Linux and a name that fits the `client_name` array of
`ipc_hv_soa_init` and is no path. -/
structure ClientProcess where
  client_pid : Nat
  client_name : Str
  pid_le : client_pid ≤ 2147483647
  name_ne_nil : client_name ≠ []
  name_fits : client_name.length < LOCAL_REGISTRY_CLIENT_NAME_MAX
  no_slash : '/' ∉ client_name

namespace ClientProcess

variable (process : ClientProcess)

def client_localaddr : Str :=
  snprintf LOCAL_REGISTRY_SOCKET_LEN_MAX (LOCAL_REGISTEY_SOCKET_FMT process.client_pid process.client_name)

theorem client_localaddr_eq :
    process.client_localaddr = LOCAL_REGISTEY_SOCKET_FMT process.client_pid process.client_name := by
  have hpid := process.pid_le
  have hdigits : (Nat.toDigits 10 process.client_pid).length ≤ 10 :=
    (Nat.length_toDigits_le_iff (by decide) (by decide)).mpr (by omega)
  have hname := process.name_fits
  apply List.take_of_length_le
  simp only [LOCAL_REGISTEY_SOCKET_FMT, SOCKET_PATH_PREFIX, LOCAL_REGISTRY_SOCKET_LEN_MAX, List.length_append,
    List.length_cons, List.length_nil]
  unfold LOCAL_REGISTRY_CLIENT_NAME_MAX at hname
  omega

theorem parse_client_localaddr :
    parse_localaddr process.client_localaddr = .parsed process.client_pid (stem process.client_name) := by
  rw [client_localaddr_eq]
  exact parse_localaddr_fmt_stem process.pid_le process.no_slash

end ClientProcess

/-- The record that `add_client` finds under the name in an address. -/
def LocalRegistry.recordOf (r : LocalRegistry) (peeraddr : Str) : Option ClientPtr :=
  (parse_localaddr peeraddr).client_name.bind r.m_clients_by_name.lookup

theorem strstr_ctrl_eq_false {body : Str} (hdot : '.' ∉ body) :
    (body ++ ['.']).strstr LOCAL_REGISTRY_CTRL_SOCKET_FILE = false := by
  rw [Bool.eq_false_iff]
  intro hfound
  obtain ⟨rest, htail, hprefix⟩ := List.any_eq_true.mp hfound
  obtain ⟨front, hfront⟩ := (List.mem_tails _ _).mp htail
  obtain ⟨behind, hbehind⟩ := List.isPrefixOf_iff_prefix.mp hprefix
  -- the file name has a dot before its last characters, so the body would have one
  have hbody : body = (front ++ (LOCAL_REGISTRY_CTRL_SOCKET_FILE ++ behind)).dropLast := by
    rw [hbehind, hfront, List.dropLast_concat]
  have hmem : '.' ∈ (LOCAL_REGISTRY_CTRL_SOCKET_FILE ++ behind).dropLast := by
    cases behind with
    | nil => decide
    | cons c behind =>
      rw [List.dropLast_append_of_ne_nil (List.cons_ne_nil c behind)]
      exact List.mem_append_left _ (by decide)
  rw [List.dropLast_append_of_ne_nil (by simp [LOCAL_REGISTRY_CTRL_SOCKET_FILE])] at hbody
  exact hdot (hbody ▸ List.mem_append_right _ hmem)

theorem exists_record {name : Str} (hslash : '/' ∉ name) (hdot : '.' ∉ name) :
    ∃ labels r c, daemonRun labels = some r ∧ r.m_clients_by_name.lookup name = some c := by
  let channel : SocketChannel := ⟨1, ([] ++ '/' :: (['1'] ++ '-' :: name)) ++ ['.']⟩
  have hctrl : channel.peeraddr.strstr LOCAL_REGISTRY_CTRL_SOCKET_FILE = false :=
    strstr_ctrl_eq_false (by simp [hdot])
  have hparse : parse_localaddr channel.peeraddr = .parsed 1 name := by
    have hcut : channel.peeraddr = [] ++ '/' :: (['1'] ++ '-' :: (name ++ '.' :: [])) := by simp [channel]
    rw [hcut, parse_localaddr_append (by simp [hslash]) (by decide) hdot]
    rfl
  have hnew : init.m_clients_by_name.lookup name = none := rfl
  have hrun : daemonRun [(.plain, .connect channel)] = some _ :=
    run_cons_eq_some.mpr ⟨_, step_connect_new hctrl hparse hnew, rfl⟩
  refine ⟨_, _, init.clients.fresh, hrun, ?_⟩
  have hlookup : (init.m_clients_by_name.insertNew name init.clients.fresh).lookup name = _ :=
    UnorderedMap.lookup_insertNew_self ..
  rw [hnew] at hlookup
  exact hlookup

theorem parse_localaddr_throws_iff (peeraddr : Str) :
    parse_localaddr peeraddr = .throws ↔
      ∃ before pid_str name rest, peeraddr = before ++ '/' :: (pid_str ++ '-' :: (name ++ '.' :: rest)) ∧
        '/' ∉ pid_str ++ '-' :: (name ++ '.' :: rest) ∧ '-' ∉ pid_str ∧ '.' ∉ name ∧ ¬IsInt pid_str := by
  constructor
  · intro hthrows
    -- each of the three searches must succeed, which cuts the address once more
    by_cases hslash : '/' ∈ peeraddr
    swap
    · simp [parse_localaddr, rfind_eq_none hslash] at hthrows
    obtain ⟨before, file, rfl, hfile⟩ := eq_append_cons_of_mem_last hslash
    have hrfind : (before ++ '/' :: file).rfind '/' = some before.length := rfind_append hfile
    by_cases hdash : '-' ∈ file
    swap
    · have hfind : (before ++ '/' :: file).find '-' (before.length + 1) = none := by
        have hnone := @find_append_eq_none '-' (before ++ ['/']) file hdash
        simpa using hnone
      simp [parse_localaddr, hrfind, succNpos, hfind] at hthrows
    obtain ⟨pid_str, file, rfl, hpid⟩ := List.eq_append_cons_of_mem hdash
    have hfind : (before ++ '/' :: (pid_str ++ '-' :: file)).find '-' (before.length + 1) =
        some (before.length + 1 + pid_str.length) := by
      have hsome := @find_append '-' (before ++ ['/']) pid_str file hpid
      simpa using hsome
    by_cases hdot : '.' ∈ file
    swap
    · have hfind' : (before ++ '/' :: (pid_str ++ '-' :: file)).find '.' (before.length + 1 + pid_str.length + 1) =
          none := by
        have hnone := @find_append_eq_none '.' (before ++ '/' :: (pid_str ++ ['-'])) file hdot
        have hlength : (before ++ '/' :: (pid_str ++ ['-'])).length = before.length + 1 + pid_str.length + 1 := by
          simp only [List.length_append, List.length_cons, List.length_nil]
          omega
        rw [hlength] at hnone
        simpa using hnone
      simp [parse_localaddr, hrfind, succNpos, hfind, hfind'] at hthrows
    obtain ⟨name, rest, rfl, hname⟩ := List.eq_append_cons_of_mem hdot
    refine ⟨before, pid_str, name, rest, rfl, hfile, hpid, hname, fun hint => ?_⟩
    obtain ⟨client_pid, hstoi⟩ := Option.isSome_iff_exists.mp ((stoi_isSome_iff pid_str).mpr hint)
    rw [parse_localaddr_append hfile hpid hname, hstoi] at hthrows
    cases hthrows
  · rintro ⟨before, pid_str, name, rest, rfl, hfile, hpid, hname, hint⟩
    have hstoi : stoi pid_str = none := by
      rw [← Option.not_isSome_iff_eq_none, stoi_isSome_iff]
      exact hint
    rw [parse_localaddr_append hfile hpid hname, hstoi]

theorem LocalRegistry.add_client_isSome_iff (r : LocalRegistry) (channel : SocketChannel) :
    (r.add_client channel).isSome = true ↔ parse_localaddr channel.peeraddr ≠ .throws := by
  unfold add_client
  cases parse_localaddr channel.peeraddr with
  | invalid | throws => simp
  | parsed client_pid client_name =>
    dsimp only
    split
    · split <;> simp
    · simp

/-- A process's own pid and name are read back from its address exactly when its name has
no dot, two processes with different names never share a record exactly when the parts
before the first dot differ, and `add_client` throws on no address exactly when a
number stands where the pid belongs. -/
theorem client_address_round_trip_iff (process other : ClientProcess) (r : LocalRegistry) (channel : SocketChannel) :
    (parse_localaddr process.client_localaddr = .parsed process.client_pid process.client_name ↔
      '.' ∉ process.client_name) ∧
    (process.client_name ≠ other.client_name →
      ((∀ labels r c, daemonRun labels = some r → r.recordOf process.client_localaddr = some c →
        r.recordOf other.client_localaddr ≠ some c) ↔
        Str.stem process.client_name ≠ Str.stem other.client_name)) ∧
    ((r.add_client channel).isSome = true ↔
      ∀ before pid_str name rest, channel.peeraddr = before ++ '/' :: (pid_str ++ '-' :: (name ++ '.' :: rest)) →
        '/' ∉ pid_str ++ '-' :: (name ++ '.' :: rest) → '-' ∉ pid_str → '.' ∉ name → Str.IsInt pid_str) := by
  refine ⟨?_, fun _ => ?_, ?_⟩
  · rw [process.parse_client_localaddr, ← stem_eq_self_iff]
    simp
  · simp only [recordOf, ClientProcess.parse_client_localaddr]
    constructor
    · intro hnever hstem
      have hslash : '/' ∉ stem process.client_name :=
        fun hmem => process.no_slash (mem_of_mem_stem hmem)
      obtain ⟨labels, r, c, hrun, hlookup⟩ := exists_record hslash dot_not_mem_stem
      exact hnever labels r c hrun hlookup (hstem ▸ hlookup)
    · intro hstem labels r c hrun hlookup hother
      exact hstem ((daemonRun_wellFormed hrun).name_inj hlookup hother)
  · rw [r.add_client_isSome_iff, Ne, parse_localaddr_throws_iff]
    constructor
    · intro hnone before pid_str name rest haddr hslash hdash hdot
      by_contra hint
      exact hnone ⟨before, pid_str, name, rest, haddr, hslash, hdash, hdot, hint⟩
    · rintro hall ⟨before, pid_str, name, rest, haddr, hslash, hdash, hdot, hint⟩
      exact hint (hall before pid_str name rest haddr hslash hdash hdot)

def dashed : ClientProcess where
  client_pid := 1
  client_name := ['a', '-', 'b']
  pid_le := by decide
  name_ne_nil := List.cons_ne_nil _ _
  name_fits := by decide
  no_slash := by decide

theorem dashed_name_read_back : parse_localaddr dashed.client_localaddr = .parsed 1 ['a', '-', 'b'] :=
  (client_address_round_trip_iff dashed dashed .init ⟨1, []⟩).1.mpr (by decide)

def dotted (c : Char) (hc : c ≠ '/') : ClientProcess where
  client_pid := 1
  client_name := ['a', '.', c]
  pid_le := by decide
  name_ne_nil := List.cons_ne_nil _ _
  name_fits := by simp [LOCAL_REGISTRY_CLIENT_NAME_MAX]
  no_slash := by simp [hc.symm]

def addressWithoutPid : Str := ['/', 't', 'm', 'p', '/', 'x', '-', 'a', '.', 'i', 'p', 'c']

/-- The name `a.b` is read back as `a`, the clients `a.b` and `a.c` get one record, and an
address without a pid ends the daemon. -/
theorem dotted_names_collide :
    parse_localaddr (dotted 'b' (by decide)).client_localaddr = .parsed 1 ['a'] ∧
    (∃ r c, daemonRun [(.plain, .connect ⟨1, (dotted 'b' (by decide)).client_localaddr⟩)] = some r ∧
      r.recordOf (dotted 'b' (by decide)).client_localaddr = some c ∧
      r.recordOf (dotted 'c' (by decide)).client_localaddr = some c) ∧
    daemonRun [(.plain, .connect ⟨1, addressWithoutPid⟩)] = none := by
  refine ⟨by decide +kernel, ⟨_, _, rfl, rfl, rfl⟩, by decide +kernel⟩

end hub.local_registry
