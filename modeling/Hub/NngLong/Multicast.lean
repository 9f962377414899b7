import Hub.Lib.Words
import Hub.NngLong.Expiry
import Mathlib.Logic.Function.Basic

namespace hub.nng_long

open UnorderedMap

@[ext] structure McastDest where
  num : UInt32
  module_array : Vector UInt32 3
deriving DecidableEq

namespace McastDest

variable (dest : McastDest)

def modules : List UInt32 := dest.module_array.toList.take dest.num.toNat

def sizeof : Nat := 16

def bytes : List UInt8 := wordBytes (dest.num :: dest.module_array.toList)

/-- The structure that `memcpy` finds at the start of some bytes. -/
def ofBytes (bytes : List UInt8) : McastDest where
  num := readWord bytes 0
  module_array := Vector.ofFn fun i => readWord bytes (i.val + 1)

theorem length_bytes : dest.bytes.length = sizeof := by
  rw [bytes, length_wordBytes, List.length_cons, Vector.length_toList]
  rfl

theorem ofBytes_bytes (rest : List UInt8) : ofBytes (dest.bytes ++ rest) = dest := by
  ext i hi
  · exact congrArg UInt32.toNat (readWord_wordBytes rfl rest)
  · have hword : (dest.num :: dest.module_array.toList)[i + 1]? = some dest.module_array[i] := by
      simp [hi]
    simp [ofBytes, bytes, readWord_wordBytes hword rest]

end McastDest

/-- `ipc_nng_long_register_info_t`, as far as multicast uses it. Every module here has
a `stream_handler`. -/
structure RegisterInfo where
  module_id : UInt32
deriving DecidableEq

/-- A client process. The daemon's id is not among its modules. -/
structure Process where
  g_ipc_clients_map : UnorderedMap UInt32 RegisterInfo
  no_daemon : g_ipc_clients_map.lookup E_IPC_NNG_LONG_MODULE_ID_DAEMON = none

structure StreamCall where
  module_id : UInt32
  msg_baseinfo : MsgBaseinfo
  stream_data : List UInt8
deriving DecidableEq

namespace Process

def start : Process where
  g_ipc_clients_map := ∅
  no_daemon := rfl

/-- What `_ipc_nng_long_init` does to the map. For the daemon's id it becomes the
daemon instead. -/
def ipc_nng_long_init (process : Process) (reg_info : RegisterInfo) : Process :=
  if hdaemon : reg_info.module_id = E_IPC_NNG_LONG_MODULE_ID_DAEMON then process
  else
    { g_ipc_clients_map := process.g_ipc_clients_map.insertNew reg_info.module_id reg_info
      no_daemon := by
        rw [UnorderedMap.lookup_insertNew_ne _ _ (Ne.symm hdaemon)]
        exact process.no_daemon }

theorem lookup_ipc_nng_long_init_self (process : Process) {reg_info : RegisterInfo}
    (hdaemon : reg_info.module_id ≠ E_IPC_NNG_LONG_MODULE_ID_DAEMON) :
    (process.ipc_nng_long_init reg_info).g_ipc_clients_map.lookup reg_info.module_id ≠ none := by
  rw [ipc_nng_long_init, dif_neg hdaemon, lookup_insertNew_self]
  exact Option.some_ne_none _

theorem lookup_ipc_nng_long_init {process : Process} {module_id : UInt32}
    (hlookup : process.g_ipc_clients_map.lookup module_id ≠ none) (reg_info : RegisterInfo) :
    (process.ipc_nng_long_init reg_info).g_ipc_clients_map.lookup module_id ≠ none := by
  unfold ipc_nng_long_init
  split
  · exact hlookup
  · by_cases hself : module_id = reg_info.module_id
    · rw [hself, lookup_insertNew_self]
      exact Option.some_ne_none _
    · rwa [lookup_insertNew_ne _ _ hself]

/-- The calls of a `stream_handler` that `server_cb_recv` makes for a message. -/
def server_cb_recv (process : Process) (recv_msg : Msg) : List StreamCall :=
  if recv_msg.baseinfo.tag ≠ D_IPC_NNG_LONG_MSG_TAG then []
  else
    match recv_msg.baseinfo.msg_type with
    | .STREAM_REQ =>
      match process.g_ipc_clients_map.lookup recv_msg.baseinfo.dest_id with
      | some reg_info =>
        [⟨reg_info.module_id, { recv_msg.baseinfo with msg_type := .STREAM_REP }, recv_msg.data⟩]
      | none => []
    | .MULT_REQ =>
      match process.g_ipc_clients_map.lookup recv_msg.baseinfo.dest_id with
      | some reg_info => [⟨reg_info.module_id, recv_msg.baseinfo, recv_msg.data⟩]
      | none => []
    | _ => []

end Process

/-- What a call of a send function meets: the outcome of the initialization, whether
`ipc_nng_long_find_idle_message_pair` finds a slot, and what `get_index` returns. -/
structure SendEnv where
  ipc_init_ret : Int
  idle : Bool
  index : UInt16

/-- `ipc_nng_long_send_multicast` up to `nng_sendmsg`: the message, unless the call has
returned -1 before. -/
def ipc_nng_long_send_multicast (process : Process) (env : SendEnv) (src_id : UInt32) (dest : Option McastDest)
    (msg_id : UInt32) (mcast_data : Option RawMemory) (mcast_data_len : UInt32) : Option Msg :=
  if env.ipc_init_ret ≠ 0 then none
  else if D_IPC_NNG_LONG_CHECK_MODULE_ID_INVALID src_id then none
  else
    match dest with
    | none => none
    | some dest =>
      if dest.num = 0 ∨ dest.num > E_IPC_NNG_LONG_MODULE_ID_MAX then none
      else if dest.modules.any D_IPC_NNG_LONG_CHECK_MODULE_ID_INVALID then none
      else if process.g_ipc_clients_map.lookup src_id = none then none
      else if !env.idle then none
      else
        let send_len := McastDest.sizeof + mcast_data_len.toNat
        some {
          baseinfo := {
            tag := D_IPC_NNG_LONG_MSG_TAG
            src_id := src_id
            dest_id := 0
            msg_id := msg_id
            event_id := D_IPC_NNG_LONG_GENERATION_EVENT_ID D_IPC_NNG_LONG_PROTOCOL_STREAM src_id
              E_IPC_NNG_LONG_MODULE_ID_MAX msg_id env.index
            msg_type := .MULT_REQ
            expire := 0
            result := 0
            send_len := send_len
            recv_len := 0 }
          data := dest.bytes ++
            match mcast_data with
            | none => []
            | some memory => memory.read send_len }

namespace Proxy

/-- The loop over the destinations in `pair_recv_proxy_cb`. Each copy is a duplicate of
the message as it was received: the new `dest_id` is only in `recv_msg_baseinfo`. -/
def forwardCopies (p : Proxy) (recv_msg : Msg) : List UInt32 → List ProxyAction
  | [] => []
  | module_id :: modules =>
    if D_IPC_NNG_LONG_CHECK_MODULE_ID_INVALID module_id then []
    else
      match p.find_proxy_reg_item module_id with
      | some find_item => .sendmsg find_item recv_msg :: p.forwardCopies recv_msg modules
      | none => p.forwardCopies recv_msg modules

def pair_recv_proxy_cb_mult_req (p : Proxy) (reg_item : ConnectionPtr) (recv_msg : Msg) : List ProxyAction :=
  p.forwardCopies recv_msg (McastDest.ofBytes recv_msg.data).modules ++
    [.send reg_item {
      tag := D_IPC_NNG_LONG_MSG_TAG
      src_id := recv_msg.baseinfo.src_id
      msg_id := recv_msg.baseinfo.msg_id
      event_id := recv_msg.baseinfo.event_id
      msg_type := .REP
      expire := 0
      result := 0
      send_len := 0
      recv_len := 0 }]

theorem forwardCopies_eq (p : Proxy) (recv_msg : Msg) {modules : List UInt32}
    (hvalid : ∀ module_id ∈ modules, D_IPC_NNG_LONG_CHECK_MODULE_ID_INVALID module_id = false) :
    p.forwardCopies recv_msg modules =
      (modules.filterMap p.find_proxy_reg_item).map fun find_item => .sendmsg find_item recv_msg := by
  induction modules with
  | nil => rfl
  | cons module_id modules ih =>
    have hfirst := hvalid module_id List.mem_cons_self
    have hrest := ih fun other hother => hvalid other (List.mem_cons_of_mem _ hother)
    rw [forwardCopies, hrest, List.filterMap_cons]
    cases p.find_proxy_reg_item module_id with
    | none | some find_item => simp [hfirst]

end Proxy

/-- The daemon and the client processes at its connections. A module that the daemon
has registered is one of the process that registered it. -/
structure Network where
  proxy : Proxy
  processes : ConnectionPtr → Process
  registered : ∀ module_id c, proxy.find_proxy_reg_item module_id = some c →
    (processes c).g_ipc_clients_map.lookup module_id ≠ none

/-- The arguments of a call of `ipc_nng_long_send_multicast` whose list holds pairwise
distinct valid modules. -/
structure Multicast where
  src_id : UInt32
  dest : McastDest
  msg_id : UInt32
  /-- What lies at `mcast_data`: the payload, and whatever comes behind it. -/
  mcast_data : Option RawMemory
  mcast_data_len : UInt32
  nodup : dest.modules.Nodup
  valid : ∀ module_id ∈ dest.modules, D_IPC_NNG_LONG_CHECK_MODULE_ID_INVALID module_id = false

namespace Multicast

def payload (call : Multicast) : List UInt8 :=
  match call.mcast_data with
  | none => []
  | some memory => memory.read call.mcast_data_len.toNat

def send (call : Multicast) (process : Process) (env : SendEnv) : Option Msg :=
  ipc_nng_long_send_multicast process env call.src_id (some call.dest) call.msg_id call.mcast_data
    call.mcast_data_len

theorem send_eq_some {call : Multicast} {process : Process} {env : SendEnv} {msg : Msg}
    (hsend : call.send process env = some msg) :
    msg.baseinfo.dest_id = E_IPC_NNG_LONG_MODULE_ID_DAEMON ∧ msg.baseinfo.msg_type = .MULT_REQ ∧
      ∃ rest, msg.data = call.dest.bytes ++ rest := by
  simp only [send, ipc_nng_long_send_multicast, Option.ite_none_left_eq_some, Option.some.injEq] at hsend
  obtain ⟨-, -, -, -, -, -, rfl⟩ := hsend
  exact ⟨rfl, rfl, _, rfl⟩

theorem send_reads_past_payload {call : Multicast} {process : Process} {env : SendEnv} {msg : Msg} {memory : RawMemory}
    (hsend : call.send process env = some msg) (hdata : call.mcast_data = some memory) :
    msg.baseinfo.send_len = (call.dest.bytes ++ call.payload).length ∧
      msg.data.length = msg.baseinfo.send_len + McastDest.sizeof := by
  simp only [send, ipc_nng_long_send_multicast, Option.ite_none_left_eq_some, Option.some.injEq] at hsend
  obtain ⟨-, -, -, -, -, -, rfl⟩ := hsend
  simp only [payload, hdata, List.length_append, RawMemory.length_read, McastDest.length_bytes, true_and]
  exact Nat.add_comm ..

end Multicast

namespace Network

def start : Network where
  proxy := .init
  processes _ := .start
  registered _ _ hfind := by cases hfind

theorem lookup_update {network : Network} {module_id : UInt32} {owner : ConnectionPtr}
    (hlookup : (network.processes owner).g_ipc_clients_map.lookup module_id ≠ none) (c : ConnectionPtr)
    (reg_info : RegisterInfo) :
    (Function.update network.processes c ((network.processes c).ipc_nng_long_init reg_info)
      owner).g_ipc_clients_map.lookup module_id ≠ none := by
  by_cases howner : owner = c
  · subst howner
    rw [Function.update_self]
    exact Process.lookup_ipc_nng_long_init hlookup reg_info
  · rwa [Function.update_of_ne howner]

variable (network : Network)

/-- `_ipc_nng_long_init` in the process at `c`, with the insertion that its `REGISTER`
causes in the daemon. -/
def register (c : ConnectionPtr) (reg_info : RegisterInfo) : Network :=
  if hdaemon : reg_info.module_id = E_IPC_NNG_LONG_MODULE_ID_DAEMON then network
  else
    { proxy := { network.proxy with
        g_proxy_reg_map := network.proxy.g_proxy_reg_map.insertNew reg_info.module_id c }
      processes := Function.update network.processes c ((network.processes c).ipc_nng_long_init reg_info)
      registered := by
        intro module_id owner hfind
        simp only [Proxy.find_proxy_reg_item] at hfind
        obtain hold | ⟨rfl, -, rfl⟩ := UnorderedMap.lookup_insertNew_eq_some.mp hfind
        · exact lookup_update (network.registered _ _ hold) c reg_info
        · rw [Function.update_self]
          exact Process.lookup_ipc_nng_long_init_self _ hdaemon }

def deliver : ProxyAction → List StreamCall
  | .sendmsg c msg => (network.processes c).server_cb_recv msg
  | .send c baseinfo => (network.processes c).server_cb_recv ⟨baseinfo, []⟩
  | .sleep _ => []

/-- The calls of stream handlers that come of a multicast by the process at `sender`:
the daemon receives its message, and every process what the daemon sends. -/
def multicast (sender : ConnectionPtr) (env : SendEnv) (call : Multicast) : List StreamCall :=
  match call.send (network.processes sender) env with
  | none => []
  | some msg => (network.proxy.pair_recv_proxy_cb_mult_req sender msg).flatMap network.deliver

/-- The multicast reaches exactly the listed modules: each one that is registered has
its handler called once, with a message to it that holds the list and the payload, and
no other module has. -/
structure Reaches (network : Network) (sender : ConnectionPtr) (env : SendEnv) (call : Multicast) : Prop where
  listed : ∀ module_id ∈ call.dest.modules, network.proxy.find_proxy_reg_item module_id ≠ none →
    ∃ msg_baseinfo, msg_baseinfo.dest_id = module_id ∧
      (network.multicast sender env call).filter (fun stream => stream.module_id = module_id) =
        [⟨module_id, msg_baseinfo, call.dest.bytes ++ call.payload⟩]
  unlisted : ∀ stream ∈ network.multicast sender env call, stream.module_id ∈ call.dest.modules

theorem multicast_eq_nil (sender : ConnectionPtr) (env : SendEnv) (call : Multicast) :
    network.multicast sender env call = [] := by
  unfold multicast
  split
  · rfl
  · rename_i msg hsend
    obtain ⟨hdest, htype, rest, hdata⟩ := Multicast.send_eq_some hsend
    have hmodules : (McastDest.ofBytes msg.data).modules = call.dest.modules := by
      rw [hdata, McastDest.ofBytes_bytes]
    rw [Proxy.pair_recv_proxy_cb_mult_req, hmodules, Proxy.forwardCopies_eq _ _ call.valid, List.flatMap_append,
      List.flatMap_map, List.append_eq_nil_iff]
    refine ⟨List.flatMap_eq_nil_iff.mpr fun c _ => ?_, rfl⟩
    -- A copy still bears the daemon's id, which no process has among its modules.
    have hlookup : (network.processes c).g_ipc_clients_map.lookup msg.baseinfo.dest_id = none := by
      rw [hdest]
      exact (network.processes c).no_daemon
    simp only [deliver, Process.server_cb_recv, htype, hlookup, ite_self]

/-- No handler is called at all, so a multicast is right only when none has to be. -/
theorem multicast_reaches_iff (sender : ConnectionPtr) (env : SendEnv) (call : Multicast) :
    network.Reaches sender env call ↔
      ∀ module_id ∈ call.dest.modules, network.proxy.find_proxy_reg_item module_id = none := by
  have hnil := network.multicast_eq_nil sender env call
  constructor
  · intro hreaches module_id hlisted
    by_contra hregistered
    obtain ⟨msg_baseinfo, -, hcall⟩ := hreaches.listed module_id hlisted hregistered
    rw [hnil] at hcall
    cases hcall
  · intro hnone
    refine ⟨fun module_id hlisted hregistered => ?_, fun stream hstream => ?_⟩
    · exact absurd (hnone module_id hlisted) hregistered
    · rw [hnil] at hstream
      cases hstream

end Network

def twoProcesses : Network := (Network.start.register ⟨0⟩ ⟨1⟩).register ⟨1⟩ ⟨2⟩

def multicastToSecond : Multicast where
  src_id := 1
  dest := ⟨1, #v[2, 0, 0]⟩
  msg_id := 9
  mcast_data := some fun i => if i = 0 then 7 else 0xEE
  mcast_data_len := 1
  nodup := by decide
  valid := List.forall_mem_singleton.mpr (by decide)

/-- The copy that module 2's process receives bears the destination 0 and sixteen bytes
from behind the payload, and no handler is called for it. -/
theorem multicast_misses_second :
    twoProcesses.proxy.find_proxy_reg_item 2 = some ⟨1⟩ ∧ multicastToSecond.dest.modules = [2] ∧
      multicastToSecond.payload = [7] ∧
      (∃ msg, multicastToSecond.send (twoProcesses.processes ⟨0⟩) ⟨0, true, 1⟩ = some msg ∧
        .sendmsg ⟨1⟩ msg ∈ twoProcesses.proxy.pair_recv_proxy_cb_mult_req ⟨0⟩ msg ∧ msg.baseinfo.dest_id = 0 ∧
        msg.data = multicastToSecond.dest.bytes ++ [7] ++ List.replicate 16 0xEE) ∧
      twoProcesses.multicast ⟨0⟩ ⟨0, true, 1⟩ multicastToSecond = [] ∧
      ¬twoProcesses.Reaches ⟨0⟩ ⟨0, true, 1⟩ multicastToSecond := by
  refine ⟨rfl, rfl, rfl, ⟨_, rfl, by decide, rfl, rfl⟩, rfl, fun hreaches => ?_⟩
  obtain ⟨msg_baseinfo, -, hcall⟩ := hreaches.listed 2 (by decide) (by decide)
  cases hcall

end hub.nng_long
