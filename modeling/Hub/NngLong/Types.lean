import Hub.Lib.Heap
import Hub.Lib.UnorderedMap

namespace hub.nng_long

/-- `ipc_nng_long_msg_type_e`. A receiver treats every other number like `INVALID`. -/
inductive MsgType where
  | INVALID
  | CONN
  | REGISTER
  | BROADCAST
  | REQ
  | REP
  | MULT_REQ
  | MULT_REP
  | STREAM_REQ
  | STREAM_REP
  | ASYNC_REQ
  | ASYNC_REP
  | ERR
deriving DecidableEq

def D_IPC_NNG_LONG_MSG_TAG : UInt32 := 0x5AFE0002

def E_IPC_NNG_LONG_MODULE_ID_DAEMON : UInt32 := 0

def E_IPC_NNG_LONG_MODULE_ID_MAX : UInt32 := 3

def D_IPC_NNG_LONG_CHECK_MODULE_ID_INVALID (module_id : UInt32) : Bool :=
  module_id ≤ E_IPC_NNG_LONG_MODULE_ID_DAEMON || module_id ≥ E_IPC_NNG_LONG_MODULE_ID_MAX

def D_IPC_NNG_LONG_PROTOCOL_SYNC : UInt64 := 1

def D_IPC_NNG_LONG_PROTOCOL_ASYNC : UInt64 := 2

def D_IPC_NNG_LONG_PROTOCOL_STREAM : UInt64 := 3

/-- `index` is what `get_index` returns. -/
def D_IPC_NNG_LONG_GENERATION_EVENT_ID (protocol : UInt64) (src_id dest_id msg_id : UInt32) (index : UInt16) : UInt64 :=
  (protocol <<< 60) + (src_id.toUInt64 <<< 48) + (dest_id.toUInt64 <<< 32) + (msg_id.toUInt64 <<< 16) + index.toUInt64

/-- `ipc_nng_long_msg_baseinfo_t`. The initializer `{}` of the source gives the
default values. -/
structure MsgBaseinfo where
  tag : UInt32 := 0
  src_id : UInt32 := 0
  dest_id : UInt32 := 0
  msg_id : UInt32 := 0
  event_id : UInt64 := 0
  msg_type : MsgType := .INVALID
  expire : UInt64 := 0
  result : Int := 0
  send_len : Nat := 0
  recv_len : Nat := 0
deriving DecidableEq

structure Msg where
  baseinfo : MsgBaseinfo
  data : List UInt8
deriving DecidableEq

/-- `ipc_nng_long_reg_item_t`, as far as the registration table uses it. -/
structure RegItem where
  tag : UInt32
  closed : Bool
  list : List UInt32

/-- Where `pair_recv_proxy_cb` of one connection stands: it waits for a message, or
it handles a `REGISTER` and is about to enter its next critical section or to
answer. -/
inductive Handler where
  | receiving
  | inserting (src_id : UInt32)
  | appending (src_id : UInt32)
  | answering (src_id : UInt32) (result : Int)
deriving DecidableEq

def Handler.entering : Handler → Option UInt32
  | .inserting src_id => some src_id
  | _ => none

/-- Where a call of `_ipc_nng_long_init_reg` stands. `retry` is
`register_retry_count` and `ret` is `msg_pair->ret`. -/
inductive InitReg where
  | absent
  | sending (retry : Nat) (ret : Int)
  | waiting (retry : Nat) (ret : Int)
  | returned (ret : Int)
deriving DecidableEq

/-- One connection of a client process to the daemon: the daemon's item and the state of its
callbacks, the messages under way, and the registrations of the process's modules. -/
structure Connection where
  reg_item : RegItem
  handler : Handler
  pipe : Bool
  unreg_due : Bool
  requests : List UInt32
  replies : List (UInt32 × Int)
  init_reg : UInt32 → InitReg

inductive ConnectionRef where

abbrev ConnectionPtr : Type := Ptr ConnectionRef

/-- What is found behind a pointer that was never handed out. -/
instance : Inhabited Connection :=
  ⟨{ reg_item := ⟨0, true, []⟩, handler := .receiving, pipe := false, unreg_due := false,
     requests := [], replies := [], init_reg := fun _ => .absent }⟩

structure Proxy where
  connections : Heap ConnectionRef Connection
  g_proxy_reg_map : UnorderedMap UInt32 ConnectionPtr
  g_registered_module_array : List UInt32

namespace Proxy

def init : Proxy where
  connections := .empty
  g_proxy_reg_map := ∅
  g_registered_module_array := []

def connection (p : Proxy) (c : ConnectionPtr) : Connection := p.connections.get c

def setConnection (p : Proxy) (c : ConnectionPtr) (record : Connection) : Proxy :=
  { p with connections := p.connections.set c record }

theorem connection_setConnection (p : Proxy) (c other : ConnectionPtr) (record : Connection) :
    (p.setConnection c record).connection other = if other = c then record else p.connection other :=
  Heap.get_set p.connections c other record

@[simp] theorem setConnection_reg_map (p : Proxy) (c : ConnectionPtr) (record : Connection) :
    (p.setConnection c record).g_proxy_reg_map = p.g_proxy_reg_map := rfl

def find_proxy_reg_item (p : Proxy) (module_id : UInt32) : Option ConnectionPtr :=
  p.g_proxy_reg_map.lookup module_id

end Proxy

end hub.nng_long
