import Hub.LocalRegistry.Connection

namespace hub.soa

open local_registry

structure Processes (ι : Type) where
  client_pid : ι → Nat
  client_name : ι → Str
  pid_inj : ∀ {p q}, client_pid p = client_pid q → p = q
  pid_pos : ∀ p, 0 < client_pid p
  pid_le : ∀ p, client_pid p ≤ 2147483647
  no_slash : ∀ p, '/' ∉ client_name p
  no_dot : ∀ p, '.' ∉ client_name p

/-- The connection that a process has open to the daemon, and its successful calls of
`register_client_req`: the number of the daemon's frame that was the answer, and the
client id in it. -/
structure ProcessState where
  channel : Option UInt32
  told : List (Nat × UInt32)

structure System (ι : Type) where
  daemon : LocalRegistry
  process : ι → ProcessState

/-- What happens in the system, with the channel: a process opens its connection or closes
it, the daemon handles the closing or a request, a process reads the daemon's `n`-th frame.
-/
inductive SystemEvent (ι : Type) where
  | opens (p : ι) (id : UInt32)
  | closes (p : ι) (id : UInt32)
  | disconnects (p : ι) (id : UInt32)
  | requests (p : ι) (id : UInt32) (header : StLocalMsgHeader)
  | receives (p : ι) (id : UInt32) (n : Nat)

variable {ι : Type}

namespace Processes

variable (processes : Processes ι)

def channel (p : ι) (id : UInt32) : SocketChannel where
  id := id
  peeraddr := LOCAL_REGISTEY_SOCKET_FMT (processes.client_pid p) (processes.client_name p)

def request (p : ι) : StRegisterClientReq where
  client_pid := processes.client_pid p
  client_name := (processes.client_name p).strncpy LOCAL_REGISTRY_CLIENT_NAME_MAX

/-- What `register_client_req` makes of the answer: the client id of a success, or
nothing if the answer carries the pid of another process. -/
def validate (p : ι) (resp : StRegisterClientResp) : Option UInt32 :=
  if resp.client_pid ≠ processes.client_pid p then none else some resp.client_id

end Processes

def SystemEvent.toDaemon (processes : Processes ι) : SystemEvent ι → Option Event
  | .opens p id => some (.connect (processes.channel p id))
  | .disconnects _ id => some (.close id)
  | .requests p id header => some (.message (processes.channel p id) (.register_client header (processes.request p)))
  | .closes .. | .receives .. => none

namespace ProcessState

def start : ProcessState := ⟨none, []⟩

/-- The result of `register_client_req`, of which frame `n` is the answer. -/
def hear (state : ProcessState) (n : Nat) : Option UInt32 → ProcessState
  | none => state
  | some client_id => { state with told := (n, client_id) :: state.told }

end ProcessState

namespace System

def init : System ι where
  daemon := .init
  process := fun _ => .start

variable [DecidableEq ι]

def setProcess (sys : System ι) (p : ι) (state : ProcessState) : System ι :=
  { sys with process := Function.update sys.process p state }

/-- One event of the system. The daemon may still handle requests that a process sent before
it closed the connection, and then the closing. -/
def step (processes : Processes ι) (sys : System ι) (label : Env × SystemEvent ι) : Option (System ι) :=
  match label.2 with
  | .opens p id =>
    if (sys.process p).channel = none then
      (sys.daemon.step (label.1, .connect (processes.channel p id))).map fun daemon =>
        { sys with daemon := daemon }.setProcess p { sys.process p with channel := some id }
    else none
  | .closes p id =>
    if (sys.process p).channel = some id then some (sys.setProcess p { sys.process p with channel := none })
    else none
  | .disconnects p id =>
    if sys.daemon.m_server.getChannelById id = some (processes.channel p id) ∧ (sys.process p).channel ≠ some id then
      (sys.daemon.step (label.1, .close id)).map fun daemon => { sys with daemon := daemon }
    else none
  | .requests p id header =>
    if sys.daemon.m_server.getChannelById id = some (processes.channel p id) then
      (sys.daemon.step (label.1, .message (processes.channel p id)
        (.register_client header (processes.request p)))).map fun daemon => { sys with daemon := daemon }
    else none
  | .receives p id n =>
    match sys.daemon.sent[n]? with
    | some ⟨channel_id, _, .register_client_resp resp⟩ =>
      if (sys.process p).channel = some id ∧ channel_id = id then
        some (sys.setProcess p ((sys.process p).hear n (processes.validate p resp)))
      else none
    | _ => none

def FreshChannel (sys : System ι) (label : Env × SystemEvent ι) : Prop :=
  match label.2 with
  | .opens _ id => id ∉ sys.daemon.m_server.issued
  | _ => True

instance (sys : System ι) : ∀ label, Decidable (sys.FreshChannel label)
  | (_, .opens _ id) => inferInstanceAs (Decidable (id ∉ sys.daemon.m_server.issued))
  | (_, .closes ..) | (_, .disconnects ..) | (_, .requests ..) | (_, .receives ..) => .isTrue trivial

/-- A process that has been told a client id, or whose pid the record of its name has,
opens a connection only while the daemon has no channel for that record. -/
def Released (processes : Processes ι) (sys : System ι) (label : Env × SystemEvent ι) : Prop :=
  match label.2 with
  | .opens p _ => ∀ c ∈ sys.daemon.m_clients_by_name.lookup (processes.client_name p),
      (sys.process p).told ≠ [] ∨ (sys.daemon.client c).client_pid = processes.client_pid p →
        sys.daemon.channelOf c = none
  | _ => True

instance (processes : Processes ι) (sys : System ι) : ∀ label, Decidable (sys.Released processes label)
  | (_, .opens _ _) => inferInstanceAs (Decidable (∀ _ ∈ _, _ → _ = _))
  | (_, .closes ..) | (_, .disconnects ..) | (_, .requests ..) | (_, .receives ..) => .isTrue trivial

end System

def systemRun [DecidableEq ι] (processes : Processes ι) (labels : List (Env × SystemEvent ι)) : Option (System ι) :=
  run (System.step processes) .init labels

def daemonLabels (processes : Processes ι) (labels : List (Env × SystemEvent ι)) : List (Env × Event) :=
  labels.filterMap fun label => (label.2.toDaemon processes).map fun event => (label.1, event)

end hub.soa
