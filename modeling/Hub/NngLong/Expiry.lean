import Hub.Lib.Words
import Hub.NngLong.Types
import Mathlib.Algebra.Group.Int.Defs
import Mathlib.Algebra.Group.Nat.Defs
import Mathlib.Order.WellFounded

namespace hub.nng_long

def PROXY_RETRY_DELAY : Int32 := 10

def PROXY_MAX_TIMEOUT : Int32 := 100

/-- The three kinds of message that the proxy forwards or answers. -/
def MsgType.IsRequest (msg_type : MsgType) : Prop :=
  msg_type = .REQ ∨ msg_type = .STREAM_REQ ∨ msg_type = .ASYNC_REQ

instance : DecidablePred MsgType.IsRequest := fun _ => inferInstanceAs (Decidable (_ ∨ _))

/-- The `switch` that picks the type of an error reply. -/
def MsgType.reply : MsgType → MsgType
  | .REQ => .REP
  | .ASYNC_REQ => .ASYNC_REP
  | .STREAM_REQ => .STREAM_REP
  | _ => .ERR

def error_reply (msg_baseinfo : MsgBaseinfo) (result : Int) : MsgBaseinfo :=
  { tag := D_IPC_NNG_LONG_MSG_TAG
    src_id := msg_baseinfo.src_id
    dest_id := msg_baseinfo.dest_id
    msg_id := msg_baseinfo.msg_id
    event_id := msg_baseinfo.event_id
    msg_type := msg_baseinfo.msg_type.reply
    result := result }

/-- What a callback does with a request: `sock_aio_alloc_sendmsg` and
`sock_aio_alloc_send` to the socket of a connection, or `nng_sleep_aio`. -/
inductive ProxyAction where
  | sendmsg (dest : ConnectionPtr) (msg : Msg)
  | send (dest : ConnectionPtr) (baseinfo : MsgBaseinfo)
  | sleep (duration : Int32)
deriving DecidableEq

/-- The request branch of `pair_recv_proxy_cb` for a message of the connection
`reg_item`; `clock` is the reading of `nng_clock`. -/
def pair_recv_proxy_cb (p : Proxy) (reg_item : ConnectionPtr) (recv_msg : Msg) (clock : UInt64) : ProxyAction :=
  match p.find_proxy_reg_item recv_msg.baseinfo.dest_id with
  | some find_item => .sendmsg find_item recv_msg
  | none =>
    if recv_msg.baseinfo.dest_id ∈ p.g_registered_module_array then
      .send reg_item (error_reply recv_msg.baseinfo (-2))
    -- the difference is unsigned
    else if recv_msg.baseinfo.expire - clock > PROXY_RETRY_DELAY.toInt64.toUInt64 then .sleep PROXY_RETRY_DELAY
    else .send reg_item (error_reply recv_msg.baseinfo (-2))

/-- How long `proxy_expire_cb` sleeps: the difference is cut to 32 bits and read as
signed before it is compared with the maximum. -/
def proxy_delay (expire clock : UInt64) : Int32 :=
  let diff := (expire - clock).toUInt32.toInt32
  if PROXY_MAX_TIMEOUT > diff then diff else PROXY_MAX_TIMEOUT

theorem toInt_proxy_delay (expire clock : UInt64) :
    (proxy_delay expire clock).toInt = min 100 (expire - clock).toUInt32.toInt32.toInt := by
  simp only [proxy_delay, gt_iff_lt, Int32.lt_iff_toInt_lt]
  split
  · rename_i hlt
    change _ < (100 : Int) at hlt
    omega
  · rename_i hle
    change ¬_ < (100 : Int) at hle
    change (100 : Int) = _
    omega

theorem proxy_delay_le (expire clock : UInt64) : (proxy_delay expire clock).toInt ≤ 100 := by
  rw [toInt_proxy_delay]
  omega

theorem proxy_delay_nonneg_iff (expire clock : UInt64) :
    0 ≤ (proxy_delay expire clock).toInt ↔ (expire - clock).toNat % 2 ^ 32 < 2 ^ 31 := by
  rw [toInt_proxy_delay, toInt_toInt32]
  split
  · omega
  · omega

theorem mod_eq_zero_of_proxy_delay {expire clock : UInt64} (h : (proxy_delay expire clock).toInt = 0) :
    (expire - clock).toNat % 2 ^ 32 = 0 := by
  rw [toInt_proxy_delay, toInt_toInt32] at h
  split at h
  · omega
  · omega

/-- `proxy_expire_cb` after a sleep that succeeded; `clock` and `clock'` are its two
readings of `nng_clock`. -/
def proxy_expire_cb (p : Proxy) (sock_pair : ConnectionPtr) (msg : Msg) (clock clock' : UInt64) : ProxyAction :=
  match p.find_proxy_reg_item msg.baseinfo.dest_id with
  | some find_item => .sendmsg find_item msg
  | none =>
    if msg.baseinfo.expire > clock then .sleep (proxy_delay msg.baseinfo.expire clock')
    else .send sock_pair (error_reply msg.baseinfo (-8))

variable (p : Proxy)

theorem pair_recv_proxy_cb_cases (reg_item : ConnectionPtr) (recv_msg : Msg) (clock : UInt64) :
    (∃ dest, p.find_proxy_reg_item recv_msg.baseinfo.dest_id = some dest ∧
      pair_recv_proxy_cb p reg_item recv_msg clock = .sendmsg dest recv_msg) ∨
    pair_recv_proxy_cb p reg_item recv_msg clock = .send reg_item (error_reply recv_msg.baseinfo (-2)) ∨
    (p.find_proxy_reg_item recv_msg.baseinfo.dest_id = none ∧
      recv_msg.baseinfo.dest_id ∉ p.g_registered_module_array ∧ 10 < recv_msg.baseinfo.expire - clock ∧
      pair_recv_proxy_cb p reg_item recv_msg clock = .sleep PROXY_RETRY_DELAY) := by
  unfold pair_recv_proxy_cb
  split
  · rename_i dest hfind
    exact .inl ⟨dest, hfind, rfl⟩
  · rename_i hfind
    split
    · exact .inr (.inl rfl)
    · rename_i hnever
      split
      · rename_i hleft
        exact .inr (.inr ⟨hfind, hnever, hleft, rfl⟩)
      · exact .inr (.inl rfl)

theorem proxy_expire_cb_cases (sock_pair : ConnectionPtr) (msg : Msg) (clock clock' : UInt64) :
    (∃ dest, p.find_proxy_reg_item msg.baseinfo.dest_id = some dest ∧
      proxy_expire_cb p sock_pair msg clock clock' = .sendmsg dest msg) ∨
    (msg.baseinfo.expire ≤ clock ∧
      proxy_expire_cb p sock_pair msg clock clock' = .send sock_pair (error_reply msg.baseinfo (-8))) ∨
    (p.find_proxy_reg_item msg.baseinfo.dest_id = none ∧ clock < msg.baseinfo.expire ∧
      proxy_expire_cb p sock_pair msg clock clock' = .sleep (proxy_delay msg.baseinfo.expire clock')) := by
  unfold proxy_expire_cb
  split
  · rename_i dest hfind
    exact .inl ⟨dest, hfind, rfl⟩
  · rename_i hfind
    split
    · rename_i hleft
      exact .inr (.inr ⟨hfind, hleft, rfl⟩)
    · rename_i hpast
      exact .inr (.inl ⟨UInt64.not_lt.mp hpast, rfl⟩)

theorem of_proxy_expire_cb_sleep {p : Proxy} {sock_pair : ConnectionPtr} {msg : Msg} {clock clock' : UInt64}
    {duration : Int32} (h : proxy_expire_cb p sock_pair msg clock clock' = .sleep duration) :
    p.find_proxy_reg_item msg.baseinfo.dest_id = none ∧ clock < msg.baseinfo.expire ∧
      duration = proxy_delay msg.baseinfo.expire clock' := by
  rcases proxy_expire_cb_cases p sock_pair msg clock clock' with ⟨dest, -, hcase⟩ | ⟨-, hcase⟩ | ⟨hfind, hlt, hcase⟩
  · rw [hcase] at h
    cases h
  · rw [hcase] at h
    cases h
  · rw [hcase] at h
    cases h
    exact ⟨hfind, hlt, rfl⟩

structure Callback where
  proxy : Proxy
  clock : UInt64
  clock' : UInt64

/-- A request with the daemon's state and the clock at its reception, and what the
successive runs of `proxy_expire_cb` for it see, if they take place. -/
structure Handling where
  requester : ConnectionPtr
  msg : Msg
  isRequest : msg.baseinfo.msg_type.IsRequest
  proxy : Proxy
  clock : UInt64
  callbacks : Nat → Callback

namespace Handling

variable (h : Handling)

variable {dest : ConnectionPtr} {duration : Int32} {m n : Nat}

abbrev expire : UInt64 := h.msg.baseinfo.expire

abbrev dest_id : UInt32 := h.msg.baseinfo.dest_id

/-- The action at the reception, and then of one callback after the other. A sleep
of negative length does not lead to another callback. -/
def action : Nat → Option ProxyAction
  | 0 => some (pair_recv_proxy_cb h.proxy h.requester h.msg h.clock)
  | n + 1 =>
    match action n with
    | some (.sleep duration) =>
      if 0 ≤ duration then
        some (proxy_expire_cb (h.callbacks n).proxy h.requester h.msg (h.callbacks n).clock (h.callbacks n).clock')
      else none
    | _ => none

def reading : Nat → UInt64
  | 0 => h.clock
  | n + 1 => (h.callbacks n).clock'

/-- The readings do not decrease, and a sleep of `d ≥ 0` ms ends after `d` ms. -/
structure Clocked : Prop where
  reading_le : ∀ n, h.reading n ≤ (h.callbacks n).clock
  clock_le : ∀ n, (h.callbacks n).clock ≤ (h.callbacks n).clock'
  sleep_le : ∀ n duration, h.action n = some (.sleep duration) → 0 ≤ duration →
    ((h.reading n).toNat : Int) + duration.toInt ≤ (h.callbacks n).clock.toNat

/-- The destination is not registered at the reception and never was before. -/
def NeverRegistered : Prop :=
  h.proxy.find_proxy_reg_item h.dest_id = none ∧ h.dest_id ∉ h.proxy.g_registered_module_array

def Decides (n : Nat) : Prop :=
  ∃ action, h.action n = some action ∧ ∀ duration, action ≠ .sleep duration

/-- The request is forwarded unchanged or answered, exactly once, and in time. -/
structure AnsweredOnce : Prop where
  decided : ∃! n, h.Decides n
  forwarded : ∀ n dest msg, h.action n = some (.sendmsg dest msg) → msg = h.msg ∧
    (n = 0 ∧ h.proxy.find_proxy_reg_item h.dest_id = some dest ∨
      ∃ k, n = k + 1 ∧ (h.callbacks k).proxy.find_proxy_reg_item h.dest_id = some dest)
  replied : ∀ n dest reply, h.action n = some (.send dest reply) → dest = h.requester ∧
    reply.src_id = h.msg.baseinfo.src_id ∧ reply.dest_id = h.msg.baseinfo.dest_id ∧
    reply.msg_id = h.msg.baseinfo.msg_id ∧ reply.event_id = h.msg.baseinfo.event_id ∧
    reply.msg_type = h.msg.baseinfo.msg_type.reply ∧ reply.msg_type ≠ .ERR ∧ reply.result < 0
  at_once : h.NeverRegistered → h.expire.toNat ≤ h.clock.toNat + 10 → h.Decides 0
  slept : ∀ n duration, h.action n = some (.sleep duration) → 0 ≤ duration.toInt ∧ duration.toInt ≤ 100
  in_time : ∀ n, h.Decides (n + 1) → ∃ duration, h.action n = some (.sleep duration) ∧
    ((h.reading n).toNat : Int) + duration.toInt ≤ h.expire.toNat + 100

/-- The request is delayed, and the callbacks up to the `n`-th find the destination
still unregistered and time left by their first reading. -/
def Waits (n : Nat) : Prop :=
  h.NeverRegistered ∧ 10 < h.expire - h.clock ∧
    ∀ k ≤ n, (h.callbacks k).proxy.find_proxy_reg_item h.dest_id = none ∧ (h.callbacks k).clock < h.expire

/-- A request for a module that was never registered has not expired when it
arrives. A callback that sleeps again still has time left by its second reading,
and less than `2 ^ 31` ms in the low 32 bits of what is left. Where these bits are
0, the clock moves on or the module is registered at some time. -/
structure Timely : Prop where
  arrives : h.NeverRegistered → h.expire < h.clock → h.expire - h.clock ≤ 10
  unexpired : ∀ n, h.Waits n → (h.callbacks n).clock' ≤ h.expire ∧
    (h.expire - (h.callbacks n).clock').toNat % 2 ^ 32 < 2 ^ 31
  advances : ∀ n, h.Waits n → (h.callbacks n).clock' < h.expire →
    (h.expire - (h.callbacks n).clock').toNat % 2 ^ 32 = 0 →
    ∃ m > n, ((h.callbacks m).proxy.find_proxy_reg_item h.dest_id).isSome ∨
      (h.callbacks n).clock' < (h.callbacks m).clock

variable {h}

theorem action_succ_eq_some {action : ProxyAction} : h.action (n + 1) = some action ↔
    ∃ duration, h.action n = some (.sleep duration) ∧ 0 ≤ duration ∧
      action = proxy_expire_cb (h.callbacks n).proxy h.requester h.msg (h.callbacks n).clock
        (h.callbacks n).clock' := by
  simp only [Handling.action]
  split
  · rename_i duration hsleep
    simp only [Option.ite_none_right_eq_some, Option.some.injEq, hsleep, ProxyAction.sleep.injEq, exists_eq_left']
    exact and_congr_right fun _ => eq_comm
  · rename_i hother
    constructor
    · intro hnone
      cases hnone
    · rintro ⟨duration, hsleep, -, -⟩
      exact absurd hsleep (hother duration)

theorem sleeps_before {action : ProxyAction} (hm : h.action m = some action) (hlt : n < m) :
    ∃ duration, h.action n = some (.sleep duration) := by
  induction m generalizing action with
  | zero => exact absurd hlt (Nat.not_lt_zero n)
  | succ m ih =>
    obtain ⟨duration, hsleep, -, -⟩ := action_succ_eq_some.mp hm
    by_cases hn : n = m
    · exact ⟨duration, hn ▸ hsleep⟩
    · exact ih hsleep (by omega)

theorem not_decides_of_sleep (hsleep : h.action n = some (.sleep duration)) : ¬h.Decides n := by
  rintro ⟨action, haction, hframe⟩
  rw [hsleep] at haction
  exact hframe duration (Option.some.inj haction).symm

theorem decides_or_sleeps {action : ProxyAction} (haction : h.action n = some action) :
    h.Decides n ∨ ∃ duration, h.action n = some (.sleep duration) := by
  by_cases hsleep : ∃ duration, action = .sleep duration
  · obtain ⟨duration, rfl⟩ := hsleep
    exact .inr ⟨duration, haction⟩
  · exact .inl ⟨action, haction, fun duration heq => hsleep ⟨duration, heq⟩⟩

theorem Decides.unique (hn : h.Decides n) (hm : h.Decides m) : n = m := by
  have hnot : ∀ {first second : Nat}, h.Decides first → h.Decides second → ¬first < second := by
    rintro first second hfirst ⟨action, haction, -⟩ hlt
    obtain ⟨duration, hsleep⟩ := sleeps_before haction hlt
    exact not_decides_of_sleep hsleep hfirst
  have hfirst := hnot hn hm
  have hsecond := hnot hm hn
  omega

theorem delayed_of_sleep (hsleep : h.action 0 = some (.sleep duration)) :
    h.NeverRegistered ∧ 10 < h.expire - h.clock ∧ duration = PROXY_RETRY_DELAY := by
  have haction := Option.some.inj hsleep
  rcases pair_recv_proxy_cb_cases h.proxy h.requester h.msg h.clock with
    ⟨dest, -, hcase⟩ | hcase | ⟨hfind, hnever, hleft, hcase⟩
  · rw [hcase] at haction
    cases haction
  · rw [hcase] at haction
    cases haction
  · rw [hcase] at haction
    cases haction
    exact ⟨⟨hfind, hnever⟩, hleft, rfl⟩

theorem waits_of_sleep (hsleep : h.action (n + 1) = some (.sleep duration)) :
    h.Waits n ∧ duration = proxy_delay h.expire (h.callbacks n).clock' := by
  induction n generalizing duration with
  | zero =>
    obtain ⟨first, hfirst, -, haction⟩ := action_succ_eq_some.mp hsleep
    obtain ⟨hnever, hleft, -⟩ := delayed_of_sleep hfirst
    obtain ⟨hfind, hlt, hduration⟩ := of_proxy_expire_cb_sleep haction.symm
    refine ⟨⟨hnever, hleft, fun k hk => ?_⟩, hduration⟩
    cases Nat.le_zero.mp hk
    exact ⟨hfind, hlt⟩
  | succ n ih =>
    obtain ⟨previous, hprevious, -, haction⟩ := action_succ_eq_some.mp hsleep
    obtain ⟨⟨hnever, hleft, hbefore⟩, -⟩ := ih hprevious
    obtain ⟨hfind, hlt, hduration⟩ := of_proxy_expire_cb_sleep haction.symm
    refine ⟨⟨hnever, hleft, fun k hk => ?_⟩, hduration⟩
    by_cases hlast : k = n + 1
    · subst hlast
      exact ⟨hfind, hlt⟩
    · exact hbefore k (by omega)

theorem sleep_of_delayed (hnever : h.NeverRegistered) (hleft : 10 < h.expire - h.clock) :
    h.action 0 = some (.sleep PROXY_RETRY_DELAY) := by
  have hmore : h.msg.baseinfo.expire - h.clock > PROXY_RETRY_DELAY.toInt64.toUInt64 := hleft
  simp only [Handling.action, pair_recv_proxy_cb, hnever.1, hnever.2, if_false, if_pos hmore]

section Slept

variable (hslept : ∀ n duration, h.action n = some (.sleep duration) → 0 ≤ duration.toInt ∧ duration.toInt ≤ 100)

include hslept

theorem sleep_of_waits {n : Nat} (hwaits : h.Waits n) :
    h.action (n + 1) = some (.sleep (proxy_delay h.expire (h.callbacks n).clock')) := by
  obtain ⟨hnever, hleft, hbefore⟩ := hwaits
  -- the n-th action is a sleep, and the callback after it finds no module and time left
  suffices hprevious : ∃ duration, h.action n = some (.sleep duration) by
    obtain ⟨duration, hprevious⟩ := hprevious
    obtain ⟨hfind, hlt⟩ := hbefore n (Nat.le_refl n)
    refine action_succ_eq_some.mpr
      ⟨duration, hprevious, Int32.le_iff_toInt_le.mpr (hslept n duration hprevious).1, ?_⟩
    simp only [proxy_expire_cb, hfind, gt_iff_lt, hlt, if_true]
  cases n with
  | zero => exact ⟨_, sleep_of_delayed hnever hleft⟩
  | succ n =>
    have hwaits' : h.Waits n := ⟨hnever, hleft, fun k hk => hbefore k (by omega)⟩
    exact ⟨_, sleep_of_waits hwaits'⟩

theorem decides_or_waits (hsleep : h.action n = some (.sleep duration)) : h.Decides (n + 1) ∨ h.Waits n := by
  have hnonneg : 0 ≤ duration := Int32.le_iff_toInt_le.mpr (hslept n duration hsleep).1
  refine (decides_or_sleeps (action_succ_eq_some.mpr ⟨duration, hsleep, hnonneg, rfl⟩)).imp_right ?_
  rintro ⟨again, hagain⟩
  exact (waits_of_sleep hagain).1

end Slept

/-- Every action forwards the message as it came to the registered connection,
sends the requester an error, or sleeps. -/
theorem action_cases {action : ProxyAction} (haction : h.action n = some action) :
    (∃ dest, action = .sendmsg dest h.msg ∧ (n = 0 ∧ h.proxy.find_proxy_reg_item h.dest_id = some dest ∨
      ∃ k, n = k + 1 ∧ (h.callbacks k).proxy.find_proxy_reg_item h.dest_id = some dest)) ∨
    (∃ result < 0, action = .send h.requester (error_reply h.msg.baseinfo result)) ∨
    ∃ duration, action = .sleep duration := by
  cases n with
  | zero =>
    cases Option.some.inj haction
    rcases pair_recv_proxy_cb_cases h.proxy h.requester h.msg h.clock with
      ⟨dest, hfind, hcase⟩ | hcase | ⟨-, -, -, hcase⟩
    · exact .inl ⟨dest, hcase, .inl ⟨rfl, hfind⟩⟩
    · exact .inr (.inl ⟨-2, by decide, hcase⟩)
    · exact .inr (.inr ⟨_, hcase⟩)
  | succ n =>
    obtain ⟨-, -, -, rfl⟩ := action_succ_eq_some.mp haction
    rcases proxy_expire_cb_cases (h.callbacks n).proxy h.requester h.msg (h.callbacks n).clock
      (h.callbacks n).clock' with ⟨dest, hfind, hcase⟩ | ⟨-, hcase⟩ | ⟨-, -, hcase⟩
    · exact .inl ⟨dest, hcase, .inr ⟨n, rfl, hfind⟩⟩
    · exact .inr (.inl ⟨-8, by decide, hcase⟩)
    · exact .inr (.inr ⟨_, hcase⟩)

theorem forwarded {msg : Msg} (hsend : h.action n = some (.sendmsg dest msg)) :
    msg = h.msg ∧ (n = 0 ∧ h.proxy.find_proxy_reg_item h.dest_id = some dest ∨
      ∃ k, n = k + 1 ∧ (h.callbacks k).proxy.find_proxy_reg_item h.dest_id = some dest) := by
  obtain ⟨found, hcase, hfind⟩ | ⟨result, -, hcase⟩ | ⟨duration, hcase⟩ := action_cases hsend
  · cases hcase
    exact ⟨rfl, hfind⟩
  · cases hcase
  · cases hcase

theorem replied_eq {reply : MsgBaseinfo} (hsend : h.action n = some (.send dest reply)) :
    dest = h.requester ∧ ∃ result < 0, reply = error_reply h.msg.baseinfo result := by
  obtain ⟨found, hcase, -⟩ | ⟨result, hresult, hcase⟩ | ⟨duration, hcase⟩ := action_cases hsend
  · cases hcase
  · cases hcase
    exact ⟨rfl, result, hresult, rfl⟩
  · cases hcase

theorem reply_ne_err {msg_type : MsgType} (hrequest : msg_type.IsRequest) : msg_type.reply ≠ .ERR := by
  rcases hrequest with rfl | rfl | rfl
  · decide
  · decide
  · decide

section

variable (ht : h.Timely)

include ht

theorem Timely.slept (n : Nat) (duration : Int32) (hsleep : h.action n = some (.sleep duration)) :
    0 ≤ duration.toInt ∧ duration.toInt ≤ 100 := by
  cases n with
  | zero =>
    obtain ⟨-, -, rfl⟩ := delayed_of_sleep hsleep
    decide
  | succ n =>
    obtain ⟨hwaits, rfl⟩ := waits_of_sleep hsleep
    exact ⟨(proxy_delay_nonneg_iff _ _).mpr (ht.unexpired n hwaits).2, proxy_delay_le _ _⟩

theorem Timely.waits_of_undecided (hnever : ∀ n, ¬h.Decides n) (n : Nat) : h.Waits n := by
  induction n with
  | zero =>
    obtain ⟨duration, hsleep⟩ := (decides_or_sleeps (rfl : h.action 0 = some _)).resolve_left (hnever 0)
    exact (decides_or_waits ht.slept hsleep).resolve_left (hnever 1)
  | succ n ih =>
    exact (decides_or_waits ht.slept (sleep_of_waits ht.slept ih)).resolve_left (hnever (n + 2))

/-- The clock reaches the deadline: it cannot stand still between two callbacks
unless the sleep is 0, and then it moves on by assumption. -/
theorem Timely.decided (hclock : h.Clocked) : ∃ n, h.Decides n := by
  by_contra hundecided
  have hnever : ∀ n, ¬h.Decides n := fun n hn => hundecided ⟨n, hn⟩
  have hwaits := ht.waits_of_undecided hnever
  -- the callback with the latest second reading
  let left : Nat → Nat := fun n => h.expire.toNat - (h.callbacks n).clock'.toNat
  obtain ⟨last, hlast⟩ : ∃ last, ∀ n, left last ≤ left n :=
    ⟨Function.argmin left, fun n => Function.argmin_le left n⟩
  have hle : ∀ n, (h.callbacks n).clock'.toNat ≤ h.expire.toNat := fun n =>
    UInt64.le_iff_toNat_le.mp (ht.unexpired n (hwaits n)).1
  have hlatest : ∀ n, (h.callbacks n).clock'.toNat ≤ (h.callbacks last).clock'.toNat := by
    intro n
    have hleft : h.expire.toNat - (h.callbacks last).clock'.toNat ≤ h.expire.toNat - (h.callbacks n).clock'.toNat :=
      hlast n
    have hn := hle n
    have hlast' := hle last
    omega
  have hclocks : ∀ n, (h.callbacks n).clock.toNat ≤ (h.callbacks last).clock'.toNat := fun n =>
    (UInt64.le_iff_toNat_le.mp (hclock.clock_le n)).trans (hlatest n)
  have hnext : (h.callbacks last).clock' ≤ (h.callbacks (last + 1)).clock := hclock.reading_le (last + 1)
  have hbefore : (h.callbacks last).clock' < h.expire :=
    UInt64.lt_of_le_of_lt hnext ((hwaits (last + 1)).2.2 (last + 1) (Nat.le_refl _)).2
  have hsleep := sleep_of_waits ht.slept (hwaits last)
  have hslept := (ht.slept _ _ hsleep).1
  have hend := hclock.sleep_le (last + 1) _ hsleep (Int32.le_iff_toInt_le.mpr hslept)
  have hstill : (proxy_delay h.expire (h.callbacks last).clock').toInt = 0 := by
    have hsame := hclocks (last + 1)
    simp only [Handling.reading] at hend
    omega
  obtain ⟨later, hlater, hfound | hmoved⟩ := ht.advances last (hwaits last) hbefore (mod_eq_zero_of_proxy_delay hstill)
  · rw [((hwaits later).2.2 later (Nat.le_refl _)).1] at hfound
    cases hfound
  · have hclock' := hclocks later
    rw [UInt64.lt_iff_toNat_lt] at hmoved
    omega

theorem Timely.arrives_before (hnever : h.NeverRegistered) (hleft : 10 < h.expire - h.clock) :
    h.clock.toNat + 10 < h.expire.toNat := by
  have hle : h.clock ≤ h.expire := by
    by_contra hlt
    have hfew := ht.arrives hnever (UInt64.not_le.mp hlt)
    exact absurd hleft (UInt64.not_lt.mpr hfew)
  have hsub := UInt64.toNat_sub_of_le h.expire h.clock hle
  rw [UInt64.lt_iff_toNat_lt, hsub] at hleft
  change 10 < _ at hleft
  omega

theorem Timely.answeredOnce (hclock : h.Clocked) : h.AnsweredOnce where
  decided := by
    obtain ⟨n, hn⟩ := ht.decided hclock
    exact ⟨n, hn, fun m hm => hm.unique hn⟩
  forwarded n dest msg hsend := forwarded hsend
  replied n dest reply hsend := by
    obtain ⟨hdest, result, hresult, rfl⟩ := replied_eq hsend
    exact ⟨hdest, rfl, rfl, rfl, rfl, rfl, reply_ne_err h.isRequest, hresult⟩
  at_once hnever hfew := by
    refine ⟨_, rfl, fun duration hsleep => ?_⟩
    obtain ⟨-, hleft, -⟩ := delayed_of_sleep (congrArg some hsleep)
    have hbefore := ht.arrives_before hnever hleft
    omega
  slept := ht.slept
  in_time n hn := by
    obtain ⟨action, haction, -⟩ := hn
    obtain ⟨duration, hsleep, -, -⟩ := action_succ_eq_some.mp haction
    refine ⟨duration, hsleep, ?_⟩
    cases n with
    | zero =>
      obtain ⟨hnever, hleft, rfl⟩ := delayed_of_sleep hsleep
      have hbefore := ht.arrives_before hnever hleft
      change ((h.clock.toNat : Int)) + 10 ≤ _
      omega
    | succ n =>
      obtain ⟨hwaits, rfl⟩ := waits_of_sleep hsleep
      have hle := UInt64.le_iff_toNat_le.mp (ht.unexpired n hwaits).1
      have hdelay := proxy_delay_le h.expire (h.callbacks n).clock'
      simp only [Handling.reading]
      omega

end

theorem AnsweredOnce.timely (ha : h.AnsweredOnce) (hclock : h.Clocked) : h.Timely where
  arrives hnever hlate := by
    by_contra hmany
    have hleft : 10 < h.expire - h.clock := UInt64.not_le.mp hmany
    refine not_decides_of_sleep (sleep_of_delayed hnever hleft) (ha.at_once hnever ?_)
    rw [UInt64.lt_iff_toNat_lt] at hlate
    omega
  unexpired n hwaits := by
    have hsleep := sleep_of_waits ha.slept hwaits
    have hslept := (ha.slept _ _ hsleep).1
    refine ⟨?_, (proxy_delay_nonneg_iff _ _).mp hslept⟩
    by_contra hpast
    have hlt : h.expire < (h.callbacks n).clock' := UInt64.not_le.mp hpast
    -- the next callback decides, more than 100 ms too late
    have hdecides : h.Decides (n + 2) := by
      refine (decides_or_waits ha.slept hsleep).resolve_right fun hagain => ?_
      have hclock' : (h.callbacks n).clock' ≤ (h.callbacks (n + 1)).clock := hclock.reading_le (n + 1)
      have hbefore := (hagain.2.2 (n + 1) (Nat.le_refl _)).2
      exact UInt64.lt_irrefl _ (UInt64.lt_trans hlt (UInt64.lt_of_le_of_lt hclock' hbefore))
    obtain ⟨duration, hduration, hend⟩ := ha.in_time (n + 1) hdecides
    rw [hsleep] at hduration
    cases hduration
    simp only [Handling.reading] at hend
    have hneg : (proxy_delay h.expire (h.callbacks n).clock').toInt < 0 := by
      have hsub := UInt64.toNat_sub h.expire (h.callbacks n).clock'
      have hbound := (h.callbacks n).clock'.toNat_lt
      rw [UInt64.lt_iff_toNat_lt] at hlt
      have hnonneg := proxy_delay_nonneg_iff h.expire (h.callbacks n).clock'
      omega
    omega
  advances n hwaits hbefore _ := by
    have hsleep := sleep_of_waits ha.slept hwaits
    obtain ⟨last, hdecides, -⟩ := ha.decided
    -- the request is decided after the n-th callback
    have hlater : n + 1 < last := by
      by_contra hnot
      rcases Nat.lt_or_eq_of_le (Nat.le_of_not_lt hnot) with hlt | rfl
      · obtain ⟨duration, hearlier⟩ := sleeps_before hsleep hlt
        exact not_decides_of_sleep hearlier hdecides
      · exact not_decides_of_sleep hsleep hdecides
    obtain ⟨m, rfl⟩ : ∃ m, last = m + 1 := ⟨last - 1, by omega⟩
    refine ⟨m, by omega, ?_⟩
    obtain ⟨action, haction, hframe⟩ := hdecides
    obtain ⟨-, -, -, rfl⟩ := action_succ_eq_some.mp haction
    rcases proxy_expire_cb_cases (h.callbacks m).proxy h.requester h.msg (h.callbacks m).clock
      (h.callbacks m).clock' with ⟨dest, hfind, -⟩ | ⟨hpast, -⟩ | ⟨-, -, hcase⟩
    · exact .inl (by rw [hfind]; rfl)
    · exact .inr (UInt64.lt_of_lt_of_le hbefore hpast)
    · exact absurd hcase (hframe _)

end Handling

/-- The proxy forwards or answers a request exactly once and in time exactly when
its clock readings keep clear of the unsigned and the truncated differences. -/
theorem request_answered_once_iff {h : Handling} (hclock : h.Clocked) : h.AnsweredOnce ↔ h.Timely :=
  ⟨fun ha => ha.timely hclock, fun ht => ht.answeredOnce hclock⟩

/-- A request of connection 0 that arrives at 1000 ms, for a module that nobody
registers. -/
def unregisteredRequest (expire : UInt64) (callbacks : Nat → Callback) : Handling where
  requester := ⟨0⟩
  msg := ⟨{ tag := D_IPC_NNG_LONG_MSG_TAG, src_id := 1, dest_id := 2, msg_type := .REQ, expire := expire }, []⟩
  isRequest := .inl rfl
  proxy := .init
  clock := 1000
  callbacks := callbacks

def answeredAtDeadline : Handling := unregisteredRequest 1015 fun _ => ⟨.init, 1015, 1015⟩

theorem answeredAtDeadline_not_waits (n : Nat) : ¬answeredAtDeadline.Waits n := by
  rintro ⟨-, -, hbefore⟩
  exact UInt64.lt_irrefl _ (hbefore n (Nat.le_refl n)).2

theorem answeredAtDeadline_clocked : answeredAtDeadline.Clocked where
  reading_le n := by
    cases n with
    | zero => decide
    | succ n => exact UInt64.le_refl _
  clock_le n := UInt64.le_refl _
  sleep_le n duration hsleep _ := by
    cases n with
    | zero =>
      obtain ⟨-, -, rfl⟩ := Handling.delayed_of_sleep hsleep
      decide
    | succ n => exact absurd (Handling.waits_of_sleep hsleep).1 (answeredAtDeadline_not_waits n)

theorem request_answered_once_at_deadline : answeredAtDeadline.Clocked ∧ answeredAtDeadline.AnsweredOnce := by
  refine ⟨answeredAtDeadline_clocked, (request_answered_once_iff answeredAtDeadline_clocked).mpr ?_⟩
  refine ⟨fun _ hlate => ?_, fun n hwaits => ?_, fun n hwaits => ?_⟩
  · exact absurd hlate (by decide)
  · exact absurd hwaits (answeredAtDeadline_not_waits n)
  · exact absurd hwaits (answeredAtDeadline_not_waits n)

/-- The deadline passes between the two readings of the first callback. -/
def overtakenRequest : Handling :=
  unregisteredRequest 1015 fun n => if n = 0 then ⟨.init, 1014, 1016⟩ else ⟨.init, 1016, 1016⟩

/-- The request then sleeps for -1 ms, which is forever, and is never answered. A
request that had expired before it arrived is not answered at once either. -/
theorem request_never_answered :
    overtakenRequest.Clocked ∧ overtakenRequest.action 1 = some (.sleep (-1)) ∧ (∀ n, ¬overtakenRequest.Decides n) ∧
      (∀ callbacks, (unregisteredRequest 999 callbacks).NeverRegistered ∧
        (unregisteredRequest 999 callbacks).action 0 = some (.sleep 10)) := by
  have hfirst : overtakenRequest.action 0 = some (.sleep 10) := by decide
  have hsecond : overtakenRequest.action 1 = some (.sleep (-1)) := by decide
  have hend : ∀ n, overtakenRequest.action (n + 2) = none := by
    intro n
    induction n with
    | zero => decide
    | succ n ih =>
      rw [Handling.action, ih]
  refine ⟨⟨fun n => ?_, fun n => ?_, fun n duration hsleep hnonneg => ?_⟩, hsecond, ?_, fun callbacks => ?_⟩
  · match n with
    | 0 | 1 => decide
    | n + 2 => exact UInt64.le_refl _
  · match n with
    | 0 => decide
    | n + 1 => exact UInt64.le_refl _
  · match n with
    | 0 =>
      rw [hfirst] at hsleep
      cases hsleep
      decide
    | 1 =>
      rw [hsecond] at hsleep
      cases hsleep
      exact absurd hnonneg (by decide)
    | n + 2 =>
      rw [hend n] at hsleep
      cases hsleep
  · intro n
    match n with
    | 0 => exact Handling.not_decides_of_sleep hfirst
    | 1 => exact Handling.not_decides_of_sleep hsecond
    | n + 2 =>
      rintro ⟨action, haction, -⟩
      rw [hend n] at haction
      cases haction
  · have hnever : (unregisteredRequest 999 callbacks).NeverRegistered := ⟨rfl, List.not_mem_nil⟩
    have hleft : (10 : UInt64) < 999 - 1000 := by decide
    exact ⟨hnever, Handling.sleep_of_delayed hnever hleft⟩

end hub.nng_long
