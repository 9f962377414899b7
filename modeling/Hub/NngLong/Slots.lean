import Mathlib.Logic.Function.Basic

namespace hub.nng_long

/-- An index into `msg_pair`, below `D_IPC_NNG_LONG_MESSAGE_PAIR_COUNT`. -/
abbrev Slot : Type := Fin 8

-- `find_idle_take` writes to slot 0
instance neZeroSlots : @NeZero Nat Zero.ofOfNat0 8 := ⟨Nat.succ_ne_zero 7⟩

/-- Where a call of one of the `ipc_nng_long_send_*` functions stands. -/
inductive SendStage where
  | idle
  /-- It holds `mtx_msg_pair` and is about to look at slot `i`. -/
  | searching (i : Nat)
  /-- It has found the slot idle and is about to write `msg_pair->is_used`. -/
  | taking (slot : Slot)
  /-- `ipc_nng_long_find_idle_message_pair` has returned the slot. -/
  | given (slot : Slot)
  /-- It has set `is_used` and `event_id` of its slot. -/
  | marked (slot : Slot)
  /-- It has cleared `is_used` and is about to clear `event_id`. -/
  | leaving (slot : Slot)
  | done
  /-- `ipc_nng_long_find_idle_message_pair` has returned `NULL`. -/
  | refused
deriving DecidableEq

def SendStage.holds : SendStage → Option Slot
  | .given slot | .marked slot => some slot
  | _ => none

def SendStage.Searches : SendStage → Prop
  | .searching _ | .taking _ => True
  | _ => False

def SendStage.looksAt : SendStage → Option Slot
  | .searching i => if hi : i < 8 then some ⟨i, hi⟩ else none
  | _ => none

def SendStage.finds : SendStage → Option Slot
  | .taking slot => some slot
  | _ => none

inductive SendTimer where
  | unset
  | armed (slot : Slot)
  /-- The sleep has ended, and its callback is still to run. -/
  | elapsed (slot : Slot)
  /-- The sleep was cancelled, and its callback is still to run. -/
  | cancelled (slot : Slot)
  /-- `send_request_async_timeout_handle` has found the slot in use. -/
  | expiring (slot : Slot)
  | leaving (slot : Slot)
  | off
deriving DecidableEq

/-- `nng_aio_cancel` on the timer of `slot`. -/
def SendTimer.cancel (slot : Slot) (timer : SendTimer) : SendTimer :=
  if timer = .armed slot then .cancelled slot else timer

/-- `nng_sleep_aio` on the timer of `slot` resets its result, so a callback that is still
to run for a cancelled sleep does not read `NNG_ECANCELED` any more. -/
def SendTimer.restart (slot : Slot) (timer : SendTimer) : SendTimer :=
  if timer = .cancelled slot then .elapsed slot else timer

def NNG_DURATION_INFINITE : Int32 := -1

/-- A sleep of `(nng_duration)timeout` that began `elapsed` ms ago is over. -/
def SleepOver (timeout : UInt64) (elapsed : Nat) : Prop :=
  timeout.toUInt32.toInt32 ≠ NNG_DURATION_INFINITE ∧ timeout.toUInt32.toInt32.toInt ≤ elapsed

instance (timeout : UInt64) (elapsed : Nat) : Decidable (SleepOver timeout elapsed) :=
  inferInstanceAs (Decidable (_ ∧ _))

/-- Where a run of `server_cb_recv` that handles an `ASYNC_REP` stands. -/
inductive ReplyStage (ι : Type) where
  | idle
  | matched (request : ι) (slot : Slot)
  | leaving (request : ι) (slot : Slot)
  | cancelling (request : ι) (slot : Slot)
deriving DecidableEq

/-- The message slots of one module. `ι` names the calls of its threads and `κ` the
runs of `server_cb_recv`. -/
structure Slots (ι κ : Type) where
  is_used : Slot → Bool
  event_id : Slot → UInt64
  mtx_msg_pair : Option ι
  calls : ι → SendStage
  timers : ι → SendTimer
  handlers : κ → ReplyStage ι
  /-- `nng_clock`, in ms. -/
  clock : Nat
  /-- When the request called `nng_sleep_aio`. -/
  sent : ι → Nat

/-- What a call sends: its event id, whether it is `ipc_nng_long_send_async`, which
leaves its slot to the reply or the timer, and its timeout. The other four wait and
release the slot themselves. -/
structure Request where
  event_id : UInt64
  async : Bool
  timeout : UInt64

inductive SlotEvent (ι κ : Type) where
  | lock (x : ι)
  /-- The next turn of the loop of `ipc_nng_long_find_idle_message_pair`. -/
  | read (x : ι)
  | take (x : ι)
  | mark (x : ι)
  | arm (x : ι)
  | release (x : ι)
  | leave (x : ι)
  /-- An `ASYNC_REP` to request `x` is compared with a slot, and matches. -/
  | reply (k : κ) (x : ι) (slot : Slot)
  | clear (k : κ)
  | forget (k : κ)
  | cancel (k : κ)
  | tick
  | elapse (x : ι)
  /-- The callback of the sleep of `x` reads `nng_aio_result` and `is_used`. -/
  | fire (x : ι)
  | expire (x : ι)
  | retire (x : ι)

namespace Slots

variable {ι κ : Type} [DecidableEq ι] [DecidableEq κ]

def init : Slots ι κ where
  is_used _ := false
  event_id _ := 0
  mtx_msg_pair := none
  calls _ := .idle
  timers _ := .unset
  handlers _ := .idle
  clock := 0
  sent _ := 0

variable (s : Slots ι κ)

def setCall (x : ι) (stage : SendStage) : Slots ι κ :=
  { s with calls := Function.update s.calls x stage }

def setUsed (slot : Slot) (used : Bool) : Slots ι κ :=
  { s with is_used := Function.update s.is_used slot used }

/-- One turn of the loop, with the return of `NULL` after the last one. -/
def find_idle_read (x : ι) (i : Nat) : Slots ι κ :=
  if hi : i < 8 then
    if s.is_used ⟨i, hi⟩ then s.setCall x (.searching (i + 1)) else s.setCall x (.taking ⟨i, hi⟩)
  else { s.setCall x .refused with mtx_msg_pair := none }

/-- `msg_pair->is_used = true`, the unlock and the return. The pointer is still the one
to the first slot. -/
def find_idle_take (x : ι) (slot : Slot) : Slots ι κ :=
  { (s.setUsed 0 true).setCall x (.given slot) with mtx_msg_pair := none }

/-- The asynchronous request `x` gives up `slot`, if it still has it. -/
def endRequest (x : ι) (slot : Slot) : Slots ι κ :=
  if s.calls x = .marked slot then s.setCall x .done else s

/-- One event. There is no next state for an event that cannot happen. -/
def step (request : ι → Request) (s : Slots ι κ) : SlotEvent ι κ → Option (Slots ι κ)
  | .lock x =>
    if s.calls x = .idle ∧ s.mtx_msg_pair = none then
      some { s.setCall x (.searching 0) with mtx_msg_pair := some x }
    else none
  | .read x =>
    match s.calls x with
    | .searching i => some (s.find_idle_read x i)
    | _ => none
  | .take x =>
    match s.calls x with
    | .taking slot => some (s.find_idle_take x slot)
    | _ => none
  | .mark x =>
    match s.calls x with
    | .given slot =>
      some { (s.setUsed slot true).setCall x (.marked slot) with
        event_id := Function.update s.event_id slot (request x).event_id }
    | _ => none
  | .arm x =>
    match s.calls x with
    | .marked slot =>
      if (request x).async ∧ s.timers x = .unset then
        some { s with
          timers := Function.update (fun y => (s.timers y).restart slot) x (.armed slot)
          sent := Function.update s.sent x s.clock }
      else none
    | _ => none
  | .release x =>
    match s.calls x with
    | .marked slot =>
      if (request x).async then none else some ((s.setUsed slot false).setCall x (.leaving slot))
    | _ => none
  | .leave x =>
    match s.calls x with
    | .leaving slot => some { s.setCall x .done with event_id := Function.update s.event_id slot 0 }
    | _ => none
  | .reply k x slot =>
    match s.handlers k with
    | .idle =>
      if (request x).async ∧ s.timers x ≠ .unset ∧ s.event_id slot = (request x).event_id then
        some { s with handlers := Function.update s.handlers k (.matched x slot) }
      else none
    | _ => none
  | .clear k =>
    match s.handlers k with
    | .matched x slot =>
      some { (s.setUsed slot false).endRequest x slot with
        handlers := Function.update s.handlers k (.leaving x slot) }
    | _ => none
  | .forget k =>
    match s.handlers k with
    | .leaving x slot =>
      some { s with
        event_id := Function.update s.event_id slot 0
        handlers := Function.update s.handlers k (.cancelling x slot) }
    | _ => none
  | .cancel k =>
    match s.handlers k with
    | .cancelling _ slot =>
      some { s with
        timers := fun x => (s.timers x).cancel slot
        handlers := Function.update s.handlers k .idle }
    | _ => none
  | .tick => some { s with clock := s.clock + 1 }
  | .elapse x =>
    match s.timers x with
    | .armed slot =>
      if SleepOver (request x).timeout (s.clock - s.sent x) then
        some { s with timers := Function.update s.timers x (.elapsed slot) }
      else none
    | _ => none
  | .fire x =>
    match s.timers x with
    | .elapsed slot =>
      some { s with timers := Function.update s.timers x (if s.is_used slot then .expiring slot else .off) }
    | .cancelled _ => some { s with timers := Function.update s.timers x .off }
    | _ => none
  | .expire x =>
    match s.timers x with
    | .expiring slot =>
      some { (s.setUsed slot false).endRequest x slot with timers := Function.update s.timers x (.leaving slot) }
    | _ => none
  | .retire x =>
    match s.timers x with
    | .leaving slot =>
      some { s with
        event_id := Function.update s.event_id slot 0
        timers := Function.update s.timers x .off }
    | _ => none

def Holds (x : ι) (slot : Slot) : Prop := (s.calls x).holds = some slot

inductive Turn (request : ι → Request) (s : Slots ι κ) : SlotEvent ι κ → Slots ι κ → Prop where
  | lock {x : ι} (hx : s.calls x = .idle) (hmutex : s.mtx_msg_pair = none) :
      Turn request s (.lock x) { s.setCall x (.searching 0) with mtx_msg_pair := some x }
  | pass {x : ι} {i : Nat} (hx : s.calls x = .searching i) (hi : i < 8) (hused : s.is_used ⟨i, hi⟩ = true) :
      Turn request s (.read x) (s.setCall x (.searching (i + 1)))
  | find {x : ι} {i : Nat} (hx : s.calls x = .searching i) (hi : i < 8) (hidle : ¬s.is_used ⟨i, hi⟩ = true) :
      Turn request s (.read x) (s.setCall x (.taking ⟨i, hi⟩))
  | refuse {x : ι} {i : Nat} (hx : s.calls x = .searching i) (hi : ¬i < 8) :
      Turn request s (.read x) { s.setCall x .refused with mtx_msg_pair := none }
  | take {x : ι} {slot : Slot} (hx : s.calls x = .taking slot) : Turn request s (.take x) (s.find_idle_take x slot)
  | mark {x : ι} {slot : Slot} (hx : s.calls x = .given slot) :
      Turn request s (.mark x)
        { (s.setUsed slot true).setCall x (.marked slot) with
          event_id := Function.update s.event_id slot (request x).event_id }
  | arm {x : ι} {slot : Slot} (hx : s.calls x = .marked slot) (hunset : s.timers x = .unset) :
      Turn request s (.arm x)
        { s with
          timers := Function.update (fun y => (s.timers y).restart slot) x (.armed slot)
          sent := Function.update s.sent x s.clock }
  | release {x : ι} {slot : Slot} (hx : s.calls x = .marked slot) (hsync : ¬(request x).async = true) :
      Turn request s (.release x) ((s.setUsed slot false).setCall x (.leaving slot))
  | leave {x : ι} {slot : Slot} (hx : s.calls x = .leaving slot) :
      Turn request s (.leave x) { s.setCall x .done with event_id := Function.update s.event_id slot 0 }
  | reply {k : κ} {x : ι} {slot : Slot} (hk : s.handlers k = .idle) (hset : s.timers x ≠ .unset)
      (hevent : s.event_id slot = (request x).event_id) :
      Turn request s (.reply k x slot) { s with handlers := Function.update s.handlers k (.matched x slot) }
  | clear {k : κ} {x : ι} {slot : Slot} (hk : s.handlers k = .matched x slot) :
      Turn request s (.clear k)
        { (s.setUsed slot false).endRequest x slot with
          handlers := Function.update s.handlers k (.leaving x slot) }
  | forget {k : κ} {x : ι} {slot : Slot} (hk : s.handlers k = .leaving x slot) :
      Turn request s (.forget k)
        { s with
          event_id := Function.update s.event_id slot 0
          handlers := Function.update s.handlers k (.cancelling x slot) }
  | cancel {k : κ} {x : ι} {slot : Slot} (hk : s.handlers k = .cancelling x slot) :
      Turn request s (.cancel k)
        { s with
          timers := fun y => (s.timers y).cancel slot
          handlers := Function.update s.handlers k .idle }
  | tick : Turn request s .tick { s with clock := s.clock + 1 }
  | elapse {x : ι} {slot : Slot} (hx : s.timers x = .armed slot)
      (hover : SleepOver (request x).timeout (s.clock - s.sent x)) :
      Turn request s (.elapse x) { s with timers := Function.update s.timers x (.elapsed slot) }
  | fire {x : ι} {slot : Slot} (hx : s.timers x = .elapsed slot) :
      Turn request s (.fire x)
        { s with timers := Function.update s.timers x (if s.is_used slot then .expiring slot else .off) }
  | wake {x : ι} {slot : Slot} (hx : s.timers x = .cancelled slot) :
      Turn request s (.fire x) { s with timers := Function.update s.timers x .off }
  | expire {x : ι} {slot : Slot} (hx : s.timers x = .expiring slot) :
      Turn request s (.expire x)
        { (s.setUsed slot false).endRequest x slot with timers := Function.update s.timers x (.leaving slot) }
  | retire {x : ι} {slot : Slot} (hx : s.timers x = .leaving slot) :
      Turn request s (.retire x)
        { s with
          event_id := Function.update s.event_id slot 0
          timers := Function.update s.timers x .off }

theorem turn_of_step {request : ι → Request} {s next : Slots ι κ} {event : SlotEvent ι κ}
    (hnext : s.step request event = some next) : s.Turn request event next := by
  cases event with
  | lock x =>
    simp only [step, Option.ite_none_right_eq_some, Option.some.injEq] at hnext
    obtain ⟨⟨hx, hmutex⟩, rfl⟩ := hnext
    exact .lock hx hmutex
  | read x =>
    simp only [step] at hnext
    split at hnext
    · rename_i i hx
      cases hnext
      unfold find_idle_read
      split
      · rename_i hi
        split
        · rename_i hused
          exact .pass hx hi hused
        · rename_i hidle
          exact .find hx hi hidle
      · rename_i hi
        exact .refuse hx hi
    · cases hnext
  | arm x =>
    simp only [step] at hnext
    split at hnext
    · rename_i slot hx
      simp only [Option.ite_none_right_eq_some, Option.some.injEq] at hnext
      obtain ⟨⟨-, hunset⟩, rfl⟩ := hnext
      exact .arm hx hunset
    · cases hnext
  | release x =>
    simp only [step] at hnext
    split at hnext
    · rename_i slot hx
      simp only [Option.ite_none_left_eq_some, Option.some.injEq] at hnext
      obtain ⟨hsync, rfl⟩ := hnext
      exact .release hx hsync
    · cases hnext
  | reply k x slot =>
    simp only [step] at hnext
    split at hnext
    · rename_i hk
      simp only [Option.ite_none_right_eq_some, Option.some.injEq] at hnext
      obtain ⟨⟨-, hset, hevent⟩, rfl⟩ := hnext
      exact .reply hk hset hevent
    · cases hnext
  | tick =>
    cases hnext
    exact .tick
  | elapse x =>
    simp only [step] at hnext
    split at hnext
    · rename_i slot hx
      simp only [Option.ite_none_right_eq_some, Option.some.injEq] at hnext
      obtain ⟨hover, rfl⟩ := hnext
      exact .elapse hx hover
    · cases hnext
  | fire x =>
    simp only [step] at hnext
    split at hnext
    · rename_i slot hx
      cases hnext
      exact .fire hx
    · rename_i slot hx
      cases hnext
      exact .wake hx
    · cases hnext
  | take x | mark x | leave x | clear k | forget k | cancel k | expire x | retire x =>
    simp only [step] at hnext
    split at hnext
    · cases hnext
      constructor
      assumption
    · cases hnext

end Slots

end hub.nng_long
