import Hub.NngLong.MessagePair

namespace hub.nng_long

open MessagePair

/-- One turn of the wait loop: the replies that `server_cb_recv` writes to the slot while
`nng_cv_until` has released the mutex, each with the reading of the clock, and the
reading when the wait ends. -/
structure Wait where
  replies : List (UInt64 × Reply)
  clock : UInt64

/-- `NNG_ETIMEDOUT` once the deadline has passed, and 0 on a wake-up before, with or
without a reply. -/
def nng_cv_until (expire clock : UInt64) : Int := if expire ≤ clock then NNG_ETIMEDOUT else 0

section Loop

variable {ι : Type}

def Wait.wake (wait : Wait) (pair : MessagePair ι) : MessagePair ι :=
  wait.replies.foldl (fun pair reply => pair.rep reply.2) pair

/-- The wait loop through the given waits and the end of the call. There is no result
while the call still waits after the last of them. -/
def waitLoop (pair : MessagePair ι) (ret : CallRet) : List Wait → Option (CallRet × MessagePair ι)
  | [] => if pair.Waits then none else some (ret, pair.release)
  | wait :: waits =>
    if pair.Waits then
      waitLoop (wait.wake pair) ((wait.wake pair).awaited (nng_cv_until pair.expire wait.clock)) waits
    else some (ret, pair.release)

theorem waitLoop_of_not_waits {pair : MessagePair ι} (hwaits : ¬pair.Waits) (ret : CallRet) (waits : List Wait) :
    waitLoop pair ret waits = some (ret, pair.release) := by
  cases waits with
  | nil | cons wait waits => simp only [waitLoop, if_neg hwaits]

/-- The loop ends in exactly two ways: it is not entered, or a reply arrives. Running
into the deadline is not among them. -/
theorem waitLoop_isSome_iff (pair : MessagePair ι) (ret : CallRet) (waits : List Wait) :
    (waitLoop pair ret waits).isSome ↔ ¬pair.Waits ∨ ∃ wait ∈ waits, wait.replies ≠ [] := by
  induction waits generalizing pair ret with
  | nil =>
    simp only [waitLoop]
    split <;> simp_all
  | cons wait waits ih =>
    by_cases hwaits : pair.Waits
    · rw [waitLoop, if_pos hwaits, ih]
      by_cases hreplies : wait.replies = []
      · have hsame : wait.wake pair = pair := by rw [Wait.wake, hreplies, List.foldl_nil]
        simp [hsame, hwaits, hreplies]
      · have hends : ¬(wait.wake pair).Waits := by
          obtain ⟨earlier, last, hlast⟩ := List.eq_nil_or_concat wait.replies |>.resolve_left hreplies
          rw [Wait.wake, hlast, List.concat_eq_append, List.foldl_append]
          exact not_waits_rep _ last.2
        simp [hends, hreplies]
    · simp [waitLoop_of_not_waits hwaits, hwaits]

end Loop

namespace SendCall

/-- A call from the moment it has the slot `pair`: `clock` and `clock'` are its two
readings of `nng_clock`, and `ret` is what `nng_sendmsg` returns. -/
def timed {ι : Type} (call : SendCall) (x : ι) (pair : MessagePair ι) (clock : UInt64) (ret : Int) (clock' : UInt64)
    (waits : List Wait) : Option (CallRet × MessagePair ι) :=
  waitLoop ((pair.fill x call clock).sent call clock') (.sendmsg ret) waits

/-- What may happen while a call waits for its deadline. Time passes, and the replies
bear the event id of the call. -/
structure Schedule (call : SendCall) (deadline : UInt64) where
  waits : Nat → Wait
  event_id : ∀ i, ∀ reply ∈ (waits i).replies, reply.2.event_id = call.event_id
  clock_mono : ∀ i, (waits i).clock ≤ (waits (i + 1)).clock
  reply_clock : ∀ i, ∀ reply ∈ (waits i).replies, reply.1 ≤ (waits i).clock
  passes : ∃ i, deadline ≤ (waits i).clock

namespace Schedule

variable {call : SendCall} {deadline : UInt64}

def take (schedule : call.Schedule deadline) (n : Nat) : List Wait := (List.range n).map schedule.waits

/-- No reply is handled before the deadline. -/
def Unanswered (schedule : call.Schedule deadline) : Prop :=
  ∀ i, ∀ reply ∈ (schedule.waits i).replies, deadline ≤ reply.1

/-- No reply comes, and every wait runs into the deadline. -/
def silent (call : SendCall) (deadline : UInt64) : call.Schedule deadline where
  waits _ := ⟨[], deadline⟩
  event_id _ _ hmem := by cases hmem
  clock_mono _ := UInt64.le_refl _
  reply_clock _ _ hmem := by cases hmem
  passes := ⟨0, UInt64.le_refl _⟩

theorem silent_unanswered (call : SendCall) (deadline : UInt64) : (silent call deadline).Unanswered :=
  fun _ _ hmem => by cases hmem

end Schedule

/-- A call whose message was not sent, or that is not answered in time, returns: after
finitely many waits, with an error, which is -8 when the message was sent, and with its
slot free. -/
def Ends {ι : Type} (call : SendCall) (x : ι) (pair : MessagePair ι) (clock : UInt64) (ret : Int)
    (clock' : UInt64) : Prop :=
  ∀ schedule : call.Schedule (clock' + call.timeout), ret ≠ 0 ∨ schedule.Unanswered →
    ∃ n out, call.timed x pair clock ret clock' (schedule.take n) = some out ∧ out.1.value ≠ 0 ∧
      (ret = 0 → out.1.value = -8) ∧ out.2.is_used = false

section Ends

variable {ι : Type} (call : SendCall) (x : ι) (pair : MessagePair ι) (clock : UInt64) (ret : Int) (clock' : UInt64)

theorem timed_waits_iff : ((pair.fill x call clock).sent call clock').Waits ↔ clock' + call.timeout ≠ 0 := by
  simp [Waits, sent, fill]

/-- Without a reply the call never returns, unless its deadline is the value 0 that
marks an unused slot. -/
theorem timed_silent_eq_none (hdeadline : clock' + call.timeout ≠ 0) (n : Nat) :
    call.timed x pair clock ret clock' ((Schedule.silent call (clock' + call.timeout)).take n) = none := by
  rw [← Option.not_isSome_iff_eq_none, timed, waitLoop_isSome_iff, timed_waits_iff, not_or, not_not]
  refine ⟨hdeadline, ?_⟩
  rintro ⟨wait, hmem, hreplies⟩
  obtain ⟨i, -, rfl⟩ := List.mem_map.mp hmem
  exact hreplies rfl

theorem timed_of_deadline_zero (hdeadline : clock' + call.timeout = 0) (waits : List Wait) :
    call.timed x pair clock ret clock' waits =
      some (.sendmsg ret, ((pair.fill x call clock).sent call clock').release) :=
  waitLoop_of_not_waits (by simp [timed_waits_iff, hdeadline]) _ _

/-- The timeout does not end a call: all that does is a failed send together with a
deadline of exactly 0. -/
theorem ends_iff : call.Ends x pair clock ret clock' ↔ ret ≠ 0 ∧ clock' + call.timeout = 0 := by
  constructor
  · intro hends
    obtain ⟨n, out, hout, hvalue, -, -⟩ := hends (.silent call _) (.inr (Schedule.silent_unanswered call _))
    by_cases hdeadline : clock' + call.timeout = 0
    · rw [timed_of_deadline_zero call x pair clock ret clock' hdeadline, Option.some.injEq] at hout
      subst hout
      exact ⟨hvalue, hdeadline⟩
    · rw [timed_silent_eq_none call x pair clock ret clock' hdeadline] at hout
      cases hout
  · rintro ⟨hret, hdeadline⟩ schedule -
    refine ⟨0, _, timed_of_deadline_zero call x pair clock ret clock' hdeadline _, hret, ?_, rfl⟩
    exact fun hzero => absurd hzero hret

end Ends

end SendCall

def firstNotify : SendCall := .send_notify (.toSecond 1)

/-- With the clock at 0 a notification that nobody answers, whether or not it was sent,
is still in its loop after any number of waits past its deadline of 1500. -/
theorem notify_waits_forever :
    ∃ schedule : firstNotify.Schedule (0 + firstNotify.timeout), schedule.Unanswered ∧
      (∀ i, nng_cv_until 1500 (schedule.waits i).clock = NNG_ETIMEDOUT) ∧
      ∀ ret, (ret = 0 ∨ ret = NNG_ETIMEDOUT) → ∀ n,
        firstNotify.timed () MessagePair.init 0 ret 0 (schedule.take n) = none :=
  ⟨.silent firstNotify _, SendCall.Schedule.silent_unanswered firstNotify _, fun _ => rfl, fun ret _ n =>
    SendCall.timed_silent_eq_none firstNotify () init 0 ret 0 (by decide) n⟩

end hub.nng_long
