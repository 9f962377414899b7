import Mathlib.Algebra.GroupWithZero.Nat
import Mathlib.Data.List.Basic
import Mathlib.Tactic.Common

namespace hub.ipc_zmq

def S_TO_MS : Int := 1000

def MS_TO_NS : Nat := 1000000

def tv_sec (time : Nat) : Nat := time / 1000000000

def tv_nsec (time : Nat) : Nat := time % 1000000000

/-- The milliseconds that are taken off the timeout. Division in C rounds towards zero. -/
def elapsed (start now : Nat) : Int :=
  ((tv_sec now : Int) - tv_sec start) * S_TO_MS + ((tv_nsec now : Int) - tv_nsec start).tdiv MS_TO_NS

/-- What may end a `zmq_poll` before its timeout. -/
inductive Wake where
  | interrupted
  | failed
  | event (pollin : Bool)

/-- The loop of `ipc_zmq_poll`, with its return value and the time of its return. Each wake
comes with its delay after the call of `zmq_poll`. There is no result if it waits for ever. -/
def pollLoop (start : Nat) : Nat → Int → List (Nat × Wake) → Option (Int × Nat)
  | now, timeout, [] => if timeout < 0 then none else some (-8, now + timeout.toNat * MS_TO_NS)
  | now, timeout, (wait, wake) :: wakes =>
    if 0 ≤ timeout ∧ timeout.toNat * MS_TO_NS ≤ wait then some (-8, now + timeout.toNat * MS_TO_NS)
    else match wake with
      | .event pollin => some (if pollin then 0 else -1, now + wait)
      | .failed => some (-1, now + wait)
      | .interrupted =>
        if timeout < 0 then pollLoop start (now + wait) timeout wakes
        else if timeout - elapsed start (now + wait) > 0 then
          pollLoop start (now + wait) (timeout - elapsed start (now + wait)) wakes
        else some (-1, now + wait)

def ipc_zmq_poll (start : Nat) (timeout : Int) (wakes : List (Nat × Wake)) : Option (Int × Nat) :=
  pollLoop start start timeout wakes

def interruptions (waits : List Nat) : List (Nat × Wake) := waits.map (·, .interrupted)

/-- The poll returns -8, not before its timeout and at most a millisecond for each
interruption after it. -/
def KeepsDeadline (start timeout : Nat) (waits : List Nat) : Prop :=
  ∃ time, ipc_zmq_poll start timeout (interruptions waits) = some (-8, time) ∧
    start + timeout * MS_TO_NS ≤ time ∧ time ≤ start + (timeout + waits.length) * MS_TO_NS

/-- What the interruptions take off the timeout: at each of them the whole time since the
start. -/
def measured (start : Nat) : Nat → List Nat → Int
  | _, [] => 0
  | now, wait :: waits => elapsed start (now + wait) + measured start (now + wait) waits

/-- Each interruption comes while the poll waits. -/
def Interrupts (start : Nat) : Nat → Int → List Nat → Prop
  | _, _, [] => True
  | now, timeout, wait :: waits =>
    wait < timeout.toNat * MS_TO_NS ∧ Interrupts start (now + wait) (timeout - elapsed start (now + wait)) waits

instance Interrupts.decidable (start : Nat) :
    ∀ (now : Nat) (timeout : Int) (waits : List Nat), Decidable (Interrupts start now timeout waits)
  | _, _, [] => .isTrue trivial
  | now, timeout, wait :: waits =>
    have := Interrupts.decidable start (now + wait) (timeout - elapsed start (now + wait)) waits
    inferInstanceAs (Decidable (_ ∧ _))

theorem pollLoop_interrupted {start now : Nat} {timeout : Int} {waits : List Nat} (htimeout : 0 < timeout)
    (hinterrupts : Interrupts start now timeout waits) :
    pollLoop start now timeout (interruptions waits) =
      if 0 < timeout - measured start now waits then
        some (-8, now + waits.sum + (timeout - measured start now waits).toNat * MS_TO_NS)
      else some (-1, now + waits.sum) := by
  induction waits generalizing now timeout with
  | nil =>
    rw [interruptions, List.map_nil, pollLoop, measured, if_neg (by omega), if_pos (by omega)]
    simp
  | cons wait waits ih =>
    obtain ⟨hwait, hrest⟩ := hinterrupts
    have hlate : ¬(0 ≤ timeout ∧ timeout.toNat * MS_TO_NS ≤ wait) := fun h => absurd h.2 (Nat.not_le.mpr hwait)
    rw [interruptions, List.map_cons, pollLoop, if_neg hlate]
    simp only [if_neg (show ¬timeout < 0 by omega), measured, List.sum_cons, ← Int.sub_sub, ← Nat.add_assoc]
    by_cases hleft : timeout - elapsed start (now + wait) > 0
    · rw [if_pos hleft]
      exact ih hleft hrest
    · rw [if_neg hleft]
      -- A poll with no time left is not interrupted again.
      cases waits with
      | nil => rw [measured, Int.sub_zero, if_neg hleft, List.sum_nil, Nat.add_zero]
      | cons next waits =>
        have hnext := hrest.1
        rw [Int.toNat_of_nonpos (by omega), Nat.zero_mul] at hnext
        exact absurd hnext (Nat.not_lt_zero next)

end hub.ipc_zmq
