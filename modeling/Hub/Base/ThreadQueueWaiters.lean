import Hub.Base.ThreadQueue
import Hub.Lib.CondVar
import Hub.Lib.Run
import Mathlib.Logic.Function.Basic

namespace hub.threadqueue

/-- The two condition variables of a queue, `cond_notempty` and `cond_notfull`. -/
inductive Cond where
  | notempty
  | notfull
deriving DecidableEq

inductive Call where
  | push_block (data : List UInt8) (timeout : UInt32)
  | push_nonblock (data : List UInt8)
  | pop_block (buffer : PopBuffer) (timeout : UInt32)
  | pop_nonblock (buffer : PopBuffer)

namespace Call

/-- The critical section of the call after a wait that has returned `wait`. -/
def critical (wait : Option Int) (calloc : ExternCalloc) : Call → Section
  | .push_block data timeout => .push_block data timeout wait calloc
  | .push_nonblock data => .push_nonblock data calloc
  | .pop_block buffer timeout => .pop_block buffer timeout wait
  | .pop_nonblock buffer => .pop_nonblock buffer

def needs : Call → Cond
  | .push_block _ _ | .push_nonblock _ => .notfull
  | .pop_block _ _ | .pop_nonblock _ => .notempty

def gives : Call → Cond
  | .push_block _ _ | .push_nonblock _ => .notempty
  | .pop_block _ _ | .pop_nonblock _ => .notfull

/-- The call has gone as far as the test of its condition, and waits if that fails. -/
def MayWait : Call → Prop
  | .push_block data _ => data.length ≠ 0
  | .pop_block _ _ => True
  | .push_nonblock _ | .pop_nonblock _ => False

theorem gives_ne_needs (call : Call) : call.gives ≠ call.needs := by
  intro heq
  cases call with
  | _ => cases heq

theorem eq_needs_of_ne_gives {call : Call} {cond : Cond} (h : cond ≠ call.gives) : cond = call.needs := by
  cases call with
  | push_block | push_nonblock =>
    cases cond with
    | notempty => exact absurd rfl h
    | notfull => rfl
  | pop_block | pop_nonblock =>
    cases cond with
    | notempty => rfl
    | notfull => exact absurd rfl h

end Call

def Outcome.success : Outcome → Bool
  | .returns ret => ret = .SUCCESS
  | .pops _ _ => true
  | .waits | .stops _ => false

/-- The messages to be popped, and the room for those to be pushed. -/
def Queue.available (q : Queue) : Cond → Nat
  | .notempty => q.count
  | .notfull => q.capacity - q.count

/-- What the call needs is there, but it cannot use it: the first message is longer than its
buffer, or there is no memory for its own message, which is longer than a node. -/
def Queue.Unfit (q : Queue) (calloc : ExternCalloc) : Call → Prop
  | .push_block data _ | .push_nonblock data =>
    q.count < q.capacity ∧ q.node_size < data.length ∧ calloc.fails = true
  | .pop_block buffer _ | .pop_nonblock buffer =>
    q.count ≠ 0 ∧ ∃ node ∈ q.nodes[q.tail]?, buffer.len < node.len

instance (q : Queue) (calloc : ExternCalloc) : ∀ call, Decidable (q.Unfit calloc call)
  | .push_block _ _ | .push_nonblock _ | .pop_block _ _ | .pop_nonblock _ => inferInstanceAs (Decidable (_ ∧ _))

/-- A queue with the threads `ι` that use it. `calls` are the calls that have waited and have
not returned: the wait goes on, or it has failed with the given error. -/
structure Waiters (ι : Type) where
  queue : Queue
  conds : Cond → CondVar ι
  calls : ι → Option (Call × Option Int)

inductive WaitersEvent (ι : Type) where
  /-- The first critical section of a call. `wakes` is the thread that its signal wakes. -/
  | call (i : ι) (call : Call) (calloc : ExternCalloc) (wakes : Option ι)
  | resume (i : ι) (calloc : ExternCalloc) (wakes : Option ι)
  | spurious (i : ι)
  /-- The wait of a thread ends with an error, such as `ETIMEDOUT`. -/
  | expire (i : ι) (ret : Int)

namespace Waiters

variable {ι : Type}

def init (queue : Queue) : Waiters ι where
  queue := queue
  conds _ := .init
  calls _ := none

variable [DecidableEq ι]

variable (s : Waiters ι)

def change (cond : Cond) (cv : CondVar ι) : Waiters ι :=
  { s with conds := Function.update s.conds cond cv }

/-- One critical section of a call: it waits, or it returns and has signalled the other
condition if it was successful. -/
def turn (i : ι) (call : Call) (wait : Option Int) (calloc : ExternCalloc) (wakes : Option ι) :
    Option (Waiters ι) :=
  (s.queue.step (call.critical wait calloc)).bind fun (queue, outcome) =>
    if outcome = .waits then
      some { s.change call.needs ((s.conds call.needs).wait i) with
        queue := queue
        calls := Function.update s.calls i (some (call, none)) }
    else if outcome.success then
      ((s.conds call.gives).signal wakes).map fun cv =>
        { s.change call.gives cv with queue := queue, calls := Function.update s.calls i none }
    else some { s with queue := queue, calls := Function.update s.calls i none }

/-- One event. There is no next state for an event that cannot happen. -/
def step : WaitersEvent ι → Option (Waiters ι)
  | .call i call calloc wakes => if s.calls i = none then s.turn i call none calloc wakes else none
  | .resume i calloc wakes =>
    match s.calls i with
    | some (call, none) =>
      if i ∈ (s.conds call.needs).woken then
        (s.change call.needs ((s.conds call.needs).leave i)).turn i call (some 0) calloc wakes
      else none
    | some (call, some ret) => s.turn i call (some ret) calloc wakes
    | none => none
  | .spurious i =>
    match s.calls i with
    | some (call, none) =>
      if i ∈ (s.conds call.needs).blocked then some (s.change call.needs ((s.conds call.needs).wake i)) else none
    | _ => none
  | .expire i ret =>
    match s.calls i with
    | some (call, none) =>
      if i ∈ (s.conds call.needs).blocked ∧ ret ≠ 0 then
        some { s.change call.needs ((s.conds call.needs).leave i) with
          calls := Function.update s.calls i (some (call, some ret)) }
      else none
    | _ => none

omit [DecidableEq ι] in
/-- No thread is blocked while there is something for it and no woken thread is on its way. -/
def NoLostWakeup : Prop :=
  ∀ cond, (s.conds cond).blocked.Nonempty → 0 < s.queue.available cond → (s.conds cond).woken.Nonempty

omit [DecidableEq ι] in
/-- A woken thread can take what it was woken for, unless no other thread is blocked. -/
def Takes : WaitersEvent ι → Prop
  | .resume i calloc _ => ∀ waited ∈ s.calls i, waited.2 = none → s.queue.Unfit calloc waited.1 →
      (s.conds waited.1.needs).blocked = ∅
  | .call _ _ _ _ | .spurious _ | .expire _ _ => True

instance : ∀ event, Decidable (Takes s event)
  | .resume _ _ _ => inferInstanceAs (Decidable (∀ _ ∈ _, _))
  | .call _ _ _ _ | .spurious _ | .expire _ _ => .isTrue trivial

def Waited (calls : ι → Option (Call × Option Int)) : Prop := ∀ i, ∀ waited ∈ calls i, waited.1.MayWait

theorem Waited.update {calls : ι → Option (Call × Option Int)} (h : Waited calls) (i : ι)
    {value : Option (Call × Option Int)} (hvalue : ∀ waited ∈ value, waited.1.MayWait) :
    Waited (Function.update calls i value) :=
  (Function.forall_update_iff calls fun _ value => ∀ waited ∈ value, waited.1.MayWait).mpr ⟨hvalue, fun j _ => h j⟩

omit [DecidableEq ι] in
/-- The queue runs, and there is a woken thread for each message and for each free node for
which threads are blocked. -/
structure Covered (s : Waiters ι) : Prop where
  waited : Waited s.calls
  is_run : s.queue.is_run = true
  count_le : s.queue.count ≤ s.queue.capacity
  covers : ∀ cond, (s.conds cond).Covers (s.queue.available cond)

end Waiters

inductive Moves (call : Call) (q next : Queue) : Outcome → Prop where
  | waits (hnone : q.available call.needs = 0) (hsame : ∀ cond, next.available cond = q.available cond) :
      Moves call q next .waits
  | succeeds {outcome : Outcome} (hsuccess : outcome.success = true)
      (htakes : q.available call.needs = next.available call.needs + 1)
      (hgives : next.available call.gives = q.available call.gives + 1) : Moves call q next outcome
  | fails {ret : Ret} (hret : ret ≠ .SUCCESS) (hsame : ∀ cond, next.available cond = q.available cond) :
      Moves call q next (.returns ret)

namespace Queue

variable {q next : Queue} {outcome : Outcome}

variable {calloc : ExternCalloc} {buffer : PopBuffer} {data : List UInt8}

theorem push_counts (hpush : q.push data calloc = some (next, outcome)) :
    next.is_run = q.is_run ∧ next.capacity = q.capacity ∧
      (outcome = .returns .SUCCESS ∧ next.count = q.count + 1 ∨
        outcome = .returns .ERR_MEM ∧ next.count = q.count ∧ q.node_size < data.length ∧ calloc.fails = true) := by
  obtain ⟨node, -, hrest⟩ := Option.bind_eq_some_iff.mp hpush
  obtain ⟨⟨fresh, externs⟩, -, hrest⟩ := Option.bind_eq_some_iff.mp hrest
  simp only at hrest
  split at hrest
  · rename_i hlong
    split at hrest
    · rename_i hfails
      cases hrest
      exact ⟨rfl, rfl, .inr ⟨rfl, rfl, hlong, hfails⟩⟩
    · obtain ⟨contents, -, heq⟩ := Option.map_eq_some_iff.mp hrest
      cases heq
      exact ⟨rfl, rfl, .inl ⟨rfl, rfl⟩⟩
  · obtain ⟨contents, -, heq⟩ := Option.map_eq_some_iff.mp hrest
    cases heq
    exact ⟨rfl, rfl, .inl ⟨rfl, rfl⟩⟩

theorem pop_counts (hpop : q.pop buffer = some (next, outcome)) :
    next.is_run = q.is_run ∧ next.capacity = q.capacity ∧
      ((∃ data len, outcome = .pops data len) ∧ next.count = q.count - 1 ∨
        outcome = .returns .ERR_LEN ∧ next.count = q.count ∧ ∃ node ∈ q.nodes[q.tail]?, buffer.len < node.len) := by
  obtain ⟨node, hnode, hrest⟩ := Option.bind_eq_some_iff.mp hpop
  split at hrest
  · rename_i hlong
    cases hrest
    exact ⟨rfl, rfl, .inr ⟨rfl, rfl, node, hnode, hlong⟩⟩
  · obtain ⟨⟨data, unloaded, externs⟩, -, heq⟩ := Option.map_eq_some_iff.mp hrest
    cases heq
    exact ⟨rfl, rfl, .inl ⟨⟨_, _, rfl⟩, rfl⟩⟩

/-- The queue runs on within its capacity, and the section has moved it. -/
def Keeps (call : Call) (q next : Queue) (outcome : Outcome) : Prop :=
  next.is_run = true ∧ next.count ≤ next.capacity ∧ Moves call q next outcome

variable {call : Call}

theorem Keeps.fails {ret : Ret} (hrun : q.is_run = true) (hle : q.count ≤ q.capacity) (hret : ret ≠ .SUCCESS) :
    Keeps call q q (.returns ret) := ⟨hrun, hle, .fails hret fun _ => rfl⟩

theorem push_keeps (hneeds : call.needs = .notfull)
    (hgives : call.gives = .notempty) (hrun : q.is_run = true) (hroom : q.count < q.capacity)
    (hpush : q.push data calloc = some (next, outcome)) : Keeps call q next outcome := by
  obtain ⟨hrun', hcapacity, ⟨rfl, hcount⟩ | ⟨rfl, hcount, -⟩⟩ := push_counts hpush
  · refine ⟨hrun'.trans hrun, by omega, .succeeds rfl ?_ ?_⟩
    · rw [hneeds]
      show q.capacity - q.count = next.capacity - next.count + 1
      omega
    · rw [hgives]
      exact hcount
  · refine ⟨hrun'.trans hrun, by omega, .fails (by decide) fun cond => ?_⟩
    cases cond with
    | notempty => exact hcount
    | notfull => rw [available, available, hcapacity, hcount]

theorem pop_keeps (hneeds : call.needs = .notempty) (hgives : call.gives = .notfull)
    (hrun : q.is_run = true) (hle : q.count ≤ q.capacity) (hpos : q.count ≠ 0)
    (hpop : q.pop buffer = some (next, outcome)) : Keeps call q next outcome := by
  obtain ⟨hrun', hcapacity, ⟨⟨data, len, rfl⟩, hcount⟩ | ⟨rfl, hcount, -⟩⟩ := pop_counts hpop
  · refine ⟨hrun'.trans hrun, by omega, .succeeds rfl ?_ ?_⟩
    · rw [hneeds]
      show q.count = next.count + 1
      omega
    · rw [hgives]
      show next.capacity - next.count = q.capacity - q.count + 1
      omega
  · refine ⟨hrun'.trans hrun, by omega, .fails (by decide) fun cond => ?_⟩
    cases cond with
    | notempty => exact hcount
    | notfull => rw [available, available, hcapacity, hcount]

section

variable (hrun : q.is_run = true) (hle : q.count ≤ q.capacity)

include hrun hle

variable {wait : Option Int} {timeout : UInt32}

theorem push_block_keeps (hstep : q.threadboundedqueue_push_block data timeout wait calloc = some (next, outcome)) :
    Keeps (.push_block data timeout) q next outcome := by
  rw [threadboundedqueue_push_block] at hstep
  split at hstep
  · cases hstep
    exact .fails hrun hle (by decide)
  · split at hstep
    · rename_i ret herror
      cases hstep
      exact .fails hrun hle (waitError_ne_success herror)
    · by_cases hfull : q.count ≥ q.capacity
      · rw [if_pos ⟨hrun, hfull⟩] at hstep
        cases hstep
        exact ⟨hrun, hle, .waits (Nat.sub_eq_zero_of_le hfull) fun _ => rfl⟩
      · have hroom : ¬ (q.is_run = true ∧ q.count ≥ q.capacity) := fun h => hfull h.2
        rw [if_neg hroom] at hstep
        exact push_keeps rfl rfl hrun (Nat.lt_of_not_ge hfull) hstep

theorem push_nonblock_keeps (hstep : q.threadboundedqueue_push_nonblock data calloc = some (next, outcome)) :
    Keeps (.push_nonblock data) q next outcome := by
  rw [threadboundedqueue_push_nonblock, if_neg (not_not_intro hrun)] at hstep
  split at hstep
  · cases hstep
    exact .fails hrun hle (by decide)
  · by_cases hfull : q.count ≥ q.capacity
    · rw [if_pos hfull] at hstep
      cases hstep
      exact .fails hrun hle (by decide)
    · rw [if_neg hfull] at hstep
      exact push_keeps rfl rfl hrun (Nat.lt_of_not_ge hfull) hstep

theorem pop_block_keeps (hstep : q.threadboundedqueue_pop_block buffer timeout wait = some (next, outcome)) :
    Keeps (.pop_block buffer timeout) q next outcome := by
  rw [threadboundedqueue_pop_block] at hstep
  split at hstep
  · rename_i ret herror
    cases hstep
    exact .fails hrun hle (waitError_ne_success herror)
  · by_cases hempty : q.count = 0
    · rw [if_pos ⟨hrun, hempty⟩] at hstep
      cases hstep
      exact ⟨hrun, hle, .waits hempty fun _ => rfl⟩
    · have hsome : ¬ (q.is_run = true ∧ q.count = 0) := fun h => hempty h.2
      rw [if_neg hsome, if_neg (not_not_intro hrun)] at hstep
      exact pop_keeps rfl rfl hrun hle hempty hstep

theorem pop_nonblock_keeps (hstep : q.threadboundedqueue_pop_nonblock buffer = some (next, outcome)) :
    Keeps (.pop_nonblock buffer) q next outcome := by
  rw [threadboundedqueue_pop_nonblock, if_neg (not_not_intro hrun)] at hstep
  by_cases hempty : q.count = 0
  · rw [if_pos hempty] at hstep
    cases hstep
    exact .fails hrun hle (by decide)
  · rw [if_neg hempty] at hstep
    exact pop_keeps rfl rfl hrun hle hempty hstep

theorem step_keeps
    (hstep : q.step (call.critical wait calloc) = some (next, outcome)) : Keeps call q next outcome := by
  cases call with
  | push_block => exact push_block_keeps hrun hle hstep
  | push_nonblock => exact push_nonblock_keeps hrun hle hstep
  | pop_block => exact pop_block_keeps hrun hle hstep
  | pop_nonblock => exact pop_nonblock_keeps hrun hle hstep

omit hrun hle in
theorem mayWait_of_waits (hstep : q.step (call.critical wait calloc) = some (next, .waits)) : call.MayWait := by
  cases call with
  | push_block data timeout =>
    intro hempty
    simp only [Call.critical, step, threadboundedqueue_push_block, if_pos hempty] at hstep
    cases hstep
  | push_nonblock data =>
    simp only [Call.critical, step, threadboundedqueue_push_nonblock] at hstep
    split at hstep
    · cases hstep
    · split at hstep
      · cases hstep
      · split at hstep
        · cases hstep
        · obtain ⟨-, -, ⟨hwaits, -⟩ | ⟨hwaits, -⟩⟩ := push_counts hstep
          all_goals cases hwaits
  | pop_block buffer timeout => trivial
  | pop_nonblock buffer =>
    simp only [Call.critical, step, threadboundedqueue_pop_nonblock] at hstep
    split at hstep
    · cases hstep
    · split at hstep
      · cases hstep
      · obtain ⟨-, -, ⟨⟨_, _, hwaits⟩, -⟩ | ⟨hwaits, -⟩⟩ := pop_counts hstep
        all_goals cases hwaits

omit hle in
/-- The only errors of a call that was woken are `ERR_MEM` and `ERR_LEN`. -/
theorem unfit_of_fails {ret : Ret} (hwaits : call.MayWait)
    (hstep : q.step (call.critical (some 0) calloc) = some (next, .returns ret)) (hret : ret ≠ .SUCCESS) :
    q.Unfit calloc call := by
  cases call with
  | push_block data timeout =>
    simp only [Call.critical, step, threadboundedqueue_push_block, if_neg hwaits, waitError, if_true, hrun] at hstep
    split at hstep
    · cases hstep
    · rename_i hfull
      obtain ⟨-, -, ⟨hsuccess, -⟩ | ⟨-, -, hlong, hfails⟩⟩ := push_counts hstep
      · cases hsuccess
        exact absurd rfl hret
      · exact ⟨Nat.lt_of_not_ge fun hge => hfull ⟨trivial, hge⟩, hlong, hfails⟩
  | pop_block buffer timeout =>
    simp only [Call.critical, step, threadboundedqueue_pop_block, waitError, if_true, hrun] at hstep
    split at hstep
    · cases hstep
    · rename_i hempty
      obtain ⟨-, -, ⟨⟨_, _, hpops⟩, -⟩ | ⟨-, -, hlong⟩⟩ := pop_counts hstep
      · cases hpops
      · exact ⟨fun hnone => hempty ⟨trivial, hnone⟩, hlong⟩
  | push_nonblock | pop_nonblock => exact hwaits.elim

end

end Queue

namespace Waiters

variable {ι : Type} [DecidableEq ι] {s next : Waiters ι} {i : ι} {call : Call}
  {wait : Option Int} {calloc : ExternCalloc} {wakes : Option ι}

omit [DecidableEq ι] in
theorem change_conds_self (cond : Cond) (cv : CondVar ι) : (s.change cond cv).conds cond = cv :=
  Function.update_self ..

variable {cond other : Cond}

omit [DecidableEq ι] in
theorem change_conds_of_ne (cv : CondVar ι) (hne : other ≠ cond) :
    (s.change cond cv).conds other = s.conds other := Function.update_of_ne hne ..

omit [DecidableEq ι] in
theorem change_covers {cv : CondVar ι} {n : Nat} (hself : other = cond → cv.Covers n)
    (hother : other ≠ cond → (s.conds other).Covers n) : ((s.change cond cv).conds other).Covers n := by
  by_cases heq : other = cond
  · subst heq
    rw [change_conds_self]
    exact hself rfl
  · rw [change_conds_of_ne cv heq]
    exact hother heq

/-- A section keeps the conditions covered. The condition that its call needs may lack one
woken thread when the section takes what it was woken for. -/
theorem turn_covered (hwaited : Waited s.calls) (hrun : s.queue.is_run = true) (hle : s.queue.count ≤ s.queue.capacity)
    (hothers : ∀ cond, cond ≠ call.needs → (s.conds cond).Covers (s.queue.available cond))
    (htaken : ∀ n, s.queue.available call.needs = n + 1 → (s.conds call.needs).Covers n)
    (hfailed : ∀ queue ret, s.queue.step (call.critical wait calloc) = some (queue, .returns ret) → ret ≠ .SUCCESS →
      (s.conds call.needs).Covers (s.queue.available call.needs))
    (hturn : s.turn i call wait calloc wakes = some next) : Covered next := by
  obtain ⟨⟨queue, outcome⟩, hstep, hnext⟩ := Option.bind_eq_some_iff.mp hturn
  obtain ⟨hrun', hle', hmoves⟩ := Queue.step_keeps hrun hle hstep
  have hback : Waited (Function.update s.calls i none) := hwaited.update i (by simp)
  cases hmoves with
  | waits hnone hsame =>
    cases hnext
    have hwaits := Queue.mayWait_of_waits hstep
    refine ⟨hwaited.update i (by simpa using hwaits), hrun', hle', fun cond => ?_⟩
    rw [hsame cond]
    apply change_covers
    · rintro rfl
      rw [hnone]
      exact CondVar.covers_zero _
    · exact hothers cond
  | succeeds hsuccess htakes hgives =>
    have hreturns : outcome ≠ .waits := by
      rintro rfl
      cases hsuccess
    simp only [if_neg hreturns, if_pos hsuccess] at hnext
    obtain ⟨cv, hsignal, rfl⟩ := Option.map_eq_some_iff.mp hnext
    refine ⟨hback, hrun', hle', fun cond => ?_⟩
    apply change_covers
    · rintro rfl
      rw [hgives]
      exact (hothers _ call.gives_ne_needs).signal hsignal
    · intro hcond
      rw [Call.eq_needs_of_ne_gives hcond]
      exact htaken _ htakes
  | @fails ret hret hsame =>
    have hfails : (Outcome.returns ret).success = false := decide_eq_false hret
    simp only [hfails] at hnext
    cases hnext
    refine ⟨hback, hrun', hle', fun cond => ?_⟩
    rw [hsame cond]
    by_cases hcond : cond = call.needs
    · rw [hcond]
      exact hfailed queue ret hstep hret
    · exact hothers cond hcond

theorem Covered.turn (h : Covered s) (hturn : s.turn i call wait calloc wakes = some next) : Covered next := by
  apply turn_covered h.waited h.is_run h.count_le (fun cond _ => h.covers cond) ?_
    (fun _ _ _ _ => h.covers call.needs) hturn
  intro n hn
  have hcovers := h.covers call.needs
  rw [hn] at hcovers
  exact hcovers.mono (Nat.le_succ n)

theorem Covered.turn_woken (h : Covered s)
    (htakes : ∀ queue ret, s.queue.step (call.critical wait calloc) = some (queue, .returns ret) → ret ≠ .SUCCESS →
      (s.conds call.needs).blocked = ∅)
    (hturn : (s.change call.needs ((s.conds call.needs).leave i)).turn i call wait calloc wakes = some next) :
    Covered next := by
  refine turn_covered (s := s.change call.needs ((s.conds call.needs).leave i)) h.waited h.is_run h.count_le
    ?_ ?_ ?_ hturn
  · intro cond hcond
    rw [change_conds_of_ne _ hcond]
    exact h.covers cond
  · intro n hn
    have hcovers := h.covers call.needs
    change s.queue.available call.needs = n + 1 at hn
    rw [hn] at hcovers
    rw [change_conds_self]
    exact hcovers.leave i
  · intro queue ret hstep hret
    rw [change_conds_self]
    apply CondVar.covers_of_blocked_eq_empty
    show (s.conds call.needs).blocked.erase i = ∅
    rw [htakes queue ret hstep hret]
    rfl

theorem Covered.step {event : WaitersEvent ι} (h : Covered s) (htakes : Takes s event)
    (hstep : Waiters.step s event = some next) : Covered next := by
  cases event with
  | call i call calloc wakes =>
    obtain ⟨-, hturn⟩ := Option.ite_none_right_eq_some.mp hstep
    exact h.turn hturn
  | resume i calloc wakes =>
    simp only [Waiters.step] at hstep
    split at hstep
    · rename_i call hcall
      obtain ⟨-, hturn⟩ := Option.ite_none_right_eq_some.mp hstep
      refine h.turn_woken (fun queue ret hstep hret => ?_) hturn
      exact htakes _ hcall rfl (Queue.unfit_of_fails h.is_run (h.waited i _ hcall) hstep hret)
    · exact h.turn hstep
    · cases hstep
  | spurious i =>
    simp only [Waiters.step] at hstep
    split at hstep
    · rename_i call hcall
      obtain ⟨hblocked, hnext⟩ := Option.ite_none_right_eq_some.mp hstep
      cases hnext
      refine ⟨h.waited, h.is_run, h.count_le, fun cond => ?_⟩
      apply change_covers
      · rintro rfl
        exact ((h.covers _).wake hblocked).mono (Nat.le_succ _)
      · exact fun _ => h.covers cond
    · cases hstep
  | expire i ret =>
    simp only [Waiters.step] at hstep
    split at hstep
    · rename_i call hcall
      obtain ⟨⟨hblocked, -⟩, hnext⟩ := Option.ite_none_right_eq_some.mp hstep
      cases hnext
      have hwaits := h.waited i _ hcall
      refine ⟨h.waited.update i (by simpa using hwaits), h.is_run, h.count_le, fun cond => ?_⟩
      apply change_covers
      · rintro rfl
        exact (h.covers _).leave_blocked hblocked
      · exact fun _ => h.covers cond
    · cases hstep

omit [DecidableEq ι] in
theorem Covered.noLostWakeup (h : Covered s) : NoLostWakeup s := fun cond hblocked hpos =>
  (h.covers cond).exists_woken hblocked hpos

omit [DecidableEq ι] in
theorem Covered.init {q : Queue} {node_num node_size : Nat} {allocates : Bool}
    (hcreate : threadboundedqueue_create node_num node_size allocates = some q) :
    Covered (Waiters.init (ι := ι) q) := by
  obtain ⟨-, hq⟩ := Option.ite_none_right_eq_some.mp hcreate
  cases hq
  exact ⟨by simp [Waited, Waiters.init], rfl, Nat.zero_le _, fun cond => CondVar.covers_of_blocked_eq_empty rfl _⟩

def room (len : Nat) : PopBuffer := ⟨List.replicate len 0, len, List.length_replicate.ge⟩

open scoped Parties

/-- Two consumers block, a producer pushes two bytes and wakes the first one, which has a
buffer of the given length. -/
def twoConsumers (len : Nat) : List (WaitersEvent (Fin 3)) :=
  [.call 0 (.pop_block (room len) 0) (.above false) none, .call 1 (.pop_block (room 4) 0) (.above false) none,
    .call 2 (.push_block [1, 2] 0) (.above false) (some 0), .resume 0 (.above false) none]

/-- A producer fills the queue, two producers with long messages block, and the message is
popped. There is no memory for the message of the producer that this wakes. -/
def twoProducers : List (WaitersEvent (Fin 3)) :=
  [.call 0 (.push_nonblock [1]) (.above false) none,
    .call 1 (.push_block [1, 2, 3, 4, 5] 0) (.above false) none,
    .call 2 (.push_block [1, 2, 3, 4, 5] 0) (.above false) none,
    .call 0 (.pop_nonblock (room 4)) (.above false) (some 1), .resume 1 (.above true) none]

end Waiters

end hub.threadqueue
