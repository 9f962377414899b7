import Hub.Base.TimerClusterHpp
import Hub.Lib.Inevitable

namespace hub.hpp

variable {κ υ : Type}

/-- Where the thread is in `Processer`. It holds `timer_mutex` in `testing`, `blocking`,
`checking` and `parking`. -/
inductive ProcesserStage where
  | locking
  | testing
  | blocking
  | blocked
  | checking
  /-- It calls a callback, or commits it to the thread pool. -/
  | calling
  /-- The first timer is not due, and it is about to block until the timer expires. -/
  | parking (expire : Int)
  | parked (expire : Int)
  | ended
deriving DecidableEq

def ProcesserStage.holdsMutex : ProcesserStage → Bool
  | testing | blocking | checking | parking _ => true
  | locking | blocked | calling | parked _ | ended => false

/-- A notification of `timer_cv`. Only `Processer` waits there, and only a thread that is
blocked is woken. -/
def ProcesserStage.notified : ProcesserStage → ProcesserStage
  | blocked | parked _ => locking
  | stage => stage

variable {stage : ProcesserStage}

theorem ProcesserStage.eq_checking_of_notified (h : stage.notified = .checking) : stage = .checking := by
  cases stage with
  | checking => rfl
  | _ => cases h

/-- The thread is not in the first wait of its turn, and not about to be. -/
def ProcesserStage.Awake (stage : ProcesserStage) : Prop := stage ≠ .blocking ∧ stage ≠ .blocked

theorem ProcesserStage.awake_notified_iff : stage.notified.Awake ↔ stage ≠ .blocking := by
  cases stage <;> simp [Awake, notified]

/-- How far the thread is from leaving the loop once it is stopped. -/
def ProcesserStage.rank : ProcesserStage → Nat
  | ended => 0
  | checking => 1
  | testing => 2
  | locking => 3
  | calling | parked _ => 4
  | parking _ => 5
  | blocking | blocked => 0

theorem ProcesserStage.rank_notified_le (h : stage.Awake) : stage.notified.rank ≤ stage.rank := by
  cases stage with
  | blocked => exact absurd rfl h.2
  | parked => exact Nat.le_succ 3
  | _ => exact Nat.le_refl _

inductive DestructorStage where
  | outside
  | notifying
  | joining
  | done
deriving DecidableEq

structure Threads (κ υ : Type) where
  timers : TimerCluster κ υ
  timer_run : Bool
  processer : ProcesserStage
  destructor : DestructorStage

inductive ThreadEvent (κ υ : Type) where
  /-- `AddTimer`, `DelTimer` or `ResetTimer` by another thread, or by a callback. -/
  | operation (op : TimerEvent κ υ)
  -- the destructor
  | store
  | notify_all
  | join
  -- the thread
  | lock
  | test
  | block
  | check (now : Int)
  | back
  | park
  | timeout (now : Int)
  | spurious

def TimerOutcome.notifies : TimerOutcome κ υ → Bool
  | .adds _ => true
  | .returns ok => ok
  | .waits _ | .fires _ _ => false

namespace Threads

variable {op : TimerEvent κ υ}

variable (timers : TimerCluster κ υ) (s : Threads κ υ)

def start : Threads κ υ where
  timers := timers
  timer_run := true
  processer := .locking
  destructor := .outside

def predicate : Bool := !s.timer_run || !s.timers.timer_set.isEmpty

def operate (op : TimerEvent κ υ) : Threads κ υ :=
  let (timers, effect) := s.timers.step op
  { s with
    timers := timers
    processer := if effect.outcome.notifies then s.processer.notified else s.processer }

/-- What follows the wait: the thread leaves the loop, or it looks at the first timer. -/
def checked (now : Int) : Option (Threads κ υ) :=
  if !s.timer_run then some { s with processer := .ended }
  else
    let (timers, effect) := s.timers.Processer now
    match effect.outcome with
    | .fires _ info =>
      some { s with timers := timers, processer := if info.timer_cb.isSome then .calling else .locking }
    | .waits (some expire) => some { s with processer := .parking expire }
    | _ => none

def step : ThreadEvent κ υ → Option (Threads κ υ)
  | .operation (.Processer _) => none
  | .operation op =>
    if s.processer.holdsMutex ∨ s.destructor = .done then none else some (s.operate op)
  | .store =>
    if s.destructor = .outside then some { s with timer_run := false, destructor := .notifying } else none
  | .notify_all =>
    if s.destructor = .notifying then some { s with processer := s.processer.notified, destructor := .joining }
    else none
  | .join => if s.destructor = .joining ∧ s.processer = .ended then some { s with destructor := .done } else none
  | .lock => if s.processer = .locking then some { s with processer := .testing } else none
  | .test =>
    if s.processer = .testing then some { s with processer := if s.predicate then .checking else .blocking }
    else none
  | .block => if s.processer = .blocking then some { s with processer := .blocked } else none
  | .check now => if s.processer = .checking then s.checked now else none
  | .back => if s.processer = .calling then some { s with processer := .locking } else none
  | .park =>
    match s.processer with
    | .parking expire => some { s with processer := .parked expire }
    | _ => none
  | .timeout now =>
    match s.processer with
    | .parked expire => if expire ≤ now then some { s with processer := .locking } else none
    | _ => none
  | .spurious =>
    match s.processer with
    | .blocked | .parked _ => some { s with processer := .locking }
    | _ => none

def IsOperation : ThreadEvent κ υ → Prop
  | .operation _ => True
  | _ => False

/-- What comes when it can: locks are granted, time passes and callbacks return. A wait need
not end spuriously. -/
def Certain : ThreadEvent κ υ → Prop
  | .operation _ | .spurious => False
  | _ => True

def Joined : Prop := s.processer = .ended ∧ s.destructor = .done

/-- The destructor ends: its notification never waits, and once it has notified, it comes to
the end whatever happens. Until then the thread finds a timer after its first wait. -/
structure Ending (s : Threads κ υ) : Prop where
  notifies : s.destructor = .notifying → (s.step .notify_all).isSome
  joins : s.destructor = .joining → Inevitable step IsOperation Certain Joined s
  checks : s.processer = .checking → ∀ now, (s.step (.check now)).isSome

/-- The notification does not come after the thread has found the predicate false and before
it blocks. -/
def NotifiedInTime : ThreadEvent κ υ → Prop
  | .notify_all => s.destructor = .notifying → s.processer ≠ .blocking
  | _ => True

structure Reached (s : Threads κ υ) : Prop where
  stopped : s.destructor ≠ .outside → s.timer_run = false
  waited : s.processer = .checking → s.predicate = true

variable {s} {next : Threads κ υ} {event : ThreadEvent κ υ}

theorem reached_start : Reached (start timers) where
  stopped := fun h => absurd rfl h
  waited := fun h => by cases h

theorem operation_eq_some (hstep : s.step (.operation op) = some next) :
    s.processer.holdsMutex = false ∧ s.destructor ≠ .done ∧ next = s.operate op := by
  have hfree : ¬ (s.processer.holdsMutex = true ∨ s.destructor = .done) ∧ some (s.operate op) = some next := by
    cases op with
    | Processer now => cases hstep
    | AddTimer | DelTimer | ResetTimer => exact Option.ite_none_left_eq_some.mp hstep
  obtain ⟨hfree, hnext⟩ := hfree
  rw [not_or, Bool.not_eq_true] at hfree
  exact ⟨hfree.1, hfree.2, (Option.some.inj hnext).symm⟩

theorem operate_processer (s : Threads κ υ) (op : TimerEvent κ υ) :
    (s.operate op).processer = s.processer ∨ (s.operate op).processer = s.processer.notified := by
  simp only [operate]
  split
  · exact .inr rfl
  · exact .inl rfl

/-- The stage to which the thread goes on by an event, apart from its look at the timers. -/
inductive Turns (s : Threads κ υ) : ThreadEvent κ υ → ProcesserStage → Prop where
  | locks (hstage : s.processer = .locking) : Turns s .lock .testing
  | passes (hstage : s.processer = .testing) (hpredicate : s.predicate = true) : Turns s .test .checking
  | fails (hstage : s.processer = .testing) (hpredicate : ¬ s.predicate = true) : Turns s .test .blocking
  | blocks (hstage : s.processer = .blocking) : Turns s .block .blocked
  | leaves {now : Int} (hstage : s.processer = .checking) : Turns s (.check now) .ended
  | returns (hstage : s.processer = .calling) : Turns s .back .locking
  | parks {expire : Int} (hstage : s.processer = .parking expire) : Turns s .park (.parked expire)
  | expires {expire now : Int} (hstage : s.processer = .parked expire) : Turns s (.timeout now) .locking
  | wakes (hstage : s.processer = .blocked) : Turns s .spurious .locking
  | wakes_parked {expire : Int} (hstage : s.processer = .parked expire) : Turns s .spurious .locking

inductive Does (s : Threads κ υ) : ThreadEvent κ υ → Threads κ υ → Prop where
  | operates {op : TimerEvent κ υ} (hfree : s.processer.holdsMutex = false) : Does s (.operation op) (s.operate op)
  | stores (houtside : s.destructor = .outside) :
    Does s .store { s with timer_run := false, destructor := .notifying }
  | notifies (hnotifying : s.destructor = .notifying) :
    Does s .notify_all { s with processer := s.processer.notified, destructor := .joining }
  | joins (hjoining : s.destructor = .joining) (hended : s.processer = .ended) :
    Does s .join { s with destructor := .done }
  | turns {event : ThreadEvent κ υ} {stage : ProcesserStage} (hturns : Turns s event stage) :
    Does s event { s with processer := stage }
  | looks {now : Int} {timers : TimerCluster κ υ} {stage : ProcesserStage} (hrun : s.timer_run = true)
    (hstage : stage ≠ .checking) : Does s (.check now) { s with timers := timers, processer := stage }

theorem checked_does {now : Int} (hstage : s.processer = .checking) (hstep : s.checked now = some next) :
    Does s (.check now) next := by
  unfold checked at hstep
  split at hstep
  · cases hstep
    exact .turns (.leaves hstage)
  · rename_i hrun
    have hrun : s.timer_run = true := by simpa using hrun
    dsimp only at hstep
    split at hstep
    · cases hstep
      refine .looks hrun ?_
      split
      · exact ProcesserStage.noConfusion
      · exact ProcesserStage.noConfusion
    · cases hstep
      exact .looks hrun ProcesserStage.noConfusion
    · cases hstep

theorem step_does (hstep : s.step event = some next) : Does s event next := by
  cases event with
  | operation op =>
    obtain ⟨hfree, -, rfl⟩ := operation_eq_some hstep
    exact .operates hfree
  | store =>
    obtain ⟨houtside, hnext⟩ := Option.ite_none_right_eq_some.mp hstep
    cases hnext
    exact .stores houtside
  | notify_all =>
    obtain ⟨hnotifying, hnext⟩ := Option.ite_none_right_eq_some.mp hstep
    cases hnext
    exact .notifies hnotifying
  | join =>
    obtain ⟨⟨hjoining, hended⟩, hnext⟩ := Option.ite_none_right_eq_some.mp hstep
    cases hnext
    exact .joins hjoining hended
  | lock =>
    obtain ⟨hstage, hnext⟩ := Option.ite_none_right_eq_some.mp hstep
    cases hnext
    exact .turns (.locks hstage)
  | test =>
    obtain ⟨hstage, hnext⟩ := Option.ite_none_right_eq_some.mp hstep
    cases hnext
    split
    · rename_i hpredicate
      exact .turns (.passes hstage hpredicate)
    · rename_i hpredicate
      exact .turns (.fails hstage hpredicate)
  | block =>
    obtain ⟨hstage, hnext⟩ := Option.ite_none_right_eq_some.mp hstep
    cases hnext
    exact .turns (.blocks hstage)
  | check now =>
    obtain ⟨hstage, hnext⟩ := Option.ite_none_right_eq_some.mp hstep
    exact checked_does hstage hnext
  | back =>
    obtain ⟨hstage, hnext⟩ := Option.ite_none_right_eq_some.mp hstep
    cases hnext
    exact .turns (.returns hstage)
  | park =>
    simp only [step] at hstep
    split at hstep
    · rename_i hstage
      cases hstep
      exact .turns (.parks hstage)
    · cases hstep
  | timeout now =>
    simp only [step] at hstep
    split at hstep
    · rename_i hstage
      obtain ⟨-, hnext⟩ := Option.ite_none_right_eq_some.mp hstep
      cases hnext
      exact .turns (.expires hstage)
    · cases hstep
  | spurious =>
    simp only [step] at hstep
    split at hstep
    · rename_i hstage
      cases hstep
      exact .turns (.wakes hstage)
    · rename_i hstage
      cases hstep
      exact .turns (.wakes_parked hstage)
    · cases hstep

theorem checked_isSome (hwait : s.predicate = true) (now : Int) : (s.checked now).isSome := by
  unfold checked
  split
  · rfl
  · rename_i hrun
    cases hfirst : s.timers.timer_set with
    | nil =>
      rw [predicate, hfirst] at hwait
      exact absurd (by simpa using hwait) hrun
    | cons p rest =>
      simp only [TimerCluster.Processer, hfirst]
      by_cases hdue : (s.timers.infos.get p).timer_expire ≤ now
      · rw [if_pos hdue]
        cases htype : (s.timers.infos.get p).timer_type with
        | CYCLE | SINGLE => rfl
      · rw [if_neg hdue]
        rfl

theorem Turns.predicate (h : Turns s event stage) (hstage : stage = .checking) : s.predicate = true := by
  cases h with
  | passes _ hpredicate => exact hpredicate
  | _ => cases hstage

theorem Reached.step (h : Reached s) (hstep : s.step event = some next) : Reached next := by
  cases step_does hstep with
  | @operates op hfree =>
    refine ⟨h.stopped, fun hchecking => ?_⟩
    obtain hsame | hnotified := operate_processer s op
    · rw [← hsame, hchecking] at hfree
      cases hfree
    · rw [hnotified] at hchecking
      rw [ProcesserStage.eq_checking_of_notified hchecking] at hfree
      cases hfree
  | stores houtside => exact ⟨fun _ => rfl, fun _ => rfl⟩
  | notifies hnotifying =>
    refine ⟨fun _ => h.stopped ?_, fun hchecking => h.waited (ProcesserStage.eq_checking_of_notified hchecking)⟩
    rw [hnotifying]
    exact DestructorStage.noConfusion
  | joins hjoining hended =>
    refine ⟨fun _ => h.stopped ?_, h.waited⟩
    rw [hjoining]
    exact DestructorStage.noConfusion
  | turns hturns => exact ⟨h.stopped, fun hchecking => hturns.predicate hchecking⟩
  | looks _ hstage => exact ⟨h.stopped, fun hchecking => absurd hchecking hstage⟩

/-- The thread is stopped and on its way out, and the destructor waits for it. -/
structure Leaving (s : Threads κ υ) : Prop where
  joining : s.destructor = .joining
  stopped : s.timer_run = false
  awake : s.processer.Awake

theorem Leaving.operation (h : Leaving s) (hstep : s.step (.operation op) = some next) :
    Leaving next ∧ next.processer.rank ≤ s.processer.rank := by
  obtain ⟨-, -, rfl⟩ := operation_eq_some hstep
  obtain hsame | hnotified := operate_processer s op
  · rw [hsame]
    exact ⟨⟨h.joining, h.stopped, by rw [hsame]; exact h.awake⟩, Nat.le_refl _⟩
  · rw [hnotified]
    refine ⟨⟨h.joining, h.stopped, ?_⟩, ProcesserStage.rank_notified_le h.awake⟩
    rw [hnotified]
    exact ProcesserStage.awake_notified_iff.mpr h.awake.1

theorem Leaving.enabled (h : Leaving s) : ∃ event, Certain event ∧ (s.step event).isSome := by
  cases hstage : s.processer with
  | locking => exact ⟨.lock, trivial, by simp [Threads.step, hstage]⟩
  | testing => exact ⟨.test, trivial, by simp [Threads.step, hstage]⟩
  | blocking => exact absurd hstage h.awake.1
  | blocked => exact absurd hstage h.awake.2
  | checking => exact ⟨.check 0, trivial, by simp [Threads.step, checked, hstage, h.stopped]⟩
  | calling => exact ⟨.back, trivial, by simp [Threads.step, hstage]⟩
  | parking expire => exact ⟨.park, trivial, by simp [Threads.step, hstage]⟩
  | parked expire => exact ⟨.timeout expire, trivial, by simp [Threads.step, hstage]⟩
  | ended => exact ⟨.join, trivial, by simp [Threads.step, hstage, h.joining]⟩

theorem Leaving.system (h : Leaving s) (hsystem : ¬ IsOperation event) (hstep : s.step event = some next) :
    Joined next ∨ (Leaving next ∧ next.processer.rank < s.processer.rank) := by
  cases step_does hstep with
  | operates => exact absurd trivial hsystem
  | stores houtside => cases houtside.symm.trans h.joining
  | notifies hnotifying => cases hnotifying.symm.trans h.joining
  | joins _ hended => exact .inl ⟨hended, rfl⟩
  | turns hturns =>
    -- A stopped thread that is not in its first wait comes nearer to its end.
    cases hturns with
    | fails _ hpredicate => exact absurd (by rw [Threads.predicate, h.stopped]; rfl) hpredicate
    | blocks hstage => exact absurd hstage h.awake.1
    | wakes hstage => exact absurd hstage h.awake.2
    | locks hstage | passes hstage | leaves hstage | returns hstage | parks hstage | expires hstage
    | wakes_parked hstage =>
      rw [hstage]
      exact .inr ⟨⟨h.joining, h.stopped, ProcesserStage.noConfusion, ProcesserStage.noConfusion⟩, Nat.lt_succ_self _⟩
  | looks hrun => cases h.stopped.symm.trans hrun

theorem Leaving.inevitable (h : Leaving s) : Inevitable step IsOperation Certain Joined s := by
  refine Inevitable.of_rank Leaving (fun s => s.processer.rank) ?_ (fun s h => h.enabled) ?_ h
  · intro s event next h hoperation hstep
    cases event with
    | operation op => exact h.operation hstep
    | _ => cases hoperation
  · intro s event next h hsystem hstep
    exact h.system hsystem hstep

theorem not_joined_of_joining (h : s.destructor = .joining) : ¬ Joined s := fun hjoined => by
  cases hjoined.2.symm.trans h

theorem not_certain_of_blocked (hjoining : s.destructor = .joining) (hblocked : s.processer = .blocked)
    (hcertain : Certain event) : s.step event = none := by
  cases event with
  | operation op | spurious => cases hcertain
  | _ => simp [step, hjoining, hblocked]

theorem awake_of_inevitable (h : Inevitable step IsOperation Certain Joined s) (hjoining : s.destructor = .joining) :
    s.processer.Awake := by
  have hblocked : ∀ s : Threads κ υ, Inevitable step IsOperation Certain Joined s → s.destructor = .joining →
      s.processer ≠ .blocked := by
    intro s h hjoining hblocked
    obtain ⟨event, hcertain, henabled⟩ := h.enabled (not_joined_of_joining hjoining)
    rw [not_certain_of_blocked hjoining hblocked hcertain] at henabled
    cases henabled
  refine ⟨fun hblocking => ?_, hblocked s h hjoining⟩
  have hstep : s.step .block = some { s with processer := .blocked } := by rw [step, if_pos hblocking]
  exact hblocked _ (h.of_system (not_joined_of_joining hjoining) id hstep) hjoining rfl

theorem ending_iff (h : Reached s) :
    Ending s ↔ (s.destructor = .joining → Inevitable step IsOperation Certain Joined s) := by
  refine ⟨fun hending => hending.joins, fun hjoins => ⟨fun hnotifying => ?_, hjoins, fun hchecking now => ?_⟩⟩
  · rw [step, if_pos hnotifying]
    rfl
  · rw [step, if_pos hchecking]
    exact checked_isSome (h.waited hchecking) now

theorem Ending.step (h : Ending s) (hnext : Reached next) (hstep : s.step event = some next)
    (hevent : event ≠ .notify_all) : Ending next := by
  refine (ending_iff hnext).mpr fun hjoining => ?_
  have hbefore : s.destructor = .joining := by
    cases step_does hstep with
    | operates | turns | looks => exact hjoining
    | stores | joins => cases hjoining
    | notifies => exact absurd rfl hevent
  by_cases hoperation : IsOperation event
  · exact (h.joins hbefore).of_environment (not_joined_of_joining hbefore) hoperation hstep
  · exact (h.joins hbefore).of_system (not_joined_of_joining hbefore) hoperation hstep

theorem notify_all_ending_iff (h : Reached s) (hstep : s.step .notify_all = some next) :
    Ending next ↔ s.processer ≠ .blocking := by
  rw [ending_iff (h.step hstep)]
  obtain ⟨hnotifying, hnext⟩ := Option.ite_none_right_eq_some.mp hstep
  have hstopped : s.timer_run = false := h.stopped (by rw [hnotifying]; exact DestructorStage.noConfusion)
  cases hnext
  rw [← ProcesserStage.awake_notified_iff]
  constructor
  · exact fun hjoins => awake_of_inevitable (hjoins rfl) rfl
  · exact fun hawake _ => Leaving.inevitable ⟨rfl, hstopped, hawake⟩

/-- The destructor ends in a run exactly when its notification does not fall between the test
of the predicate and the wait. -/
theorem destructor_ends_iff (events : List (ThreadEvent κ υ)) :
    Throughout step Ending (start timers) events ↔ Meets step NotifiedInTime (start timers) events := by
  apply throughout_iff_meets fun s _ => Reached s
  · intro s event _ next h hstep
    exact h.step hstep
  · intro s event hstuck
    cases event with
    | notify_all =>
      intro hnotifying
      rw [step, if_pos hnotifying] at hstuck
      cases hstuck
    | _ => trivial
  · intro s event _ next h hending hstep
    cases event with
    | notify_all =>
      obtain ⟨hnotifying, -⟩ := Option.ite_none_right_eq_some.mp hstep
      rw [notify_all_ending_iff h hstep]
      exact ⟨fun hne _ => hne, fun hne => hne hnotifying⟩
    | _ =>
      refine iff_of_true (hending.step (h.step hstep) hstep fun heq => ?_) trivial
      cases heq
  · exact reached_start timers
  · refine (ending_iff (reached_start timers)).mpr fun hjoining => ?_
    cases hjoining

/-- Without timers the thread finds the predicate false, the destructor stores and notifies,
and the thread blocks. Nothing has to end its wait. -/
theorem notification_before_wait_is_lost :
    ∃ s, run step (start (TimerCluster.init : TimerCluster Unit Unit)) [.lock, .test, .store, .notify_all, .block] =
        some s ∧
      s.destructor = .joining ∧ s.processer = .blocked ∧ ∀ event, Certain event → s.step event = none := by
  refine ⟨_, rfl, rfl, rfl, fun event hcertain => ?_⟩
  apply not_certain_of_blocked
  · rfl
  · rfl
  · exact hcertain

end Threads

end hub.hpp
