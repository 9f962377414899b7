import Hub.Lib.Run

namespace hub.fsm

def FSM_INVALID_STATE : UInt8 := 255

/-- A state that has a procedure. -/
abbrev ValidState : Type := { st : UInt8 // st ≠ FSM_INVALID_STATE }

inductive Event where
  | entered (st : UInt8)
  | ran (st : UInt8)
  | exited (st : UInt8)

/-- `FSM` with both notifications set, and the calls of them and of the procedures so far. -/
structure FSM where
  ds : UInt8
  cs : UInt8
  ns : UInt8
  events : List Event

namespace FSM

variable (fsm : FSM)

def set_procedures : FSM := { fsm with cs := 255 }

def set_default_state (st : UInt8) : FSM := { fsm with ds := st, ns := st }

def set_next_state (st : UInt8) : FSM := { fsm with ns := st }

def call (event : Event) : FSM := { fsm with events := fsm.events ++ [event] }

def enter : FSM :=
  let last := fsm.cs
  let will_be := fsm.ns
  let fsm := { fsm with cs := fsm.ns }
  if last ≠ will_be ∧ will_be ≠ FSM_INVALID_STATE then fsm.call (.entered will_be) else fsm

def leave : FSM :=
  if fsm.cs ≠ fsm.ns ∧ fsm.cs ≠ FSM_INVALID_STATE then fsm.call (.exited fsm.cs) else fsm

/-- `next` are the states that the procedure passes to `set_next_state`. -/
def run_state_machine_once (next : List ValidState) : FSM :=
  let fsm := fsm.enter
  (next.foldl (fun fsm st => fsm.set_next_state st) (fsm.call (.ran fsm.cs))).leave

end FSM

inductive Step where
  | once (next : List ValidState)
  | set_next_state (st : ValidState)

def FSM.step (fsm : FSM) : Step → FSM
  | .once next => fsm.run_state_machine_once next
  | .set_next_state st => fsm.set_next_state st

/-- The state that is entered and not exited after an event that is in order. -/
def follow : Option UInt8 → Event → Option (Option UInt8)
  | none, .entered st => some (some st)
  | some current, .ran st => if st = current then some (some current) else none
  | some current, .exited st => if st = current then some none else none
  | _, _ => none

/-- States are entered and exited in turn, and procedures run in between. -/
def Paired (events : List Event) : Prop := (run follow none events).isSome

/-- `set_next_state` between steps neither starts nor takes back a change of state. -/
def Harmless (fsm : FSM) : Step → Prop
  | .once _ => True
  | .set_next_state st => fsm.cs = st ↔ fsm.cs = fsm.ns

namespace FSM

/-- Between steps. Nothing is entered before the first of them. -/
structure Outside (fsm : FSM) : Prop where
  ns : fsm.ns ≠ FSM_INVALID_STATE
  events : run follow none fsm.events = some (if fsm.cs = fsm.ns then some fsm.cs else none)

structure Inside (fsm : FSM) : Prop where
  cs : fsm.cs ≠ FSM_INVALID_STATE
  ns : fsm.ns ≠ FSM_INVALID_STATE
  events : run follow none fsm.events = some (some fsm.cs)

variable {fsm : FSM} {st : UInt8}

theorem follow_call {current next : Option UInt8} {event : Event} (hevents : run follow none fsm.events = some current)
    (hfollow : follow current event = some next) : run follow none (fsm.call event).events = some next :=
  run_append_eq_some.mpr ⟨current, hevents, run_cons_eq_some.mpr ⟨next, hfollow, rfl⟩⟩

theorem Outside.enter (h : fsm.Outside) : fsm.enter.Inside := by
  have hevents := h.events
  unfold FSM.enter
  by_cases hsame : fsm.cs = fsm.ns
  · rw [if_pos hsame, hsame] at hevents
    rw [if_neg fun hchange => hchange.1 hsame]
    exact ⟨h.ns, h.ns, hevents⟩
  · rw [if_neg hsame] at hevents
    rw [if_pos ⟨hsame, h.ns⟩]
    exact ⟨h.ns, h.ns, follow_call hevents rfl⟩

theorem Inside.leave (h : fsm.Inside) : fsm.leave.Outside := by
  unfold FSM.leave
  by_cases hsame : fsm.cs = fsm.ns
  · rw [if_neg fun hchange => hchange.1 hsame]
    exact ⟨h.ns, h.events.trans (by rw [if_pos hsame])⟩
  · rw [if_pos ⟨hsame, h.cs⟩]
    exact ⟨h.ns, (follow_call h.events (by simp [follow])).trans (congrArg some (if_neg hsame).symm)⟩

theorem Outside.step (h : fsm.Outside) {step : Step} (hharmless : Harmless fsm step) : (fsm.step step).Outside := by
  cases step with
  | once next =>
    have henter := h.enter
    have hran : (fsm.enter.call (.ran fsm.enter.cs)).Inside :=
      ⟨henter.cs, henter.ns, follow_call henter.events (by simp [follow, call])⟩
    apply Inside.leave
    exact foldl_invariant Inside (fun _ st _ hfsm => ⟨hfsm.cs, st.2, hfsm.events⟩) hran
  | set_next_state st =>
    refine ⟨st.2, h.events.trans ?_⟩
    rw [if_congr hharmless.symm rfl rfl]
    rfl

end FSM

/-- The notifications are paired if no call of `set_next_state` between steps starts a change
of state or takes one back. -/
theorem notifications_paired (fsm : FSM) (st : ValidState) {steps : List Step} (hevents : fsm.events = [])
    (hmeets : LoopMeets FSM.step Harmless (fsm.set_procedures.set_default_state st) steps) :
    Paired (steps.foldl FSM.step (fsm.set_procedures.set_default_state st)).events := by
  have hstart : (fsm.set_procedures.set_default_state st).Outside := by
    refine ⟨st.2, ?_⟩
    change run follow none fsm.events = some (if FSM_INVALID_STATE = st then _ else none)
    rw [hevents, if_neg st.2.symm]
    rfl
  have houtside := foldl_invariant_of_meets FSM.Outside (fun _ _ h hharmless => h.step hharmless) hstart hmeets
  exact Option.isSome_of_eq_some houtside.events

def first : ValidState := ⟨1, by decide⟩

def second : ValidState := ⟨2, by decide⟩

def third : ValidState := ⟨3, by decide⟩

/-- The change to state 2 is turned into one to state 3 before it is made, and the procedure
of state 3 goes back to state 1. -/
def changingSteps : List Step := [.once [second], .set_next_state third, .once [first], .once []]

theorem notifications_paired_over_change :
    (changingSteps.foldl FSM.step ((FSM.mk 0 0 0 []).set_procedures.set_default_state first)).events =
      [.entered 1, .ran 1, .exited 1, .entered 3, .ran 3, .exited 3, .entered 1, .ran 1] ∧
    Paired (changingSteps.foldl FSM.step ((FSM.mk 0 0 0 []).set_procedures.set_default_state first)).events :=
  ⟨rfl, @notifications_paired _ _ changingSteps rfl
    ⟨trivial, iff_of_false (by decide) (by decide), trivial, trivial, trivial⟩⟩

/-- Between two steps in state 1 the next state is set to 2, and it is entered without an exit
from 1. -/
theorem entered_twice : ([.once [], .set_next_state second, .once []].foldl FSM.step
      ((FSM.mk 0 0 0 []).set_procedures.set_default_state first)).events =
    [.entered 1, .ran 1, .entered 2, .ran 2] := by
  rfl

end hub.fsm
