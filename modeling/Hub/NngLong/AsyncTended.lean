import Hub.NngLong.MessagePair
import Hub.NngLong.SlotsExclusive

namespace hub.nng_long

open Function SendStage

def send_async (args : SendArgs) (timeout : UInt64) : Request where
  event_id :=
    D_IPC_NNG_LONG_GENERATION_EVENT_ID D_IPC_NNG_LONG_PROTOCOL_ASYNC args.src_id args.dest_id args.msg_id args.index
  async := true
  timeout := timeout

theorem send_async_event_id_ne (args : SendArgs) (timeout : UInt64) : (send_async args timeout).event_id ≠ 0 :=
  event_id_ne_zero _ _ (.inr (.inl rfl)) (le_max_of_valid args.src_valid) (le_max_of_valid args.dest_valid)

def ReplyStage.slot {ι : Type} : ReplyStage ι → Option Slot
  | .idle => none
  | .matched _ slot | .leaving _ slot | .cancelling _ slot => some slot

def ReplyStage.request {ι : Type} : ReplyStage ι → Option ι
  | .idle => none
  | .matched x _ | .leaving x _ | .cancelling x _ => some x

/-- The slot that a run of `send_request_async_timeout_handle` is at work on. -/
def SendTimer.busy : SendTimer → Option Slot
  | .expiring slot | .leaving slot => some slot
  | .unset | .armed _ | .elapsed _ | .cancelled _ | .off => none

/-- The slot that a run of `send_request_async_timeout_handle` is still to look at. -/
def SendTimer.due : SendTimer → Option Slot
  | .elapsed slot | .cancelled slot => some slot
  | .unset | .armed _ | .expiring _ | .leaving _ | .off => none

/-- A reply handler or a timer callback has started on the slot and has not ended. -/
def AtWork {ι κ : Type} (timers : ι → SendTimer) (handlers : κ → ReplyStage ι) (slot : Slot) : Prop :=
  (∃ k, (handlers k).slot = some slot) ∨ ∃ x, (timers x).busy = some slot

/-- How far an asynchronous request is, together with its timer and the handler `k` of a
reply to it, when nobody gets in the way of another. -/
inductive Phase (κ : Type) where
  | early (stage : SendStage)
  | waiting (slot : Slot) (timer : SendTimer)
  | matched (slot : Slot) (timer : SendTimer) (k : κ)
  /-- The handler has released the slot and is about to erase the event id. -/
  | clearing (slot : Slot) (timer : SendTimer) (k : κ)
  | cancelling (slot : Slot) (timer : SendTimer) (k : κ)
  /-- The timer has released the slot and is about to erase the event id. -/
  | retiring (slot : Slot)
  /-- The slot is released, and the callback of the timer is still to run. -/
  | ending (slot : Slot) (timer : SendTimer)
  | past

namespace Phase

variable {ι κ : Type}

def call : Phase κ → SendStage
  | early stage => stage
  | waiting slot _ | matched slot _ _ => .marked slot
  | clearing _ _ _ | cancelling _ _ _ | retiring _ | ending _ _ | past => .done

def timer : Phase κ → SendTimer
  | early _ => .unset
  | waiting _ timer | matched _ timer _ | clearing _ timer _ | cancelling _ timer _ | ending _ timer => timer
  | retiring slot => .leaving slot
  | past => .off

def slot : Phase κ → Option Slot
  | early stage => stage.holds
  | waiting slot _ | matched slot _ _ | clearing slot _ _ | cancelling slot _ _ | retiring slot | ending slot _ =>
    some slot
  | past => none

def names : Phase κ → Option Slot
  | waiting slot _ | matched slot _ _ | clearing slot _ _ | retiring slot => some slot
  | early _ | cancelling _ _ _ | ending _ _ | past => none

def worker : Phase κ → Option κ
  | matched _ _ k | clearing _ _ k | cancelling _ _ k => some k
  | early _ | waiting _ _ | retiring _ | ending _ _ | past => none

def reply (x : ι) : Phase κ → ReplyStage ι
  | matched slot _ _ => .matched x slot
  | clearing slot _ _ => .leaving x slot
  | cancelling slot _ _ => .cancelling x slot
  | early _ | waiting _ _ | retiring _ | ending _ _ | past => .idle

/-- The stage or the timer is one that the phase can have. -/
def Fits : Phase κ → Prop
  | early stage => (∀ slot, stage ≠ .marked slot ∧ stage ≠ .leaving slot) ∧ stage ≠ .done
  | waiting slot timer =>
    timer = .unset ∨ timer = .armed slot ∨ timer = .elapsed slot ∨ timer = .expiring slot
  | matched slot timer _ => timer = .armed slot ∨ timer = .elapsed slot
  | clearing slot timer _ | cancelling slot timer _ => timer = .armed slot ∨ timer = .elapsed slot ∨ timer = .off
  | ending slot timer => timer = .elapsed slot ∨ timer = .cancelled slot
  | retiring _ | past => True

def setTimer (timer : SendTimer) : Phase κ → Phase κ
  | waiting slot _ => waiting slot timer
  | matched slot _ k => matched slot timer k
  | clearing slot _ k => clearing slot timer k
  | cancelling slot _ k => cancelling slot timer k
  | ending slot _ => ending slot timer
  | early stage => early stage
  | retiring slot => retiring slot
  | past => past

variable {phase : Phase κ} {place : Slot} {x : ι} {k : κ}

section

variable (phase) (timer : SendTimer)

@[simp]
theorem call_setTimer : (phase.setTimer timer).call = phase.call := by cases phase <;> rfl

@[simp]
theorem slot_setTimer : (phase.setTimer timer).slot = phase.slot := by cases phase <;> rfl

@[simp]
theorem names_setTimer : (phase.setTimer timer).names = phase.names := by cases phase <;> rfl

@[simp]
theorem worker_setTimer : (phase.setTimer timer).worker = phase.worker := by cases phase <;> rfl

@[simp]
theorem reply_setTimer (x : ι) : (phase.setTimer timer).reply x = phase.reply x := by cases phase <;> rfl

end

theorem slot_of_names (h : phase.names = some place) : phase.slot = some place := by
  cases phase with
  | waiting | matched | clearing | retiring => exact h
  | early | cancelling | ending | past => cases h

theorem slot_of_holds (h : phase.call.holds = some place) : phase.slot = some place := by
  cases phase with
  | early | waiting | matched => exact h
  | clearing | cancelling | retiring | ending | past => cases h

theorem started_of_names (h : phase.names = some place) : phase.call ≠ .idle := by
  cases phase <;> simp [names, call] at h ⊢

theorem request_of_worker (h : phase.worker = some k) : (phase.reply x).request = some x := by
  cases phase <;> simp [reply, ReplyStage.request, worker] at h ⊢

theorem eq_early (hmarked : ∀ slot, phase.call ≠ .marked slot) (hdone : phase.call ≠ .done) :
    phase = .early phase.call := by
  cases phase with
  | early stage => rfl
  | waiting slot | matched slot => exact absurd rfl (hmarked slot)
  | _ => exact absurd rfl hdone

end Phase

/-- The invariant of asynchronous requests that do not get in each other's way. -/
structure Tended {ι κ : Type} (request : ι → Request) (calls : ι → SendStage) (event_id : Slot → UInt64)
    (timers : ι → SendTimer) (handlers : κ → ReplyStage ι) (phase : ι → Phase κ) : Prop where
  call : ∀ x, calls x = (phase x).call
  timer : ∀ x, timers x = (phase x).timer
  fits : ∀ x, (phase x).Fits
  apart : ∀ x y slot, (phase x).slot = some slot → (phase y).slot = some slot → x = y
  distinct : ∀ x y, calls x ≠ .idle → calls y ≠ .idle → (request x).event_id = (request y).event_id → x = y
  works : Reflects Phase.worker Phase.reply .idle phase handlers
  names : Reflects Phase.names (fun x _ => (request x).event_id) 0 phase event_id

namespace Tended

variable {ι κ : Type} {request : ι → Request} {calls : ι → SendStage} {event_id : Slot → UInt64}
  {timers : ι → SendTimer} {handlers : κ → ReplyStage ι} {phase : ι → Phase κ} {x y : ι}
  {slot : Slot} {timer : SendTimer} {k : κ}

theorem init :
    Tended (κ := κ) request (fun _ => .idle) (fun _ => 0) (fun _ => .unset) (fun _ => .idle)
      fun _ => .early .idle where
  call _ := rfl
  timer _ := rfl
  fits _ := by simp [Phase.Fits]
  apart _ _ _ hx := by cases hx
  distinct _ _ hx := absurd rfl hx
  works := ⟨fun _ _ hx => (by cases hx), fun _ _ => rfl⟩
  names := ⟨fun _ _ hx => (by cases hx), fun _ _ => rfl⟩

section Facts

variable (h : Tended request calls event_id timers handlers phase)

include h

theorem others (hx : calls x ≠ .idle) (y : ι) (hyx : y ≠ x) (hy : calls y ≠ .idle) :
    (request y).event_id ≠ (request x).event_id := fun hevent => hyx (h.distinct y x hy hx hevent)

theorem names_ne (hx : (phase x).slot = some slot) (y : ι) (hyx : y ≠ x) : (phase y).names ≠ some slot :=
  fun hy => hyx (h.apart y x slot (Phase.slot_of_names hy) hx)

theorem phase_cases (x : ι) :
    match timers x with
    | .unset => phase x = .early (calls x) ∨ ∃ slot, phase x = .waiting slot .unset
    | .armed slot => phase x = .waiting slot (.armed slot) ∨ ∃ k, phase x = .matched slot (.armed slot) k ∨
      phase x = .clearing slot (.armed slot) k ∨ phase x = .cancelling slot (.armed slot) k
    | .elapsed slot => phase x = .ending slot (.elapsed slot) ∨ phase x = .waiting slot (.elapsed slot) ∨
      ∃ k, phase x = .matched slot (.elapsed slot) k ∨ phase x = .clearing slot (.elapsed slot) k ∨
        phase x = .cancelling slot (.elapsed slot) k
    | .cancelled slot => phase x = .ending slot (.cancelled slot)
    | .expiring slot => phase x = .waiting slot (.expiring slot)
    | .leaving slot => phase x = .retiring slot
    | .off => phase x = .past ∨ ∃ slot k, phase x = .clearing slot .off k ∨ phase x = .cancelling slot .off k := by
  have hfits := h.fits x
  rw [h.timer x, h.call x]
  cases hphase : phase x with
  | early | retiring | past => simp [Phase.timer, Phase.call]
  | waiting slot timer =>
    rw [hphase] at hfits
    obtain rfl | rfl | rfl | rfl := hfits <;> simp [Phase.timer]
  | matched slot timer k | ending slot timer =>
    rw [hphase] at hfits
    obtain rfl | rfl := hfits <;> simp [Phase.timer]
  | clearing slot timer k | cancelling slot timer k =>
    rw [hphase] at hfits
    obtain rfl | rfl | rfl := hfits <;> simp [Phase.timer]

/-- The phase of the request whose reply a handler is at work on. -/
theorem phase_of_handler (k : κ) :
    match handlers k with
    | .idle => ∀ x, (phase x).worker ≠ some k
    | .matched x slot => ∃ timer, phase x = .matched slot timer k
    | .leaving x slot => ∃ timer, phase x = .clearing slot timer k
    | .cancelling x slot => ∃ timer, phase x = .cancelling slot timer k := by
  by_cases hfree : ∀ x, (phase x).worker ≠ some k
  · rw [h.works.free k hfree]
    exact hfree
  · obtain ⟨x, hx⟩ := not_forall_not.mp hfree
    rw [h.works.held x k hx]
    cases hphase : phase x with
    | matched slot timer l | clearing slot timer l | cancelling slot timer l =>
      rw [hphase] at hx
      cases hx
      exact ⟨timer, hphase⟩
    | _ =>
      rw [hphase] at hx
      cases hx

theorem worker_ne (hk : ∀ y, (handlers k).request = some y → y = x) (y : ι) (hyx : y ≠ x) :
    (phase y).worker ≠ some k := by
  intro hy
  refine hyx (hk y ?_)
  rw [h.works.held y k hy]
  exact Phase.request_of_worker hy

theorem atWork_of_worker (hworker : (phase x).worker = some k) (hslot : (phase x).slot = some slot) :
    AtWork timers handlers slot := by
  refine .inl ⟨k, ?_⟩
  rw [h.works.held x k hworker]
  cases hphase : phase x with
  | matched | clearing | cancelling =>
    rw [hphase] at hslot
    exact hslot
  | _ =>
    rw [hphase] at hworker
    cases hworker

theorem vacant (hfree : ∀ y, (calls y).holds ≠ some slot) (hwork : ¬AtWork timers handlers slot)
    (hdue : ∀ y, (timers y).due ≠ some slot) (y : ι) : (phase y).slot ≠ some slot := by
  intro hy
  have hheld := hfree y
  have hbusy : (timers y).busy ≠ some slot := fun hbusy => hwork (.inr ⟨y, hbusy⟩)
  have hlate := hdue y
  have hfits := h.fits y
  rw [h.call y] at hheld
  rw [h.timer y] at hbusy hlate
  cases hphase : phase y with
  | early | waiting | matched =>
    rw [hphase] at hy hheld
    exact hheld hy
  | clearing other timer k | cancelling other timer k =>
    exact hwork (h.atWork_of_worker (by rw [hphase]; rfl) hy)
  | retiring other =>
    rw [hphase] at hy hbusy
    exact hbusy hy
  | ending other timer =>
    rw [hphase] at hy hlate hfits
    obtain rfl | rfl := hfits
    · exact hlate hy
    · exact hlate hy
  | past =>
    rw [hphase] at hy
    cases hy

theorem phase_of_unset (hx : calls x = .marked slot) (hunset : timers x = .unset) :
    phase x = .waiting slot .unset := by
  have hcases := h.phase_cases x
  have hfits := h.fits x
  have hcall := h.call x
  rw [hunset, hx] at hcases
  rcases hcases with hphase | ⟨other, hphase⟩
  · rw [hphase] at hfits
    exact absurd rfl (hfits.1 slot).1
  · rw [hx, hphase] at hcall
    cases hcall
    exact hphase

theorem restart_eq (hx : calls x = .marked slot) (hunset : timers x = .unset) :
    (fun y => (timers y).restart slot) = timers := by
  funext y
  refine if_neg fun hcancelled => ?_
  have hphase := h.phase_cases y
  rw [hcancelled] at hphase
  obtain rfl := h.apart x y slot (by rw [h.phase_of_unset hx hunset]; rfl) (by rw [hphase]; rfl)
  rw [hunset] at hcancelled
  cases hcancelled

theorem started (hset : timers x ≠ .unset) : calls x ≠ .idle := by
  rw [h.timer x] at hset
  rw [h.call x]
  cases hphase : phase x with
  | early =>
    rw [hphase] at hset
    exact absurd rfl hset
  | _ => simp [Phase.call]

theorem not_holds (hx : (phase x).slot = some slot) (hdone : (phase x).call = .done) (y : ι) :
    (calls y).holds ≠ some slot := by
  intro hy
  obtain rfl := h.apart y x slot (Phase.slot_of_holds (h.call y ▸ hy)) hx
  rw [h.call y, hdone] at hy
  cases hy

theorem not_leaving (x : ι) (slot : Slot) : calls x ≠ .leaving slot := by
  intro hx
  have hfits := h.fits x
  rw [h.call x] at hx
  have hphase : phase x = .early (phase x).call := Phase.eq_early (by simp [hx]) (by simp [hx])
  rw [hphase, hx] at hfits
  exact (hfits.1 slot).2 rfl

theorem timer_cases (hset : timers x ≠ .unset) :
    calls x = .done ∨ ∃ slot, calls x = .marked slot ∧
      (timers x = .armed slot ∨ timers x = .elapsed slot ∨ timers x = .expiring slot) := by
  have hfits := h.fits x
  rw [h.call x]
  rw [h.timer x] at hset ⊢
  cases hphase : phase x with
  | early =>
    rw [hphase] at hset
    exact absurd rfl hset
  | waiting slot timer =>
    rw [hphase] at hset hfits
    exact .inr ⟨slot, rfl, hfits.resolve_left hset⟩
  | matched slot timer =>
    rw [hphase] at hfits
    exact .inr ⟨slot, rfl, hfits.imp_right .inl⟩
  | _ => exact .inl rfl

theorem names_of_marked (hx : calls x = .marked slot) : (phase x).names = some slot := by
  have hfits := h.fits x
  rw [h.call x] at hx
  cases hphase : phase x with
  | early =>
    rw [hphase] at hx hfits
    exact absurd hx (hfits.1 slot).1
  | waiting | matched =>
    rw [hphase] at hx
    exact congrArg some (marked.inj hx)
  | _ =>
    rw [hphase] at hx
    cases hx

theorem names_of_event_id (hx : calls x ≠ .idle) (hne : (request x).event_id ≠ 0)
    (hevent : event_id slot = (request x).event_id) : (phase x).names = some slot := by
  by_contra hnames
  refine hne (hevent.symm.trans (h.names.free slot fun y hy => hnames ?_))
  obtain rfl : y = x := by
    refine h.distinct y x ?_ hx ((h.names.held y slot hy).symm.trans hevent)
    rw [h.call y]
    exact Phase.started_of_names hy
  exact hy

theorem event_id_iff (hne : (request x).event_id ≠ 0) (hx : calls x = .marked slot) (other : Slot) :
    event_id other = (request x).event_id ↔ other = slot := by
  have hnames := h.names_of_marked hx
  constructor
  · intro hevent
    exact Option.some.inj ((h.names_of_event_id (by simp [hx]) hne hevent).symm.trans hnames)
  · rintro rfl
    exact h.names.held x other hnames

theorem matched_of_atWork (hx : calls x = .marked slot) (htimer : (timers x).busy = none)
    (hwork : AtWork timers handlers slot) : ∃ k, handlers k = .matched x slot := by
  have hslot := Phase.slot_of_names (h.names_of_marked hx)
  have hholds : (calls x).holds = some slot := by
    rw [hx]
    rfl
  rcases hwork with ⟨k, hk⟩ | ⟨y, hy⟩
  · have hcases := h.phase_of_handler k
    cases hstage : handlers k with
    | idle =>
      rw [hstage] at hk
      cases hk
    | matched y other =>
      rw [hstage] at hk hcases
      cases hk
      obtain ⟨timer, hphase⟩ := hcases
      obtain rfl := h.apart x y slot hslot (by rw [hphase]; rfl)
      exact ⟨k, hstage⟩
    | leaving y other | cancelling y other =>
      rw [hstage] at hk hcases
      cases hk
      obtain ⟨timer, hphase⟩ := hcases
      exact absurd hholds (h.not_holds (x := y) (by rw [hphase]; rfl) (by rw [hphase]; rfl) x)
  · have hcases := h.phase_cases y
    cases hstage : timers y with
    | expiring other | leaving other =>
      rw [hstage] at hy hcases
      cases hy
      obtain rfl := h.apart x y slot hslot (by rw [hcases]; rfl)
      rw [hstage] at htimer
      cases htimer
    | _ =>
      rw [hstage] at hy
      cases hy

end Facts

section Steps

variable [DecidableEq ι] {p old : Phase κ} (h : Tended request calls event_id timers handlers phase)

include h

variable {calls' : ι → SendStage} {event_id' : Slot → UInt64} {timers' : ι → SendTimer}
  {handlers' : κ → ReplyStage ι}

theorem move (hfits : p.Fits)
    (hslot : ∀ slot, p.slot = some slot → (phase x).slot = some slot ∨ ∀ y, (phase y).slot ≠ some slot)
    (hdistinct : ∀ y, y ≠ x → calls y ≠ .idle → (request y).event_id ≠ (request x).event_id)
    (hworks : Reflects Phase.worker Phase.reply .idle (update phase x p) handlers')
    (hnames : Reflects Phase.names (fun x _ => (request x).event_id) 0 (update phase x p) event_id')
    (hcalls : calls' = update calls x p.call) (htimers : timers' = update timers x p.timer) :
    Tended request calls' event_id' timers' handlers' (update phase x p) := by
  subst hcalls htimers
  refine ⟨?_, ?_, ?_, ?_, distinct_of_update h.distinct hdistinct, hworks, hnames⟩
  · intro y
    rw [apply_update fun _ => Phase.call]
    exact congrFun (congrArg (update · x p.call) (funext h.call)) y
  · intro y
    rw [apply_update fun _ => Phase.timer]
    exact congrFun (congrArg (update · x p.timer) (funext h.timer)) y
  · exact (forall_update_iff phase fun _ phase => phase.Fits).mpr ⟨hfits, fun y _ => h.fits y⟩
  · apply unique_of_update (fun _ (phase : Phase κ) slot => phase.slot = some slot) h.apart
    intro y slot hyx hnew hold
    rcases hslot slot hnew with hsame | hfree
    · exact hyx (h.apart y x slot hold hsame)
    · exact hfree y hold

theorem same_call (hphase : phase x = old) (hcall : p.call = old.call) : calls = update calls x p.call := by
  rw [hcall, ← hphase, ← h.call x, update_eq_self]

theorem same_timer (hphase : phase x = old) (htimer : p.timer = old.timer) : timers = update timers x p.timer := by
  rw [htimer, ← hphase, ← h.timer x, update_eq_self]

theorem onward (hphase : phase x = old) (hstarted : old.call ≠ .idle) (hfits : p.Fits)
    (hslot : p.slot = old.slot ∨ p.slot = none)
    (hworks : Reflects Phase.worker Phase.reply .idle (update phase x p) handlers')
    (hnames : Reflects Phase.names (fun x _ => (request x).event_id) 0 (update phase x p) event_id')
    (hcalls : calls' = update calls x p.call) (htimers : timers' = update timers x p.timer) :
    Tended request calls' event_id' timers' handlers' (update phase x p) := by
  subst hphase
  refine h.move hfits ?_ (h.others (by rwa [h.call x])) hworks hnames hcalls htimers
  intro slot hnew
  rcases hslot with hsame | hnone
  · exact .inl (hsame ▸ hnew)
  · rw [hnone] at hnew
    cases hnew

theorem retime (hstarted : calls x ≠ .idle)
    (hnew : ((phase x).setTimer timer).Fits ∧ ((phase x).setTimer timer).timer = timer) :
    ∃ phase', Tended request calls event_id (update timers x timer) handlers phase' := by
  have hphase : phase x = phase x := rfl
  refine ⟨_, h.onward (p := (phase x).setTimer timer) hphase ?_ hnew.1 (.inl (by simp))
    (h.works.keep hphase (by simp) (by simp)) (h.names.keep hphase (by simp) rfl) (h.same_call hphase (by simp)) ?_⟩
  · rwa [← h.call x]
  · rw [hnew.2]

theorem search {stage : SendStage} (hmarked : ∀ slot, calls x ≠ .marked slot) (hdone : calls x ≠ .done)
    (hfits : (Phase.early stage : Phase κ).Fits)
    (hvacant : ∀ slot, stage.holds = some slot → ∀ y, (phase y).slot ≠ some slot)
    (hdistinct : ∀ y, y ≠ x → calls y ≠ .idle → (request y).event_id ≠ (request x).event_id) :
    ∃ phase', Tended request (update calls x stage) event_id timers handlers phase' := by
  rw [h.call x] at hmarked hdone
  have hphase : phase x = .early (phase x).call := Phase.eq_early hmarked hdone
  exact ⟨_, h.move hfits (fun slot hslot => .inr (hvacant slot hslot)) hdistinct (h.works.keep hphase rfl rfl)
    (h.names.keep hphase rfl rfl) rfl (h.same_timer hphase rfl)⟩

theorem mark (hx : calls x = .given slot) :
    ∃ phase', Tended request (update calls x (.marked slot)) (update event_id slot (request x).event_id) timers handlers
      phase' := by
  have hphase : phase x = .early (.given slot) := by
    rw [h.call x] at hx
    rw [← hx]
    exact Phase.eq_early (by simp [hx]) (by simp [hx])
  refine ⟨_, h.onward (p := .waiting slot .unset) hphase (by simp [Phase.call]) (.inl rfl) (.inl rfl)
    (h.works.keep hphase rfl rfl) (h.names.set hphase ?_ (h.names_ne ?_) (.inl ⟨rfl, rfl⟩)) rfl
    (h.same_timer hphase rfl)⟩
  · intro other hother
    cases hother
  · rw [hphase]
    rfl

theorem arm (hx : calls x = .marked slot) (hunset : timers x = .unset) :
    ∃ phase', Tended request calls event_id (update timers x (.armed slot)) handlers phase' := by
  have hphase := h.phase_of_unset hx hunset
  exact h.retime (by simp [hx]) (by simp [hphase, Phase.setTimer, Phase.Fits, Phase.timer])

theorem elapse (hx : timers x = .armed slot) :
    ∃ phase', Tended request calls event_id (update timers x (.elapsed slot)) handlers phase' := by
  have hcases := h.phase_cases x
  rw [hx] at hcases
  refine h.retime (h.started (by simp [hx])) ?_
  rcases hcases with hphase | ⟨k, hphase | hphase | hphase⟩ <;>
    simp [hphase, Phase.setTimer, Phase.Fits, Phase.timer]

theorem finish (hphase : phase x = .ending slot timer) :
    ∃ phase', Tended request calls event_id (update timers x .off) handlers phase' :=
  ⟨_, h.onward (p := .past) hphase (by simp [Phase.call]) trivial (.inr rfl) (h.works.keep hphase rfl rfl)
    (h.names.keep hphase rfl rfl) (h.same_call hphase rfl) rfl⟩

theorem fire (hx : timers x = .elapsed slot) (hy : (calls y).holds = some slot)
    (hwork : ¬AtWork timers handlers slot) :
    ∃ phase', Tended request calls event_id (update timers x (.expiring slot)) handlers phase' := by
  have hcases := h.phase_cases x
  have hstarted : calls x ≠ .idle := h.started (by simp [hx])
  rw [hx] at hcases
  rcases hcases with hphase | hphase | ⟨k, hphase | hphase | hphase⟩
  · exact absurd hy (h.not_holds (x := x) (by rw [hphase]; rfl) (by rw [hphase]; rfl) y)
  · exact h.retime hstarted (by simp [hphase, Phase.setTimer, Phase.Fits, Phase.timer])
  · exact absurd (h.atWork_of_worker (by rw [hphase]; rfl) (by rw [hphase]; rfl)) hwork
  · exact absurd hy (h.not_holds (x := x) (by rw [hphase]; rfl) (by rw [hphase]; rfl) y)
  · exact absurd hy (h.not_holds (x := x) (by rw [hphase]; rfl) (by rw [hphase]; rfl) y)

theorem lapse (hx : timers x = .elapsed slot) (hmarked : calls x ≠ .marked slot) :
    ∃ phase', Tended request calls event_id (update timers x .off) handlers phase' := by
  have hcases := h.phase_cases x
  have hstarted : calls x ≠ .idle := h.started (by simp [hx])
  rw [h.call x] at hmarked
  rw [hx] at hcases
  rcases hcases with hphase | hphase | ⟨k, hphase | hphase | hphase⟩
  · exact h.finish hphase
  · exact absurd (by rw [hphase]; rfl) hmarked
  · exact absurd (by rw [hphase]; rfl) hmarked
  · exact h.retime hstarted (by simp [hphase, Phase.setTimer, Phase.Fits, Phase.timer])
  · exact h.retime hstarted (by simp [hphase, Phase.setTimer, Phase.Fits, Phase.timer])

theorem expire (hx : timers x = .expiring slot) :
    ∃ phase', Tended request (update calls x .done) event_id (update timers x (.leaving slot)) handlers phase' := by
  have hphase := h.phase_cases x
  rw [hx] at hphase
  exact ⟨_, h.onward (p := .retiring slot) hphase (by simp [Phase.call]) trivial (.inl rfl)
    (h.works.keep hphase rfl rfl) (h.names.keep hphase rfl rfl) rfl rfl⟩

theorem retire (hx : timers x = .leaving slot) :
    ∃ phase', Tended request calls (update event_id slot 0) (update timers x .off) handlers phase' := by
  have hphase := h.phase_cases x
  rw [hx] at hphase
  refine ⟨_, h.onward (p := .past) hphase (by simp [Phase.call]) trivial (.inr rfl) (h.works.keep hphase rfl rfl)
    (h.names.set hphase ?_ (h.names_ne ?_) (.inr ⟨rfl, rfl⟩)) (h.same_call hphase rfl) rfl⟩
  · exact fun other hother => (Option.some.inj hother).symm
  · rw [hphase]
    rfl

theorem cancel_eq (hx : (phase x).slot = some slot) :
    (fun y => (timers y).cancel slot) = update timers x ((timers x).cancel slot) := by
  funext y
  by_cases hyx : y = x
  · rw [hyx, update_self]
  · rw [update_of_ne hyx]
    refine if_neg fun harmed => hyx (h.apart y x slot ?_ hx)
    have hcases := h.phase_cases y
    rw [harmed] at hcases
    rcases hcases with hphase | ⟨k, hphase | hphase | hphase⟩ <;> simp [hphase, Phase.slot]

variable [DecidableEq κ]

theorem reply (hk : handlers k = .idle) (hevent : event_id slot = (request x).event_id)
    (hne : (request x).event_id ≠ 0) (hset : timers x ≠ .unset) (hwork : ¬AtWork timers handlers slot) :
    ∃ phase', Tended request calls event_id timers (update handlers k (.matched x slot)) phase' := by
  have hnames := h.names_of_event_id (h.started hset) hne hevent
  have hslot := Phase.slot_of_names hnames
  have hfits := h.fits x
  have hbusy : (timers x).busy ≠ some slot := fun hbusy => hwork (.inr ⟨x, hbusy⟩)
  rw [h.timer x] at hset hbusy
  obtain ⟨timer, hphase, htimer⟩ : ∃ timer, phase x = .waiting slot timer ∧
      (timer = .armed slot ∨ timer = .elapsed slot) := by
    cases hphase : phase x with
    | waiting place timer =>
      rw [hphase] at hset hslot hfits hbusy
      cases hslot
      refine ⟨timer, rfl, ?_⟩
      rcases hfits with rfl | rfl | rfl | rfl
      · exact absurd rfl hset
      · exact .inl rfl
      · exact .inr rfl
      · exact absurd rfl hbusy
    | retiring place =>
      rw [hphase] at hslot hbusy
      exact absurd hslot hbusy
    | matched place timer l | clearing place timer l =>
      exact absurd (h.atWork_of_worker (by rw [hphase]; rfl) hslot) hwork
    | _ =>
      rw [hphase] at hnames
      cases hnames
  refine ⟨_, h.onward (p := .matched slot timer k) hphase (by simp [Phase.call]) htimer (.inl rfl)
    (h.works.set hphase ?_ (h.worker_ne ?_) (.inl ⟨rfl, rfl⟩)) (h.names.keep hphase rfl rfl)
    (h.same_call hphase rfl) (h.same_timer hphase rfl)⟩
  · intro l hl
    cases hl
  · intro y hy
    rw [hk] at hy
    cases hy

theorem clear (hk : handlers k = .matched x slot) :
    ∃ phase', Tended request (update calls x .done) event_id timers (update handlers k (.leaving x slot)) phase' := by
  have hcases := h.phase_of_handler k
  rw [hk] at hcases
  obtain ⟨timer, hphase⟩ := hcases
  have hfits := h.fits x
  rw [hphase] at hfits
  refine ⟨_, h.onward (p := .clearing slot timer k) hphase (by simp [Phase.call]) (hfits.imp_right .inl) (.inl rfl)
    (h.works.set hphase ?_ (h.worker_ne ?_) (.inl ⟨rfl, rfl⟩)) (h.names.keep hphase rfl rfl) rfl
    (h.same_timer hphase rfl)⟩
  · exact fun l hl => (Option.some.inj hl).symm
  · intro y hy
    rw [hk] at hy
    exact (Option.some.inj hy).symm

theorem forget (hk : handlers k = .leaving x slot) :
    ∃ phase', Tended request calls (update event_id slot 0) timers (update handlers k (.cancelling x slot)) phase' := by
  have hcases := h.phase_of_handler k
  rw [hk] at hcases
  obtain ⟨timer, hphase⟩ := hcases
  have hfits := h.fits x
  rw [hphase] at hfits
  refine ⟨_, h.onward (p := .cancelling slot timer k) hphase (by simp [Phase.call]) hfits (.inl rfl)
    (h.works.set hphase ?_ (h.worker_ne ?_) (.inl ⟨rfl, rfl⟩)) (h.names.set hphase ?_ (h.names_ne ?_) (.inr ⟨rfl, rfl⟩))
    (h.same_call hphase rfl) (h.same_timer hphase rfl)⟩
  · exact fun l hl => (Option.some.inj hl).symm
  · intro y hy
    rw [hk] at hy
    exact (Option.some.inj hy).symm
  · exact fun other hother => (Option.some.inj hother).symm
  · rw [hphase]
    rfl

theorem cancel (hk : handlers k = .cancelling x slot) :
    ∃ phase', Tended request calls event_id (fun y => (timers y).cancel slot) (update handlers k .idle) phase' := by
  have hcases := h.phase_of_handler k
  rw [hk] at hcases
  obtain ⟨timer, hphase⟩ := hcases
  have hfits := h.fits x
  rw [hphase] at hfits
  -- the callback of a sleep that has ended or is cancelled now is still to run
  obtain ⟨p, hp, hslot, hdone, hworker, hnames, hcancel⟩ : ∃ p : Phase κ, p.Fits ∧
      (p.slot = some slot ∨ p.slot = none) ∧ p.call = .done ∧ p.worker = none ∧ p.names = none ∧
      p.timer = timer.cancel slot := by
    obtain rfl | rfl | rfl := hfits
    · exact ⟨.ending slot (.cancelled slot), .inr rfl, .inl rfl, rfl, rfl, rfl, (if_pos rfl).symm⟩
    · exact ⟨.ending slot (.elapsed slot), .inl rfl, .inl rfl, rfl, rfl, rfl, rfl⟩
    · exact ⟨.past, trivial, .inr rfl, rfl, rfl, rfl, rfl⟩
  refine ⟨_, h.onward hphase (by simp [Phase.call]) hp hslot
    (h.works.set hphase ?_ (h.worker_ne ?_) (.inr ⟨hworker, rfl⟩))
    (h.names.keep hphase hnames rfl) (h.same_call hphase hdone) ?_⟩
  · exact fun l hl => (Option.some.inj hl).symm
  · intro y hy
    rw [hk] at hy
    exact (Option.some.inj hy).symm
  · rw [h.cancel_eq (x := x) (by rw [hphase]; rfl), hcancel, h.timer x, hphase]
    rfl

end Steps

end Tended

end hub.nng_long
