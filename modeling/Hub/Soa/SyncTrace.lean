import Hub.Soa.SyncRun

namespace hub.soa

inductive SyncCall.Moves (call : SyncCall) : SyncCall → Prop where
  | stage (stage : Stage) (hbefore : call.stage ≠ .idle) (hafter : stage ≠ .idle)
      (hstanding : stage.standing ≠ .absent → call.stage.standing ≠ .absent) : Moves call { call with stage := stage }
  | send (ctx : ContextPtr) (hsend : call.stage = .holding ctx .send) :
    Moves call { call with stage := .holding ctx .wait, sent := true }

variable {call next : SyncCall} {stage : Stage}

theorem SyncCall.Moves.args_eq (h : call.Moves next) : next.args = call.args := by
  cases h with
  | stage | send => rfl

theorem SyncCall.Moves.entered (h : call.Moves next) :
    call.stage ≠ .idle ∧ next.stage ≠ .idle := by
  cases h with
  | stage _ hbefore hafter => exact ⟨hbefore, hafter⟩
  | send ctx hsend => simp [hsend]

theorem SyncCall.Moves.standing (h : call.Moves next) (hnext : next.stage.standing ≠ .absent) :
    call.stage.standing ≠ .absent := by
  cases h with
  | stage _ _ _ hstanding => exact hstanding hnext
  | send ctx hsend => simp [hsend, Stage.standing, Phase.standing]

def Stage.outcome : Stage → Option Outcome
  | .returned out => some out
  | .idle | .borrowing _ | .holding _ _ => none

theorem Stage.outcome_eq_some {out : Outcome} : stage.outcome = some out ↔ stage = .returned out := by
  cases stage with
  | returned other | _ => simp [Stage.outcome]

def Stage.waitsWith : Stage → Option ContextPtr
  | .holding ctx .wait => some ctx
  | _ => none

theorem Stage.waitsWith_eq_some {ctx : ContextPtr} :
    stage.waitsWith = some ctx ↔ stage = .holding ctx .wait := by
  unfold Stage.waitsWith
  split
  · simp
  · rename_i hother
    simp only [reduceCtorEq, false_iff]
    exact hother ctx

/-- What a step does to a completion that has its frame. -/
inductive Completion.Moves {φ : Type} : Completion φ → Completion φ → Prop where
  | wrote (frame : φ) (ctx : ContextPtr) : Moves (.found frame ctx) (.wrote frame ctx)
  | finished (frame : φ) (ctx : ContextPtr) : Moves (.wrote frame ctx) (.finished frame)

namespace SyncState

variable {ι κ φ : Type} {proto : Protocol φ} {s : SyncState ι κ φ}

def Entered (s : SyncState ι κ φ) (i : ι) : Prop := (s.calls i).stage ≠ .idle

variable {later : UInt32 → Prop} {i : ι}

theorem entered_of_standing (h : s.standing i ≠ .absent) : s.Entered i := by
  intro hidle
  rw [standing, hidle] at h
  exact h rfl

/-- A response with this number and service is to the request of the call, which was
written and has had no response. -/
def Awaits (s : SyncState ι κ φ) (answered : List ι) (request : ι) (msg_seqid service_id : UInt32) : Prop :=
  (s.calls request).sent = true ∧ request ∉ answered ∧ msg_seqid = s.msg_seqid request ∧
    service_id = (s.calls request).args.service_id

instance [DecidableEq ι] (s : SyncState ι κ φ) (answered : List ι) (request : ι) (msg_seqid service_id : UInt32) :
    Decidable (s.Awaits answered request msg_seqid service_id) := inferInstanceAs (Decidable (_ ∧ _ ∧ _ ∧ _))

/-- The numbers given so far are different from each other and from those that are
given later, and the completions under way have numbers that were given. -/
structure Numbered (proto : Protocol φ) (s : SyncState ι κ φ) (later : UInt32 → Prop) : Prop where
  distinct : ∀ i j, s.Entered i → s.Entered j → s.msg_seqid i = s.msg_seqid j → i = j
  given : ∀ i, s.Entered i → ¬later (s.msg_seqid i)
  known : ∀ k n ctx, s.target proto k = some (n, ctx) → ∃ i, s.Entered i ∧ s.msg_seqid i = n

theorem Numbered.unmixed {Answers : φ → ι → Prop} (h : s.Numbered proto later) {args : SyncArgs}
    (hlater : later args.msg_seqid) : s.Unmixed proto Answers (.enter i args) := by
  refine ⟨fun j hj heq => ?_, fun k n ctx hk heq => ?_⟩
  · apply h.given j (entered_of_standing hj)
    rw [heq]
    exact hlater
  · obtain ⟨j, hj, hnumber⟩ := h.known k n ctx hk
    apply h.given j hj
    rw [hnumber, heq]
    exact hlater

theorem Numbered.init : (init : SyncState ι κ φ).Numbered proto later where
  distinct _ _ h := absurd rfl h
  given _ h := absurd rfl h
  known _ _ _ h := by cases h

section

variable [DecidableEq ι]

theorem Borrow_calls (at_ : Borrowing) :
    ∃ stage, stage ≠ .idle ∧ (s.Borrow i at_).calls = (s.setStage i stage).calls ∧
      (s.Borrow i at_).completions = s.completions := by
  cases at_ with
  | trying | parked | deciding =>
    simp only [Borrow, takeOr]
    split
    · exact ⟨_, by simp, rfl, rfl⟩
    · exact ⟨_, by simp, rfl, rfl⟩
  | creating => exact ⟨_, by simp, rfl, rfl⟩

variable {ctx : ContextPtr} {timeout : Bool} {phase : Phase} {s' : SyncState ι κ φ}

theorem work_calls (hnext : s.work proto i ctx timeout phase = some s') :
    s'.completions = s.completions ∧
      ((phase = .send ∧ s'.calls = (s.setCall i { s.calls i with stage := .holding ctx .wait, sent := true }).calls) ∨
        ∃ stage, stage ≠ .idle ∧ (stage.standing ≠ .absent → phase.standing ctx ≠ .absent) ∧
          s'.calls = (s.setStage i stage).calls) := by
  cases phase with
  | send =>
    cases hnext
    exact ⟨rfl, .inl ⟨rfl, rfl⟩⟩
  | insert | erase _ | undo =>
    simp only [work] at hnext
    split at hnext
    · cases hnext
    · cases hnext
      exact ⟨rfl, .inr ⟨_, by simp, by simp [Stage.standing, Phase.standing], rfl⟩⟩
  | wait =>
    obtain ⟨wait_result, -, rfl⟩ := Option.map_eq_some_iff.mp hnext
    exact ⟨rfl, .inr ⟨_, by simp, by simp [Phase.standing], rfl⟩⟩
  | _ =>
    cases hnext
    exact ⟨rfl, .inr ⟨_, by simp, by simp [Stage.standing, Phase.standing], rfl⟩⟩

theorem calls_of_setStage (hbefore : (s.calls i).stage ≠ .idle) (hafter : stage ≠ .idle)
    (hstanding : stage.standing ≠ .absent → s.standing i ≠ .absent) (hcalls : s'.calls = (s.setStage i stage).calls)
    (j : ι) : s'.calls j = s.calls j ∨ (s.calls j).Moves (s'.calls j) := by
  rw [hcalls]
  by_cases hji : j = i
  · rw [hji, setStage_calls_self]
    exact .inr (.stage stage hbefore hafter hstanding)
  · exact .inl (setStage_calls_ne s i stage hji)

theorem calls_of_standing (hbefore : s.standing i ≠ .absent) (hafter : stage ≠ .idle)
    (hcalls : s'.calls = (s.setStage i stage).calls) (j : ι) :
    s'.calls j = s.calls j ∨ (s.calls j).Moves (s'.calls j) :=
  calls_of_setStage (entered_of_standing hbefore) hafter (fun _ => hbefore) hcalls j

theorem calls_of_work (hstage : (s.calls i).stage = .holding ctx phase)
    (hnext : s.work proto i ctx timeout phase = some s') (j : ι) :
    s'.calls j = s.calls j ∨ (s.calls j).Moves (s'.calls j) := by
  obtain ⟨-, ⟨rfl, hcalls⟩ | ⟨stage, hafter, hstanding, hcalls⟩⟩ := work_calls hnext
  · rw [hcalls]
    by_cases hji : j = i
    · rw [hji, setCall_calls_self]
      exact .inr (.send ctx hstage)
    · exact .inl (setCall_calls_ne s _ hji)
  · refine calls_of_setStage (by simp [hstage]) hafter ?_ hcalls j
    rw [SyncState.standing, hstage]
    exact hstanding

variable [DecidableEq κ] {event : SyncEvent ι κ φ}

theorem step_calls (hnext : s.step proto event = some s') (j : ι) :
    s'.calls j = s.calls j ∨
      (∃ args, event = .enter j args ∧ (s.calls j).stage = .idle ∧ s'.calls j = ⟨args, .borrowing .trying, false⟩) ∨
      (s.calls j).Moves (s'.calls j) := by
  cases steps_of_step hnext with
  | @enter i args hstage =>
    by_cases hji : j = i
    · rw [hji, setCall_calls_self]
      exact .inr (.inl ⟨args, rfl, hstage, rfl⟩)
    · exact .inl (setCall_calls_ne s _ hji)
  | abandon hstage | expire hstage =>
    exact (calls_of_standing (by simp [standing, hstage, Stage.standing]) (by simp) rfl j).imp_right .inr
  | @borrow i at_ hstage =>
    obtain ⟨stage, hafter, hcalls, -⟩ := Borrow_calls (s := s) (i := i) at_
    exact (calls_of_standing (by simp [standing, hstage, Stage.standing]) hafter hcalls j).imp_right .inr
  | work hstage hwork | timeout hstage hwork => exact (calls_of_work hstage hwork j).imp_right .inr
  | undo hstage | refuse hstage =>
    exact (calls_of_standing (by simp [standing, hstage, Stage.standing, Phase.standing])
      (by simp) rfl j).imp_right .inr
  | missed | locked | found | write | setResult | clear | disconnect => exact .inl rfl

variable {k : κ}

theorem step_completions (hnext : s.step proto event = some s') (k : κ) :
    s'.completions k = s.completions k ∨
      (∃ frame, event = .receive k frame ∧ s.completions k = .idle ∧ (s'.completions k = .missed frame ∨
        ∃ ctx, s.pending_requests.lookup (proto.msg_seqid frame) = some ctx ∧ s'.completions k = .found frame ctx)) ∨
      (event = .complete k ∧ (s.completions k).Moves (s'.completions k)) := by
  cases steps_of_step hnext with
  | enter | abandon | undo | refuse | expire | clear | disconnect => exact .inl rfl
  | @borrow i at_ =>
    obtain ⟨-, -, -, hsame⟩ := Borrow_calls (s := s) (i := i) at_
    exact .inl (congrFun hsame k)
  | work _ hwork | timeout _ hwork => exact .inl (congrFun (work_calls hwork).1 k)
  | @missed k' frame hidle =>
    by_cases hkk : k = k'
    · subst hkk
      exact .inr (.inl ⟨frame, rfl, hidle, .inl (setCompletion_self ..)⟩)
    · exact .inl (setCompletion_ne _ _ hkk)
  | @locked k' frame ctx hidle _ hentry | @found k' frame ctx hidle _ hentry =>
    by_cases hkk : k = k'
    · subst hkk
      exact .inr (.inl ⟨frame, rfl, hidle, .inr ⟨ctx, hentry, setCompletion_self ..⟩⟩)
    · exact .inl (setCompletion_ne _ _ hkk)
  | @write k' frame ctx hfound =>
    by_cases hkk : k = k'
    · subst hkk
      rw [hfound, setCompletion_self]
      exact .inr (.inr ⟨rfl, .wrote frame ctx⟩)
    · exact .inl (setCompletion_ne _ _ hkk)
  | @setResult k' frame ctx hwrote =>
    by_cases hkk : k = k'
    · subst hkk
      rw [hwrote, setCompletion_self]
      exact .inr (.inr ⟨rfl, .finished frame ctx⟩)
    · exact .inl (setCompletion_ne _ _ hkk)

theorem Entered.step (h : s.Entered i) (hnext : s.step proto event = some s') :
    s'.Entered i ∧ (s'.calls i).args = (s.calls i).args := by
  rcases step_calls hnext i with hsame | ⟨args, -, hidle, -⟩ | hmoves
  · rw [Entered, hsame]
    exact ⟨h, rfl⟩
  · exact absurd hidle h
  · exact ⟨hmoves.entered.2, hmoves.args_eq⟩

theorem Entered.of_step (h : s'.Entered i) (hnext : s.step proto event = some s') :
    s.Entered i ∨ ∃ args, event = .enter i args ∧ (s'.calls i).args = args := by
  rcases step_calls hnext i with hsame | ⟨args, hevent, -, hcall⟩ | hmoves
  · rw [Entered, hsame] at h
    exact .inl h
  · exact .inr ⟨args, hevent, by rw [hcall]⟩
  · exact .inl hmoves.entered.1

theorem target_step (hnext : s.step proto event = some s') {n : UInt32} (hk : s'.target proto k = some (n, ctx)) :
    s.target proto k = some (n, ctx) ∨ s.pending_requests.lookup n = some ctx := by
  obtain ⟨frame, hframe, rfl⟩ := target_eq_some hk
  rcases step_completions hnext k with hsame | ⟨frame', -, -, hnew⟩ | ⟨-, hmoves⟩
  · rw [hsame] at hframe
    exact .inl (target_of_frame proto hframe)
  · rcases hnew with hmissed | ⟨ctx', hentry, hfound⟩
    · rw [hmissed] at hframe
      simp at hframe
    · rw [hfound] at hframe
      simp only [Completion.found.injEq, reduceCtorEq, or_false] at hframe
      obtain ⟨rfl, rfl⟩ := hframe
      exact .inr hentry
  · rcases hframe with hfound | hwrote
    · rw [hfound] at hmoves
      generalize s.completions k = old at hmoves
      cases hmoves
    · rw [hwrote] at hmoves
      generalize hold : s.completions k = old at hmoves
      cases hmoves
      exact .inl (target_of_frame proto (.inl hold))

theorem frame_step (hnext : s.step proto event = some s') {frame : φ} (hk : (s'.completions k).frame = some frame) :
    (s.completions k).frame = some frame ∨ event = .receive k frame := by
  rcases step_completions hnext k with hsame | ⟨frame', hevent, -, hnew⟩ | ⟨-, hmoves⟩
  · rw [hsame] at hk
    exact .inl hk
  · have hframe : (s'.completions k).frame = some frame' := by
      rcases hnew with hmissed | ⟨ctx, -, hfound⟩
      · rw [hmissed]
        rfl
      · rw [hfound]
        rfl
    rw [hframe] at hk
    cases hk
    exact .inr hevent
  · refine .inl (Eq.trans ?_ hk)
    generalize s.completions k = old at hmoves
    generalize s'.completions k = new at hmoves
    cases hmoves with
    | wrote | finished => rfl

theorem Numbered.step {Answers : φ → ι → Prop} {later later' : UInt32 → Prop} (h : s.Numbered proto later)
    (hsound : s.Sound proto Answers) (hnext : s.step proto event = some s') (hless : ∀ n, later' n → later n)
    (henter : ∀ i args, event = .enter i args → later args.msg_seqid ∧ ¬later' args.msg_seqid) :
    s'.Numbered proto later' := by
  have hnumber : ∀ i, s'.Entered i → (s.Entered i ∧ s'.msg_seqid i = s.msg_seqid i) ∨
      ∃ args, event = .enter i args ∧ s'.msg_seqid i = args.msg_seqid := by
    intro i hi
    rcases hi.of_step hnext with hold | ⟨args, hevent, hargs⟩
    · exact .inl ⟨hold, congrArg SyncArgs.msg_seqid (hold.step hnext).2⟩
    · exact .inr ⟨args, hevent, congrArg SyncArgs.msg_seqid hargs⟩
  constructor
  · intro i j hi hj heq
    rcases hnumber i hi with ⟨hiold, hieq⟩ | ⟨args, hevent, hieq⟩
    · rcases hnumber j hj with ⟨hjold, hjeq⟩ | ⟨args, hevent, hjeq⟩
      · exact h.distinct i j hiold hjold (hieq.symm.trans (heq.trans hjeq))
      · refine absurd (henter j args hevent).1 ?_
        rw [← hjeq, ← heq, hieq]
        exact h.given i hiold
    · rcases hnumber j hj with ⟨hjold, hjeq⟩ | ⟨args', hevent', -⟩
      · refine absurd (henter i args hevent).1 ?_
        rw [← hieq, heq, hjeq]
        exact h.given j hjold
      · rw [hevent] at hevent'
        cases hevent'
        rfl
  · intro i hi hlater
    rcases hnumber i hi with ⟨hold, heq⟩ | ⟨args, hevent, heq⟩
    · rw [heq] at hlater
      exact h.given i hold (hless _ hlater)
    · rw [heq] at hlater
      exact (henter i args hevent).2 hlater
  · intro k n ctx hk
    have hknown : ∃ i, s.Entered i ∧ s.msg_seqid i = n := by
      rcases target_step hnext hk with hold | hentry
      · exact h.known k n ctx hold
      · obtain ⟨i, hi, hn⟩ := hsound.correlated.entry n ctx hentry
        exact ⟨i, entered_of_standing (by rw [hi]; simp), hn⟩
    obtain ⟨i, hi, hn⟩ := hknown
    obtain ⟨hi', hargs⟩ := hi.step hnext
    exact ⟨i, hi', (congrArg SyncArgs.msg_seqid hargs).trans hn⟩

end

end SyncState

end hub.soa
