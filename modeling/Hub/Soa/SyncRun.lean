import Hub.Soa.SyncSteps

namespace hub.soa.SyncState

open Undisturbed Heap

variable {ι κ φ : Type}

/-- The steps that keep the calls apart. A number is given to a call only when no call
in progress and no completion under way has it. A frame that finds an entry answers
the call of the entry, and the daemon's frames have different numbers. A completion
that has given up `pending_requests_mutex` writes a context only as long as no call
with another number has borrowed it. -/
def Unmixed (proto : Protocol φ) (Answers : φ → ι → Prop) (s : SyncState ι κ φ) : SyncEvent ι κ φ → Prop
  | .enter _ args =>
    (∀ j, s.standing j ≠ .absent → s.msg_seqid j ≠ args.msg_seqid) ∧
      ∀ k n ctx, s.target proto k = some (n, ctx) → n ≠ args.msg_seqid
  | .receive _ frame =>
    (∀ i ctx, s.standing i = .listed ctx → s.msg_seqid i = proto.msg_seqid frame → Answers frame i) ∧
      (proto.daemon = true → ∀ k f, (s.completions k).frame = some f → proto.msg_seqid f ≠ proto.msg_seqid frame)
  | .complete k =>
    proto.daemon = false → ∀ n ctx, s.target proto k = some (n, ctx) → ∀ i, s.holds i = some ctx → s.msg_seqid i = n
  | .abandon _ _ | .advance _ | .refuse _ | .expire _ | .clear | .disconnect => True

variable {proto : Protocol φ} {s s' : SyncState ι κ φ}

section

variable [DecidableEq ι] [DecidableEq κ]

/-- The steps that can be made, each with the state in which it is made. -/
inductive Steps (proto : Protocol φ) (s : SyncState ι κ φ) : SyncEvent ι κ φ → SyncState ι κ φ → Prop
  | enter {i args} (hstage : (s.calls i).stage = .idle) :
    Steps proto s (.enter i args) (s.setCall i ⟨args, .borrowing .trying, false⟩)
  | abandon {i ret} (hstage : (s.calls i).stage = .borrowing .trying) (hret : ret ≠ IPC_HV_SOA_RET_SUCCESS) :
    Steps proto s (.abandon i ret) (s.setStage i (.returned ⟨ret, (s.calls i).args.resp⟩))
  | borrow {i at_} (hstage : (s.calls i).stage = .borrowing at_) : Steps proto s (.advance i) (s.Borrow i at_)
  | work {i ctx phase s'} (hstage : (s.calls i).stage = .holding ctx phase)
      (hnext : s.work proto i ctx false phase = some s') : Steps proto s (.advance i) s'
  | undo {i ctx} (hstage : (s.calls i).stage = .holding ctx .send) :
    Steps proto s (.refuse i) (s.setStage i (.holding ctx .undo))
  | refuse {i ctx} (hstage : (s.calls i).stage = .holding ctx .send) :
    Steps proto s (.refuse i) (s.setStage i (.holding ctx (.erase ⟨IPC_HV_SOA_RET_FAIL, (s.calls i).args.resp⟩)))
  | expire {i} (hstage : (s.calls i).stage = .borrowing .parked) : Steps proto s (.expire i) (s.refused i)
  | timeout {i ctx s'} (hstage : (s.calls i).stage = .holding ctx .wait)
      (hnext : s.work proto i ctx true .wait = some s') :
    Steps proto s (.expire i) s'
  | missed {k frame} (hidle : s.completions k = .idle) :
      Steps proto s (.receive k frame) (s.setCompletion k (.missed frame))
  | locked {k frame ctx} (hidle : s.completions k = .idle) (hlock : s.lock = none)
      (hentry : s.pending_requests.lookup (proto.msg_seqid frame) = some ctx) (hproto : proto.daemon = true) :
    Steps proto s (.receive k frame) ({ s with lock := some k }.setCompletion k (.found frame ctx))
  | found {k frame ctx} (hidle : s.completions k = .idle) (hlock : s.lock = none)
      (hentry : s.pending_requests.lookup (proto.msg_seqid frame) = some ctx) (hproto : proto.daemon ≠ true) :
    Steps proto s (.receive k frame) ({ s with
      pending_requests := s.pending_requests.erase (proto.msg_seqid frame) }.setCompletion k (.found frame ctx))
  | write {k frame ctx} (hfound : s.completions k = .found frame ctx) :
    Steps proto s (.complete k) ((s.setContext ctx { s.context ctx with
      data := proto.write frame (s.context ctx).data }).setCompletion k (.wrote frame ctx))
  | setResult {k frame ctx} (hwrote : s.completions k = .wrote frame ctx) :
    Steps proto s (.complete k) ({ s.setContext ctx ((s.context ctx).SetResult IPC_HV_SOA_COND_STATE_SUCCESS) with
      lock := none }.setCompletion k (.finished frame))
  | clear : Steps proto s .clear { s with pending_requests := ∅ }
  | disconnect : Steps proto s .disconnect
      { s with contexts := (s.pending_requests.entries.map Sigma.snd).foldl wake s.contexts }

theorem steps_of_step {event : SyncEvent ι κ φ} (hnext : s.step proto event = some s') : s.Steps proto event s' := by
  cases event with
  | enter i args =>
    simp only [step, SyncState.enter] at hnext
    split at hnext
    · cases hnext
      exact .enter ‹_›
    · cases hnext
  | abandon i ret =>
    simp only [step, SyncState.abandon] at hnext
    split at hnext
    · split at hnext
      · cases hnext
      · rename_i hstage hret
        cases hnext
        exact .abandon hstage (not_or.mp hret).2
    · cases hnext
  | advance i =>
    simp only [step, SyncState.advance] at hnext
    split at hnext
    · cases hnext
      exact .borrow ‹_›
    · exact .work ‹_› hnext
    · cases hnext
    · cases hnext
  | refuse i =>
    simp only [step, SyncState.refuse] at hnext
    split at hnext
    · split at hnext
      · cases hnext
        exact .undo ‹_›
      · cases hnext
        exact .refuse ‹_›
    · cases hnext
  | expire i =>
    simp only [step, SyncState.expire] at hnext
    split at hnext
    · cases hnext
      exact .expire ‹_›
    · exact .timeout ‹_› hnext
    · cases hnext
  | receive k frame =>
    simp only [step, SyncState.receive] at hnext
    split at hnext
    · split at hnext
      · cases hnext
        exact .missed ‹_›
      · split at hnext
        · cases hnext
          exact .locked ‹_› ‹_› ‹_› ‹_›
        · cases hnext
          exact .found ‹_› ‹_› ‹_› ‹_›
    · cases hnext
  | complete k =>
    simp only [step, SyncState.complete] at hnext
    split at hnext
    · cases hnext
      exact .write ‹_›
    · cases hnext
      exact .setResult ‹_›
    all_goals cases hnext
  | clear =>
    simp only [step, SyncState.clear] at hnext
    split at hnext
    · cases hnext
    · cases hnext
      exact .clear
  | disconnect =>
    simp only [step, SyncState.disconnect] at hnext
    split at hnext
    · cases hnext
    · cases hnext
      exact .disconnect

end

variable {Answers : φ → ι → Prop}

section

variable [DecidableEq ι] {i : ι}

namespace Sound

variable (h : s.Sound proto Answers)

include h

theorem enter {args : SyncArgs} (hstage : (s.calls i).stage = .idle)
    (hunmixed : s.Unmixed proto Answers (.enter i args)) :
    (s.setCall i ⟨args, .borrowing .trying, false⟩).Sound proto Answers := by
  have habsent : s.standing i = .absent := by rw [standing, hstage]; rfl
  have hcalls : ∀ j, j ≠ i → (s.setCall i ⟨args, .borrowing .trying, false⟩).calls j = s.calls j :=
    fun j hji => setCall_calls_ne s _ hji
  apply h.of_call (i := i)
  · refine h.owned.congr fun j => ?_
    by_cases hji : j = i
    · rw [hji, holds, holds, setCall_calls_self, hstage]
      rfl
    · rw [holds, hcalls j hji, holds]
  · refine h.correlated.enter habsent ?_ (fun j hji => ?_) ?_ ?_
    · rw [standing, setCall_calls_self]
      rfl
    · rw [standing, msg_seqid, hcalls j hji]
      exact ⟨rfl, rfl⟩
    · rw [msg_seqid, setCall_calls_self]
      exact hunmixed.1
    · rw [msg_seqid, setCall_calls_self]
      exact hunmixed.2
  · rw [setCall_calls_self]
    trivial
  · rfl
  · rfl
  · exact hcalls
  · intro ctx hctx
    rw [habsent] at hctx
    cases hctx
  · exact fun _ _ _ _ => rfl
  · exact fun _ _ _ _ hnone => hnone

end Sound

end

variable {ctx : ContextPtr} {k : κ}

theorem target_of_frame (proto : Protocol φ) {frame : φ}
    (hk : s.completions k = .found frame ctx ∨ s.completions k = .wrote frame ctx) :
    s.target proto k = some (proto.msg_seqid frame, ctx) := by
  unfold target
  rcases hk with hk | hk
  · rw [hk]
  · rw [hk]

theorem target_eq_some {n : UInt32} (hk : s.target proto k = some (n, ctx)) :
    ∃ frame, (s.completions k = .found frame ctx ∨ s.completions k = .wrote frame ctx) ∧ proto.msg_seqid frame = n := by
  unfold target at hk
  split at hk
  · rename_i frame p hfound
    cases hk
    exact ⟨frame, .inl hfound, rfl⟩
  · rename_i frame p hwrote
    cases hk
    exact ⟨frame, .inr hwrote, rfl⟩
  · cases hk
  · cases hk
  · cases hk

section

variable [DecidableEq κ]

@[simp] theorem setCompletion_self (s : SyncState ι κ φ) (k : κ) (completion : Completion φ) :
    (s.setCompletion k completion).completions k = completion := Function.update_self ..

theorem setCompletion_ne (s : SyncState ι κ φ) {k k' : κ} (completion : Completion φ) (hne : k' ≠ k) :
    (s.setCompletion k completion).completions k' = s.completions k' := Function.update_of_ne hne ..

theorem setCompletion_target_ne (s : SyncState ι κ φ) {k k' : κ} (completion : Completion φ) (hne : k' ≠ k) :
    (s.setCompletion k completion).target proto k' = s.target proto k' := by
  rw [target, setCompletion_ne s completion hne, target]

variable {frame : φ} {completion : Completion φ}

theorem setCompletion_finished {k' : κ}
    (hk : ∀ f, s.completions k ≠ .finished f) (hk' : s.completions k' = .finished frame) :
    (s.setCompletion k completion).completions k' = .finished frame := by
  have hne : k' ≠ k := by
    rintro rfl
    exact hk frame hk'
  rw [setCompletion_ne s completion hne]
  exact hk'

namespace Sound

variable (h : s.Sound proto Answers)

include h

theorem missed (hidle : s.completions k = .idle) :
    (s.setCompletion k (.missed frame)).Sound proto Answers := by
  have htarget : (s.setCompletion k (.missed frame)).target proto = s.target proto := by
    funext k'
    by_cases hkk : k' = k
    · rw [hkk, target, target, setCompletion_self, hidle]
    · exact setCompletion_target_ne s _ hkk
  refine ⟨h.owned, ?_, ?_, fun i => ?_⟩
  · rw [htarget]
    exact h.correlated
  · rw [htarget]
    exact h.held
  · refine stageSound (s := s) ?_ ?_ (h.calls i)
    · refine ⟨rfl, fun _ _ => rfl, ?_, ?_, ?_, fun _ _ hnone => hnone⟩
      · exact fun k' frame' hk' => setCompletion_finished (by simp [hidle]) hk'
      · intro k' ctx _ hk'
        refine setCompletion_ne s _ ?_
        rintro rfl
        rw [hidle] at hk'
        cases hk'
      · intro _ _ k' ctx hk'
        rwa [htarget] at hk'
    · rfl

/-- A frame that finds an entry. The call of the entry gets its answer now, and no
other call is concerned. -/
theorem found
    {pending_requests : UnorderedMap UInt32 ContextPtr} {lock : Option κ} (hidle : s.completions k = .idle)
    (hlock : s.lock = none) (hentry : s.pending_requests.lookup (proto.msg_seqid frame) = some ctx)
    (hunmixed : s.Unmixed proto Answers (.receive k frame))
    (hrest : ∀ n r, pending_requests.lookup n = some r → s.pending_requests.lookup n = some r)
    (hgone : proto.daemon = false → pending_requests.lookup (proto.msg_seqid frame) = none)
    (htaken : proto.daemon = true → lock = some k) :
    ({ s with pending_requests := pending_requests, lock := lock }.setCompletion k (.found frame ctx)).Sound proto
      Answers := by
  have hself : ({ s with pending_requests := pending_requests, lock := lock }.setCompletion k
      (.found frame ctx)).target proto k = some (proto.msg_seqid frame, ctx) :=
    target_of_frame proto (.inl (setCompletion_self ..))
  have hothers : ∀ k', k' ≠ k → ({ s with pending_requests := pending_requests, lock := lock }.setCompletion k
      (.found frame ctx)).target proto k' = s.target proto k' := fun k' hkk => setCompletion_target_ne _ _ hkk
  have hnone : ∀ n, s.pending_requests.lookup n = none → pending_requests.lookup n = none := by
    intro n hn
    cases hp : pending_requests.lookup n with
    | none => rfl
    | some r => exact absurd (hrest n r hp) (by rw [hn]; simp)
  have hfinished : ∀ k' f, s.completions k' = .finished f →
      ({ s with pending_requests := pending_requests, lock := lock }.setCompletion k
        (.found frame ctx)).completions k' =
        .finished f := fun k' f hk' => setCompletion_finished (by simp [hidle]) hk'
  obtain ⟨i₀, hi₀, hnumber⟩ := h.correlated.entry _ _ hentry
  -- the call of the entry has no answer yet
  have hfirst : ∀ p k' f, s.standing i₀ = .listed p → s.Answered proto Answers i₀ p k' f → False := by
    intro p k' f _ hanswered
    cases hproto : proto.daemon with
    | false =>
      have hlookup := hanswered.gone hproto
      rw [hnumber, hentry] at hlookup
      cases hlookup
    | true =>
      refine hunmixed.2 hproto k' f ?_ (hanswered.own.1.trans hnumber)
      rw [hanswered.finished]
      rfl
  have htargetless : proto.daemon = true → ∀ k' n p, s.target proto k' ≠ some (n, p) := by
    intro hproto k' n p hk'
    have hlocked := (h.held hproto k' n p hk').1
    rw [hlock] at hlocked
    cases hlocked
  refine ⟨h.owned, h.correlated.find hentry hself hothers hrest, ?_, fun i => ?_⟩
  · intro hproto k' n p hk'
    by_cases hkk : k' = k
    · rw [hkk, hself] at hk'
      cases hk'
      rw [hkk]
      exact ⟨htaken hproto, i₀, hi₀, hnumber⟩
    · rw [hothers k' hkk] at hk'
      exact absurd hk' (htargetless hproto k' n p)
  · by_cases hi : i = i₀
    · subst hi
      refine StageSound.map (s := s) (h.calls i) rfl rfl hfinished (fun _ _ _ => rfl) ?_ ?_
      · intro p hp hprogress
        have hctx : p = ctx := by
          rw [hi₀] at hp
          cases hp
          rfl
        subst hctx
        -- a completion under way would have taken the entry or the mutex
        have hno : ∀ k' f, (s.completions k' = .found f p ∨ s.completions k' = .wrote f p) →
            (proto.daemon = false → s.pending_requests.lookup (s.msg_seqid i) = none) → False := by
          intro k' f hk' hgone'
          cases hproto : proto.daemon with
          | false =>
            have hlookup := hgone' hproto
            rw [hnumber, hentry] at hlookup
            cases hlookup
          | true => exact htargetless hproto k' _ p (target_of_frame proto hk')
        cases hprogress with
        | unanswered alone data unset =>
          refine .taken k frame (setCompletion_self ..) ⟨hnumber.symm, hunmixed.1 i p hi₀ hnumber⟩ ?_ ?_ data unset
          · intro hproto
            rw [← hnumber] at hgone
            exact hgone hproto
          · intro k' q hk'
            by_contra hkk
            rw [hothers k' hkk] at hk'
            exact alone k' q hk'
        | taken k' f found own gone => exact (hno k' f (.inl found) gone).elim
        | written k' f wrote own gone => exact (hno k' f (.inr wrote) gone).elim
        | answered k' f hanswered => exact (hfirst p k' f hp hanswered).elim
      · exact fun p k' f hp hanswered => (hfirst p k' f hp hanswered).elim
    · refine stageSound (s := s) ?_ ?_ (h.calls i)
      · refine ⟨rfl, fun _ _ => rfl, hfinished, ?_, ?_, fun _ _ hlookup => hnone _ hlookup⟩
        · intro k' p _ hk'
          refine setCompletion_ne _ _ ?_
          rintro rfl
          rw [hidle] at hk'
          cases hk'
        · intro q hq k' p hk'
          have hkk : k' ≠ k := by
            rintro rfl
            rw [hself] at hk'
            have hsame : s.msg_seqid i = s.msg_seqid i₀ := (Prod.mk.inj (Option.some.inj hk')).1.symm.trans hnumber.symm
            exact hi (h.correlated.distinct i i₀ (by rw [hq]; simp) (by rw [hi₀]; simp) hsame)
          rwa [hothers k' hkk] at hk'
      · rfl

/-- The context is written or its result is set. `hprogress` is what this means for
the call that holds the context. -/
theorem of_complete {value : SyncContext SyncMessage} (lock : Option κ)
    (hk : s.completions k = .found frame ctx ∨ s.completions k = .wrote frame ctx)
    (hunmixed : s.Unmixed proto Answers (.complete k))
    (htarget : ∀ n p, ({ s.setContext ctx value with lock := lock }.setCompletion k completion).target proto k =
      some (n, p) → s.target proto k = some (n, p) ∧ lock = s.lock)
    (hprogress : ∀ i, s.standing i = .listed ctx → s.msg_seqid i = proto.msg_seqid frame →
      s.Progress proto Answers i ctx →
      ({ s.setContext ctx value with lock := lock }.setCompletion k completion).Progress proto Answers i ctx) :
    ({ s.setContext ctx value with lock := lock }.setCompletion k completion).Sound proto Answers := by
  have haim := target_of_frame proto hk
  have hothers : ∀ k', k' ≠ k → ({ s.setContext ctx value with lock := lock }.setCompletion k completion).target proto
      k' = s.target proto k' := fun k' hkk => setCompletion_target_ne _ _ hkk
  have htargets : ∀ k' n p, ({ s.setContext ctx value with lock := lock }.setCompletion k completion).target proto k' =
      some (n, p) → s.target proto k' = some (n, p) := by
    intro k' n p hk'
    by_cases hkk : k' = k
    · rw [hkk] at hk' ⊢
      exact (htarget n p hk').1
    · rwa [hothers k' hkk] at hk'
  have hfinished : ∀ k' f, s.completions k' = .finished f →
      ({ s.setContext ctx value with lock := lock }.setCompletion k completion).completions k' = .finished f := by
    intro k' f hk'
    refine setCompletion_finished (fun f' hf' => ?_) hk'
    change s.completions k = .finished f' at hf'
    rcases hk with hk | hk
    · rw [hk] at hf'
      cases hf'
    · rw [hk] at hf'
      cases hf'
  have hholder : ∀ i, s.holds i = some ctx → s.msg_seqid i = proto.msg_seqid frame := by
    intro i hi
    cases hproto : proto.daemon with
    | false => exact hunmixed hproto _ ctx haim i hi
    | true =>
      obtain ⟨-, j, hj, hn⟩ := h.held hproto k _ ctx haim
      rw [h.owned.exclusive i j ctx hi (holds_of_listed hj)]
      exact hn
  refine ⟨h.owned, ?_, ?_, fun i => ?_⟩
  · exact h.correlated.shrink (fun _ => rfl) (fun _ => rfl) (fun _ _ hentry => hentry) htargets
  · intro hproto k' n p hk'
    obtain ⟨hlocked, hcall⟩ := h.held hproto k' n p (htargets k' n p hk')
    have hkk : k' = k := by
      have hmine := (h.held hproto k _ ctx haim).1
      rw [hlocked] at hmine
      exact Option.some.inj hmine
    rw [hkk] at hk' hlocked ⊢
    exact ⟨(htarget n p hk').2.trans hlocked, hcall⟩
  · by_cases hi : s.holds i = some ctx
    · have hnumber := hholder i hi
      refine StageSound.map (s := s) (h.calls i) rfl rfl hfinished ?_ ?_ ?_
      · intro p _ hpreparing
        exact absurd hnumber.symm (h.correlated.early i hpreparing k _ ctx haim)
      · intro p hp hold
        have hctx : ctx = p := Option.some.inj (hi.symm.trans (holds_of_listed hp))
        subst hctx
        exact hprogress i hp hnumber hold
      · intro p k' f hp hanswered
        exact absurd (hnumber ▸ haim) (hanswered.alone k ctx)
    · refine stageSound (s := s) ?_ ?_ (h.calls i)
      · refine ⟨rfl, ?_, hfinished, ?_, fun _ _ k' p hk' => htargets k' _ p hk', fun _ _ hnone => hnone⟩
        · intro p hp
          refine get_set_ne _ _ ?_
          rintro rfl
          exact hi hp
        · intro k' p hp hk'
          refine setCompletion_ne _ _ ?_
          rintro rfl
          refine hi (hp.trans (hk'.symm.trans ?_))
          rcases hk with hk | hk
          · rw [hk]
            rfl
          · rw [hk]
            rfl
      · rfl

theorem write (hfound : s.completions k = .found frame ctx) (hunmixed : s.Unmixed proto Answers (.complete k)) :
    ((s.setContext ctx { s.context ctx with data := proto.write frame (s.context ctx).data }).setCompletion k
      (.wrote frame ctx)).Sound proto Answers := by
  have haim := target_of_frame proto (.inl hfound)
  have htarget : ∀ k', ((s.setContext ctx { s.context ctx with
      data := proto.write frame (s.context ctx).data }).setCompletion k (.wrote frame ctx)).target proto k' =
      s.target proto k' := by
    intro k'
    by_cases hkk : k' = k
    · rw [hkk, haim]
      exact target_of_frame proto (.inr (setCompletion_self ..))
    · exact setCompletion_target_ne _ _ hkk
  refine h.of_complete s.lock (.inl hfound) hunmixed (fun n p hk => ⟨(htarget k).symm.trans hk, rfl⟩) ?_
  intro i hlisted hnumber hprogress
  cases hprogress with
  | unanswered alone => exact absurd (hnumber ▸ haim) (alone k ctx)
  | taken k' f found own gone alone data unset =>
    have hkk : k' = k := (alone k ctx (hnumber ▸ haim)).symm
    subst hkk
    rw [hfound] at found
    cases found
    have hcontext := get_set_self s.contexts ctx
      { s.context ctx with data := proto.write frame (s.context ctx).data }
    refine .written k' frame (setCompletion_self ..) own gone (fun k'' p hk'' => ?_) ?_ ?_
    · exact alone k'' p ((htarget k'').symm.trans hk'')
    · exact (congrArg SyncContext.data hcontext).trans (congrArg (proto.write frame) data)
    · intro hready hzero
      exact unset ((congrArg SyncContext.ready hcontext).symm.trans hready)
        ((congrArg SyncContext.result hcontext).symm.trans hzero)
  | written k' f wrote own gone alone =>
    have hkk : k' = k := (alone k ctx (hnumber ▸ haim)).symm
    rw [hkk, hfound] at wrote
    cases wrote
  | answered k' f hanswered => exact absurd (hnumber ▸ haim) (hanswered.alone k ctx)

theorem setResult (hwrote : s.completions k = .wrote frame ctx) (hunmixed : s.Unmixed proto Answers (.complete k)) :
    ({ s.setContext ctx ((s.context ctx).SetResult IPC_HV_SOA_COND_STATE_SUCCESS) with lock := none }.setCompletion k
      (.finished frame)).Sound proto Answers := by
  have haim := target_of_frame proto (.inr hwrote)
  have hself : ({ s.setContext ctx ((s.context ctx).SetResult IPC_HV_SOA_COND_STATE_SUCCESS) with
      lock := none }.setCompletion k (.finished frame)).target proto k = none := by
    rw [target, setCompletion_self]
  refine h.of_complete none (.inr hwrote) hunmixed (fun n p hk => absurd (hself.symm.trans hk) (by simp)) ?_
  intro i hlisted hnumber hprogress
  cases hprogress with
  | unanswered alone => exact absurd (hnumber ▸ haim) (alone k ctx)
  | taken k' f found own gone alone =>
    have hkk : k' = k := (alone k ctx (hnumber ▸ haim)).symm
    rw [hkk, hwrote] at found
    cases found
  | written k' f wrote own gone alone data =>
    have hkk : k' = k := (alone k ctx (hnumber ▸ haim)).symm
    subst hkk
    rw [hwrote] at wrote
    cases wrote
    refine .answered k' frame ⟨setCompletion_self .., own, gone, fun k'' p hk'' => ?_, ?_⟩
    · by_cases hkk : k'' = k'
      · rw [hkk, hself] at hk''
        cases hk''
      · exact hkk (alone k'' p ((setCompletion_target_ne _ _ hkk).symm.trans hk''))
    · exact (congrArg SyncContext.data (get_set_self s.contexts ctx _)).trans data
  | answered k' f hanswered => exact absurd (hnumber ▸ haim) (hanswered.alone k ctx)

end Sound

end

theorem Sound.clear (h : s.Sound proto Answers) : Sound proto Answers { s with pending_requests := ∅ } := by
  refine ⟨h.owned, ?_, h.held, fun i => ?_⟩
  · exact h.correlated.shrink (fun _ => rfl) (fun _ => rfl) (fun n r hn => by simp at hn) (fun _ _ _ hk => hk)
  · refine stageSound (s := s) ?_ ?_ (h.calls i)
    · exact .of_completions rfl (fun _ _ => rfl) rfl (fun _ _ _ => AList.lookup_empty _)
    · rfl

variable (list : List ContextPtr) (contexts : Heap ContextRef (SyncContext SyncMessage)) (p : ContextPtr)

theorem live_foldl_wake : (list.foldl wake contexts).Live p ↔ contexts.Live p := by
  induction list generalizing contexts with
  | nil => rfl
  | cons ctx list ih => exact (ih (wake contexts ctx)).trans live_set

theorem get_foldl_wake : (list.foldl wake contexts).get p =
      if p ∈ list then (contexts.get p).SetResult IPC_HV_SOA_COND_STATE_DISCONNECTED else contexts.get p := by
  induction list generalizing contexts with
  | nil => simp
  | cons ctx list ih =>
    rw [List.foldl_cons, ih]
    by_cases hp : p = ctx
    · have hfirst : (wake contexts ctx).get ctx =
          (contexts.get ctx).SetResult IPC_HV_SOA_COND_STATE_DISCONNECTED := get_set_self ..
      rw [hp, if_pos List.mem_cons_self, hfirst]
      -- setting the result a second time changes nothing
      exact ite_self _
    · have hfirst : (wake contexts ctx).get p = contexts.get p := get_set_ne _ _ hp
      simp only [hfirst, List.mem_cons, hp, false_or]

/-- Waking pending requests neither touches the context of a call that is not in the
table nor looks like an answer. -/
theorem Sound.wake (h : s.Sound proto Answers) {contexts : Heap ContextRef (SyncContext SyncMessage)}
    (hlive : ∀ p, contexts.Live p ↔ s.contexts.Live p)
    (hget : ∀ p, contexts.get p = s.context p ∨ (∃ n, s.pending_requests.lookup n = some p) ∧
      contexts.get p = (s.context p).SetResult IPC_HV_SOA_COND_STATE_DISCONNECTED) :
    Sound proto Answers { s with contexts := contexts } := by
  have hdata : ∀ p, (contexts.get p).data = (s.context p).data := by
    intro p
    rcases hget p with hsame | ⟨-, hset⟩
    · rw [hsame]
    · rw [hset]
      rfl
  have hunset : ∀ p, ((s.context p).ready = true → (s.context p).result ≠ 0) →
      (contexts.get p).ready = true → (contexts.get p).result ≠ 0 := by
    intro p hunset
    rcases hget p with hsame | ⟨-, hset⟩
    · rw [hsame]
      exact hunset
    · rw [hset]
      have hresult : IPC_HV_SOA_COND_STATE_DISCONNECTED ≠ 0 := by decide
      exact fun _ => hresult
  refine ⟨?_, h.correlated, h.held, fun i => ?_⟩
  · have hsame : contexts.Live = s.contexts.Live := funext fun p => propext (hlive p)
    change Owned contexts.Live _ _
    rw [hsame]
    exact h.owned
  · refine StageSound.map (s := s) (h.calls i) rfl rfl (fun _ _ hk => hk) ?_ ?_ ?_
    · intro ctx hctx hpreparing
      rcases hget ctx with hsame | ⟨⟨n, hentry⟩, -⟩
      · exact hsame
      · obtain ⟨j, hj, -⟩ := h.correlated.entry n ctx hentry
        rw [h.owned.exclusive i j ctx hctx (holds_of_listed hj), hj] at hpreparing
        cases hpreparing
    · intro ctx _ hprogress
      cases hprogress with
      | unanswered alone data unset => exact .unanswered alone ((hdata ctx).trans data) (hunset ctx unset)
      | taken k frame found own gone alone data unset =>
        exact .taken k frame found own gone alone ((hdata ctx).trans data) (hunset ctx unset)
      | written k frame wrote own gone alone data unset =>
        exact .written k frame wrote own gone alone ((hdata ctx).trans data) (hunset ctx unset)
      | answered k frame h =>
        exact .answered k frame ⟨h.finished, h.own, h.gone, h.alone, (hdata ctx).trans h.data⟩
    · exact fun ctx k frame _ h => ⟨h.finished, h.own, h.gone, h.alone, (hdata ctx).trans h.data⟩

theorem Sound.step [DecidableEq ι] [DecidableEq κ] {event : SyncEvent ι κ φ} (h : s.Sound proto Answers)
    (hunmixed : s.Unmixed proto Answers event) (hnext : s.step proto event = some s') : s'.Sound proto Answers := by
  have hfail : IPC_HV_SOA_RET_FAIL ≠ IPC_HV_SOA_RET_SUCCESS := by decide
  cases steps_of_step hnext with
  | enter hstage => exact h.enter hstage hunmixed
  | abandon hstage hret => exact h.quit hstage hret
  | borrow hstage => exact h.Borrow hstage
  | work hstage hwork | timeout hstage hwork => exact h.work hstage hwork
  | undo hstage => exact h.setStage (by rw [holds, hstage]; rfl) (by rw [standing, hstage]; rfl) trivial
  | refuse hstage =>
    refine h.setStage (by rw [holds, hstage]; rfl) (by rw [standing, hstage]; rfl) ?_
    exact fun hsuccess => absurd hsuccess hfail
  | expire hstage => exact h.quit hstage hfail
  | missed hidle => exact h.missed hidle
  | locked hidle hlock hentry hproto =>
    refine h.found hidle hlock hentry hunmixed (fun _ _ hn => hn) (fun hnot => ?_) (fun _ => rfl)
    rw [hproto] at hnot
    cases hnot
  | found hidle hlock hentry hproto =>
    refine h.found hidle hlock hentry hunmixed ?_ (fun _ => AList.lookup_erase _ _)
      (fun hdaemon => absurd hdaemon hproto)
    exact fun n r hn => (UnorderedMap.lookup_erase_eq_some.mp hn).2
  | write hfound => exact h.write hfound hunmixed
  | setResult hwrote => exact h.setResult hwrote hunmixed
  | clear => exact h.clear
  | disconnect =>
    refine h.wake (live_foldl_wake _ s.contexts) fun p => ?_
    rw [get_foldl_wake]
    split
    · rename_i hmem
      obtain ⟨⟨n, q⟩, hentry, rfl⟩ := List.mem_map.mp hmem
      exact .inr ⟨⟨n, AList.mem_lookup_iff.mpr hentry⟩, rfl⟩
    · exact .inl rfl

theorem Sound.init : (init : SyncState ι κ φ).Sound proto Answers where
  owned := {
    nodup := List.nodup_singleton _
    free := fun _ _ _ h => by cases h
    exclusive := fun _ _ _ h => by cases h
    live_idle := fun p hp => by
      rw [List.mem_singleton.mp hp]
      exact live_alloc_fresh (empty : Heap ContextRef (SyncContext SyncMessage)) default
    live_held := fun _ _ h => by cases h }
  correlated := {
    distinct := fun _ _ h => absurd rfl h
    entry := fun n r hn => by simp [SyncState.init] at hn
    early := fun _ h => by cases h
    aimed := fun _ _ h => by cases h }
  held _ _ _ _ hk := by cases hk
  calls _ := trivial

end hub.soa.SyncState
