import Hub.Soa.SyncCorrect

namespace hub.soa.SyncState

open UnorderedMap Undisturbed Heap

variable {ι κ φ : Type} [DecidableEq ι]

@[simp] theorem setCall_calls_self (s : SyncState ι κ φ) (i : ι) (call : SyncCall) :
    (s.setCall i call).calls i = call :=
  Function.update_self ..

theorem setCall_calls_ne (s : SyncState ι κ φ) {i j : ι} (call : SyncCall) (hne : j ≠ i) :
    (s.setCall i call).calls j = s.calls j := Function.update_of_ne hne ..

section

variable (s : SyncState ι κ φ) (i : ι) (stage : Stage)

@[simp] theorem setStage_calls_self : (s.setStage i stage).calls i = { s.calls i with stage := stage } :=
  setCall_calls_self ..

variable {j : ι}

theorem setStage_calls_ne (hne : j ≠ i) : (s.setStage i stage).calls j = s.calls j := setCall_calls_ne s _ hne

theorem setStage_args (j : ι) : ((s.setStage i stage).calls j).args = (s.calls j).args := by
  by_cases hji : j = i
  · rw [hji, setStage_calls_self]
  · rw [setStage_calls_ne s i stage hji]

theorem setStage_msg_seqid : (s.setStage i stage).msg_seqid = s.msg_seqid :=
  funext fun j => congrArg SyncArgs.msg_seqid (setStage_args s i stage j)

@[simp] theorem setStage_holds_self : (s.setStage i stage).holds i = stage.context := by
  rw [holds, setStage_calls_self]

theorem setStage_holds_ne (hne : j ≠ i) : (s.setStage i stage).holds j = s.holds j := by
  rw [holds, setStage_calls_ne s i stage hne, holds]

@[simp] theorem setStage_standing_self : (s.setStage i stage).standing i = stage.standing := by
  rw [standing, setStage_calls_self]

theorem setStage_standing_ne (hne : j ≠ i) : (s.setStage i stage).standing j = s.standing j := by
  rw [standing, setStage_calls_ne s i stage hne, standing]

theorem setStage_holds (hcontext : stage.context = s.holds i) : (s.setStage i stage).holds = s.holds := by
  funext j
  by_cases hji : j = i
  · rw [hji, setStage_holds_self, hcontext]
  · exact setStage_holds_ne s i stage hji

theorem setStage_standing (hstanding : stage.standing = s.standing i) :
    (s.setStage i stage).standing = s.standing := by
  funext j
  by_cases hji : j = i
  · rw [hji, setStage_standing_self, hstanding]
  · exact setStage_standing_ne s i stage hji

end

variable {proto : Protocol φ} {Answers : φ → ι → Prop} {s : SyncState ι κ φ} {i : ι} {ctx : ContextPtr}

variable {stage : Stage} {s' : SyncState ι κ φ} {out : Outcome}

namespace Sound

variable (h : s.Sound proto Answers)

include h

/-- A step of call `i`. Of the rest it may change the pool, contexts that nobody else
holds, and entries with other numbers. -/
theorem of_call
    (howned : Owned s'.contexts.Live s'.sync_pool.objects_ s'.holds)
    (hcorrelated : Correlated s'.standing s'.msg_seqid s'.pending_requests.lookup (s'.target proto))
    (hself : s'.StageSound proto Answers i (s'.calls i).stage)
    (hcompletions : s'.completions = s.completions) (hlock : s'.lock = s.lock)
    (hothers : ∀ j, j ≠ i → s'.calls j = s.calls j)
    (hlisted : ∀ ctx, s.standing i = .listed ctx →
      s.lock = none ∨ s'.standing i = .listed ctx ∧ s'.msg_seqid i = s.msg_seqid i)
    (hcontexts : ∀ j ctx, j ≠ i → s.holds j = some ctx → s'.context ctx = s.context ctx)
    (hgone : ∀ j ctx, j ≠ i → s.standing j = .listed ctx → s.pending_requests.lookup (s.msg_seqid j) = none →
      s'.pending_requests.lookup (s.msg_seqid j) = none) :
    s'.Sound proto Answers := by
  have htarget : s'.target proto = s.target proto := by
    funext k
    rw [target, hcompletions]
    rfl
  refine ⟨howned, hcorrelated, ?_, ?_⟩
  · intro hproto k n ctx hk
    rw [htarget] at hk
    obtain ⟨hk, j, hj, hn⟩ := h.held hproto k n ctx hk
    refine ⟨hlock.trans hk, j, ?_⟩
    by_cases hji : j = i
    · rw [hji] at hj hn ⊢
      rcases hlisted ctx hj with hnone | ⟨hsame, hnumber⟩
      · rw [hnone] at hk
        cases hk
      · exact ⟨hsame, hnumber.trans hn⟩
    · rw [standing, msg_seqid, hothers j hji]
      exact ⟨hj, hn⟩
  · intro j
    by_cases hji : j = i
    · rw [hji]
      exact hself
    · have hcall := hothers j hji
      have hu : Undisturbed proto s s' j :=
        .of_completions (by rw [hcall]) (fun ctx hctx => hcontexts j ctx hji hctx) hcompletions
          (fun ctx hctx => hgone j ctx hji hctx)
      exact hu.stageSound (by rw [hcall]) (h.calls j)

theorem setCall (contexts : Heap ContextRef (SyncContext SyncMessage))
    {call : SyncCall} (hargs : call.args = (s.calls i).args) (hcontext : call.stage.context = s.holds i)
    (hstanding : call.stage.standing = s.standing i) (hlive : ∀ p, contexts.Live p ↔ s.contexts.Live p)
    (hcontexts : ∀ j p, j ≠ i → s.holds j = some p → contexts.get p = s.contexts.get p)
    (hself : ({ s with contexts := contexts }.setCall i call).StageSound proto Answers i call.stage) :
    ({ s with contexts := contexts }.setCall i call).Sound proto Answers := by
  have hcalls : ∀ j, (({ s with contexts := contexts }.setCall i call).calls j).args = (s.calls j).args ∧
      ({ s with contexts := contexts }.setCall i call).holds j = s.holds j ∧
      ({ s with contexts := contexts }.setCall i call).standing j = s.standing j := by
    intro j
    by_cases hji : j = i
    · rw [hji, holds, standing, setCall_calls_self]
      exact ⟨hargs, hcontext, hstanding⟩
    · rw [holds, standing, setCall_calls_ne _ call hji]
      exact ⟨rfl, rfl, rfl⟩
  have hnumber : ∀ j, ({ s with contexts := contexts }.setCall i call).msg_seqid j = s.msg_seqid j :=
    fun j => congrArg SyncArgs.msg_seqid (hcalls j).1
  apply h.of_call (i := i)
  · have hheap : contexts.Live = s.contexts.Live := funext fun p => propext (hlive p)
    change Owned contexts.Live s.sync_pool.objects_ _
    rw [hheap]
    exact h.owned.congr fun j => (hcalls j).2.1
  · exact h.correlated.shrink (fun j => (hcalls j).2.2) hnumber (fun _ _ hentry => hentry) (fun _ _ _ hk => hk)
  · rw [setCall_calls_self]
    exact hself
  · rfl
  · rfl
  · exact fun j hji => setCall_calls_ne _ call hji
  · exact fun ctx hctx => .inr ⟨((hcalls i).2.2).trans hctx, hnumber i⟩
  · exact hcontexts
  · exact fun _ _ _ _ hnone => hnone

theorem setContext_setStage (hholds : s.holds i = some ctx) (value : SyncContext SyncMessage)
    (hcontext : stage.context = some ctx) (hstanding : stage.standing = s.standing i)
    (hself : ((s.setContext ctx value).setStage i stage).StageSound proto Answers i stage) :
    ((s.setContext ctx value).setStage i stage).Sound proto Answers := by
  refine h.setCall _ rfl (hcontext.trans hholds.symm) hstanding (fun _ => live_set) ?_ hself
  intro j p hji hj
  exact get_set_ne _ _ (h.owned.ne_of_holds hholds hj hji)

theorem setStage (hcontext : stage.context = s.holds i) (hstanding : stage.standing = s.standing i)
    (hself : (s.setStage i stage).StageSound proto Answers i stage) : (s.setStage i stage).Sound proto Answers :=
  h.setCall s.contexts rfl hcontext hstanding (fun _ => Iff.rfl) (fun _ _ _ _ => rfl) hself

section

variable {at_ : Borrowing}

variable (hstage : (s.calls i).stage = .borrowing at_)

include hstage

theorem hold {contexts : Heap ContextRef (SyncContext SyncMessage)} {sync_pool : ObjectPool ContextRef}
    (howned : ∀ next : ι → Option ContextPtr, next i = some ctx → (∀ j, j ≠ i → next j = s.holds j) →
      Owned contexts.Live sync_pool.objects_ next)
    (hcontexts : ∀ p, s.contexts.Live p → contexts.get p = s.contexts.get p) :
    ({ s with contexts := contexts, sync_pool := sync_pool }.setStage i (.holding ctx .reset)).Sound proto Answers := by
  have hpreparing : s.standing i = .preparing := by rw [standing, hstage]; rfl
  apply h.of_call (i := i)
  · exact howned _ (setStage_holds_self ..) (fun j hji => setStage_holds_ne _ i _ hji)
  · rw [setStage_msg_seqid, setStage_standing]
    · exact h.correlated
    · exact hpreparing.symm
  · rw [setStage_calls_self]
    trivial
  · rfl
  · rfl
  · exact fun j hji => setStage_calls_ne _ i _ hji
  · intro ctx hctx
    rw [hpreparing] at hctx
    cases hctx
  · intro j p hji hj
    exact hcontexts p (h.owned.live_held j p hj)
  · exact fun _ _ _ _ hnone => hnone

theorem quit (hret : out.ret ≠ IPC_HV_SOA_RET_SUCCESS) :
    (s.setStage i (.returned out)).Sound proto Answers := by
  have hpreparing : s.standing i = .preparing := by rw [standing, hstage]; rfl
  have hcontext : s.holds i = none := by rw [holds, hstage]; rfl
  apply h.of_call (i := i)
  · rw [setStage_holds]
    · exact h.owned
    · exact hcontext.symm
  · rw [setStage_msg_seqid]
    apply h.correlated.leave (i := i)
    · exact setStage_standing_self ..
    · exact fun j hji => setStage_standing_ne s i _ hji
    · intro n r hentry
      refine ⟨?_, hentry⟩
      rintro rfl
      exact Option.some_ne_none r (hentry.symm.trans (h.correlated.table_eq_none hpreparing))
  · rw [setStage_calls_self]
    exact fun hsuccess => absurd hsuccess hret
  · rfl
  · rfl
  · exact fun j hji => setStage_calls_ne _ i _ hji
  · intro ctx hctx
    rw [hpreparing] at hctx
    cases hctx
  · exact fun _ _ _ _ => rfl
  · exact fun _ _ _ _ hnone => hnone

theorem takeOr {otherwise : SyncState ι κ φ} (hotherwise : otherwise.Sound proto Answers) :
    (s.takeOr i otherwise).Sound proto Answers := by
  unfold SyncState.takeOr
  split
  · rename_i p rest hobjects
    have howned := h.owned
    rw [hobjects] at howned
    exact h.hold hstage (fun next hself hothers => howned.take hself hothers) (fun _ _ => rfl)
  · exact hotherwise

theorem Borrow :
    (s.Borrow i at_).Sound proto Answers := by
  have hcontext : s.holds i = none := by rw [holds, hstage]; rfl
  have hpreparing : s.standing i = .preparing := by rw [standing, hstage]; rfl
  cases at_ with
  | trying => exact h.takeOr hstage (h.setStage hcontext.symm hpreparing.symm trivial)
  | deciding =>
    simp only [SyncState.Borrow]
    split
    · -- the count of the objects does not occur in the invariant
      have hcounted : Sound proto Answers
          { s with sync_pool := { s.sync_pool with _object_num := s.sync_pool._object_num + 1 } } := by
        refine ⟨h.owned, h.correlated, h.held, fun j => ?_⟩
        refine stageSound (s := s) ?_ ?_ (h.calls j)
        · exact .of_completions rfl (fun _ _ => rfl) rfl (fun _ _ hnone => hnone)
        · rfl
      exact hcounted.setStage hcontext.symm hpreparing.symm trivial
    · exact h.setStage hcontext.symm hpreparing.symm trivial
  | creating =>
    apply h.hold hstage
    · intro next hself hothers
      refine h.owned.acquire (fun p hp => hp.alloc default) (s.contexts.live_alloc_fresh default) ?_ ?_ hself hothers
      · exact fun hidle => ne_fresh (h.owned.live_idle _ hidle) rfl
      · exact fun j hj => ne_fresh (h.owned.live_held j _ hj) rfl
    · exact fun p hp => get_alloc_ne s.contexts default (ne_fresh hp)
  | parked => exact h.takeOr hstage (h.quit hstage (by simp [IPC_HV_SOA_RET_FAIL, IPC_HV_SOA_RET_SUCCESS]))

end

theorem insert (hstage : (s.calls i).stage = .holding ctx .insert) :
    ({ s with pending_requests := s.pending_requests.insertNew (s.msg_seqid i) ctx }.setStage i
      (.holding ctx .send)).Sound proto Answers := by
  have hpreparing : s.standing i = .preparing := by rw [standing, hstage]; rfl
  have hholds : s.holds i = some ctx := by rw [holds, hstage]; rfl
  have hnone := h.correlated.table_eq_none hpreparing
  have hprepared := h.calls i
  rw [hstage] at hprepared
  obtain ⟨hready, hdata⟩ := hprepared
  apply h.of_call (i := i)
  · rw [setStage_holds]
    · exact h.owned
    · exact hholds.symm
  · rw [setStage_msg_seqid]
    apply h.correlated.list hpreparing (r := ctx)
    · exact setStage_standing_self ..
    · exact fun j hji => setStage_standing_ne _ i _ hji
    · intro n r hentry
      change (s.pending_requests.insertNew (s.msg_seqid i) ctx).lookup n = some r at hentry
      rw [insertNew_of_none ctx hnone, lookup_insert_eq_some] at hentry
      exact hentry.imp_right And.right
  · rw [setStage_calls_self]
    refine .unanswered ?_ ?_ ?_
    · intro k p hk
      rw [setStage_msg_seqid] at hk
      exact h.correlated.early i hpreparing k _ p hk rfl
    · rw [setStage_args]
      exact hdata
    · intro hset
      exact Bool.false_ne_true (hready.symm.trans hset) |>.elim
  · rfl
  · rfl
  · exact fun j hji => setStage_calls_ne _ i _ hji
  · intro p hp
    rw [hpreparing] at hp
    cases hp
  · exact fun _ _ _ _ => rfl
  · intro j p hji hj hgone
    have hne : s.msg_seqid j ≠ s.msg_seqid i := fun heq =>
      hji (h.correlated.distinct j i (by rw [hj]; simp) (by rw [hpreparing]; simp) heq)
    exact (lookup_insertNew_ne _ ctx hne).trans hgone

theorem erase (hlisted : s.standing i = .listed ctx) (hlock : s.lock = none)
    (hcontext : stage.context = some ctx) (hstanding : stage.standing = .absent)
    (hself : ({ s with pending_requests := s.pending_requests.erase (s.msg_seqid i) }.setStage i stage).StageSound proto
      Answers i stage) :
    ({ s with pending_requests := s.pending_requests.erase (s.msg_seqid i) }.setStage i stage).Sound proto Answers := by
  apply h.of_call (i := i)
  · rw [setStage_holds]
    · exact h.owned
    · exact hcontext.trans (holds_of_listed hlisted).symm
  · rw [setStage_msg_seqid]
    apply h.correlated.leave (i := i)
    · rw [setStage_standing_self]
      exact hstanding
    · exact fun j hji => setStage_standing_ne _ i _ hji
    · exact fun n r hentry => lookup_erase_eq_some.mp hentry
  · rw [setStage_calls_self]
    exact hself
  · rfl
  · rfl
  · exact fun j hji => setStage_calls_ne _ i _ hji
  · exact fun _ _ => .inl hlock
  · exact fun _ _ _ _ => rfl
  · intro j p hji hj hgone
    have hne : s.msg_seqid j ≠ s.msg_seqid i := fun heq =>
      hji (h.correlated.distinct j i (by rw [hj]; simp) (by rw [hlisted]; simp) heq)
    exact (AList.lookup_erase_ne hne).trans hgone

theorem give (hstage : (s.calls i).stage = .holding ctx (.give out)) :
    ({ s with sync_pool := s.sync_pool.Return ctx }.setStage i (.returned out)).Sound proto Answers := by
  have habsent : s.standing i = .absent := by rw [standing, hstage]; rfl
  have hholds : s.holds i = some ctx := by rw [holds, hstage]; rfl
  have hjustified := h.calls i
  rw [hstage] at hjustified
  apply h.of_call (i := i)
  · exact h.owned.give hholds (setStage_holds_self ..) (fun j hji => setStage_holds_ne _ i _ hji)
  · rw [setStage_msg_seqid, setStage_standing]
    · exact h.correlated
    · exact habsent.symm
  · rw [setStage_calls_self]
    refine justified (s := s) ?_ hjustified
    exact .of_completions (setStage_args ..) (fun _ _ => rfl) rfl (fun _ _ hnone => hnone)
  · rfl
  · rfl
  · exact fun j hji => setStage_calls_ne _ i _ hji
  · intro p hp
    rw [habsent] at hp
    cases hp
  · exact fun _ _ _ _ => rfl
  · exact fun _ _ _ _ hnone => hnone

end Sound

theorem setStage_undisturbed (s : SyncState ι κ φ) (i : ι) (stage : Stage) (j : ι) :
    Undisturbed proto s (s.setStage i stage) j :=
  .of_completions (setStage_args ..) (fun _ _ => rfl) rfl (fun _ _ hnone => hnone)

theorem setContext_setStage_context (s : SyncState ι κ φ) (ctx : ContextPtr) (value : SyncContext SyncMessage) (i : ι)
    (stage : Stage) : ((s.setContext ctx value).setStage i stage).context ctx = value := get_set_self ..

theorem Sound.work {phase : Phase} {timeout : Bool} (h : s.Sound proto Answers)
    (hstage : (s.calls i).stage = .holding ctx phase) (hnext : s.work proto i ctx timeout phase = some s') :
    s'.Sound proto Answers := by
  have hholds : s.holds i = some ctx := by rw [holds, hstage]; rfl
  have hstanding : s.standing i = phase.standing ctx := by rw [standing, hstage]; rfl
  have hsound := h.calls i
  rw [hstage] at hsound
  cases phase with
  | reset =>
    cases hnext
    refine h.setContext_setStage hholds _ rfl hstanding.symm ?_
    rw [StageSound, setContext_setStage_context]
    rfl
  | fill =>
    cases hnext
    refine h.setContext_setStage hholds _ rfl hstanding.symm ?_
    rw [StageSound, setContext_setStage_context, setStage_args]
    exact ⟨hsound, rfl⟩
  | insert =>
    simp only [SyncState.work] at hnext
    split at hnext
    · cases hnext
    · cases hnext
      exact h.insert hstage
  | send =>
    cases hnext
    refine h.setCall s.contexts rfl hholds.symm hstanding.symm (fun _ => Iff.rfl) (fun _ _ _ _ => rfl) ?_
    refine progress (s := s) ?_ hstanding hsound
    exact .of_completions (by rw [setCall_calls_self]) (fun _ _ => rfl) rfl (fun _ _ hnone => hnone)
  | wait =>
    obtain ⟨wait_result, hwait, rfl⟩ := Option.map_eq_some_iff.mp hnext
    refine h.setStage hholds.symm hstanding.symm ?_
    rintro rfl
    obtain ⟨hready, hresult⟩ := SyncContext.ready_of_wait hwait
    cases (hsound : s.Progress proto Answers i ctx) with
    | unanswered _ _ unset => exact absurd hresult (unset hready)
    | taken _ _ _ _ _ _ _ unset => exact absurd hresult (unset hready)
    | written _ _ _ _ _ _ _ unset => exact absurd hresult (unset hready)
    | answered k frame hanswered => exact ⟨k, frame, (setStage_undisturbed ..).answered hstanding hanswered⟩
  | check wait_result =>
    cases hnext
    refine h.setStage hholds.symm hstanding.symm ?_
    exact (setStage_undisturbed ..).justified (Answered.justified hsound)
  | erase out =>
    simp only [SyncState.work] at hnext
    split at hnext
    · cases hnext
    · rename_i hlock
      cases hnext
      refine h.erase hstanding (Option.not_isSome_iff_eq_none.mp hlock) rfl rfl ?_
      refine justified (s := s) ?_ hsound
      refine .of_completions (setStage_args ..) (fun _ _ => rfl) rfl (fun _ _ hnone => ?_)
      exact AList.lookup_erase _ _
  | undo =>
    simp only [SyncState.work] at hnext
    split at hnext
    · cases hnext
    · rename_i hlock
      cases hnext
      exact h.erase hstanding (Option.not_isSome_iff_eq_none.mp hlock) rfl rfl trivial
  | cancel =>
    cases hnext
    refine h.setContext_setStage hholds _ rfl hstanding.symm ?_
    have hfail : IPC_HV_SOA_RET_FAIL ≠ IPC_HV_SOA_RET_SUCCESS := by decide
    exact fun hsuccess => absurd hsuccess hfail
  | release out =>
    cases hnext
    refine h.setContext_setStage hholds _ rfl hstanding.symm ?_
    intro hret
    obtain ⟨k, frame, hk, hown, hresp⟩ := hsound hret
    refine ⟨k, frame, hk, ?_, ?_⟩
    · rw [Own, setStage_msg_seqid]
      exact hown
    · rw [setStage_args]
      exact hresp
  | give out =>
    cases hnext
    exact h.give hstage

end hub.soa.SyncState
