import Hub.IpcHv.SyncCallsAnswered

namespace hub.ipc_hv

open Function Heap Syncctxpool SyncStage

namespace SyncCalls

variable {ι τ : Type}

/-- No call leaves after its wait has timed out. -/
def InTime (s : SyncCalls ι τ) : SyncEvent ι → Prop
  | .giveBack x => ∀ ctx, s.calls x ≠ .late ctx
  | .borrow _ | .refuse _ | .send _ _ | .lock _ | .wake _ | .timeout _ | .relock _ | .handle _ _ | .drop _ => True

/-- The mutex of a context is held only by a call that has timed out and is about to
return. -/
def HeldByLeaving (call : ι → HvCall τ) (s : SyncCalls ι τ) : Prop :=
  ∀ ctx thread, (s.contexts.get ctx).mutex = some thread →
    ∃ x, s.calls x = .late ctx ∧ (call x).thread = thread

variable [DecidableEq ι] [DecidableEq τ]

/-- No call has returned with the mutex of its context, so the pool's contexts are unlocked
and every wait for a mutex is for a call that is about to return. -/
structure Unlocked (call : ι → HvCall τ) (s : SyncCalls ι τ) : Prop where
  holder : HeldByLeaving call s
  idle : ∀ ctx ∈ s.pool.head, (s.contexts.get ctx).mutex = none
  lock : ∀ x ctx, s.calls x = .sent ctx → (step call s (.lock x)).isSome = true
  handle : ∀ x ctx msg_data, s.requests x = some ctx →
    (step call s (.handle x msg_data)).isSome = true ∨ ∃ y, s.calls y = .late ctx

/-- What holds whether or not calls time out: a call that leaves after a timeout has the
mutex of its context. -/
structure Tracked (call : ι → HvCall τ) (s : SyncCalls ι τ) : Prop where
  owned : Owned s.contexts.Live s.pool.head fun x => (s.calls x).context
  locked : ∀ x ctx, s.calls x = .late ctx → (s.contexts.get ctx).mutex = some (call x).thread

inductive Touches (call : ι → HvCall τ) (s next : SyncCalls ι τ) : SyncEvent ι → Prop where
  /-- No call gets a context or gives it back, and no mutex changes. -/
  | rests {event : SyncEvent ι} (hquiet : InTime s event)
      (hcalls : ∀ y, next.calls y = s.calls y ∨ s.calls y = .idle ∧ next.calls y = .returned (-1))
      (hmutex : ∀ ctx, (next.contexts.get ctx).mutex = (s.contexts.get ctx).mutex)
      (hlive : next.contexts.Live = s.contexts.Live) (hpool : next.pool = s.pool) : Touches call s next event
  | takes {x : ι} {ctx : SyncctxPtr} {contexts : Syncctxs ι τ} {value : Syncctx ι τ} (hidle : s.calls x = .idle)
      (hborrow : Syncctxpool.syncctxpool_borrow s.contexts s.pool = some (ctx, contexts, next.pool))
      (hcalls : next.calls = Function.update s.calls x (.borrowed ctx))
      (hcontexts : next.contexts = contexts.set ctx value)
      (hmutex : value.mutex = (contexts.get ctx).mutex) : Touches call s next (.borrow x)
  /-- A call goes on with its context. It leaves its mutex alone, or waits on the
  condition. -/
  | goes {event : SyncEvent ι} {x : ι} {ctx : SyncctxPtr} {stage : SyncStage} {value : Syncctx ι τ}
      (hquiet : InTime s event) (hctx : (s.calls x).context = some ctx) (hleaves : (s.calls x).leaves = none)
      (hfree : s.calls x = .sent ctx →
        (s.contexts.get ctx).mutex = none ∨ (s.contexts.get ctx).mutex = some (call x).thread)
      (hkeeps : stage.context = some ctx) (htimely : stage ≠ .late ctx)
      (hcalls : next.calls = Function.update s.calls x stage) (hcontexts : next.contexts = s.contexts.set ctx value)
      (hpool : next.pool = s.pool)
      (hmutex : value.mutex = none ∨ value.mutex = (s.contexts.get ctx).mutex) :
      Touches call s next event
  /-- A call that has timed out gets its mutex back. -/
  | expires {x : ι} {ctx : SyncctxPtr} (hexpired : s.calls x = .expired ctx)
      (hcalls : next.calls = Function.update s.calls x (.late ctx))
      (hcontexts : next.contexts = s.contexts.set ctx { s.contexts.get ctx with mutex := some (call x).thread })
      (hpool : next.pool = s.pool) : Touches call s next (.relock x)
  | gives {x : ι} {ctx : SyncctxPtr} {ret : Int} (hleaves : (s.calls x).leaves = some (ctx, ret))
      (hcalls : next.calls = Function.update s.calls x (.returned ret))
      (hcontexts : next.contexts = s.contexts.set ctx (s.contexts.get ctx).reset)
      (hpool : next.pool = s.pool.syncctxpool_return ctx) : Touches call s next (.giveBack x)

variable {call : ι → HvCall τ} {s next : SyncCalls ι τ} {x : ι} {ctx : SyncctxPtr} {event : SyncEvent ι}

omit [DecidableEq τ] in
theorem Touches.of_same (hquiet : InTime s event) (hcalls : next.calls = s.calls)
    (hcontexts : next.contexts = s.contexts)
    (hpool : next.pool = s.pool) : Touches call s next event := by
  apply Touches.rests hquiet
  · intro y
    rw [hcalls]
    exact .inl rfl
  · intro ctx
    rw [hcontexts]
  · rw [hcontexts]
  · exact hpool

theorem touches_send {ok : Bool} (hstep : step call s (.send x ok) = some next) : Touches call s next (.send x ok) := by
  simp only [step] at hstep
  split at hstep
  · rename_i ctx hstage
    have hctx : (s.calls x).context = some ctx := by
      rw [hstage]
      rfl
    have hleaves : (s.calls x).leaves = none := by
      rw [hstage]
      rfl
    have hfree : ¬ s.calls x = .sent ctx := by
      intro heq
      cases hstage.symm.trans heq
    split at hstep
    · cases hstep
      exact .goes trivial hctx hleaves (fun hsent => absurd hsent hfree) rfl (by simp) rfl rfl rfl (.inr rfl)
    · cases hstep
      exact .goes trivial hctx hleaves (fun hsent => absurd hsent hfree) rfl (by simp) rfl rfl rfl (.inr rfl)
  · cases hstep

theorem touches_lock (hstep : step call s (.lock x) = some next) : Touches call s next (.lock x) := by
  simp only [step] at hstep
  split at hstep
  · rename_i ctx hstage
    obtain ⟨hfree, hnext⟩ := Option.ite_none_right_eq_some.mp hstep
    cases hnext
    refine .goes trivial ?_ ?_ (fun _ => hfree) rfl (by simp) rfl rfl rfl (.inl rfl)
    · rw [hstage]
      rfl
    · rw [hstage]
      rfl
  · cases hstep

variable {msg_data : List UInt8} {stage : SyncStage} {y : ι}

omit [DecidableEq τ] in
theorem touches_waited (hquiet : InTime s event) (hstage : s.calls x = .waiting ctx)
    (hkeeps : stage.context = some ctx) (htimely : stage ≠ .late ctx) :
    Touches call s (s.move x stage ctx (s.contexts.get ctx)) event := by
  refine .goes hquiet ?_ ?_ (fun heq => ?_) hkeeps htimely rfl rfl rfl (.inr rfl)
  · rw [hstage]
    rfl
  · rw [hstage]
    rfl
  · cases hstage.symm.trans heq

theorem touches_handle (hstep : step call s (.handle x msg_data) = some next) :
    Touches call s next (.handle x msg_data) := by
  obtain ⟨ctx, -, -, rfl⟩ := step_handle_eq_some.mp hstep
  obtain ⟨hcalls, hpool, -⟩ := s.copyReply_frame (s.contexts.get ctx) msg_data
  have hquiet : InTime s (.handle x msg_data) := trivial
  apply Touches.rests hquiet
  · exact fun y => .inl (congrFun hcalls y)
  · exact s.contexts.map_get_set Syncctx.mutex rfl
  · rfl
  · exact hpool

theorem step_touches (hstep : step call s event = some next) : Touches call s next event := by
  cases event with
  | borrow x =>
    obtain ⟨⟨hidle, -⟩, hnext⟩ := Option.ite_none_right_eq_some.mp hstep
    split at hnext
    · cases hnext
      exact .of_same trivial rfl rfl rfl
    · rename_i ctx contexts pool hborrow
      cases hnext
      exact .takes hidle hborrow rfl rfl rfl
  | refuse x =>
    obtain ⟨⟨hidle, -⟩, hnext⟩ := Option.ite_none_right_eq_some.mp hstep
    cases hnext
    refine .rests trivial (fun y => ?_) (fun _ => rfl) rfl rfl
    by_cases hy : y = x
    · subst hy
      exact .inr ⟨hidle, update_self ..⟩
    · exact .inl (update_of_ne hy ..)
  | send x ok => exact touches_send hstep
  | lock x => exact touches_lock hstep
  | wake x =>
    simp only [step] at hstep
    split at hstep
    · rename_i ctx hstage
      obtain ⟨-, hnext⟩ := Option.ite_none_right_eq_some.mp hstep
      cases hnext
      exact touches_waited trivial hstage rfl (by simp)
    · cases hstep
  | timeout x =>
    simp only [step] at hstep
    split at hstep
    · rename_i ctx hstage
      obtain ⟨-, hnext⟩ := Option.ite_none_right_eq_some.mp hstep
      cases hnext
      exact touches_waited trivial hstage rfl (by simp)
    · cases hstep
  | relock x =>
    simp only [step] at hstep
    split at hstep
    · rename_i ctx hstage
      obtain ⟨-, hnext⟩ := Option.ite_none_right_eq_some.mp hstep
      cases hnext
      exact .expires hstage rfl rfl rfl
    · cases hstep
  | giveBack x =>
    simp only [step] at hstep
    split at hstep
    · rename_i ctx ret hleaves
      cases hstep
      exact .gives hleaves rfl rfl rfl
    · cases hstep
  | handle x msg_data => exact touches_handle hstep
  | drop x =>
    simp only [step] at hstep
    split at hstep
    · cases hstep
    · cases hstep
      exact .of_same trivial rfl rfl rfl

variable {thread : τ}

section Tracked

omit [DecidableEq τ]

variable {value : Syncctx ι τ} {other : SyncctxPtr}

omit [DecidableEq ι] in
theorem context_of_late (hstage : s.calls x = .late ctx) : (s.calls x).context = some ctx := by
  rw [hstage]
  rfl

omit [DecidableEq ι] in
theorem context_of_expired (hstage : s.calls x = .expired ctx) : (s.calls x).context = some ctx := by
  rw [hstage]
  rfl

theorem leaving_of_update
    (hcalls : next.calls = update s.calls x stage) (hy : next.calls y = .late other) :
    y = x ∧ stage = .late other ∨ y ≠ x ∧ s.calls y = .late other := by
  rw [hcalls] at hy
  exact update_eq_cases hy

theorem Tracked.locked_of_update (h : Tracked call s) (hcalls : next.calls = update s.calls x stage)
    (hget : ∀ other, other ≠ ctx → next.contexts.get other = s.contexts.get other)
    (halone : ∀ y other, y ≠ x → (s.calls y).context = some other → other ≠ ctx)
    (hstage : ∀ other, stage = .late other → (next.contexts.get other).mutex = some (call x).thread) :
    ∀ y other, next.calls y = .late other → (next.contexts.get other).mutex = some (call y).thread := by
  intro y other hy
  obtain ⟨rfl, hself⟩ | ⟨hyx, hbefore⟩ := leaving_of_update hcalls hy
  · exact hstage other hself
  · rw [hget other (halone y other hyx (context_of_late hbefore))]
    exact h.locked y other hbefore

theorem Tracked.step_within (h : Tracked call s)
    (hctx : (s.calls x).context = some ctx) (hkeeps : stage.context = some ctx)
    (hcalls : next.calls = update s.calls x stage) (hcontexts : next.contexts = s.contexts.set ctx value)
    (hpool : next.pool = s.pool) (hstage : stage = .late ctx → value.mutex = some (call x).thread) :
    Tracked call next := by
  constructor
  · rw [hcontexts, hpool]
    exact h.owned.congr (context_of_update hcalls (hkeeps.trans hctx.symm))
  · apply h.locked_of_update hcalls
    · intro other hne
      rw [hcontexts, get_set_ne _ _ hne]
    · intro y other hy hother
      exact h.owned.ne_of_holds hctx hother hy
    · intro other hother
      have heq : other = ctx := by
        rw [hother] at hkeeps
        exact Option.some.inj hkeeps
      subst heq
      rw [hcontexts, get_set_self]
      exact hstage hother

theorem Tracked.touches (h : Tracked call s) (htouches : Touches call s next event) : Tracked call next := by
  cases htouches with
  | rests _ hcalls hmutex hlive hpool =>
    constructor
    · rw [hlive, hpool]
      apply h.owned.congr
      intro y
      obtain hsame | ⟨hidle, hreturned⟩ := hcalls y
      · rw [hsame]
      · rw [hidle, hreturned]
        rfl
    · intro y ctx hy
      rw [hmutex]
      obtain hsame | ⟨-, hreturned⟩ := hcalls y
      · exact h.locked y ctx (hsame.symm.trans hy)
      · cases hreturned.symm.trans hy
  | takes _ hborrow hcalls hcontexts =>
    obtain ⟨hsame, hfree, howned⟩ := borrowed_spec h.owned hborrow hcalls
    constructor
    · rw [hcontexts]
      exact howned
    · apply h.locked_of_update hcalls
      · intro other hne
        rw [hcontexts, get_set_ne _ _ hne, hsame other hne]
      · rintro y other - hother rfl
        exact hfree y hother
      · intro other hother
        cases hother
  | goes _ hctx _ _ hkeeps htimely hcalls hcontexts hpool =>
    exact h.step_within hctx hkeeps hcalls hcontexts hpool fun hstage => absurd hstage htimely
  | expires hexpired hcalls hcontexts hpool =>
    exact h.step_within (context_of_expired hexpired) rfl hcalls hcontexts hpool fun _ => rfl
  | @gives x ctx _ hleaves hcalls hcontexts hpool =>
    have hctx := context_of_leaves hleaves
    have hself : (next.calls x).context = none := by
      rw [hcalls, update_self]
      rfl
    have hothers : ∀ y, y ≠ x → (next.calls y).context = (s.calls y).context := by
      intro y hy
      rw [hcalls, update_of_ne hy]
    constructor
    · rw [hcontexts, hpool]
      exact (h.owned.give hctx hself hothers).perm (List.perm_append_singleton ctx s.pool.head)
    · apply h.locked_of_update hcalls
      · intro other hne
        rw [hcontexts, get_set_ne _ _ hne]
      · intro y other hy hother
        exact h.owned.ne_of_holds hctx hother hy
      · intro other hother
        cases hother

theorem HeldByLeaving.of_update (h : HeldByLeaving call s)
    (hcalls : next.calls = update s.calls x stage)
    (hget : ∀ other, other ≠ ctx → next.contexts.get other = s.contexts.get other)
    (hx : ∀ other, (s.calls x).context = some other → other = ctx)
    (hctx : ∀ thread, (next.contexts.get ctx).mutex = some thread →
      stage = .late ctx ∧ (call x).thread = thread) : HeldByLeaving call next := by
  intro other thread hmutex
  by_cases hother : other = ctx
  · subst hother
    obtain ⟨hstage, hthread⟩ := hctx thread hmutex
    refine ⟨x, ?_, hthread⟩
    rw [hcalls, update_self]
    exact hstage
  · rw [hget other hother] at hmutex
    obtain ⟨y, hy, hthread⟩ := h other thread hmutex
    have hyx : y ≠ x := by
      rintro rfl
      exact hother (hx other (context_of_late hy))
    refine ⟨y, ?_, hthread⟩
    rw [hcalls, update_of_ne hyx]
    exact hy

omit [DecidableEq ι] in
theorem HeldByLeaving.late_of_uses (h : HeldByLeaving call s) (htracked : Tracked call s) {thread : τ}
    (hctx : (s.calls x).context = some ctx) (hmutex : (s.contexts.get ctx).mutex = some thread) :
    s.calls x = .late ctx := by
  obtain ⟨y, hy, -⟩ := h ctx thread hmutex
  have hyx : y = x := htracked.owned.exclusive y x ctx (context_of_late hy) hctx
  rw [hyx] at hy
  exact hy

omit [DecidableEq ι] in
theorem HeldByLeaving.idle (h : HeldByLeaving call s) (htracked : Tracked call s) :
    ∀ ctx ∈ s.pool.head, (s.contexts.get ctx).mutex = none := by
  intro ctx hmem
  rw [Option.eq_none_iff_forall_ne_some]
  intro thread hmutex
  obtain ⟨y, hy, -⟩ := h ctx thread hmutex
  exact htracked.owned.free ctx hmem y (context_of_late hy)

section

variable (h : HeldByLeaving call s)

include h

theorem HeldByLeaving.step_within (hctx : (s.calls x).context = some ctx)
    (hcalls : next.calls = update s.calls x stage) (hcontexts : next.contexts = s.contexts.set ctx value)
    (hlocked : ∀ thread, value.mutex = some thread → stage = .late ctx ∧ (call x).thread = thread) :
    HeldByLeaving call next := by
  apply h.of_update hcalls
  · intro other hne
    rw [hcontexts, get_set_ne _ _ hne]
  · intro other hother
    exact Option.some.inj (hother.symm.trans hctx)
  · intro thread hmutex
    rw [hcontexts, get_set_self] at hmutex
    exact hlocked thread hmutex

omit [DecidableEq ι] in
theorem HeldByLeaving.mutex_of_borrow (htracked : Tracked call s) {contexts : Syncctxs ι τ} {pool : Syncctxpool}
    (hborrow : syncctxpool_borrow s.contexts s.pool = some (ctx, contexts, pool)) :
    (contexts.get ctx).mutex = none := by
  rw [syncctxpool_borrow] at hborrow
  split at hborrow
  · split at hborrow
    · rename_i first rest hhead
      cases hborrow
      apply h.idle htracked
      rw [hhead]
      exact List.mem_cons_self
    · cases hborrow
  · cases hborrow
    rw [get_alloc_fresh]
    rfl

theorem heldByLeaving_touches_iff (htracked : Tracked call s)
    (htouches : Touches call s next event) : HeldByLeaving call next ↔ InTime s event := by
  cases htouches with
  | rests hquiet hcalls hmutex =>
    refine iff_of_true (fun ctx thread hlocked => ?_) hquiet
    rw [hmutex] at hlocked
    obtain ⟨y, hy, hthread⟩ := h ctx thread hlocked
    refine ⟨y, ?_, hthread⟩
    obtain hsame | ⟨hidle, -⟩ := hcalls y
    · exact hsame.trans hy
    · cases hidle.symm.trans hy
  | takes hidle hborrow hcalls hcontexts hmutex =>
    obtain ⟨hsame, -, -⟩ := borrowed_spec htracked.owned hborrow hcalls
    refine iff_of_true ?_ trivial
    apply h.of_update hcalls
    · intro other hne
      rw [hcontexts, get_set_ne _ _ hne, hsame other hne]
    · intro other hother
      rw [hidle] at hother
      cases hother
    · intro thread hlocked
      rw [hcontexts, get_set_self, hmutex, h.mutex_of_borrow htracked hborrow] at hlocked
      cases hlocked
  | goes hquiet hctx hleaves _ _ _ hcalls hcontexts _ hmutex =>
    refine iff_of_true (h.step_within hctx hcalls hcontexts fun thread hlocked => ?_) hquiet
    obtain hnone | hsame := hmutex
    · cases hnone.symm.trans hlocked
    · rw [h.late_of_uses htracked hctx (hsame.symm.trans hlocked)] at hleaves
      cases hleaves
  | expires hexpired hcalls hcontexts =>
    refine iff_of_true (h.step_within (context_of_expired hexpired) hcalls hcontexts fun thread hlocked => ?_) trivial
    exact ⟨rfl, Option.some.inj hlocked⟩
  | @gives x ctx _ hleaves hcalls hcontexts =>
    have hctx := context_of_leaves hleaves
    constructor
    · intro hnext other htimedout
      have hmutex : (next.contexts.get other).mutex = some (call x).thread := by
        rw [htimedout] at hleaves
        cases hleaves
        rw [hcontexts, get_set_self]
        exact htracked.locked x _ htimedout
      obtain ⟨y, hy, -⟩ := hnext other _ hmutex
      obtain ⟨-, hstage⟩ | ⟨hyx, hbefore⟩ := leaving_of_update hcalls hy
      · cases hstage
      · have huses := context_of_late htimedout
        exact hyx (htracked.owned.exclusive y x other (context_of_late hbefore) huses)
    · intro hintime
      apply h.step_within hctx hcalls hcontexts
      intro thread hmutex
      exact absurd (h.late_of_uses htracked hctx hmutex) (hintime ctx)

end

end Tracked

theorem unlocked_iff (htracked : Tracked call s) : Unlocked call s ↔ HeldByLeaving call s := by
  refine ⟨fun h => h.holder, fun h => ⟨h, h.idle htracked, ?_, ?_⟩⟩
  · intro x ctx hsent
    have hctx : (s.calls x).context = some ctx := by
      rw [hsent]
      rfl
    have hfree : (s.contexts.get ctx).mutex = none := by
      rw [Option.eq_none_iff_forall_ne_some]
      intro thread hmutex
      cases hsent.symm.trans (h.late_of_uses htracked hctx hmutex)
    simp only [step, hsent, hfree, true_or, if_true, Option.isSome_some]
  · intro x ctx msg_data hrequest
    cases hmutex : (s.contexts.get ctx).mutex with
    | none =>
      refine .inl ?_
      simp only [step, hrequest, hmutex, if_true, Option.isSome_some]
    | some thread =>
      obtain ⟨y, hy, -⟩ := h ctx thread hmutex
      exact .inr ⟨y, hy⟩

omit [DecidableEq ι] [DecidableEq τ] in
theorem Tracked.init (call : ι → HvCall τ) (init_count : Nat) : Tracked call (SyncCalls.init call init_count) where
  owned := create_owned init_count
  locked _ _ hstage := by cases hstage

omit [DecidableEq ι] [DecidableEq τ] in
theorem HeldByLeaving.init (call : ι → HvCall τ) (init_count : Nat) :
    HeldByLeaving call (SyncCalls.init call init_count) := by
  intro ctx thread hmutex
  rw [SyncCalls.init, create_get] at hmutex
  cases hmutex

variable {events : List (SyncEvent ι)}

theorem tracked_of_run {init_count : Nat}
    (hrun : run (step call) (SyncCalls.init call init_count) events = some s) : Tracked call s := by
  refine run_invariant (Tracked call) ?_ (Tracked.init call init_count) hrun
  intro s event next htracked hstep
  exact htracked.touches (step_touches hstep)

theorem inTime_of_stuck (hstep : step call s event = none) : InTime s event := by
  cases event with
  | giveBack x =>
    intro ctx hlate
    simp only [step, hlate, leaves] at hstep
    cases hstep
  | _ => trivial

/-- Call `x` wants the mutex of its context, which another thread holds. -/
structure Blocked (call : ι → HvCall τ) (s : SyncCalls ι τ) (x : ι) (ctx : SyncctxPtr) (thread : τ) : Prop where
  sent : s.calls x = .sent ctx
  locked : (s.contexts.get ctx).mutex = some thread
  other : thread ≠ (call x).thread

namespace Blocked

variable (h : Blocked call s x ctx thread)

include h

omit [DecidableEq τ] in
theorem of_update {other : SyncctxPtr} (hcalls : next.calls = update s.calls y stage) (hyx : y ≠ x)
    (hne : other ≠ ctx) (hget : ∀ ctx, ctx ≠ other → next.contexts.get ctx = s.contexts.get ctx) :
    Blocked call next x ctx thread := by
  refine ⟨?_, ?_, h.other⟩
  · rw [hcalls, update_of_ne hyx.symm]
    exact h.sent
  · rw [hget ctx hne.symm]
    exact h.locked

theorem step (htracked : Tracked call s)
    (hstep : SyncCalls.step call s event = some next) : Blocked call next x ctx thread := by
  have hctx : (s.calls x).context = some ctx := by
    rw [h.sent]
    rfl
  have hapart : ∀ y other, (s.calls y).context = some other → y ≠ x → other ≠ ctx := fun y other =>
    htracked.owned.ne_of_holds hctx
  cases step_touches hstep with
  | rests _ hcalls hmutex =>
    refine ⟨?_, (hmutex ctx).trans h.locked, h.other⟩
    obtain hsame | ⟨hidle, -⟩ := hcalls x
    · exact hsame.trans h.sent
    · cases hidle.symm.trans h.sent
  | @takes y other contexts value hidle hborrow hcalls hcontexts =>
    have hyx : y ≠ x := by
      rintro rfl
      cases hidle.symm.trans h.sent
    obtain ⟨hsame, hfree, -⟩ := borrowed_spec htracked.owned hborrow hcalls
    have hne : other ≠ ctx := by
      rintro rfl
      exact hfree x hctx
    refine h.of_update hcalls hyx hne fun ctx hctx => ?_
    rw [hcontexts, get_set_ne _ _ hctx, hsame ctx hctx]
  | @goes _ y other stage value _ huses _ hgets _ _ hcalls hcontexts =>
    have hyx : y ≠ x := by
      rintro rfl
      cases huses.symm.trans hctx
      obtain hnone | hown := hgets h.sent
      · cases hnone.symm.trans h.locked
      · exact h.other (Option.some.inj (h.locked.symm.trans hown))
    refine h.of_update hcalls hyx (hapart y other huses hyx) fun ctx hctx => ?_
    rw [hcontexts, get_set_ne _ _ hctx]
  | @expires y other hexpired hcalls hcontexts =>
    have hyx : y ≠ x := by
      rintro rfl
      cases hexpired.symm.trans h.sent
    refine h.of_update hcalls hyx (hapart y other (context_of_expired hexpired) hyx) fun ctx hctx => ?_
    rw [hcontexts, get_set_ne _ _ hctx]
  | @gives y other ret hleaves hcalls hcontexts =>
    have hyx : y ≠ x := by
      rintro rfl
      rw [h.sent] at hleaves
      cases hleaves
    refine h.of_update hcalls hyx (hapart y other (context_of_leaves hleaves) hyx) fun ctx hctx => ?_
    rw [hcontexts, get_set_ne _ _ hctx]

theorem run (htracked : Tracked call s) (hrun : hub.run (SyncCalls.step call) s events = some next) :
    Blocked call next x ctx thread := by
  have hboth : Tracked call next ∧ Blocked call next x ctx thread := by
    refine run_invariant (fun s => Tracked call s ∧ Blocked call s x ctx thread) ?_ ⟨htracked, h⟩ hrun
    intro s event next hs hstep
    exact ⟨hs.1.touches (step_touches hstep), hs.2.step hs.1 hstep⟩
  exact hboth.2

theorem lock_none : SyncCalls.step call s (.lock x) = none := by
  simp [SyncCalls.step, h.sent, h.locked, h.other]

end Blocked

end SyncCalls

open SyncCalls

open scoped Parties

def borrowAfterTimeout : List (SyncEvent (Fin 3)) :=
  [.borrow 0, .send 0 true, .lock 0, .timeout 0, .relock 0, .giveBack 0, .borrow 1, .send 1 true]

end hub.ipc_hv
