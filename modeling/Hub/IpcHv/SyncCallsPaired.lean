import Hub.IpcHv.SyncCalls

namespace hub.ipc_hv

open Function Syncctxpool Heap SyncStage

structure CallView where
  request : Option SyncctxPtr
  answer : Option (List UInt8)
  buffer : List UInt8
  len : Nat

namespace CallView

variable {τ : Type} (call : HvCall τ)

variable (view : CallView)

def Untouched : Prop := view.answer = none ∧ view.buffer = [] ∧ view.len = call.resp_len

/-- The buffer and the length are those of the reply, cut to the given length. -/
def Delivered : Prop :=
  ∀ msg_data, view.answer = some msg_data →
    view.len = min msg_data.length call.resp_len ∧ view.buffer = msg_data.take call.resp_len

/-- The result is 0 exactly when the reply was handled in time, and the reply is then
where the caller finds it. -/
def Settled (ret : Int) : Prop := (ret = 0 ↔ view.answer.isSome) ∧ view.Delivered call

def Asks (ctx : SyncctxPtr) : Prop := ∀ other, view.request = some other → other = ctx

variable {call} {view}

theorem delivered_of_unanswered (h : view.answer = none) : view.Delivered call := by
  intro msg_data hanswer
  rw [h] at hanswer
  cases hanswer

variable {ret : Int}

theorem settled_of_unanswered (h : view.answer = none) (hret : ret ≠ 0) : view.Settled call ret := by
  refine ⟨?_, delivered_of_unanswered h⟩
  simp [h, hret]

theorem Settled.ne_zero (h : view.Settled call ret) (hanswer : view.answer = none) : ret ≠ 0 := by
  intro hret
  have hsome := h.1.mp hret
  rw [hanswer] at hsome
  cases hsome

theorem asks_of_no_request (h : view.request = none) (ctx : SyncctxPtr) : view.Asks ctx := by
  intro other hother
  rw [h] at hother
  cases hother

end CallView

def FilledFor {ι τ : Type} (call : HvCall τ) (x : ι) (ctx : Syncctx ι τ) : Prop :=
  ctx.data = (if call.resp_data then some x else none) ∧ ctx.len = some x

def SyncStage.Holds {ι τ : Type} (call : HvCall τ) (contexts : Syncctxs ι τ) (view : CallView) : SyncStage → Prop
  | .idle | .borrowed _ => view.Untouched call ∧ view.request = none
  | .sent ctx => view.Untouched call ∧ view.Asks ctx
  | .waiting ctx => view.Asks ctx ∧
      (((contexts.get ctx).signalled = false ∧ view.Untouched call) ∨
        ((contexts.get ctx).signalled = true ∧ (contexts.get ctx).result = 0 ∧ view.request = none ∧
          view.Settled call 0))
  | .expired ctx | .late ctx => view.Asks ctx ∧ view.answer = none
  | .finishing ctx ret => view.Asks ctx ∧ (view.request ≠ none → view.answer = none) ∧ view.Settled call ret
  | .returned ret => view.Settled call ret

namespace SyncStage.Holds

variable {ι τ : Type} {call : HvCall τ} {contexts contexts' : Syncctxs ι τ} {view : CallView} {stage : SyncStage}

theorem frame (h : stage.Holds call contexts view)
    (hget : ∀ ctx, stage.context = some ctx → contexts'.get ctx = contexts.get ctx) :
    stage.Holds call contexts' view := by
  cases stage with
  | waiting ctx =>
    simp only [Holds, hget ctx rfl]
    exact h
  | _ => exact h

theorem forget (h : stage.Holds call contexts view) : stage.Holds call contexts { view with request := none } := by
  have hasks : ∀ ctx, CallView.Asks { view with request := none } ctx := CallView.asks_of_no_request rfl
  cases stage with
  | idle | borrowed => exact ⟨h.1, rfl⟩
  | sent ctx => exact ⟨h.1, hasks ctx⟩
  | waiting ctx =>
    refine ⟨hasks ctx, ?_⟩
    rcases h.2 with hsilent | ⟨hsignalled, hresult, -, hsettled⟩
    · exact .inl hsilent
    · exact .inr ⟨hsignalled, hresult, rfl, hsettled⟩
  | expired ctx | late ctx => exact ⟨hasks ctx, h.2⟩
  | finishing ctx ret => exact ⟨hasks ctx, fun hne => absurd rfl hne, h.2.2⟩
  | returned ret => exact h

theorem settled {ctx : SyncctxPtr} {ret : Int} (h : stage.Holds call contexts view)
    (hleaves : stage.leaves = some (ctx, ret)) : view.Settled call ret := by
  cases stage with
  | finishing =>
    cases hleaves
    exact h.2.2
  | late =>
    cases hleaves
    exact CallView.settled_of_unanswered h.2 (by decide)
  | _ => cases hleaves

end SyncStage.Holds

theorem SyncStage.context_of_leaves {stage : SyncStage} {ctx : SyncctxPtr} {ret : Int}
    (hleaves : stage.leaves = some (ctx, ret)) : stage.context = some ctx := by
  cases stage with
  | finishing | late =>
    cases hleaves
    rfl
  | _ => cases hleaves

namespace SyncCalls

variable {ι τ : Type}

def view (s : SyncCalls ι τ) (x : ι) : CallView := ⟨s.requests x, s.answers x, s.buffers x, s.lens x⟩

/-- Every context in use belongs to one call and points to its buffer. -/
structure Paired (call : ι → HvCall τ) (s : SyncCalls ι τ) : Prop where
  owned : Owned s.contexts.Live s.pool.head fun x => (s.calls x).context
  filled : ∀ x ctx, (s.calls x).context = some ctx → FilledFor (call x) x (s.contexts.get ctx)
  unused : ∀ ctx, (∀ x, (s.calls x).context ≠ some ctx) → (s.contexts.get ctx).data = none
  holds : ∀ x, (s.calls x).Holds (call x) s.contexts (s.view x)
  defined : s.undefined = false

variable {call : ι → HvCall τ} {s next : SyncCalls ι τ} {x : ι} {stage : SyncStage} {ctx : SyncctxPtr}

theorem Paired.init (call : ι → HvCall τ) (init_count : Nat) : Paired call (SyncCalls.init call init_count) where
  owned := create_owned init_count
  filled _ _ hctx := by cases hctx
  unused ctx _ := by
    rw [SyncCalls.init, create_get]
    rfl
  holds _ := ⟨⟨rfl, rfl, rfl⟩, rfl⟩
  defined := rfl

variable [DecidableEq ι]

theorem Paired.advance (h : Paired call s) (hcalls : next.calls = update s.calls x stage)
    (hview : ∀ y, y ≠ x → next.view y = s.view y)
    (hget : ∀ y ctx, y ≠ x → (s.calls y).context = some ctx → next.contexts.get ctx = s.contexts.get ctx)
    (howned : Owned next.contexts.Live next.pool.head fun y => (next.calls y).context)
    (hfilled : ∀ ctx, stage.context = some ctx → FilledFor (call x) x (next.contexts.get ctx))
    (hunused : ∀ ctx, (∀ y, (next.calls y).context ≠ some ctx) → (next.contexts.get ctx).data = none)
    (hstage : stage.Holds (call x) next.contexts (next.view x)) (hdefined : next.undefined = s.undefined) :
    Paired call next := by
  have hself : next.calls x = stage := by rw [hcalls, update_self]
  have hothers : ∀ y, y ≠ x → next.calls y = s.calls y := by
    intro y hy
    rw [hcalls, update_of_ne hy]
  refine ⟨howned, ?_, hunused, ?_, hdefined.trans h.defined⟩
  · intro y ctx hctx
    by_cases hy : y = x
    · subst hy
      rw [hself] at hctx
      exact hfilled ctx hctx
    · rw [hothers y hy] at hctx
      rw [hget y ctx hy hctx]
      exact h.filled y ctx hctx
  · intro y
    by_cases hy : y = x
    · subst hy
      rw [hself]
      exact hstage
    · rw [hothers y hy, hview y hy]
      exact (h.holds y).frame fun ctx hctx => hget y ctx hy hctx

theorem context_of_update (hcalls : next.calls = update s.calls x stage)
    (hkeeps : stage.context = (s.calls x).context) (y : ι) : (next.calls y).context = (s.calls y).context := by
  rw [hcalls]
  exact (forall_update_iff s.calls fun y stage => stage.context = (s.calls y).context).mpr ⟨hkeeps, fun _ _ => rfl⟩ y

variable {value : Syncctx ι τ} {contexts : Syncctxs ι τ} {pool : Syncctxpool}

theorem Paired.moveWithin (h : Paired call s) (hctx : (s.calls x).context = some ctx)
    (hkeeps : stage.context = some ctx) (hcalls : next.calls = update s.calls x stage)
    (hcontexts : next.contexts = s.contexts.set ctx value) (hpool : next.pool = s.pool)
    (hview : ∀ y, y ≠ x → next.view y = s.view y) (hdata : value.data = (s.contexts.get ctx).data)
    (hlen : value.len = (s.contexts.get ctx).len) (hstage : stage.Holds (call x) next.contexts (next.view x))
    (hdefined : next.undefined = s.undefined) : Paired call next := by
  have hsame := context_of_update hcalls (hkeeps.trans hctx.symm)
  apply h.advance hcalls hview
  · intro y other hy hother
    rw [hcontexts, get_set_ne _ _ (h.owned.ne_of_holds hctx hother hy)]
  · rw [hpool, hcontexts]
    exact h.owned.congr hsame
  · intro other hother
    rw [hkeeps] at hother
    cases hother
    rw [hcontexts, get_set_self]
    exact ⟨hdata.trans (h.filled x ctx hctx).1, hlen.trans (h.filled x ctx hctx).2⟩
  · intro other hunused
    have hne : other ≠ ctx := by
      rintro rfl
      exact hunused x ((hsame x).trans hctx)
    rw [hcontexts, get_set_ne _ _ hne]
    exact h.unused other fun y hy => hunused y ((hsame y).trans hy)
  · exact hstage
  · exact hdefined

theorem Paired.move (h : Paired call s) (hctx : (s.calls x).context = some ctx) (hkeeps : stage.context = some ctx)
    (hdata : value.data = (s.contexts.get ctx).data) (hlen : value.len = (s.contexts.get ctx).len)
    (hstage : stage.Holds (call x) (s.contexts.set ctx value) (s.view x)) :
    Paired call (s.move x stage ctx value) :=
  h.moveWithin hctx hkeeps rfl rfl rfl (fun _ _ => rfl) hdata hlen hstage rfl

theorem Paired.restage (h : Paired call s) (hkeeps : stage.context = (s.calls x).context)
    (hcalls : next.calls = update s.calls x stage) (hcontexts : next.contexts = s.contexts)
    (hpool : next.pool = s.pool) (hview : ∀ y, y ≠ x → next.view y = s.view y)
    (hstage : stage.Holds (call x) next.contexts (next.view x)) (hdefined : next.undefined = s.undefined) :
    Paired call next := by
  have hsame := context_of_update hcalls hkeeps
  apply h.advance hcalls hview
  · intro y other _ _
    rw [hcontexts]
  · rw [hpool, hcontexts]
    exact h.owned.congr hsame
  · intro other hother
    rw [hcontexts]
    exact h.filled x other (hkeeps.symm.trans hother)
  · intro other hunused
    rw [hcontexts]
    exact h.unused other fun y hy => hunused y ((hsame y).trans hy)
  · exact hstage
  · exact hdefined

theorem borrowed_spec {calls calls' : ι → SyncStage} {contexts contexts' : Syncctxs ι τ} {pool pool' : Syncctxpool}
    (h : Owned contexts.Live pool.head fun y => (calls y).context)
    (hborrow : syncctxpool_borrow contexts pool = some (ctx, contexts', pool'))
    (hcalls : calls' = update calls x (.borrowed ctx)) :
    (∀ other, other ≠ ctx → contexts'.get other = contexts.get other) ∧ (∀ y, (calls y).context ≠ some ctx) ∧
      Owned contexts'.Live pool'.head fun y => (calls' y).context := by
  subst hcalls
  apply borrow_spec h hborrow
  · rw [update_self]
    rfl
  · intro y hy
    rw [update_of_ne hy]

omit [DecidableEq ι] in
theorem borrow_ne_none (h : pool.size = 0 ∨ pool.head ≠ []) :
    syncctxpool_borrow contexts pool ≠ none := by
  intro hnone
  rw [syncctxpool_borrow] at hnone
  split at hnone
  · rename_i hsize
    split at hnone
    · cases hnone
    · rename_i hhead
      rcases h with hzero | hne
      · omega
      · exact hne hhead
  · cases hnone

namespace Paired

variable (h : Paired call s)

include h

variable {threads : τ → Bool}

theorem borrow (hidle : s.calls x = .idle)
    (hborrow : syncctxpool_borrow s.contexts s.pool = some (ctx, contexts, pool))
    (hvalue : FilledFor (call x) x value) :
    Paired call { s with
      contexts := contexts.set ctx value
      pool := pool
      calls := update s.calls x (.borrowed ctx)
      threads := threads } := by
  have hstays : ∀ y, y ≠ x → (update s.calls x (.borrowed ctx) y).context = (s.calls y).context := by
    intro y hy
    rw [update_of_ne hy]
  have hgets : (update s.calls x (.borrowed ctx) x).context = some ctx := by
    rw [update_self]
    rfl
  obtain ⟨hsame, hfree, howned⟩ := borrow_spec h.owned hborrow hgets hstays
  apply h.advance rfl
  · exact fun _ _ => rfl
  · intro y other _ hother
    have hne : other ≠ ctx := by
      rintro rfl
      exact hfree y hother
    rw [get_set_ne _ _ hne, hsame other hne]
  · exact howned
  · intro other hother
    cases hother
    rw [get_set_self]
    exact hvalue
  · intro other hunused
    have hne : other ≠ ctx := by
      rintro rfl
      exact hunused x hgets
    rw [get_set_ne _ _ hne, hsame other hne]
    apply h.unused
    intro y hy
    by_cases hyx : y = x
    · rw [hyx, hidle] at hy
      cases hy
    · exact hunused y ((hstays y hyx).trans hy)
  · have hholds := h.holds x
    rw [hidle] at hholds
    exact hholds
  · rfl

theorem giveBack {ret : Int} (hleaves : (s.calls x).leaves = some (ctx, ret)) :
    Paired call { s.move x (.returned ret) ctx (s.contexts.get ctx).reset with
      pool := s.pool.syncctxpool_return ctx
      threads := threads } := by
  have hctx := context_of_leaves hleaves
  have hstays : ∀ y, y ≠ x → (update s.calls x (.returned ret) y).context = (s.calls y).context := by
    intro y hy
    rw [update_of_ne hy]
  have hreturned : (update s.calls x (.returned ret) x).context = none := by
    rw [update_self]
    rfl
  apply h.advance rfl
  · exact fun _ _ => rfl
  · intro y other hy hother
    exact get_set_ne _ _ (h.owned.ne_of_holds hctx hother hy)
  · exact (h.owned.give hctx hreturned hstays).perm (List.perm_append_singleton ctx s.pool.head)
  · intro other hother
    cases hother
  · intro other hunused
    by_cases hother : other = ctx
    · subst hother
      simp only [SyncCalls.move, get_set_self, Syncctx.reset]
    · simp only [SyncCalls.move, get_set_ne _ _ hother]
      apply h.unused
      intro y hy
      by_cases hyx : y = x
      · rw [hyx, hctx] at hy
        exact hother (Option.some.inj hy).symm
      · exact hunused y ((hstays y hyx).trans hy)
  · exact (h.holds x).settled hleaves
  · rfl

theorem lock (hstage : s.calls x = .sent ctx) :
    Paired call (s.move x (.waiting ctx) ctx { s.contexts.get ctx with mutex := none, signalled := false }) := by
  have hholds := h.holds x
  rw [hstage] at hholds
  refine h.move (by rw [hstage]; rfl) rfl rfl rfl ⟨hholds.2, .inl ⟨?_, hholds.1⟩⟩
  rw [get_set_self]

theorem wake (hstage : s.calls x = .waiting ctx) (hsignalled : (s.contexts.get ctx).signalled = true) :
    Paired call (s.move x (.finishing ctx (s.contexts.get ctx).result) ctx (s.contexts.get ctx)) := by
  have hholds := h.holds x
  rw [hstage] at hholds
  rcases hholds.2 with ⟨hsilent, -⟩ | ⟨-, hresult, hnone, hsettled⟩
  · rw [hsilent] at hsignalled
    cases hsignalled
  · rw [hresult]
    exact h.move (by rw [hstage]; rfl) rfl rfl rfl ⟨hholds.1, fun hne => absurd hnone hne, hsettled⟩

theorem timeout (hstage : s.calls x = .waiting ctx) (hsilent : (s.contexts.get ctx).signalled = false) :
    Paired call (s.move x (.expired ctx) ctx (s.contexts.get ctx)) := by
  have hholds := h.holds x
  rw [hstage] at hholds
  rcases hholds.2 with ⟨-, huntouched⟩ | ⟨hsignalled, -⟩
  · exact h.move (by rw [hstage]; rfl) rfl rfl rfl ⟨hholds.1, huntouched.1⟩
  · rw [hsilent] at hsignalled
    cases hsignalled

theorem relock {thread : τ} (hstage : s.calls x = .expired ctx) :
    Paired call (s.move x (.late ctx) ctx { s.contexts.get ctx with mutex := some thread }) := by
  have hholds := h.holds x
  rw [hstage] at hholds
  exact h.move (by rw [hstage]; rfl) rfl rfl rfl hholds

theorem refuse (hidle : s.calls x = .idle) :
    Paired call { s with calls := update s.calls x (.returned (-1)) } := by
  have hholds := h.holds x
  rw [hidle] at hholds
  refine h.restage ?_ rfl rfl rfl (fun _ _ => rfl) (CallView.settled_of_unanswered hholds.1.1 (by decide)) rfl
  rw [hidle]
  rfl

theorem drop : Paired call { s with requests := update s.requests x none } := by
  refine h.restage rfl (update_eq_self x s.calls).symm rfl rfl ?_ ?_ rfl
  · intro y hy
    simp [view, update_of_ne hy]
  · have hview : view { s with requests := update s.requests x none } x =
        { s.view x with request := none } := by
      simp [view]
    rw [hview]
    exact (h.holds x).forget

end Paired

section Reply

variable {msg_data : List UInt8}

@[simp] theorem copyReply_frame (s : SyncCalls ι τ) (value : Syncctx ι τ) (msg_data : List UInt8) :
    (s.copyReply value msg_data).calls = s.calls ∧ (s.copyReply value msg_data).pool = s.pool ∧
      (s.copyReply value msg_data).undefined = s.undefined := by
  unfold copyReply
  split
  · split <;> exact ⟨rfl, rfl, rfl⟩
  · exact ⟨rfl, rfl, rfl⟩

theorem copyReply_of_no_data (h : value.data = none) : s.copyReply value msg_data = s := by
  simp only [copyReply, h]

theorem copyReply_self (h : FilledFor (call x) x value) (hbuffer : s.buffers x = [])
    (hlen : s.lens x = (call x).resp_len)
    (hroom : (msg_data ≠ [] ∧ (call x).resp_data = true) ∨ (call x).resp_len = 0) :
    (s.copyReply value msg_data).lens x = min msg_data.length (call x).resp_len ∧
      (s.copyReply value msg_data).buffers x = msg_data.take (call x).resp_len := by
  obtain ⟨hdata, hvalue⟩ := h
  have hcut : (if msg_data.length < (call x).resp_len then msg_data.length else (call x).resp_len) =
      min msg_data.length (call x).resp_len := by
    split <;> omega
  have htake : msg_data.take (min msg_data.length (call x).resp_len) = msg_data.take (call x).resp_len := by
    rw [Nat.min_comm, List.take_eq_take_min.symm]
  by_cases hcopies : msg_data ≠ [] ∧ (call x).resp_data = true
  · simp only [copyReply, hdata, hvalue, hcopies.2, if_true, if_pos hcopies.1, update_self, hlen, hcut,
      hbuffer, List.drop_nil, List.append_nil, htake, and_self]
  · have hzero : (call x).resp_len = 0 := hroom.resolve_left hcopies
    have hnothing : s.copyReply value msg_data = s := by
      unfold copyReply
      rw [hdata, hvalue]
      split
      · rename_i hbuffer _
        split
        · rename_i hne
          split at hbuffer
          · rename_i hresp
            exact absurd ⟨hne, hresp⟩ hcopies
          · cases hbuffer
        · rfl
      · rfl
    rw [hnothing, hlen, hbuffer, hzero]
    simp

section

variable (h : Paired call s)

include h

theorem Paired.answerWithin (hctx : (s.calls x).context = some ctx)
    (hstage : (s.calls x).Holds (call x) (s.answered x ctx msg_data).contexts ((s.answered x ctx msg_data).view x)) :
    Paired call (s.answered x ctx msg_data) := by
  obtain ⟨hcalls, hpool, hundefined⟩ := s.copyReply_frame (s.contexts.get ctx) msg_data
  refine h.moveWithin hctx hctx (hcalls.trans (update_eq_self x s.calls).symm) rfl hpool ?_ rfl rfl hstage hundefined
  intro y hy
  have hcopy : (s.copyReply (s.contexts.get ctx) msg_data).buffers y = s.buffers y ∧
      (s.copyReply (s.contexts.get ctx) msg_data).lens y = s.lens y := by
    -- Through a context of call `x`, only its own buffer and length are written.
    obtain ⟨hdata, hlen⟩ := h.filled x ctx hctx
    unfold copyReply
    rw [hdata, hlen]
    split
    · rename_i buffer len hbuffer hlen
      cases hlen
      have hbuffer : buffer = x := by
        split at hbuffer
        · exact (Option.some.inj hbuffer).symm
        · cases hbuffer
      subst hbuffer
      split
      · exact ⟨update_of_ne hy _ _, update_of_ne hy _ _⟩
      · exact ⟨rfl, rfl⟩
    · exact ⟨rfl, rfl⟩
  obtain ⟨hbuffer, hlen⟩ := hcopy
  have hrequest : update s.requests x none y = s.requests y := update_of_ne hy _ _
  have hanswer : (if (s.calls x).pending then update s.answers x (some msg_data) else s.answers) y =
      s.answers y := by
    split
    · exact update_of_ne hy _ _
    · rfl
  simp only [view, answered, on_recv_async, hbuffer, hlen, hrequest, hanswer]

theorem Paired.answerWaiting (hwaiting : s.calls x = .waiting ctx)
    (hrequest : s.requests x = some ctx)
    (hroom : (msg_data ≠ [] ∧ (call x).resp_data = true) ∨ (call x).resp_len = 0) :
    Paired call (s.answered x ctx msg_data) := by
  have hctx : (s.calls x).context = some ctx := by
    rw [hwaiting]
    rfl
  have hholds := h.holds x
  rw [hwaiting] at hholds
  have huntouched : (s.view x).Untouched (call x) := by
    rcases hholds.2 with ⟨-, huntouched⟩ | ⟨-, -, hnone, -⟩
    · exact huntouched
    · cases hrequest.symm.trans hnone
  have hdelivered : (s.copyReply (s.contexts.get ctx) msg_data).lens x = min msg_data.length (call x).resp_len ∧
      (s.copyReply (s.contexts.get ctx) msg_data).buffers x = msg_data.take (call x).resp_len :=
    copyReply_self (h.filled x ctx hctx) huntouched.2.1 huntouched.2.2 hroom
  have hnone : ((s.answered x ctx msg_data).view x).request = none := update_self ..
  have hanswer : ((s.answered x ctx msg_data).view x).answer = some msg_data := by
    simp [view, answered, hwaiting, pending]
  apply h.answerWithin hctx
  rw [hwaiting]
  refine ⟨CallView.asks_of_no_request hnone ctx, .inr ⟨?_, ?_, hnone, ?_, ?_⟩⟩
  · simp [answered, on_recv_async]
  · simp [answered, on_recv_async]
  · simp [hanswer]
  · intro other hother
    cases hanswer.symm.trans hother
    exact hdelivered

theorem Paired.answerLeaving (hctx : (s.calls x).context = some ctx)
    (hrequest : s.requests x = some ctx)
    (hleaving : s.calls x = .expired ctx ∨ s.calls x = .late ctx ∨ ∃ ret, s.calls x = .finishing ctx ret) :
    Paired call (s.answered x ctx msg_data) := by
  have hholds := h.holds x
  have hnone : ((s.answered x ctx msg_data).view x).request = none := update_self ..
  have hasks := CallView.asks_of_no_request hnone ctx
  apply h.answerWithin hctx
  rcases hleaving with hstage | hstage | ⟨ret, hstage⟩
  iterate 2
    rw [hstage] at hholds ⊢
    have hanswer : ((s.answered x ctx msg_data).view x).answer = none := by
      simpa [view, answered, hstage, pending] using hholds.2
    exact ⟨hasks, hanswer⟩
  · rw [hstage] at hholds ⊢
    have hbefore : (s.view x).answer = none := hholds.2.1 (by simp [view, hrequest])
    have hanswer : ((s.answered x ctx msg_data).view x).answer = none := by
      simpa [view, answered, hstage, pending] using hbefore
    exact ⟨hasks, fun _ => hanswer, CallView.settled_of_unanswered hanswer (hholds.2.2.ne_zero hbefore)⟩

theorem Paired.answerLate {ret : Int} (hreturned : s.calls x = .returned ret)
    (hunused : ∀ y, (s.calls y).context ≠ some ctx) : Paired call (s.answered x ctx msg_data) := by
  have hcopy : s.copyReply (s.contexts.get ctx) msg_data = s := copyReply_of_no_data (h.unused ctx hunused)
  have hcalls : (s.answered x ctx msg_data).calls = s.calls := (copyReply_frame ..).1
  have hne : ∀ y other, (s.calls y).context = some other → other ≠ ctx := by
    rintro y other hother rfl
    exact hunused y hother
  have hanswers : (s.answered x ctx msg_data).answers = s.answers := by
    simp [answered, hreturned, pending]
  apply h.advance (hcalls.trans (update_eq_self x s.calls).symm)
  · intro y hy
    have hrequest : update s.requests x none y = s.requests y := update_of_ne hy _ _
    simp only [view, hanswers]
    simp only [answered, on_recv_async, hcopy, hrequest]
  · intro y other _ hother
    exact get_set_ne _ _ (hne y other hother)
  · simp only [answered, on_recv_async, hcopy]
    exact h.owned
  · intro other hother
    rw [hreturned] at hother
    cases hother
  · intro other hother
    rw [hcalls] at hother
    have hdata : ((s.answered x ctx msg_data).contexts.get other).data = (s.contexts.get other).data :=
      map_get_set s.contexts (·.data) (by rfl) other
    exact hdata.trans (h.unused other hother)
  · have hholds := h.holds x
    rw [hreturned] at hholds ⊢
    have hview : (s.answered x ctx msg_data).view x = { s.view x with request := none } := by
      simp only [view, hanswers]
      simp only [answered, on_recv_async, hcopy, update_self]
    rw [hview]
    exact hholds
  · exact (copyReply_frame ..).2.2

end

end Reply

end SyncCalls

end hub.ipc_hv
