import Hub.IpcHv.SyncCallsPaired
import Hub.Lib.Run
import Mathlib.Data.Fintype.Basic

namespace hub.ipc_hv

/-- A call is not ready for its reply before it waits. A reply that ends the wait has data,
and there is a buffer for it, unless the given length is 0. After the call has returned,
its context must be unused. -/
def SyncStage.Ready {τ : Type} (call : HvCall τ) (msg_data : List UInt8) (unused : Prop) : SyncStage → Prop
  | .sent _ => False
  | .waiting _ => (msg_data ≠ [] ∧ call.resp_data = true) ∨ call.resp_len = 0
  | .returned _ => unused
  | .idle | .borrowed _ | .expired _ | .late _ | .finishing _ _ => True

instance {τ : Type} (call : HvCall τ) (msg_data : List UInt8) (unused : Prop) [Decidable unused] :
    DecidablePred (SyncStage.Ready call msg_data unused)
  | .sent _ => .isFalse id
  | .waiting _ => inferInstanceAs (Decidable (_ ∨ _))
  | .returned _ => inferInstanceAs (Decidable unused)
  | .idle | .borrowed _ | .expired _ | .late _ | .finishing _ _ => .isTrue trivial

namespace SyncCalls

variable {ι τ : Type} [DecidableEq ι] [DecidableEq τ] {call : ι → HvCall τ} {s next : SyncCalls ι τ} {x : ι}
  {ctx : SyncctxPtr}

/-- The pool has a context in its list or makes a new one, and a reply comes at a stage of
its call that is ready for it. -/
def Prompt (call : ι → HvCall τ) (s : SyncCalls ι τ) : SyncEvent ι → Prop
  | .borrow _ => s.pool.size = 0 ∨ s.pool.head ≠ []
  | .handle x msg_data =>
    (s.calls x).Ready (call x) msg_data (∀ y, (s.calls y).context = none ∨ (s.calls y).context ≠ s.requests x)
  | .refuse _ | .send _ _ | .lock _ | .wake _ | .timeout _ | .relock _ | .giveBack _ | .drop _ => True

instance [Fintype ι] (call : ι → HvCall τ) (s : SyncCalls ι τ) : DecidablePred (Prompt call s)
  | .borrow _ => inferInstanceAs (Decidable (_ ∨ _))
  | .handle x msg_data => inferInstanceAs (Decidable ((s.calls x).Ready (call x) msg_data _))
  | .refuse _ | .send _ _ | .lock _ | .wake _ | .timeout _ | .relock _ | .giveBack _ | .drop _ => .isTrue trivial

def Correct (call : ι → HvCall τ) (s : SyncCalls ι τ) : Prop :=
  s.undefined = false ∧ ∀ x ret, s.calls x = .returned ret → (s.view x).Settled (call x) ret

/-- A reply that is handled after its call has returned changes no buffer, no length, no
result and no context that a call uses. -/
def LateSpares (call : ι → HvCall τ) (s : SyncCalls ι τ) : SyncEvent ι → Prop
  | .handle x msg_data => ∀ ret next, s.calls x = .returned ret → step call s (.handle x msg_data) = some next →
      next.buffers = s.buffers ∧ next.lens = s.lens ∧ next.calls = s.calls ∧
        ∀ y ctx, (s.calls y).context = some ctx → next.contexts.get ctx = s.contexts.get ctx
  | _ => True

omit [DecidableEq ι] [DecidableEq τ] in
theorem Prompt.unused {ret : Int} {msg_data : List UInt8} (h : Prompt call s (.handle x msg_data))
    (hreturned : s.calls x = .returned ret) (hrequest : s.requests x = some ctx) (y : ι) :
    (s.calls y).context ≠ some ctx := by
  simp only [Prompt, hreturned, hrequest, SyncStage.Ready] at h
  intro hy
  rcases h y with hnone | hne
  · cases hy.symm.trans hnone
  · exact hne hy

theorem step_handle_eq_some {msg_data : List UInt8} :
    step call s (.handle x msg_data) = some next ↔
      ∃ ctx, s.requests x = some ctx ∧ (s.contexts.get ctx).mutex = none ∧ s.answered x ctx msg_data = next := by
  simp only [step]
  split
  · rename_i ctx hrequest
    simp [hrequest]
  · rename_i hrequest
    simp [hrequest]

theorem Paired.handle {msg_data : List UInt8} (h : Paired call s) (hprompt : Prompt call s (.handle x msg_data))
    (hnext : step call s (.handle x msg_data) = some next) : Paired call next := by
  obtain ⟨ctx, hrequest, -, rfl⟩ := step_handle_eq_some.mp hnext
  have hholds := h.holds x
  have hasked : (s.view x).request = some ctx := hrequest
  cases hstage : s.calls x with
  | idle | borrowed =>
    rw [hstage] at hholds
    cases hasked.symm.trans hholds.2
  | sent =>
    rw [Prompt, hstage] at hprompt
    exact hprompt.elim
  | waiting own =>
    rw [hstage] at hholds
    cases hholds.1 ctx hasked
    rw [Prompt, hstage] at hprompt
    exact h.answerWaiting hstage hrequest hprompt
  | expired own =>
    rw [hstage] at hholds
    cases hholds.1 ctx hasked
    exact h.answerLeaving (by rw [hstage]; rfl) hrequest (.inl hstage)
  | late own =>
    rw [hstage] at hholds
    cases hholds.1 ctx hasked
    exact h.answerLeaving (by rw [hstage]; rfl) hrequest (.inr (.inl hstage))
  | finishing own ret =>
    rw [hstage] at hholds
    cases hholds.1 ctx hasked
    exact h.answerLeaving (by rw [hstage]; rfl) hrequest (.inr (.inr ⟨ret, hstage⟩))
  | returned ret => exact h.answerLate hstage (hprompt.unused hstage hrequest)

theorem Paired.send {ok : Bool} (h : Paired call s) (hnext : step call s (.send x ok) = some next) :
    Paired call next := by
  simp only [step] at hnext
  split at hnext
  · rename_i ctx hstage
    have hctx : (s.calls x).context = some ctx := by
      rw [hstage]
      rfl
    have hholds := h.holds x
    rw [hstage] at hholds
    split at hnext
    · cases hnext
      refine h.moveWithin hctx rfl rfl rfl rfl ?_ rfl rfl ⟨hholds.1, ?_⟩ rfl
      · intro y hy
        simp [view, SyncCalls.move, Function.update_of_ne hy]
      · intro other hother
        simpa [view] using hother.symm
    · cases hnext
      exact h.move hctx rfl rfl rfl ⟨CallView.asks_of_no_request hholds.2 ctx, fun hne => absurd hholds.2 hne,
        CallView.settled_of_unanswered hholds.1.1 (by decide)⟩
  · cases hnext

theorem Paired.step {event : SyncEvent ι} (h : Paired call s) (hprompt : Prompt call s event)
    (hnext : step call s event = some next) : Paired call next := by
  cases event with
  | borrow x =>
    obtain ⟨⟨hidle, -⟩, hnext⟩ := Option.ite_none_right_eq_some.mp hnext
    split at hnext
    · rename_i hborrow
      exact absurd hborrow (borrow_ne_none hprompt)
    · rename_i ctx contexts pool hborrow
      cases hnext
      exact h.borrow hidle hborrow ⟨rfl, rfl⟩
  | refuse x =>
    obtain ⟨⟨hidle, -⟩, hnext⟩ := Option.ite_none_right_eq_some.mp hnext
    cases hnext
    exact h.refuse hidle
  | send x ok => exact h.send hnext
  | lock x =>
    simp only [SyncCalls.step] at hnext
    split at hnext
    · rename_i ctx hstage
      obtain ⟨-, hnext⟩ := Option.ite_none_right_eq_some.mp hnext
      cases hnext
      exact h.lock hstage
    · cases hnext
  | wake x =>
    simp only [SyncCalls.step] at hnext
    split at hnext
    · rename_i ctx hstage
      obtain ⟨hguard, hnext⟩ := Option.ite_none_right_eq_some.mp hnext
      cases hnext
      exact h.wake hstage hguard.1
    · cases hnext
  | timeout x =>
    simp only [SyncCalls.step] at hnext
    split at hnext
    · rename_i ctx hstage
      obtain ⟨hsilent, hnext⟩ := Option.ite_none_right_eq_some.mp hnext
      cases hnext
      exact h.timeout hstage hsilent
    · cases hnext
  | relock x =>
    simp only [SyncCalls.step] at hnext
    split at hnext
    · rename_i ctx hstage
      obtain ⟨-, hnext⟩ := Option.ite_none_right_eq_some.mp hnext
      cases hnext
      exact h.relock hstage
    · cases hnext
  | giveBack x =>
    simp only [SyncCalls.step] at hnext
    split at hnext
    · rename_i ctx ret hstage
      cases hnext
      exact h.giveBack hstage
    · cases hnext
  | handle x msg_data => exact h.handle hprompt hnext
  | drop x =>
    simp only [SyncCalls.step] at hnext
    split at hnext
    · cases hnext
    · cases hnext
      exact h.drop

omit [DecidableEq ι] [DecidableEq τ] in
theorem Paired.correct (h : Paired call s) : Correct call s := by
  refine ⟨h.defined, fun x ret hreturned => ?_⟩
  have hholds := h.holds x
  rw [hreturned] at hholds
  exact hholds

theorem Paired.lateSpares {event : SyncEvent ι} (h : Paired call s) (hprompt : Prompt call s event) :
    LateSpares call s event := by
  cases event with
  | handle x msg_data =>
    intro ret next hreturned hnext
    obtain ⟨ctx, hrequest, -, rfl⟩ := step_handle_eq_some.mp hnext
    have hunused := hprompt.unused hreturned hrequest
    have hcopy : s.copyReply (s.contexts.get ctx) msg_data = s := copyReply_of_no_data (h.unused ctx hunused)
    simp only [answered, on_recv_async, hcopy, true_and]
    intro y other hother
    have hne : other ≠ ctx := by
      rintro rfl
      exact hunused y hother
    exact Heap.get_set_ne _ _ hne
  | _ => trivial

end SyncCalls

open SyncCalls

/-- A call returns 0 exactly when its own reply was handled before its wait timed out, the
caller then finds that reply, and a late reply touches no other call. -/
theorem sync_calls_get_own_reply {ι τ : Type} [DecidableEq ι] [DecidableEq τ] {call : ι → HvCall τ} {init_count : Nat}
    {events : List (SyncEvent ι)}
    (hprompt : Meets (step call) (Prompt call) (SyncCalls.init call init_count) events) :
    Throughout (step call) (Correct call) (SyncCalls.init call init_count) events ∧
      Meets (step call) (LateSpares call) (SyncCalls.init call init_count) events := by
  have hstep : ∀ (s : SyncCalls ι τ) event next, Paired call s → Prompt call s event →
      SyncCalls.step call s event = some next → Paired call next :=
    fun _ _ _ h hcond hnext => h.step hcond hnext
  constructor
  · exact hprompt.throughout (Paired call) hstep (fun _ h => h.correct) (.init call init_count)
  · exact hprompt.of_invariant (Paired call) hstep (fun _ _ h hcond => h.lateSpares hcond) (.init call init_count)

open scoped Parties

/-- Call 0 is from one thread, calls 1 and 2 are from another one, each with four bytes of
room. -/
def threeCalls (x : Fin 3) : HvCall Bool := ⟨x ≠ 0, true, 4⟩

/-- Call 0 is answered. Call 1 times out; call 2 gets its context, is answered and
returns, and then the reply to call 1 comes. -/
def lateReply : List (SyncEvent (Fin 3)) :=
  [.borrow 0, .send 0 true, .lock 0, .borrow 1, .send 1 true, .lock 1, .handle 0 [1, 2], .wake 0, .giveBack 0,
    .timeout 1, .relock 1, .giveBack 1, .borrow 2, .send 2 true, .lock 2, .handle 2 [3, 4, 5, 6, 7], .wake 2,
    .giveBack 2, .handle 1 [8, 9]]

theorem late_reply_spares_calls :
    (∃ s, run (step threeCalls) (SyncCalls.init threeCalls 3) lateReply = some s ∧ s.calls 0 = .returned 0 ∧
      s.calls 1 = .returned (-8) ∧ s.calls 2 = .returned 0 ∧ s.buffers 0 = [1, 2] ∧ s.buffers 1 = [] ∧
      s.buffers 2 = [3, 4, 5, 6]) ∧
    Throughout (step threeCalls) (Correct threeCalls) (SyncCalls.init threeCalls 3) lateReply ∧
      Meets (step threeCalls) (LateSpares threeCalls) (SyncCalls.init threeCalls 3) lateReply :=
  ⟨⟨_, rfl, rfl, rfl, rfl, rfl, rfl, rfl⟩, sync_calls_get_own_reply (by decide)⟩

def earlyReply : List (SyncEvent (Fin 3)) :=
  [.borrow 0, .send 0 true, .handle 0 [1, 2], .lock 0, .timeout 0, .relock 0, .giveBack 0]

/-- Call 2 waits with the context of call 1 when the reply to call 1 comes. -/
def strayReply : List (SyncEvent (Fin 3)) :=
  [.borrow 1, .send 1 true, .lock 1, .timeout 1, .relock 1, .giveBack 1, .borrow 2, .send 2 true, .lock 2,
    .handle 1 [8, 9], .wake 2, .giveBack 2]

def fiveBorrows : List (SyncEvent (Fin 5)) := [.borrow 0, .borrow 1, .borrow 2, .borrow 3, .borrow 4]

/-- A call times out although its reply came before it waited. A call returns 0 with the
reply to the call before it. After an empty reply the length is the given one. A pool takes
a context from an empty list. -/
theorem reply_missed_or_stray :
    (∃ s, run (step threeCalls) (SyncCalls.init threeCalls 3) earlyReply = some s ∧ s.calls 0 = .returned (-8) ∧
      s.answers 0 = some [1, 2]) ∧
    (∃ s, run (step threeCalls) (SyncCalls.init threeCalls 3) strayReply = some s ∧ s.calls 1 = .returned (-8) ∧
      s.calls 2 = .returned 0 ∧ s.answers 2 = none ∧ s.buffers 2 = [8, 9] ∧ s.lens 2 = 2) ∧
    (∃ s, run (step threeCalls) (SyncCalls.init threeCalls 3)
        [.borrow 0, .send 0 true, .lock 0, .handle 0 [], .wake 0, .giveBack 0] = some s ∧
      s.calls 0 = .returned 0 ∧ s.answers 0 = some [] ∧ s.lens 0 = 4) ∧
    (∃ s, run (step fun x : Fin 5 => (⟨x, true, 4⟩ : HvCall (Fin 5))) (SyncCalls.init (fun x => ⟨x, true, 4⟩) 3)
        fiveBorrows = some s ∧ s.undefined = true) :=
  ⟨⟨_, rfl, rfl, rfl⟩, ⟨_, rfl, rfl, rfl, rfl, rfl, rfl⟩, ⟨_, rfl, rfl, rfl, rfl⟩, ⟨_, rfl, rfl⟩⟩

end hub.ipc_hv
