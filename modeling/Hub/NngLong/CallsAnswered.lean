import Hub.Lib.Ownership
import Hub.Lib.Run
import Hub.NngLong.Calls
import Mathlib.Data.Fintype.Basic

namespace hub.nng_long

open Function CallStage

section Call

variable {ι : Type} (call : SendCall) (x : ι)

/-- The slot is filled for call `x`, and if it holds a result, then that of a reply to
this call. -/
structure MessagePair.FilledFor (handled : List (ι × Reply)) (pair : MessagePair ι) : Prop where
  event_id : pair.event_id = call.event_id
  out_data : pair.out_data = if call.out_data then some x else none
  out_data_size : pair.out_data_size = call.out_data_size
  answered : pair.cond_true = true → ∃ reply, (x, reply) ∈ handled ∧ reply.result = pair.ret

/-- What a call can rely on at each of its stages. Nobody touches its slot while it holds
the mutex. -/
def CallStage.Holds (pairs : Slot → MessagePair ι) (mtx : Slot → Option ι) (handled : List (ι × Reply)) :
    CallStage → Prop
  | .idle | .given _ => True
  | .sending slot => mtx slot = some x ∧ (pairs slot).FilledFor call x handled
  | .testing slot ret => mtx slot = some x ∧ (pairs slot).FilledFor call x handled ∧
      ∀ stored, ret = .stored stored → (pairs slot).ret = stored ∧ (pairs slot).expire ≠ 0
  | .waiting slot => (pairs slot).FilledFor call x handled ∧ (pairs slot).expire ≠ 0
  | .returned ret => ∀ stored, ret = .stored stored → ∃ reply, (x, reply) ∈ handled ∧ reply.result = stored

variable {call x} {pairs pairs' : Slot → MessagePair ι} {mtx mtx' : Slot → Option ι}
  {handled handled' : List (ι × Reply)}

theorem MessagePair.FilledFor.mono {pair : MessagePair ι} (h : pair.FilledFor call x handled)
    (hsub : handled ⊆ handled') : pair.FilledFor call x handled' :=
  { h with
    answered htrue := by
      obtain ⟨reply, hmem, hresult⟩ := h.answered htrue
      exact ⟨reply, hsub hmem, hresult⟩ }

variable {stage : CallStage}

theorem CallStage.Holds.frame (h : stage.Holds call x pairs mtx handled)
    (hpairs : ∀ slot, stage.slot = some slot → pairs' slot = pairs slot)
    (hmtx : ∀ slot, stage.slot = some slot → mtx' slot = mtx slot) (hsub : handled ⊆ handled') :
    stage.Holds call x pairs' mtx' handled' := by
  cases stage with
  | idle | given => trivial
  | sending slot =>
    simp only [Holds, hpairs slot rfl, hmtx slot rfl]
    exact ⟨h.1, h.2.mono hsub⟩
  | testing slot ret =>
    simp only [Holds, hpairs slot rfl, hmtx slot rfl]
    exact ⟨h.1, h.2.1.mono hsub, h.2.2⟩
  | waiting slot =>
    simp only [Holds, hpairs slot rfl]
    exact ⟨h.1.mono hsub, h.2⟩
  | returned ret =>
    intro stored hstored
    obtain ⟨reply, hmem, hresult⟩ := h stored hstored
    exact ⟨reply, hsub hmem, hresult⟩

theorem CallStage.Holds.filledFor {slot : Slot} (h : stage.Holds call x pairs mtx handled)
    (hfilled : stage.filled = some slot) : (pairs slot).FilledFor call x handled := by
  cases stage with
  | sending =>
    cases hfilled
    exact h.2
  | testing =>
    cases hfilled
    exact h.2.1
  | waiting =>
    cases hfilled
    exact h.1
  | idle | given | returned => cases hfilled

end Call

namespace Calls

variable {ι κ : Type} (request : ι → SendCall)

variable (s : Calls ι κ)

/-- Calls in progress hold different slots, and no two calls of the run have the same
event id. -/
def Distinct : CallEvent ι κ → Prop
  | .take x slot => ∀ y, y ≠ x →
      (s.calls y).slot ≠ some slot ∧ (s.calls y ≠ .idle → (request y).event_id ≠ (request x).event_id)
  | _ => True

/-- A call gives up its slot only while no work has matched it and not yet locked it. -/
def Settled : CallEvent ι κ → Prop
  | .test x => ∀ slot ∈ (s.calls x).tests, (s.msg_pair slot).Waits ∨ ∀ k, (s.works k).target ≠ some slot
  | _ => True

/-- What a work writes goes to a slot whose current call has the event id of the reply. -/
def WritesOwn : CallEvent ι κ → Prop
  | .write k => ∀ y reply slot, s.works k = .matched y reply slot →
      ∃ x, (s.calls x).slot = some slot ∧ (request x).event_id = reply.event_id
  | _ => True

/-- No call has the result or the data of another call's reply. -/
structure Answered (s : Calls ι κ) : Prop where
  result : ∀ x ret, s.calls x = .returned (.stored ret) → ∃ reply, (x, reply) ∈ s.handled ∧ reply.result = ret
  data : ∀ x bytes, s.buffers x = some bytes →
    ∃ reply, (x, reply) ∈ s.handled ∧ bytes = reply.data.read (request x).out_data_size
  length : ∀ x len, s.lengths x = some len → len = (request x).out_data_size

/-- What a work can rely on: a slot that it has matched is still that of the call. -/
def WorkHolds : ReplyWork ι → Prop
  | .idle => True
  | .scanning x reply _ => (s.calls x).requested = true ∧ reply.event_id = (request x).event_id
  | .matched x reply slot => (s.calls x).filled = some slot ∧ reply.event_id = (request x).event_id

/-- The invariant of runs in which no call gives up a matched slot. -/
structure Owned (s : Calls ι κ) : Prop where
  distinct : ∀ x y, s.calls x ≠ .idle → s.calls y ≠ .idle → (request x).event_id = (request y).event_id → x = y
  exclusive : ∀ x y slot, (s.calls x).slot = some slot → (s.calls y).slot = some slot → x = y
  vacant : ∀ slot, (s.msg_pair slot).event_id ≠ 0 → ∃ x, (s.calls x).filled = some slot
  stage : ∀ x, (s.calls x).Holds (request x) x s.msg_pair s.mtx s.handled
  work : ∀ k, s.WorkHolds request (s.works k)
  data : ∀ x bytes, s.buffers x = some bytes →
    ∃ reply, (x, reply) ∈ s.handled ∧ bytes = reply.data.read (request x).out_data_size
  length : ∀ x len, s.lengths x = some len → len = (request x).out_data_size

variable {request} {s}

theorem Owned.init : (init : Calls ι κ).Owned request where
  distinct _ _ hx := absurd rfl hx
  exclusive _ _ _ hx := by cases hx
  vacant _ hne := absurd rfl hne
  stage _ := trivial
  work _ := trivial
  data _ _ hbytes := by cases hbytes
  length _ _ hlen := by cases hlen

theorem Owned.answered (h : s.Owned request) : s.Answered request where
  result x ret hx := by
    have hstage := h.stage x
    rw [hx] at hstage
    exact hstage ret rfl
  data := h.data
  length := h.length

theorem Owned.writesOwn (h : s.Owned request) (event : CallEvent ι κ) : s.WritesOwn request event := by
  cases event with
  | write k =>
    intro y reply slot hk
    have hwork := h.work k
    rw [hk] at hwork
    exact ⟨y, slot_of_filled hwork.1, hwork.2.symm⟩
  | _ => trivial

variable {x : ι} {slot : Slot} {pair : MessagePair ι} {reply : Reply} {k : κ} {stage : CallStage}
  {owner : Option ι}

variable [DecidableEq ι]

theorem Owned.move (h : s.Owned request) (hold : ∀ other, (s.calls x).slot = some other → other = slot)
    (halone : ∀ y, y ≠ x →
      (s.calls y).slot ≠ some slot ∧ (s.calls y ≠ .idle → (request y).event_id ≠ (request x).event_id))
    (hslot : ∀ other, stage.slot = some other → other = slot)
    (hstage : stage.Holds (request x) x (update s.msg_pair slot pair) (update s.mtx slot owner) s.handled)
    (hvacant : pair.event_id ≠ 0 → stage.filled = some slot)
    (hrequested : (s.calls x).requested = true → stage.requested = true)
    (hmatched : ∀ k reply, s.works k = .matched x reply slot → stage.filled = some slot) :
    (s.move x stage slot pair owner).Owned request := by
  have hself : (s.move x stage slot pair owner).calls x = stage := update_self ..
  have hother : ∀ {y}, y ≠ x → (s.move x stage slot pair owner).calls y = s.calls y := fun hy =>
    update_of_ne hy ..
  constructor
  · exact distinct_of_update h.distinct fun y hyx => (halone y hyx).2
  · apply unique_of_update (fun _ (stage : CallStage) other => stage.slot = some other) h.exclusive
    intro y other hyx hnew hy
    rw [hslot other hnew] at hy
    exact (halone y hyx).1 hy
  · intro other hevent
    by_cases hslot' : other = slot
    · subst hslot'
      refine ⟨x, ?_⟩
      rw [hself]
      refine hvacant ?_
      simpa only [Calls.move, update_self] using hevent
    · simp only [Calls.move, update_of_ne hslot'] at hevent
      obtain ⟨y, hy⟩ := h.vacant other hevent
      have hyx : y ≠ x := by
        rintro rfl
        exact hslot' (hold other (slot_of_filled hy))
      exact ⟨y, by rw [hother hyx]; exact hy⟩
  · intro y
    by_cases hyx : y = x
    · subst hyx
      rw [hself]
      exact hstage
    · rw [hother hyx]
      have hne : ∀ other, (s.calls y).slot = some other → other ≠ slot := by
        rintro other hy rfl
        exact (halone y hyx).1 hy
      refine (h.stage y).frame ?_ ?_ (List.Subset.refl _)
      · exact fun other hy => update_of_ne (hne other hy) ..
      · exact fun other hy => update_of_ne (hne other hy) ..
  · intro k
    have hwork := h.work k
    change (s.move x stage slot pair owner).WorkHolds request (s.works k)
    cases hk : s.works k with
    | idle => trivial
    | scanning y reply i =>
      rw [hk] at hwork
      refine ⟨?_, hwork.2⟩
      by_cases hyx : y = x
      · rw [hyx, hself]
        exact hrequested (hyx ▸ hwork.1)
      · rw [hother hyx]
        exact hwork.1
    | matched y reply other =>
      rw [hk] at hwork
      refine ⟨?_, hwork.2⟩
      by_cases hyx : y = x
      · subst hyx
        cases hold other (slot_of_filled hwork.1)
        rw [hself]
        exact hmatched k reply hk
      · rw [hother hyx]
        exact hwork.1
  · exact h.data
  · exact h.length

theorem Owned.moveOn (h : s.Owned request) (hx : (s.calls x).slot = some slot)
    (hslot : ∀ other, stage.slot = some other → other = slot)
    (hstage : stage.Holds (request x) x (update s.msg_pair slot pair) (update s.mtx slot owner) s.handled)
    (hvacant : pair.event_id ≠ 0 → stage.filled = some slot) (hrequested : stage.requested = true)
    (hmatched : ∀ k reply, s.works k = .matched x reply slot → stage.filled = some slot) :
    (s.move x stage slot pair owner).Owned request := by
  refine h.move ?_ ?_ hslot hstage hvacant (fun _ => hrequested) hmatched
  · intro other hother
    rw [hx] at hother
    exact (Option.some.inj hother).symm
  · intro y hyx
    refine ⟨fun hy => hyx (h.exclusive y x slot hy hx), fun hidle hevent => hyx (h.distinct y x hidle ?_ hevent)⟩
    intro hx_idle
    rw [hx_idle] at hx
    cases hx

variable [DecidableEq κ] {next : Calls ι κ}

section

variable (h : s.Owned request)

include h

theorem Owned.take
    (hdistinct : s.Distinct request (.take x slot)) (hnext : s.step request (.take x slot) = some next) :
    next.Owned request := by
  simp only [step, Option.ite_none_right_eq_some, Option.some.injEq] at hnext
  obtain ⟨hidle, rfl⟩ := hnext
  have hnone : ∀ y, y ≠ x → (s.calls y).slot ≠ some slot := fun y hyx => (hdistinct y hyx).1
  refine h.move ?_ hdistinct ?_ trivial ?_ ?_ ?_
  · intro other hother
    rw [hidle] at hother
    cases hother
  · intro other hother
    exact (Option.some.inj hother).symm
  · intro hne
    obtain ⟨y, hy⟩ := h.vacant slot hne
    by_cases hyx : y = x
    · rw [hyx, hidle] at hy
      cases hy
    · exact absurd (slot_of_filled hy) (hnone y hyx)
  · intro hrequested
    rw [hidle] at hrequested
    cases hrequested
  · intro k reply hk
    have hwork := h.work k
    rw [hk] at hwork
    have hfilled := hwork.1
    rw [hidle] at hfilled
    cases hfilled

variable {clock : UInt64}

theorem Owned.fill (hnext : s.step request (.fill x clock) = some next) : next.Owned request := by
  simp only [step] at hnext
  split at hnext
  · rename_i slot hx
    simp only [Option.ite_none_right_eq_some, Option.some.injEq] at hnext
    obtain ⟨-, rfl⟩ := hnext
    refine h.moveOn (by rw [hx]; rfl) (fun other hother => (Option.some.inj hother).symm) ?_ (fun _ => rfl) rfl
      (fun _ _ _ => rfl)
    refine ⟨update_self .., ?_⟩
    rw [update_self]
    exact ⟨rfl, rfl, rfl, fun htrue => Bool.noConfusion htrue⟩
  · cases hnext

theorem Owned.send {ret : Int}
    (hnext : s.step request (.send x ret clock) = some next) : next.Owned request := by
  simp only [step] at hnext
  split at hnext
  · rename_i slot hx
    cases hnext
    have hstage := h.stage x
    rw [hx] at hstage
    refine h.moveOn (by rw [hx]; rfl) (fun other hother => (Option.some.inj hother).symm) ?_ (fun _ => rfl) rfl
      (fun _ _ _ => rfl)
    refine ⟨by rw [update_self]; exact hstage.1, ?_, fun stored hstored => by cases hstored⟩
    rw [update_self]
    exact ⟨hstage.2.event_id, hstage.2.out_data, hstage.2.out_data_size, hstage.2.answered⟩
  · cases hnext

theorem Owned.test (hsettled : s.Settled (.test x))
    (hnext : s.step request (.test x) = some next) : next.Owned request := by
  simp only [step] at hnext
  split at hnext
  · rename_i slot ret hx
    have hstage := h.stage x
    rw [hx] at hstage
    obtain ⟨-, hfilled, hstored⟩ := hstage
    have hslot : (s.calls x).slot = some slot := by rw [hx]; rfl
    split at hnext
    · rename_i hwaits
      cases hnext
      refine h.moveOn hslot (fun other hother => (Option.some.inj hother).symm) ?_ (fun _ => rfl) rfl (fun _ _ _ => rfl)
      simp only [Holds, update_self]
      exact ⟨hfilled, hwaits.2⟩
    · rename_i hwaits
      cases hnext
      have hunmatched := (hsettled slot (by rw [hx]; rfl)).resolve_left hwaits
      refine h.moveOn hslot (fun other hother => by cases hother) ?_ (fun hne => absurd rfl hne) rfl
        (fun k reply hk => absurd (by rw [hk]; rfl) (hunmatched k))
      intro stored hret
      obtain ⟨hsame, hexpire⟩ := hstored stored hret
      have htrue : (s.msg_pair slot).cond_true = true := by
        by_contra hfalse
        exact hwaits ⟨by simpa using hfalse, hexpire⟩
      obtain ⟨reply, hmem, hresult⟩ := hfilled.answered htrue
      exact ⟨reply, hmem, hresult.trans hsame⟩
  · cases hnext

theorem Owned.wake {cv_ret : Int}
    (hnext : s.step request (.wake x cv_ret) = some next) : next.Owned request := by
  simp only [step] at hnext
  split at hnext
  · rename_i slot hx
    simp only [Option.ite_none_right_eq_some, Option.some.injEq] at hnext
    obtain ⟨-, rfl⟩ := hnext
    have hstage := h.stage x
    rw [hx] at hstage
    obtain ⟨hfilled, hexpire⟩ := hstage
    have hmoved : (s.move x (.testing slot ((s.msg_pair slot).awaited cv_ret)) slot (s.msg_pair slot)
        (some x)).Owned request := by
      refine h.moveOn (by rw [hx]; rfl) (fun other hother => (Option.some.inj hother).symm) ?_ (fun _ => rfl) rfl
        (fun _ _ _ => rfl)
      refine ⟨update_self .., ?_⟩
      rw [update_self]
      refine ⟨hfilled, fun stored hstored => ⟨?_, hexpire⟩⟩
      unfold MessagePair.awaited at hstored
      split at hstored
      · cases hstored
      · split at hstored
        · exact CallRet.stored.inj hstored
        · cases hstored
    refine ⟨hmoved.distinct, hmoved.exclusive, hmoved.vacant, hmoved.stage, hmoved.work, hmoved.data, ?_⟩
    intro y len hlen
    simp only at hlen
    split at hlen
    · obtain ⟨hyx, hlen⟩ | ⟨hyx, hlen⟩ := update_eq_cases hlen
      · rw [hyx, ← Option.some.inj hlen]
        exact hfilled.out_data_size
      · exact h.length y len hlen
    · exact h.length y len hlen
  · cases hnext

end

omit [DecidableEq ι] in
theorem Owned.setWork (h : s.Owned request) (k : κ) {work : ReplyWork ι} (hwork : s.WorkHolds request work) :
    (s.setWork k work).Owned request :=
  { h with
    work other := by
      change s.WorkHolds request (update s.works k work other)
      by_cases hother : other = k
      · rw [hother, update_self]
        exact hwork
      · rw [update_of_ne hother]
        exact h.work other }

theorem Owned.recv (h : s.Owned request)
    (hnext : s.step request (.recv k x reply) = some next) : next.Owned request := by
  simp only [step] at hnext
  split at hnext
  · simp only [Option.ite_none_right_eq_some, Option.some.injEq] at hnext
    obtain ⟨hrequested, rfl⟩ := hnext
    exact h.setWork k hrequested
  · cases hnext

theorem Owned.compare (h : s.Owned request)
    (hnext : s.step request (.compare k) = some next) : next.Owned request := by
  simp only [step] at hnext
  split at hnext
  · rename_i x reply i hk
    cases hnext
    have hwork := h.work k
    rw [hk] at hwork
    refine h.setWork k ?_
    unfold compareSlot
    split
    · split
      · rename_i hevent
        obtain ⟨hx, hreply⟩ := hwork
        have hown := hevent.trans hreply
        obtain ⟨y, hy⟩ := h.vacant _ (by rw [hown]; exact (request x).event_id_ne)
        have hsame : y = x := by
          refine h.distinct y x ?_ ?_ ?_
          · intro hidle
            rw [hidle] at hy
            cases hy
          · intro hidle
            rw [hidle] at hx
            cases hx
          · rw [← ((h.stage y).filledFor hy).event_id, hown]
        exact ⟨hsame ▸ hy, hreply⟩
      · exact hwork
    · trivial
  · cases hnext

variable {bytes : List UInt8}

omit [DecidableEq κ] in
theorem store_eq_some {buffers : ι → Option (List UInt8)} {copy : Option (ι × List UInt8)} {y : ι}
    (hbytes : store buffers copy y = some bytes) : copy = some (y, bytes) ∨ buffers y = some bytes := by
  cases copy with
  | none => exact .inr hbytes
  | some pair =>
    by_cases hy : y = pair.1
    · subst hy
      rw [store, update_self] at hbytes
      exact .inl (by rw [← Option.some.inj hbytes])
    · rw [store, update_of_ne hy] at hbytes
      exact .inr hbytes

theorem Owned.write (h : s.Owned request) (hnext : s.step request (.write k) = some next) : next.Owned request := by
  simp only [step] at hnext
  split at hnext
  · rename_i x reply slot hk
    simp only [Option.ite_none_right_eq_some, Option.some.injEq] at hnext
    obtain ⟨hfree, rfl⟩ := hnext
    have hstage := h.stage x
    have hwork := h.work k
    rw [hk] at hwork
    obtain ⟨hfound, -⟩ := hwork
    -- The work finds the call of its reply waiting: it has the slot, and not the mutex.
    have hx : s.calls x = .waiting slot := by
      cases hx : s.calls x with
      | waiting =>
        rw [hx] at hfound
        cases hfound
        rfl
      | sending | testing =>
        rw [hx] at hfound hstage
        cases hfound
        have hlocked := hstage.1
        rw [hfree] at hlocked
        cases hlocked
      | idle | given | returned =>
        rw [hx] at hfound
        cases hfound
    rw [hx] at hstage
    obtain ⟨hfilled, hexpire⟩ := hstage
    have hsub : s.handled ⊆ (x, reply) :: s.handled := List.subset_cons_self ..
    have hidle : (s.setWork k .idle).Owned request := h.setWork k trivial
    refine ⟨h.distinct, h.exclusive, ?_, ?_, hidle.work, ?_, h.length⟩
    · intro other hne
      refine h.vacant other fun hzero => hne ?_
      by_cases hother : other = slot
      · subst hother
        simp only [update_self]
        exact hzero
      · simpa only [update_of_ne hother] using hzero
    · intro y
      by_cases hyx : y = x
      · subst hyx
        change (s.calls y).Holds _ _ _ _ _
        rw [hx]
        simp only [Holds, update_self]
        refine ⟨⟨hfilled.event_id, hfilled.out_data, hfilled.out_data_size, fun _ => ?_⟩, hexpire⟩
        exact ⟨reply, List.mem_cons_self, rfl⟩
      · refine (h.stage y).frame ?_ (fun _ _ => rfl) hsub
        intro other hy
        have hne : other ≠ slot := by
          rintro rfl
          exact hyx (h.exclusive y x other hy (by rw [hx]; rfl))
        exact update_of_ne hne ..
    · intro y bytes hbytes
      rcases store_eq_some hbytes with hcopied | hold
      · -- The copy goes to the buffer of the call that the slot is filled for.
        simp only [MessagePair.copied, Option.ite_none_right_eq_some, Option.map_eq_some_iff, Prod.mk.injEq] at hcopied
        obtain ⟨-, z, hz, rfl, rfl⟩ := hcopied
        rw [hfilled.out_data, Option.ite_none_right_eq_some] at hz
        obtain rfl := Option.some.inj hz.2
        exact ⟨reply, List.mem_cons_self, by rw [hfilled.out_data_size]⟩
      · obtain ⟨earlier, hmem, hdata⟩ := h.data y bytes hold
        exact ⟨earlier, hsub hmem, hdata⟩
  · cases hnext

theorem Owned.step (h : s.Owned request) {event : CallEvent ι κ}
    (hdistinct : s.Distinct request event) (hsettled : s.Settled event) (hnext : s.step request event = some next) :
    next.Owned request := by
  cases event with
  | take => exact h.take hdistinct hnext
  | fill => exact h.fill hnext
  | send => exact h.send hnext
  | test => exact h.test hsettled hnext
  | wake => exact h.wake hnext
  | recv => exact h.recv hnext
  | compare => exact h.compare hnext
  | write => exact h.write hnext

instance [Fintype ι] (s : Calls ι κ) : DecidablePred (s.Distinct request)
  | .take _ _ => inferInstanceAs (Decidable (∀ _, _))
  | .fill .. | .send .. | .test .. | .wake .. | .recv .. | .compare .. | .write .. => .isTrue trivial

instance [Fintype κ] (s : Calls ι κ) : DecidablePred s.Settled
  | .test x => inferInstanceAs (Decidable (∀ slot ∈ (s.calls x).tests, _))
  | .take .. | .fill .. | .send .. | .wake .. | .recv .. | .compare .. | .write .. => .isTrue trivial

end Calls

/-- When calls hold different slots and have different event ids, and none gives up a slot
that a work has matched, every reply is written to the slot of its own call. -/
theorem replies_answer_own_calls {ι κ : Type} [DecidableEq ι] [DecidableEq κ] {request : ι → SendCall}
    {events : List (CallEvent ι κ)}
    (hdistinct : Meets (Calls.step request) (Calls.Distinct request) Calls.init events)
    (hsettled : Meets (Calls.step request) Calls.Settled Calls.init events) :
    Meets (Calls.step request) (Calls.WritesOwn request) Calls.init events ∧
      Throughout (Calls.step request) (Calls.Answered request) Calls.init events := by
  have hmeets := hdistinct.and hsettled
  have hstep : ∀ (s : Calls ι κ) event next, s.Owned request → s.Distinct request event ∧ s.Settled event →
      s.step request event = some next → next.Owned request :=
    fun s event next h hcond hnext => h.step hcond.1 hcond.2 hnext
  constructor
  · exact hmeets.of_invariant (fun s : Calls ι κ => s.Owned request) hstep
      (fun s event h _ => h.writesOwn event) .init
  · exact hmeets.throughout (fun s : Calls ι κ => s.Owned request) hstep (fun s h => h.answered) .init

open scoped Parties

/-- Two calls from module 1 to module 2 with a buffer of two bytes each. The first one's
timeout makes its deadline 0 when the clock is at 1000. -/
def twoCalls (x : Fin 2) : SendCall :=
  .send_sync (.toSecond (x.val.toUInt16 + 1)) true true 2 (if x = 0 then 0 - 1000 else 100)

def replyTo (x : Fin 2) : Reply := ⟨(twoCalls x).event_id, 0, 2, fun _ => x.val.toUInt8⟩

def answeredCalls : List (CallEvent (Fin 2) Unit) :=
  [.take 0 0, .fill 0 5, .send 0 0 5, .test 0, .take 1 1, .fill 1 5, .send 1 0 5, .test 1,
    .recv () 1 (replyTo 1), .compare (), .compare (), .write (), .wake 1 0, .test 1,
    .recv () 0 (replyTo 0), .compare (), .write (), .wake 0 0, .test 0]

theorem two_calls_answered :
    (∃ s, run (Calls.step twoCalls) Calls.init answeredCalls = some s ∧ s.calls 0 = .returned (.stored 0) ∧
      s.calls 1 = .returned (.stored 0) ∧ s.buffers 0 = some [0, 0] ∧ s.buffers 1 = some [1, 1]) ∧
    Throughout (Calls.step twoCalls) (Calls.Answered twoCalls) Calls.init answeredCalls :=
  ⟨⟨_, rfl, rfl, rfl, rfl, rfl⟩, (replies_answer_own_calls (by decide) (by decide)).2⟩

/-- A work matches the slot of call 0 while this call is about to return, and locks it
when call 1 waits there. -/
def strayReply : List (CallEvent (Fin 2) Unit) :=
  [.take 0 0, .fill 0 1000, .send 0 0 1000, .recv () 0 (replyTo 0), .compare (), .test 0,
    .take 1 0, .fill 1 1000, .send 1 0 1000, .test 1, .write (), .wake 1 0, .test 1]

/-- Call 1 returns 0 with the data of the reply to call 0, the only reply there was. -/
theorem reply_goes_to_next_call :
    Meets (Calls.step twoCalls) (Calls.Distinct twoCalls) Calls.init strayReply ∧
      ∃ s, run (Calls.step twoCalls) Calls.init strayReply = some s ∧ s.calls 0 = .returned (.sendmsg 0) ∧
        s.calls 1 = .returned (.stored 0) ∧ s.buffers 0 = none ∧ s.buffers 1 = some [0, 0] ∧
        s.handled = [(0, replyTo 0)] ∧ ¬s.Answered twoCalls := by
  have hrun : ∃ s, run (Calls.step twoCalls) Calls.init strayReply = some s ∧ s.calls 0 = .returned (.sendmsg 0) ∧
      s.calls 1 = .returned (.stored 0) ∧ s.buffers 0 = none ∧ s.buffers 1 = some [0, 0] ∧
      s.handled = [(0, replyTo 0)] := ⟨_, rfl, rfl, rfl, rfl, rfl, rfl⟩
  obtain ⟨s, hs, hfirst, hsecond, hnone, hdata, hhandled⟩ := hrun
  refine ⟨by decide, s, hs, hfirst, hsecond, hnone, hdata, hhandled, fun hanswered => ?_⟩
  obtain ⟨reply, hmem, -⟩ := hanswered.result 1 0 hsecond
  simp [hhandled] at hmem

end hub.nng_long
