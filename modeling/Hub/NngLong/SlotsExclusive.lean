import Hub.Lib.Ownership
import Hub.Lib.Run
import Hub.NngLong.Slots
import Mathlib.Data.Fintype.Basic

namespace hub.nng_long

open Function SendStage

/-- How the flags, the mutex and the calls fit together: a slot is marked exactly while
a call holds it, up to the time between the return of a slot and its marking, and no
two calls hold one slot. -/
structure Guarded {ι : Type} (is_used : Slot → Bool) (mutex : Option ι) (calls : ι → SendStage) : Prop where
  used_of_marked : ∀ x slot, calls x = .marked slot → is_used slot = true
  used_of_given : ∀ x, calls x = .given 0 → is_used 0 = true
  held_of_used : ∀ slot, is_used slot = true → ∃ x, (calls x).holds = some slot
  exclusive : ∀ x y slot, (calls x).holds = some slot → (calls y).holds = some slot → x = y
  free_of_taking : ∀ x slot, calls x = .taking slot → ∀ y, (calls y).holds ≠ some slot
  locked : ∀ x, (calls x).Searches → mutex = some x

namespace Guarded

variable {ι : Type} {is_used : Slot → Bool} {mutex : Option ι} {calls : ι → SendStage}

theorem init : Guarded (fun _ => false) none (fun _ : ι => .idle) where
  used_of_marked x slot h := by cases h
  used_of_given x h := by cases h
  held_of_used slot h := by cases h
  exclusive x y slot h := by cases h
  free_of_taking x slot h := by cases h
  locked x h := h.elim

theorem not_searches (h : Guarded is_used mutex calls) {x y : ι} (hx : (calls x).Searches) (hne : y ≠ x) :
    ¬(calls y).Searches := by
  intro hy
  have hmutex := h.locked x hx
  rw [h.locked y hy] at hmutex
  exact hne (Option.some.inj hmutex)

variable [DecidableEq ι]

variable {slot : Slot} {x : ι} {stage : SendStage}

section

variable (h : Guarded is_used mutex calls)

include h

theorem setCall {next : Option ι} (hold : (calls x).holds = none)
    (hnew : stage.holds = none) (htaking : ∀ slot, stage = .taking slot → ∀ y, (calls y).holds ≠ some slot)
    (hself : stage.Searches → next = some x) (hothers : ∀ y, y ≠ x → (calls y).Searches → next = some y) :
    Guarded is_used next (update calls x stage) := by
  have hholds : ∀ y, (update calls x stage y).holds = (calls y).holds :=
    (forall_update_iff calls fun y stage => stage.holds = (calls y).holds).mpr ⟨hnew.trans hold.symm, fun _ _ => rfl⟩
  constructor
  · intro y slot hmarked
    obtain ⟨hy, hmarked⟩ | ⟨hy, hmarked⟩ := update_eq_cases hmarked
    · simp [hmarked, holds] at hnew
    · exact h.used_of_marked y slot hmarked
  · intro y hgiven
    obtain ⟨hy, hgiven⟩ | ⟨hy, hgiven⟩ := update_eq_cases hgiven
    · simp [hgiven, holds] at hnew
    · exact h.used_of_given y hgiven
  · intro slot hused
    obtain ⟨y, hy⟩ := h.held_of_used slot hused
    exact ⟨y, (hholds y).trans hy⟩
  · intro y z slot hy hz
    rw [hholds] at hy hz
    exact h.exclusive y z slot hy hz
  · intro y slot htakes z
    rw [hholds]
    obtain ⟨hy, htakes⟩ | ⟨hy, htakes⟩ := update_eq_cases htakes
    · exact htaking slot htakes z
    · exact h.free_of_taking y slot htakes z
  · intro y hsearches
    obtain ⟨hy, hsearches⟩ | ⟨hy, hsearches⟩ := update_cases Searches hsearches
    · rw [hy]
      exact hself hsearches
    · exact hothers y hy hsearches

theorem take (hx : calls x = .taking slot)
    (hfirst : slot ≠ 0 → ∃ y, (calls y).holds = some 0) :
    Guarded (update is_used 0 true) none (update calls x (.given slot)) := by
  have hsearches : (calls x).Searches := by
    rw [hx]
    trivial
  have hx_none : (calls x).holds = none := by rw [hx]; rfl
  have hkept : ∀ y slot', (calls y).holds = some slot' →
      (update calls x (.given slot) y).holds = some slot' := by
    intro y slot' hy
    have hne : y ≠ x := by
      rintro rfl
      rw [hx_none] at hy
      cases hy
    rwa [update_of_ne hne]
  constructor
  · intro y slot' hmarked
    obtain ⟨-, hmarked⟩ := eq_of_update (by simp) hmarked
    exact update_eq_of_eq (h.used_of_marked y slot' hmarked)
  · intro y _
    exact update_self ..
  · intro slot' hslot
    by_cases hzero : slot' = 0
    · subst hzero
      by_cases htaken : slot = 0
      · exact ⟨x, by rw [update_self, htaken]; rfl⟩
      · obtain ⟨y, hy⟩ := hfirst htaken
        exact ⟨y, hkept y 0 hy⟩
    · rw [update_of_ne hzero] at hslot
      obtain ⟨y, hy⟩ := h.held_of_used slot' hslot
      exact ⟨y, hkept y slot' hy⟩
  · apply unique_of_update (fun _ (stage : SendStage) slot => stage.holds = some slot) h.exclusive
    intro y slot' _ hnew
    cases hnew
    exact h.free_of_taking x slot hx y
  · intro y slot' htaking
    obtain ⟨hyx, htaking⟩ := eq_of_update (by simp) htaking
    refine absurd ?_ (h.not_searches hsearches hyx)
    rw [htaking]
    trivial
  · intro y hy
    obtain ⟨hyx, hy⟩ := of_update Searches id hy
    exact absurd hy (h.not_searches hsearches hyx)

theorem mark (hx : calls x = .given slot) :
    Guarded (update is_used slot true) mutex (update calls x (.marked slot)) := by
  have hx_holds : (calls x).holds = some slot := by rw [hx]; rfl
  have hholds : ∀ y, (update calls x (.marked slot) y).holds = (calls y).holds :=
    (forall_update_iff calls fun y stage => stage.holds = (calls y).holds).mpr ⟨hx_holds.symm, fun _ _ => rfl⟩
  constructor
  · intro y slot' hmarked
    obtain ⟨hy, hmarked⟩ | ⟨hy, hmarked⟩ := update_eq_cases hmarked
    · cases hmarked
      exact update_self ..
    · exact update_eq_of_eq (h.used_of_marked y slot' hmarked)
  · intro y hgiven
    obtain ⟨-, hgiven⟩ := eq_of_update (by simp) hgiven
    exact update_eq_of_eq (h.used_of_given y hgiven)
  · intro slot' hslot
    by_cases hslot' : slot' = slot
    · exact ⟨x, by rw [hholds, hx_holds, hslot']⟩
    · rw [update_of_ne hslot'] at hslot
      obtain ⟨y, hy⟩ := h.held_of_used slot' hslot
      exact ⟨y, (hholds y).trans hy⟩
  · intro y z slot' hy hz
    rw [hholds] at hy hz
    exact h.exclusive y z slot' hy hz
  · intro y slot' htaking z
    obtain ⟨-, htaking⟩ := eq_of_update (by simp) htaking
    rw [hholds]
    exact h.free_of_taking y slot' htaking z
  · intro y hy
    exact h.locked y (of_update Searches id hy).2

theorem release (hx : calls x = .marked slot) (hnew : stage.holds = none) (hquiet : ¬stage.Searches) :
    Guarded (update is_used slot false) mutex (update calls x stage) := by
  have hx_holds : (calls x).holds = some slot := by rw [hx]; rfl
  have hcases : ∀ y slot', (update calls x stage y).holds = some slot' →
      y ≠ x ∧ (calls y).holds = some slot' := by
    intro y slot' hy
    exact of_update (holds · = some slot') (by simp [hnew]) hy
  -- no other call holds the slot, so only its own flag goes down
  have hused : ∀ y slot', y ≠ x → (calls y).holds = some slot' → is_used slot' = true →
      update is_used slot false slot' = true := by
    intro y slot' hyx hy hslot
    have hne : slot' ≠ slot := by
      rintro rfl
      exact hyx (h.exclusive y x slot' hy hx_holds)
    rwa [update_of_ne hne]
  constructor
  · intro y slot' hmarked
    obtain ⟨hyx, hy⟩ := hcases y slot' (by rw [hmarked]; rfl)
    rw [update_of_ne hyx] at hmarked
    exact hused y slot' hyx hy (h.used_of_marked y slot' hmarked)
  · intro y hgiven
    obtain ⟨hyx, hy⟩ := hcases y 0 (by rw [hgiven]; rfl)
    rw [update_of_ne hyx] at hgiven
    exact hused y 0 hyx hy (h.used_of_given y hgiven)
  · intro slot' hslot
    obtain ⟨hne, hslot⟩ := eq_of_update (by simp) hslot
    obtain ⟨y, hy⟩ := h.held_of_used slot' hslot
    have hyx : y ≠ x := by
      rintro rfl
      rw [hx_holds] at hy
      exact hne (Option.some.inj hy).symm
    exact ⟨y, by rwa [update_of_ne hyx]⟩
  · intro y z slot' hy hz
    exact h.exclusive y z slot' (hcases y slot' hy).2 (hcases z slot' hz).2
  · intro y slot' htaking z hz
    obtain ⟨-, htaking⟩ := eq_of_update (fun heq => hquiet (by rw [heq]; trivial)) htaking
    exact h.free_of_taking y slot' htaking z (hcases z slot' hz).2
  · intro y hy
    exact h.locked y (of_update Searches hquiet hy).2

end

end Guarded

namespace Slots

variable {ι κ : Type} [DecidableEq ι]

/-- A search does not look at a slot that was given away and is not marked yet. A call
that takes another slot than the first takes it while somebody holds the first. A
reply or a timer clears a slot only while its own request holds it. -/
def Orderly (s : Slots ι κ) : SlotEvent ι κ → Prop
  | .read x => ∀ slot ∈ (s.calls x).looksAt, ∀ y, s.calls y ≠ .given slot ∨ s.is_used slot = true
  | .take x => ∀ slot ∈ (s.calls x).finds, slot ≠ 0 → ∃ y, s.Holds y 0
  | .clear k => ∀ x slot, s.handlers k = .matched x slot → s.calls x = .marked slot
  | .expire x => ∀ slot, s.timers x = .expiring slot → s.calls x = .marked slot
  | _ => True

instance [Fintype ι] (s : Slots ι κ) : DecidablePred s.Orderly
  | .read x => inferInstanceAs (Decidable (∀ slot ∈ (s.calls x).looksAt, _))
  | .take x =>
    inferInstanceAs (Decidable (∀ slot ∈ (s.calls x).finds, slot ≠ 0 → ∃ y, (s.calls y).holds = some 0))
  | .clear _ => inferInstanceAs (Decidable (∀ _ _, _))
  | .expire _ => inferInstanceAs (Decidable (∀ _, _))
  | .lock _ | .mark _ | .arm _ | .release _ | .leave _ | .reply _ _ _ | .forget _ | .cancel _ | .tick | .elapse _
  | .fire _ | .retire _ => .isTrue trivial

variable {request : ι → Request} {event : SlotEvent ι κ} {s next : Slots ι κ} {x : ι} {slot : Slot} {i : Nat}

theorem endRequest_setUsed {s : Slots ι κ} (hx : s.calls x = .marked slot) (used : Bool) :
    (s.setUsed slot used).endRequest x slot = (s.setUsed slot used).setCall x .done := if_pos hx

theorem Guarded.search {s : Slots ι κ} (h : Guarded s.is_used s.mtx_msg_pair s.calls) (hx : s.calls x = .searching i)
    {stage : SendStage} {mutex : Option ι} (hstage : stage.holds = none)
    (hfree : ∀ slot, stage = .taking slot → ∀ y, (s.calls y).holds ≠ some slot)
    (hmutex : stage.Searches → mutex = s.mtx_msg_pair) :
    Guarded s.is_used mutex (update s.calls x stage) := by
  have hsearches : (s.calls x).Searches := by
    rw [hx]
    trivial
  refine h.setCall (by rw [hx]; rfl) hstage hfree (fun hstage => ?_) fun y hyx hy => ?_
  · rw [hmutex hstage]
    exact h.locked x hsearches
  · exact absurd hy (h.not_searches hsearches hyx)

omit [DecidableEq ι] in
theorem Guarded.free_of_idle {s : Slots ι κ} (h : Guarded s.is_used s.mtx_msg_pair s.calls)
    (horderly : s.Orderly (.read x)) (hx : s.calls x = .searching i) (hi : i < 8)
    (hidle : ¬s.is_used ⟨i, hi⟩ = true) (y : ι) : (s.calls y).holds ≠ some ⟨i, hi⟩ := by
  intro hy
  cases hstage : s.calls y with
  | marked slot =>
    rw [hstage] at hy
    cases hy
    exact hidle (h.used_of_marked y _ hstage)
  | given slot =>
    rw [hstage] at hy
    cases hy
    rcases horderly ⟨i, hi⟩ (by simp [hx, looksAt, hi]) y with hungiven | hused
    · exact hungiven hstage
    · exact hidle hused
  | _ =>
    rw [hstage] at hy
    cases hy

variable [DecidableEq κ]

theorem Guarded.step (h : Guarded s.is_used s.mtx_msg_pair s.calls) (horderly : s.Orderly event)
    (hnext : s.step request event = some next) : Guarded next.is_used next.mtx_msg_pair next.calls := by
  cases turn_of_step hnext with
  | lock hx hmutex =>
    refine h.setCall (by rw [hx]; rfl) rfl (by simp) (fun _ => rfl) fun y _ hy => ?_
    have hlocked := h.locked y hy
    rw [hmutex] at hlocked
    cases hlocked
  | pass hx => exact Guarded.search h hx rfl (by simp) fun _ => rfl
  | find hx hi hidle =>
    refine Guarded.search h hx rfl ?_ fun _ => rfl
    intro slot htaking
    cases htaking
    exact Guarded.free_of_idle h horderly hx hi hidle
  | refuse hx => exact Guarded.search h hx rfl (by simp) fun hsearch => hsearch.elim
  | @take x slot hx => exact h.take hx (horderly slot (by simp [hx, finds]))
  | mark hx => exact h.mark hx
  | release hx => exact h.release hx rfl id
  | leave hx =>
    exact h.setCall (by rw [hx]; rfl) rfl (by simp) (fun hsearch => hsearch.elim) fun y _ hy => h.locked y hy
  | @clear k x slot hk =>
    have hx := horderly x slot hk
    rw [endRequest_setUsed hx]
    exact h.release hx rfl id
  | @expire x slot ht =>
    have hx := horderly slot ht
    rw [endRequest_setUsed hx]
    exact h.release hx rfl id
  | _ => exact h

inductive Moves (is_used : Slot → Bool) : SendStage → SendStage → Prop where
  | lock : Moves is_used .idle (.searching 0)
  | pass (slot : Slot) : is_used slot = true → Moves is_used (.searching slot) (.searching (slot + 1))
  | find (i : Nat) (slot : Slot) : Moves is_used (.searching i) (.taking slot)
  | refuse (i : Nat) : 8 ≤ i → Moves is_used (.searching i) .refused
  | take (slot : Slot) : Moves is_used (.taking slot) (.given slot)
  | mark (slot : Slot) : Moves is_used (.given slot) (.marked slot)
  | release (slot : Slot) : Moves is_used (.marked slot) (.leaving slot)
  | finish (slot : Slot) : Moves is_used (.marked slot) .done
  | leave (slot : Slot) : Moves is_used (.leaving slot) .done

omit [DecidableEq κ] in
theorem calls_setCall {s : Slots ι κ} {stage : SendStage} {is_used : Slot → Bool}
    (hmoves : Moves is_used (s.calls x) stage) (y : ι) :
    (s.setCall x stage).calls y = s.calls y ∨ Moves is_used (s.calls y) ((s.setCall x stage).calls y) := by
  by_cases hy : y = x
  · subst hy
    refine .inr ?_
    simp only [setCall, update_self]
    exact hmoves
  · exact .inl (update_of_ne hy _ _)

theorem calls_step (hnext : s.step request event = some next) (y : ι) :
    next.calls y = s.calls y ∨ Moves s.is_used (s.calls y) (next.calls y) := by
  cases turn_of_step hnext with
  | lock hx => exact calls_setCall (hx ▸ .lock) y
  | @pass x i hx hi hused => exact calls_setCall (hx ▸ .pass ⟨i, hi⟩ hused) y
  | @find x i hx hi => exact calls_setCall (hx ▸ .find i ⟨i, hi⟩) y
  | @refuse x i hx hi => exact calls_setCall (hx ▸ .refuse i (Nat.le_of_not_lt hi)) y
  | @take x slot hx => exact calls_setCall (hx ▸ .take slot) y
  | @mark x slot hx => exact calls_setCall (hx ▸ .mark slot) y
  | @release x slot hx => exact calls_setCall (hx ▸ .release slot) y
  | @leave x slot hx => exact calls_setCall (hx ▸ .leave slot) y
  | @clear k x slot | @expire x slot =>
    unfold endRequest
    split
    · rename_i hx
      exact calls_setCall (hx ▸ .finish slot) y
    · exact .inl rfl
  | _ => exact .inl rfl

theorem holds_of_step (hnext : s.step request event = some next) {y : ι} (hy : next.Holds y slot) :
    s.Holds y slot ∨ s.calls y = .taking slot := by
  unfold Holds at hy ⊢
  rcases calls_step hnext y with hsame | hmoves
  · rw [hsame] at hy
    exact .inl hy
  · generalize hold : s.calls y = old at hmoves
    generalize hnew : next.calls y = new at hmoves hy
    cases hmoves with
    | take slot' =>
      cases hy
      exact .inr rfl
    | mark slot' => exact .inl hy
    | _ => cases hy

/-- What a search by `x` has seen since it took the mutex in state `start`: it has passed
only slots that were held then, and nobody has taken a slot since. -/
def Surveys (start : Slots ι κ) (x : ι) (s : Slots ι κ) : Prop :=
  (∀ i, s.calls x = .searching i → (∀ y slot, s.Holds y slot → ∃ z, start.Holds z slot) ∧
    ∀ slot : Slot, slot.val < i → ∃ z, start.Holds z slot) ∧
  (s.calls x = .refused → ∀ slot, ∃ z, start.Holds z slot) ∧ s.calls x ≠ .idle

theorem Surveys.lock {start locked : Slots ι κ} (hguarded : Guarded start.is_used start.mtx_msg_pair start.calls)
    (hlock : start.step request (.lock x) = some locked) : Surveys start x locked := by
  have hkept : ∀ y slot, locked.Holds y slot → ∃ z, start.Holds z slot := by
    intro y slot hy
    rcases holds_of_step hlock hy with hold | htaking
    · exact ⟨y, hold⟩
    · -- the mutex was free, so nobody was searching
      have hmutex := hguarded.locked y (by rw [htaking]; trivial)
      simp [step, hmutex] at hlock
  simp only [step, Option.ite_none_right_eq_some, Option.some.injEq] at hlock
  obtain ⟨-, rfl⟩ := hlock
  refine ⟨fun i hi => ⟨hkept, fun slot hslot => ?_⟩, fun hrefused => ?_, ?_⟩
  · simp only [setCall, update_self] at hi
    cases hi
    exact absurd hslot (Nat.not_lt_zero _)
  · simp [setCall] at hrefused
  · simp [setCall]

theorem Surveys.step {start s next : Slots ι κ}
    (h : Surveys start x s) (hguarded : Guarded s.is_used s.mtx_msg_pair s.calls)
    (hnext : s.step request event = some next) : Surveys start x next := by
  obtain ⟨hsearching, hrefused, hidle⟩ := h
  -- while x searches, nobody takes a slot
  have hkept : ∀ i, s.calls x = .searching i → ∀ y slot, next.Holds y slot → ∃ z, start.Holds z slot := by
    intro i hx y slot hy
    rcases holds_of_step hnext hy with hold | htaking
    · exact (hsearching i hx).1 y slot hold
    · have hyx : y ≠ x := by
        rintro rfl
        rw [hx] at htaking
        cases htaking
      refine absurd ?_ (hguarded.not_searches (by rw [hx]; trivial : (s.calls x).Searches) hyx)
      rw [htaking]
      trivial
  rcases calls_step hnext x with hsame | hmoves
  · refine ⟨fun i hi => ?_, fun hx => ?_, ?_⟩
    · rw [hsame] at hi
      exact ⟨hkept i hi, (hsearching i hi).2⟩
    · rw [hsame] at hx
      exact hrefused hx
    · rw [hsame]
      exact hidle
  · unfold Surveys
    generalize hold : s.calls x = old at hmoves
    generalize next.calls x = new at hmoves ⊢
    cases hmoves with
    | lock => exact absurd hold hidle
    | pass slot hused =>
      refine ⟨fun i hi => ⟨hkept _ hold, fun passed hpassed => ?_⟩, fun hx => ?_, by simp⟩
      · cases hi
        by_cases hlast : passed = slot
        · subst hlast
          obtain ⟨y, hy⟩ := hguarded.held_of_used passed hused
          exact (hsearching _ hold).1 y passed hy
        · have hne : passed.val ≠ slot.val := fun heq => hlast (Fin.ext heq)
          exact (hsearching _ hold).2 passed (by omega)
      · cases hx
    | refuse i hi =>
      refine ⟨fun j hj => ?_, fun _ slot => ?_, by simp⟩
      · cases hj
      · exact (hsearching i hold).2 slot (by omega)
    | _ => exact ⟨by simp, by simp, by simp⟩

end Slots

def Slots.ExclusivelyHeld {ι κ : Type} (s : Slots ι κ) : Prop :=
  ∀ x y slot, s.Holds x slot → s.Holds y slot → x = y

/-- In an orderly run no slot is returned while another call holds it, and a search
that returns `NULL` took the mutex when all slots were held. -/
theorem slots_exclusive_of_orderly {ι κ : Type} [DecidableEq ι] [DecidableEq κ] {request : ι → Request}
    {labels : List (SlotEvent ι κ)} (hmeets : Meets (Slots.step request) Slots.Orderly Slots.init labels) :
    Throughout (Slots.step request) Slots.ExclusivelyHeld Slots.init labels ∧
    ∀ before x after start last, labels = before ++ .lock x :: after →
      run (Slots.step request) Slots.init before = some start →
      run (Slots.step request) Slots.init labels = some last →
      last.calls x = .refused → ∀ slot, ∃ y, start.Holds y slot := by
  have hstep : ∀ (s : Slots ι κ) event next, Guarded s.is_used s.mtx_msg_pair s.calls → s.Orderly event →
      s.step request event = some next → Guarded next.is_used next.mtx_msg_pair next.calls :=
    fun s event next h horderly hnext => Slots.Guarded.step h horderly hnext
  refine ⟨?_, ?_⟩
  · exact hmeets.throughout (fun s => Guarded s.is_used s.mtx_msg_pair s.calls) hstep
      (fun s h x y slot hx hy => h.exclusive x y slot hx hy) .init
  · rintro before x after start last rfl hbefore hrun hrefused
    obtain ⟨middle, hmiddle, hafter⟩ := run_append_eq_some.mp hrun
    cases hbefore.symm.trans hmiddle
    have hguarded := run_invariant_of_meets (fun s : Slots ι κ => Guarded s.is_used s.mtx_msg_pair s.calls) hstep
      .init hmeets.append_left hbefore
    have hrest := hmeets.append_right hbefore
    obtain ⟨locked, hlock, hsearch⟩ := run_cons_eq_some.mp hafter
    have hlocked := hstep start (.lock x) locked hguarded trivial hlock
    have hlast := run_invariant_of_meets
      (fun s : Slots ι κ => Guarded s.is_used s.mtx_msg_pair s.calls ∧ Slots.Surveys start x s)
      (fun s event next h horderly hnext => ⟨hstep s event next h.1 horderly hnext, h.2.step h.1 hnext⟩)
      ⟨hlocked, .lock hguarded hlock⟩ (hrest.2 locked hlock) hsearch
    exact hlast.2.2.1 hrefused

open scoped Parties

/-- Call 0 waits for its answer in the first slot while request 1 is sent and answered
in the second. -/
def orderlyCalls : List (SlotEvent (Fin 2) Unit) :=
  [.lock 0, .read 0, .take 0, .mark 0, .lock 1, .read 1, .read 1, .take 1, .mark 1, .arm 1,
    .reply () 1 1, .clear (), .forget (), .cancel (), .fire 1, .release 0, .leave 0]

def orderlyRequests (x : Fin 2) : Request := ⟨x.val.toUInt64 + 1, x = 1, 1000⟩

theorem slots_exclusive_of_two :
    (run (Slots.step orderlyRequests) Slots.init orderlyCalls).isSome ∧
      Throughout (Slots.step orderlyRequests) Slots.ExclusivelyHeld Slots.init orderlyCalls :=
  ⟨by decide, (slots_exclusive_of_orderly (by decide)).1⟩

def grab (x : Fin 9) (n : Nat) : List (SlotEvent (Fin 9) Unit) :=
  .lock x :: List.replicate (n + 1) (.read x) ++ [.take x, .mark x]

/-- Call 1 is given the second slot, and call 2 looks for one before call 1 marks it. -/
def doubleGrab : List (SlotEvent (Fin 9) Unit) :=
  grab 0 0 ++ [.lock 1, .read 1, .read 1, .take 1, .lock 2, .read 2, .read 2, .take 2]

/-- Call 1 finds the first slot in use and takes the second, but call 0 has released
the first one in between. Six more calls take the other slots. -/
def leakingGrabs : List (SlotEvent (Fin 9) Unit) :=
  grab 0 0 ++ [.lock 1, .read 1, .release 0, .leave 0, .read 1, .take 1, .mark 1] ++
    grab 2 2 ++ grab 3 3 ++ grab 4 4 ++ grab 5 5 ++ grab 6 6 ++ grab 7 7

/-- The second slot is returned to two calls, and `NULL` is returned although nobody
holds the first slot. -/
theorem slots_shared_and_leaked :
    (∃ s, run (Slots.step fun _ => ⟨0, false, 1000⟩) Slots.init doubleGrab = some s ∧ s.Holds 1 1 ∧ s.Holds 2 1) ∧
    ∃ start last, run (Slots.step fun _ => ⟨0, false, 1000⟩) Slots.init leakingGrabs = some start ∧
      run (Slots.step fun _ => ⟨0, false, 1000⟩) Slots.init
        (leakingGrabs ++ .lock 8 :: List.replicate 9 (.read 8)) = some last ∧
      (∀ y, ¬start.Holds y 0) ∧ last.calls 8 = .refused := by
  have hdouble : (run (Slots.step fun _ => ⟨0, false, 1000⟩) Slots.init doubleGrab).map
      (fun s => (s.calls 1, s.calls 2)) = some (.given 1, .given 1) := by decide
  have hstart : (run (Slots.step fun _ => ⟨0, false, 1000⟩) Slots.init leakingGrabs).map
      (fun s => decide (∀ y, (s.calls y).holds ≠ some 0)) = some true := by decide
  have hlast : (run (Slots.step fun _ => ⟨0, false, 1000⟩) Slots.init
      (leakingGrabs ++ .lock 8 :: List.replicate 9 (.read 8))).map (fun s => s.calls 8) = some .refused := by decide
  obtain ⟨s, hs, hstages⟩ := Option.map_eq_some_iff.mp hdouble
  obtain ⟨start, hstart, hfree⟩ := Option.map_eq_some_iff.mp hstart
  obtain ⟨last, hlast, hrefused⟩ := Option.map_eq_some_iff.mp hlast
  obtain ⟨hfirst, hsecond⟩ := Prod.mk.inj hstages
  have hnobody : ∀ y, (start.calls y).holds ≠ some 0 := of_decide_eq_true hfree
  refine ⟨⟨s, hs, ?_, ?_⟩, start, last, hstart, hlast, hnobody, hrefused⟩
  · rw [Slots.Holds, hfirst]
    rfl
  · rw [Slots.Holds, hsecond]
    rfl

end hub.nng_long
