import Hub.Lib.Inevitable
import Hub.NngLong.AsyncTended

namespace hub.nng_long

open Function SendStage

/-- What is recorded of a run: a reply has found the slot of its request, the
`async_handler` was called for it and the slot released, or the timer has released the slot.
-/
inductive AsyncRecord (ι : Type) where
  | arrived (x : ι)
  | handled (x : ι)
  | expired (x : ι)
deriving DecidableEq

/-- The releases of each request so far, and the replies that were handled. -/
structure Tally {ι κ : Type} [DecidableEq ι] (calls : ι → SendStage) (handlers : κ → ReplyStage ι)
    (log : List (AsyncRecord ι)) : Prop where
  released : ∀ x, log.count (.handled x) + log.count (.expired x) = if calls x = .done then 1 else 0
  answered : ∀ x, .arrived x ∈ log → (∃ k slot, handlers k = .matched x slot) ∨ log.count (.handled x) = 1

namespace Tally

variable {ι κ : Type} [DecidableEq ι] {calls calls' : ι → SendStage} {handlers handlers' : κ → ReplyStage ι}
  {log : List (AsyncRecord ι)}

theorem frame (h : Tally calls handlers log) (hdone : ∀ x, calls' x = .done ↔ calls x = .done)
    (hmatched : ∀ k x slot, handlers k = .matched x slot → handlers' k = .matched x slot) :
    Tally calls' handlers' log where
  released x := by simpa only [hdone] using h.released x
  answered x hx := by
    rcases h.answered x hx with ⟨k, slot, hk⟩ | hcount
    · exact .inl ⟨k, slot, hmatched k x slot hk⟩
    · exact .inr hcount

variable {stage : ReplyStage ι} {x : ι} {k : κ}

theorem setCall (h : Tally calls handlers log) {stage : SendStage} (hold : calls x ≠ .done)
    (hnew : stage ≠ .done) : Tally (update calls x stage) handlers log :=
  h.frame (fun _ => update_eq_iff hnew hold) fun _ _ _ hk => hk

theorem expire (h : Tally calls handlers log) (hx : calls x ≠ .done) :
    Tally (update calls x .done) handlers (.expired x :: log) where
  released y := by
    have hold := h.released y
    by_cases hyx : y = x
    · subst hyx
      rw [if_neg hx] at hold
      rw [update_self, if_pos rfl, List.count_cons_of_ne (by simp), List.count_cons_self]
      omega
    · rw [update_of_ne hyx, List.count_cons_of_ne (by simp), List.count_cons_of_ne (by simp [Ne.symm hyx])]
      exact hold
  answered y hy := by
    rw [List.count_cons_of_ne (by simp)]
    exact h.answered y (by simpa using hy)

variable [DecidableEq κ]

section

variable (h : Tally calls handlers log)

include h

theorem setHandler (hk : ∀ x slot, handlers k ≠ .matched x slot) : Tally calls (update handlers k stage) log := by
  refine h.frame (fun _ => Iff.rfl) fun l x slot hl => ?_
  rw [update_of_ne]
  · exact hl
  · rintro rfl
    exact hk x slot hl

theorem clear {slot : Slot}
    (hk : handlers k = .matched x slot) (hx : calls x ≠ .done) :
    Tally (update calls x .done) (update handlers k stage) (.handled x :: log) where
  released y := by
    have hold := h.released y
    by_cases hyx : y = x
    · subst hyx
      rw [if_neg hx] at hold
      rw [update_self, if_pos rfl, List.count_cons_self, List.count_cons_of_ne (by simp)]
      omega
    · rw [update_of_ne hyx, List.count_cons_of_ne (by simp [Ne.symm hyx]), List.count_cons_of_ne (by simp)]
      exact hold
  answered y hy := by
    by_cases hyx : y = x
    · subst hyx
      have hold := h.released y
      rw [if_neg hx] at hold
      refine .inr ?_
      rw [List.count_cons_self]
      omega
    · rw [List.count_cons_of_ne (by simp [Ne.symm hyx])]
      rcases h.answered y (by simpa using hy) with ⟨l, other, hl⟩ | hcount
      · refine .inl ⟨l, other, ?_⟩
        rw [update_of_ne]
        · exact hl
        · rintro rfl
          rw [hk] at hl
          cases hl
          exact hyx rfl
      · exact .inr hcount

theorem reply (x : ι) (slot : Slot) (hk : handlers k = .idle) :
    Tally calls (update handlers k (.matched x slot)) (.arrived x :: log) where
  released y := by
    rw [List.count_cons_of_ne (by simp), List.count_cons_of_ne (by simp)]
    exact h.released y
  answered y hy := by
    rw [List.count_cons_of_ne (by simp)]
    by_cases hyx : y = x
    · rw [hyx]
      exact .inl ⟨k, slot, update_self ..⟩
    · rcases h.answered y (by simpa [hyx] using hy) with ⟨l, other, hl⟩ | hcount
      · refine .inl ⟨l, other, ?_⟩
        rw [update_of_ne]
        · exact hl
        · rintro rfl
          rw [hk] at hl
          cases hl
      · exact .inr hcount

end

end Tally

/-- A request of `ipc_nng_long_send_async` with a timeout that an `nng_duration` can hold. -/
structure Request.IsAsync (request : Request) : Prop where
  async : request.async = true
  event_id_ne : request.event_id ≠ 0
  timeout_lt : request.timeout.toNat < 2 ^ 31

theorem sleepOver_iff {timeout : UInt64} {elapsed : Nat} (htimeout : timeout.toNat < 2 ^ 31) :
    SleepOver timeout elapsed ↔ timeout.toNat ≤ elapsed := by
  have hduration := toInt_toInt32 timeout
  have hsmall : timeout.toNat % 2 ^ 32 = timeout.toNat := Nat.mod_eq_of_lt (by omega)
  rw [hsmall, if_pos htimeout] at hduration
  have hinfinite : timeout.toUInt32.toInt32 ≠ NNG_DURATION_INFINITE := by
    intro heq
    rw [heq] at hduration
    change (-1 : Int) = _ at hduration
    omega
  rw [SleepOver, hduration, Int.ofNat_le]
  exact and_iff_right hinfinite

/-- No sleep ends before the timeout of its request. -/
structure Timed {ι : Type} (request : ι → Request) (timers : ι → SendTimer) (sent : ι → Nat) (clock : Nat)
    (log : List (AsyncRecord ι)) : Prop where
  past : ∀ x, sent x ≤ clock
  slept : ∀ x, (∃ slot, timers x = .elapsed slot ∨ timers x = .expiring slot) ∨ .expired x ∈ log →
    sent x + (request x).timeout.toNat ≤ clock

namespace Timed

variable {ι : Type} {request : ι → Request} {timers : ι → SendTimer} {sent : ι → Nat} {clock : Nat}
  {log : List (AsyncRecord ι)} {x : ι} {slot : Slot}

section

variable (h : Timed request timers sent clock log)

include h

theorem tick : Timed request timers sent (clock + 1) log where
  past x := Nat.le_succ_of_le (h.past x)
  slept x hx := Nat.le_succ_of_le (h.slept x hx)

theorem cancel (slot : Slot) : Timed request (fun x => (timers x).cancel slot) sent clock log where
  past := h.past
  slept x hx := by
    refine h.slept x (hx.imp_left ?_)
    rintro ⟨other, hother⟩
    refine ⟨other, ?_⟩
    unfold SendTimer.cancel at hother
    split at hother
    · simp at hother
    · exact hother

theorem record {entry : AsyncRecord ι} (hentry : ∀ x, entry ≠ .expired x) :
    Timed request timers sent clock (entry :: log) where
  past := h.past
  slept x hx := by
    refine h.slept x (hx.imp_right fun hlog => ?_)
    rcases List.mem_cons.mp hlog with hsame | hlog
    · exact absurd hsame.symm (hentry x)
    · exact hlog

variable [DecidableEq ι]

theorem setTimer {timer : SendTimer} (hnew : ∀ slot, timer = .elapsed slot ∨ timer = .expiring slot →
      sent x + (request x).timeout.toNat ≤ clock) : Timed request (update timers x timer) sent clock log where
  past := h.past
  slept y hy := by
    by_cases hyx : y = x
    · subst hyx
      rw [update_self] at hy
      rcases hy with ⟨slot, hslot⟩ | hlog
      · exact hnew slot hslot
      · exact h.slept y (.inr hlog)
    · rw [update_of_ne hyx] at hy
      exact h.slept y hy

theorem arm (hx : .expired x ∉ log) :
    Timed request (update timers x (.armed slot)) (update sent x clock) clock log where
  past y := by
    by_cases hyx : y = x
    · rw [hyx, update_self]
    · rw [update_of_ne hyx]
      exact h.past y
  slept y hy := by
    by_cases hyx : y = x
    · subst hyx
      rw [update_self] at hy
      rcases hy with ⟨other, hother | hother⟩ | hlog
      · cases hother
      · cases hother
      · exact absurd hlog hx
    · rw [update_of_ne hyx] at hy ⊢
      exact h.slept y hy

theorem expire (hx : timers x = .expiring slot) :
    Timed request (update timers x (.leaving slot)) sent clock (.expired x :: log) where
  past := h.past
  slept y hy := by
    by_cases hyx : y = x
    · rw [hyx]
      exact h.slept x (.inl ⟨slot, .inr hx⟩)
    · rw [update_of_ne hyx] at hy
      refine h.slept y (hy.imp_right fun hlog => ?_)
      rcases List.mem_cons.mp hlog with hsame | hlog
      · cases hsame
        exact absurd rfl hyx
      · exact hlog

end

end Timed

/-- The steps of a timer before the one that releases the slot. -/
def SendTimer.rank : SendTimer → Nat
  | .armed _ => 2
  | .elapsed _ => 1
  | .unset | .cancelled _ | .expiring _ | .leaving _ | .off => 0

namespace Slots

variable {ι κ : Type}

def observe (s : Slots ι κ) : SlotEvent ι κ → List (AsyncRecord ι)
  | .reply _ x _ => [.arrived x]
  | .clear k =>
    match s.handlers k with
    | .matched x _ => [.handled x]
    | _ => []
  | .expire x => [.expired x]
  | _ => []

/-- A slot is taken, matched by a reply and found in use by a timer only while no reply
handler and no timer callback is at work on it, and taken only while no timer callback is
still to look at it. Besides, no two requests have the same event id, and searches are
orderly. -/
def Serial (request : ι → Request) (s : Slots ι κ) : SlotEvent ι κ → Prop
  | .lock x => ∀ y, y ≠ x → s.calls y ≠ .idle → (request y).event_id ≠ (request x).event_id
  | .read x => s.Orderly (.read x)
  | .take x => s.Orderly (.take x) ∧ ∀ slot ∈ (s.calls x).finds,
    ¬AtWork s.timers s.handlers slot ∧ ∀ y, (s.timers y).due ≠ some slot
  | .reply _ _ slot => ¬AtWork s.timers s.handlers slot
  | .fire x => ∀ slot, s.timers x = .elapsed slot → s.is_used slot = true → ¬AtWork s.timers s.handlers slot
  | _ => True

/-- A reply handler and a timer callback release the slot of their own request, erase no
event id of a request in progress, and a reply stops only the timer of a request that is
over. -/
def OwnSlot (s : Slots ι κ) : SlotEvent ι κ → Prop
  | .clear k => ∀ x slot, s.handlers k = .matched x slot → s.calls x = .marked slot
  | .expire x => ∀ slot, s.timers x = .expiring slot → s.calls x = .marked slot
  | .forget k => ∀ x slot, s.handlers k = .leaving x slot → ∀ y, ¬s.Holds y slot
  | .retire x => ∀ slot, s.timers x = .leaving slot → ∀ y, ¬s.Holds y slot
  | .cancel k => ∀ x slot, s.handlers k = .cancelling x slot → ∀ y, s.timers y = .armed slot → s.calls y = .done
  | _ => True

variable [DecidableEq ι]

/-- Every request is released once, by its reply or by its timer, and by its timer not
before its timeout. Until then a first reply finds its slot, and only that, and a reply
that has arrived is handled once. -/
structure Accounted (request : ι → Request) (s : Slots ι κ) (log : List (AsyncRecord ι)) : Prop where
  released : ∀ x, log.count (.handled x) + log.count (.expired x) = if s.calls x = .done then 1 else 0
  ended : ∀ x, s.timers x = .off → s.calls x = .done
  timed : ∀ x, .expired x ∈ log → s.sent x + (request x).timeout.toNat ≤ s.clock
  findable : ∀ x, s.timers x ≠ .unset → s.clock < s.sent x + (request x).timeout.toNat →
    log.count (.handled x) = 1 ∨
      ∃ slot, s.timers x = .armed slot ∧ ∀ other, s.event_id other = (request x).event_id ↔ other = slot
  answered : ∀ x, .arrived x ∈ log → (∃ k slot, s.handlers k = .matched x slot) ∨ log.count (.handled x) = 1

structure Kept (request : ι → Request) (s : Slots ι κ) (log : List (AsyncRecord ι)) : Prop where
  guarded : Guarded s.is_used s.mtx_msg_pair s.calls
  tended : ∃ phase, Tended request s.calls s.event_id s.timers s.handlers phase
  tally : Tally s.calls s.handlers log
  timed : Timed request s.timers s.sent s.clock log

variable {request : ι → Request} {s : Slots ι κ} {log : List (AsyncRecord ι)}

theorem Kept.init : Kept request (init : Slots ι κ) [] where
  guarded := .init
  tended := ⟨_, .init⟩
  tally := ⟨fun _ => rfl, fun _ hx => by cases hx⟩
  timed := by
    refine ⟨fun _ => Nat.le_refl 0, ?_⟩
    rintro x (⟨slot, hslot | hslot⟩ | hlog)
    · cases hslot
    · cases hslot
    · cases hlog

variable {event : SlotEvent ι κ} {x : ι} {slot : Slot}

namespace Kept

variable (h : s.Kept request log)

include h

theorem timer_cases (hset : s.timers x ≠ .unset) :
    s.calls x = .done ∨ ∃ slot, s.calls x = .marked slot ∧
      (s.timers x = .armed slot ∨ s.timers x = .elapsed slot ∨ s.timers x = .expiring slot) := by
  obtain ⟨phase, htended⟩ := h.tended
  exact htended.timer_cases hset

theorem handled_of_done (hdone : s.calls x = .done) (hearly : s.clock < s.sent x + (request x).timeout.toNat) :
    log.count (.handled x) = 1 := by
  have hreleased := h.tally.released x
  have hlog : .expired x ∉ log := fun hlog => Nat.not_le_of_lt hearly (h.timed.slept x (.inr hlog))
  rwa [if_pos hdone, List.count_eq_zero_of_not_mem hlog] at hreleased

theorem accounted (hasync : ∀ x, (request x).IsAsync) :
    s.Accounted request log where
  released := h.tally.released
  ended x hx := by
    refine (h.timer_cases (by simp [hx])).resolve_right ?_
    rintro ⟨slot, -, hslot⟩
    simp [hx] at hslot
  timed x hx := h.timed.slept x (.inr hx)
  findable x hset hearly := by
    obtain ⟨phase, htended⟩ := h.tended
    have hover : ∀ slot, ¬(s.timers x = .elapsed slot ∨ s.timers x = .expiring slot) :=
      fun slot hslot => Nat.not_le_of_lt hearly (h.timed.slept x (.inl ⟨slot, hslot⟩))
    rcases h.timer_cases hset with hdone | ⟨slot, hmarked, hslot⟩
    · exact .inl (h.handled_of_done hdone hearly)
    · exact .inr ⟨slot, hslot.resolve_right (hover slot), htended.event_id_iff (hasync x).event_id_ne hmarked⟩
  answered := h.tally.answered

theorem marked_of_matched {k : κ} (hk : s.handlers k = .matched x slot) : s.calls x = .marked slot := by
  obtain ⟨phase, htended⟩ := h.tended
  have hcases := htended.phase_of_handler k
  rw [hk] at hcases
  obtain ⟨timer, hphase⟩ := hcases
  rw [htended.call x, hphase]
  rfl

theorem marked_of_expiring (hx : s.timers x = .expiring slot) : s.calls x = .marked slot := by
  obtain ⟨phase, htended⟩ := h.tended
  have hphase := htended.phase_cases x
  rw [hx] at hphase
  rw [htended.call x, hphase]
  rfl

theorem ownSlot (event : SlotEvent ι κ) : s.OwnSlot event := by
  obtain ⟨phase, htended⟩ := h.tended
  cases event with
  | clear k => exact fun x slot hk => h.marked_of_matched hk
  | expire x => exact fun slot hx => h.marked_of_expiring hx
  | forget k =>
    intro x slot hk y hy
    have hcases := htended.phase_of_handler k
    rw [hk] at hcases
    obtain ⟨timer, hphase⟩ := hcases
    exact htended.not_holds (x := x) (by rw [hphase]; rfl) (by rw [hphase]; rfl) y hy
  | retire x =>
    intro slot hx y hy
    have hphase := htended.phase_cases x
    rw [hx] at hphase
    exact htended.not_holds (x := x) (by rw [hphase]; rfl) (by rw [hphase]; rfl) y hy
  | cancel k =>
    intro x slot hk y hy
    have hcases := htended.phase_of_handler k
    rw [hk] at hcases
    obtain ⟨timer, hphase⟩ := hcases
    refine (h.timer_cases (by simp [hy])).resolve_right ?_
    rintro ⟨other, hmarked, hother⟩
    simp only [hy, reduceCtorEq, or_false, SendTimer.armed.injEq] at hother
    subst hother
    exact htended.not_holds (x := x) (by rw [hphase]; rfl) (by rw [hphase]; rfl) y (by rw [hmarked]; rfl)
  | _ => trivial

theorem orderly (hserial : s.Serial request event) :
    s.Orderly event := by
  cases event with
  | read x => exact hserial
  | take x => exact hserial.1
  | clear k => exact fun x slot hk => h.marked_of_matched hk
  | expire x => exact fun slot hx => h.marked_of_expiring hx
  | _ => trivial

theorem search {stage : SendStage} (hold : ∀ slot, s.calls x ≠ .marked slot)
    (hold' : s.calls x ≠ .done) (hnew : stage.Searches ∨ stage = .refused)
    (hdistinct : ∀ y, y ≠ x → s.calls y ≠ .idle → (request y).event_id ≠ (request x).event_id) :
    (∃ phase, Tended request (update s.calls x stage) s.event_id s.timers s.handlers phase) ∧
      Tally (update s.calls x stage) s.handlers log ∧ Timed request s.timers s.sent s.clock log := by
  obtain ⟨phase, htended⟩ := h.tended
  have hstage : (Phase.early stage : Phase κ).Fits ∧ stage.holds = none := by
    cases stage <;> simp [Searches, holds, Phase.Fits] at hnew ⊢
  refine ⟨htended.search hold hold' hstage.1 ?_ hdistinct, h.tally.setCall hold' hstage.1.2, h.timed⟩
  intro slot hslot
  rw [hstage.2] at hslot
  cases hslot

end Kept

variable [DecidableEq κ] {next : Slots ι κ}

theorem Kept.parts_step (h : s.Kept request log) (hasync : ∀ x, (request x).IsAsync)
    (hserial : s.Serial request event) (hnext : s.step request event = some next) :
    (∃ phase, Tended request next.calls next.event_id next.timers next.handlers phase) ∧
      Tally next.calls next.handlers (s.observe event ++ log) ∧
      Timed request next.timers next.sent next.clock (s.observe event ++ log) := by
  obtain ⟨phase, htended⟩ := h.tended
  cases turn_of_step hnext with
  | lock hx => exact h.search (by simp [hx]) (by simp [hx]) (.inl trivial) hserial
  | pass hx | find hx =>
    exact h.search (by simp [hx]) (by simp [hx]) (.inl trivial) (htended.others (by simp [hx]))
  | refuse hx => exact h.search (by simp [hx]) (by simp [hx]) (.inr rfl) (htended.others (by simp [hx]))
  | @take x slot hx =>
    obtain ⟨hwork, hdue⟩ := hserial.2 slot (by simp [hx, finds])
    refine ⟨htended.search (by simp [hx]) (by simp [hx]) (by simp [Phase.Fits]) ?_ (htended.others (by simp [hx])),
      h.tally.setCall (by simp [hx]) (by simp), h.timed⟩
    intro other hother
    cases hother
    exact htended.vacant (h.guarded.free_of_taking x slot hx) hwork hdue
  | mark hx => exact ⟨htended.mark hx, h.tally.setCall (by simp [hx]) (by simp), h.timed⟩
  | @arm x slot hx hunset =>
    have hlog : .expired x ∉ log := fun hlog => by
      have hreleased := h.tally.released x
      have hcount := List.count_pos_iff.mpr hlog
      rw [if_neg (by simp [hx])] at hreleased
      omega
    rw [htended.restart_eq hx hunset]
    exact ⟨htended.arm hx hunset, h.tally, h.timed.arm hlog⟩
  | @release x _ _ hsync => exact absurd (hasync x).async hsync
  | leave hx => exact absurd hx (htended.not_leaving _ _)
  | reply hk hset hevent =>
    exact ⟨htended.reply hk hevent (hasync _).event_id_ne hset hserial, h.tally.reply _ _ hk, h.timed.record (by simp)⟩
  | clear hk =>
    have hx := h.marked_of_matched hk
    rw [endRequest_setUsed hx]
    simp only [observe, hk]
    exact ⟨htended.clear hk, h.tally.clear hk (by simp [hx]), h.timed.record (by simp)⟩
  | forget hk => exact ⟨htended.forget hk, h.tally.setHandler (by simp [hk]), h.timed⟩
  | @cancel k x slot hk => exact ⟨htended.cancel hk, h.tally.setHandler (by simp [hk]), h.timed.cancel slot⟩
  | tick => exact ⟨h.tended, h.tally, h.timed.tick⟩
  | @elapse x slot hx hover =>
    have hpast := h.timed.past x
    rw [sleepOver_iff (hasync x).timeout_lt] at hover
    exact ⟨htended.elapse hx, h.tally, h.timed.setTimer fun _ _ => by omega⟩
  | @fire x slot hx =>
    refine ⟨?_, h.tally, h.timed.setTimer fun _ _ => h.timed.slept x (.inl ⟨slot, .inl hx⟩)⟩
    split
    · rename_i hused
      obtain ⟨y, hy⟩ := h.guarded.held_of_used slot hused
      exact htended.fire hx hy (hserial slot hx hused)
    · rename_i hidle
      exact htended.lapse hx fun hmarked => hidle (h.guarded.used_of_marked x slot hmarked)
  | @wake x slot hx =>
    have hphase := htended.phase_cases x
    rw [hx] at hphase
    exact ⟨htended.finish hphase, h.tally, h.timed.setTimer (by simp)⟩
  | expire hx =>
    have hmarked := h.marked_of_expiring hx
    rw [endRequest_setUsed hmarked]
    exact ⟨htended.expire hx, h.tally.expire (by simp [hmarked]), h.timed.expire hx⟩
  | retire hx => exact ⟨htended.retire hx, h.tally, h.timed.setTimer (by simp)⟩

theorem Kept.step (h : s.Kept request log) (hasync : ∀ x, (request x).IsAsync)
    (hserial : s.Serial request event) (hnext : s.step request event = some next) :
    next.Kept request (s.observe event ++ log) := by
  obtain ⟨htended, htally, htimed⟩ := h.parts_step hasync hserial hnext
  exact ⟨Guarded.step h.guarded (h.orderly hserial) hnext, htended, htally, htimed⟩

instance [Fintype ι] [Fintype κ] (s : Slots ι κ) (slot : Slot) : Decidable (AtWork s.timers s.handlers slot) :=
  inferInstanceAs (Decidable (_ ∨ _))

instance [Fintype ι] [Fintype κ] (s : Slots ι κ) : DecidablePred (s.Serial request)
  | .lock _ => inferInstanceAs (Decidable (∀ _, _))
  | .read x => inferInstanceAs (Decidable (s.Orderly (.read x)))
  | .take x => inferInstanceAs (Decidable (s.Orderly (.take x) ∧ _))
  | .reply _ _ _ => inferInstanceAs (Decidable (¬ _))
  | .fire _ => inferInstanceAs (Decidable (∀ _, _))
  | .mark _ | .arm _ | .release _ | .leave _ | .clear _ | .forget _ | .cancel _ | .tick | .elapse _ | .expire _
  | .retire _ => .isTrue trivial

theorem elapse_eq_none (hinfinite : (request x).timeout.toUInt32.toInt32 = NNG_DURATION_INFINITE) :
    s.step request (.elapse x) = none := by
  simp only [step]
  split
  · exact if_neg fun hover => hover.1 hinfinite
  · rfl

/-- The steps that bring request `x` nearer to its release: those of its own timer and of
the handler of a reply to it. -/
def Advances (x : ι) (s : Slots ι κ) : SlotEvent ι κ → Prop
  | .elapse y | .fire y | .expire y => y = x
  | .clear k => ∃ slot, s.handlers k = .matched x slot
  | _ => False

section Release

variable (h : s.Kept request log) (hasync : ∀ x, (request x).IsAsync)

include h

theorem Kept.advance (hx : s.calls x = .marked slot)
    (htimer : s.timers x = .armed slot ∨ s.timers x = .elapsed slot ∨ s.timers x = .expiring slot)
    (hadvances : s.Advances x event) (hnext : s.step request event = some next) :
    next.calls x = .done ∨ (next.calls x = .marked slot ∧ next.timers x ≠ .unset ∧
      (next.timers x).rank < (s.timers x).rank ∧ next.sent x = s.sent x ∧ s.clock ≤ next.clock) := by
  cases turn_of_step hnext with
  | elapse harmed =>
    cases hadvances
    simp [hx, harmed, SendTimer.rank]
  | @fire y other helapsed =>
    cases hadvances
    simp only [helapsed, reduceCtorEq, SendTimer.elapsed.injEq, false_or, or_false] at htimer
    subst htimer
    simp [hx, helapsed, h.guarded.used_of_marked x other hx, SendTimer.rank]
  | wake hcancelled =>
    cases hadvances
    simp [hcancelled] at htimer
  | expire hexpiring =>
    cases hadvances
    rw [endRequest_setUsed (h.marked_of_expiring hexpiring)]
    exact .inl (update_self ..)
  | @clear k y other hk =>
    obtain ⟨place, hplace⟩ := hadvances
    rw [hk] at hplace
    cases hplace
    rw [endRequest_setUsed (h.marked_of_matched hk)]
    exact .inl (update_self ..)
  | _ => exact hadvances.elim

include hasync

theorem Kept.aside (hx : s.calls x = .marked slot)
    (htimer : s.timers x = .armed slot ∨ s.timers x = .elapsed slot ∨ s.timers x = .expiring slot)
    (haside : ¬s.Advances x event) (hnext : s.step request event = some next) :
    next.calls x = .marked slot ∧ next.timers x = s.timers x ∧ next.sent x = s.sent x ∧ s.clock ≤ next.clock := by
  obtain ⟨phase, htended⟩ := h.tended
  cases turn_of_step hnext with
  | lock hy | pass hy | find hy | refuse hy | take hy | mark hy | leave hy =>
    exact ⟨update_eq_of_old (f := s.calls) hx (by simp [hy]), rfl, rfl, Nat.le_refl _⟩
  | @arm y other hy hunset =>
    have hne : x ≠ y := by
      rintro rfl
      simp [hunset] at htimer
    rw [htended.restart_eq hy hunset]
    exact ⟨hx, update_of_ne hne _ _, update_of_ne hne _ _, Nat.le_refl _⟩
  | @release y _ _ hsync => exact absurd (hasync y).async hsync
  | reply | forget => exact ⟨hx, rfl, rfl, Nat.le_refl _⟩
  | @clear k y other hk =>
    have hne : x ≠ y := by
      rintro rfl
      exact haside ⟨other, hk⟩
    rw [endRequest_setUsed (h.marked_of_matched hk)]
    exact ⟨update_eq_of_ne hx hne, rfl, rfl, Nat.le_refl _⟩
  | @cancel k y other hk =>
    refine ⟨hx, if_neg fun harmed => ?_, rfl, Nat.le_refl _⟩
    have hdone := h.ownSlot (.cancel k) y other hk x harmed
    rw [hx] at hdone
    cases hdone
  | tick => exact ⟨hx, rfl, rfl, Nat.le_succ _⟩
  | elapse | fire | wake => exact ⟨hx, update_of_ne (Ne.symm haside) _ _, rfl, Nat.le_refl _⟩
  | expire hy =>
    rw [endRequest_setUsed (h.marked_of_expiring hy)]
    exact ⟨update_eq_of_ne hx (Ne.symm haside), update_of_ne (Ne.symm haside) _ _, rfl, Nat.le_refl _⟩
  | @retire y other hy =>
    have hne : x ≠ y := by
      rintro rfl
      simp [hy] at htimer
    exact ⟨hx, update_of_ne hne _ _, rfl, Nat.le_refl _⟩

theorem Kept.advances (hx : s.calls x = .marked slot)
    (htimer : s.timers x = .armed slot ∨ s.timers x = .elapsed slot ∨ s.timers x = .expiring slot)
    (hover : s.sent x + (request x).timeout.toNat ≤ s.clock) :
    ∃ event, s.Advances x event ∧ s.Serial request event ∧ (s.step request event).isSome := by
  rcases htimer with harmed | helapsed | hexpiring
  · refine ⟨.elapse x, rfl, trivial, ?_⟩
    have hsleep : SleepOver (request x).timeout (s.clock - s.sent x) :=
      (sleepOver_iff (hasync x).timeout_lt).mpr (by omega)
    simp [Slots.step, harmed, hsleep]
  · by_cases hwork : AtWork s.timers s.handlers slot
    · obtain ⟨phase, htended⟩ := h.tended
      obtain ⟨k, hk⟩ := htended.matched_of_atWork hx (by rw [helapsed]; rfl) hwork
      refine ⟨.clear k, ⟨slot, hk⟩, trivial, ?_⟩
      simp [Slots.step, hk]
    · refine ⟨.fire x, rfl, fun other hother _ => ?_, ?_⟩
      · rw [helapsed] at hother
        cases hother
        exact hwork
      · simp [Slots.step, helapsed]
  · refine ⟨.expire x, rfl, trivial, ?_⟩
    simp [Slots.step, hexpiring]

end Release

end Slots

section

variable {ι κ : Type} [DecidableEq ι] [DecidableEq κ]

abbrev asyncStep (request : ι → Request) :
    Slots ι κ × List (AsyncRecord ι) → SlotEvent ι κ → Option (Slots ι κ × List (AsyncRecord ι)) :=
  logged (Slots.step request) Slots.observe

abbrev asyncRequests (args : ι → SendArgs) (timeout : ι → UInt64) (x : ι) : Request := send_async (args x) (timeout x)

open Classical in
/-- The serial steps, told apart by whether they bring request `x` nearer to its release. -/
noncomputable def releaseStep (request : ι → Request) (x : ι) (state : Slots ι κ × List (AsyncRecord ι))
    (label : Bool × SlotEvent ι κ) : Option (Slots ι κ × List (AsyncRecord ι)) :=
  if state.1.Serial request label.2 ∧ (label.1 = true ↔ state.1.Advances x label.2) then
    asyncStep request state label.2
  else none

/-- Whatever the other calls, timers and replies do, request `x` is released once. -/
def Released (request : ι → Request) (x : ι) (state : Slots ι κ × List (AsyncRecord ι)) : Prop :=
  Inevitable (releaseStep request x) (fun label => label.1 = false) (fun label => label.1 = true)
    (fun state => state.2.count (.handled x) + state.2.count (.expired x) = 1) state

theorem releaseStep_eq_some {request : ι → Request} {x : ι} {state next : Slots ι κ × List (AsyncRecord ι)}
    {label : Bool × SlotEvent ι κ} :
    releaseStep request x state label = some next ↔
      (state.1.Serial request label.2 ∧ (label.1 = true ↔ state.1.Advances x label.2)) ∧
        asyncStep request state label.2 = some next := by
  rw [releaseStep, Option.ite_none_right_eq_some]

theorem Slots.Kept.release {request : ι → Request} {x : ι} {state : Slots ι κ × List (AsyncRecord ι)}
    (h : state.1.Kept request state.2) (hasync : ∀ x, (request x).IsAsync) (hset : state.1.timers x ≠ .unset)
    (hover : state.1.sent x + (request x).timeout.toNat ≤ state.1.clock) : Released request x state := by
  by_cases hdone : state.1.calls x = .done
  · exact .reached (by rw [h.tally.released x, if_pos hdone])
  refine Inevitable.of_rank
    (fun state => state.1.Kept request state.2 ∧ state.1.timers x ≠ .unset ∧ state.1.calls x ≠ .done ∧
      state.1.sent x + (request x).timeout.toNat ≤ state.1.clock)
    (fun state => (state.1.timers x).rank) ?_ ?_ ?_ ⟨h, hset, hdone, hover⟩
  · rintro ⟨s, log⟩ ⟨advances, event⟩ ⟨next, log'⟩ ⟨h, hset, hx, hover⟩ henvironment hstep
    obtain ⟨⟨hserial, hflag⟩, hnext⟩ := releaseStep_eq_some.mp hstep
    obtain ⟨hslots, rfl⟩ := logged_eq_some.mp hnext
    cases henvironment
    obtain ⟨slot, hmarked, htimer⟩ := (h.timer_cases hset).resolve_left hx
    obtain ⟨hcalls, htimers, hsent, hclock⟩ :=
      h.aside hasync hmarked htimer (fun hadvances => by simp [hadvances] at hflag) hslots
    refine ⟨⟨h.step hasync hserial hslots, ?_, ?_, ?_⟩, ?_⟩
    · rw [htimers]
      exact hset
    · simp [hcalls]
    · rw [hsent]
      exact Nat.le_trans hover hclock
    · rw [htimers]
  · rintro ⟨s, log⟩ ⟨h, hset, hx, hover⟩
    obtain ⟨slot, hmarked, htimer⟩ := (h.timer_cases hset).resolve_left hx
    obtain ⟨event, hadvances, hserial, hsome⟩ := h.advances hasync hmarked htimer hover
    obtain ⟨next, hnext⟩ := Option.isSome_iff_exists.mp hsome
    refine ⟨(true, event), rfl, Option.isSome_iff_exists.mpr ⟨(next, s.observe event ++ log), ?_⟩⟩
    exact releaseStep_eq_some.mpr ⟨⟨hserial, iff_of_true rfl hadvances⟩, logged_eq_some.mpr ⟨hnext, rfl⟩⟩
  · rintro ⟨s, log⟩ ⟨advances, event⟩ ⟨next, log'⟩ ⟨h, hset, hx, hover⟩ hsystem hstep
    obtain ⟨⟨hserial, hflag⟩, hnext⟩ := releaseStep_eq_some.mp hstep
    obtain ⟨hslots, rfl⟩ := logged_eq_some.mp hnext
    have hkept := h.step hasync hserial hslots
    obtain ⟨slot, hmarked, htimer⟩ := (h.timer_cases hset).resolve_left hx
    rcases h.advance hmarked htimer (hflag.mp (Bool.eq_true_of_not_eq_false hsystem)) hslots with
      hdone | ⟨hcalls, htimers, hrank, hsent, hclock⟩
    · left
      rw [hkept.tally.released x, if_pos hdone]
    · refine .inr ⟨⟨hkept, htimers, ?_, ?_⟩, hrank⟩
      · simp [hcalls]
      · rw [hsent]
        exact Nat.le_trans hover hclock

/-- In a serial run every request has its slot to itself and is released once, by its
reply or, from its timeout on, by its timer, and replies and timers touch no other
request. -/
theorem async_requests_accounted (args : ι → SendArgs) (timeout : ι → UInt64)
    (htimeout : ∀ x, (timeout x).toNat < 2 ^ 31) {events : List (SlotEvent ι κ)}
    (hserial : Meets (asyncStep (asyncRequests args timeout))
      (fun state event => state.1.Serial (asyncRequests args timeout) event) (Slots.init, []) events) :
    Meets (asyncStep (asyncRequests args timeout)) (fun state event => state.1.OwnSlot event) (Slots.init, []) events ∧
      Throughout (asyncStep (asyncRequests args timeout))
        (fun state => state.1.Accounted (asyncRequests args timeout) state.2 ∧
          ∀ x, state.1.timers x ≠ .unset → state.1.sent x + (timeout x).toNat ≤ state.1.clock →
            Released (asyncRequests args timeout) x state)
        (Slots.init, []) events := by
  generalize hrequest : asyncRequests args timeout = request at hserial ⊢
  have hasync : ∀ x, (request x).IsAsync := by
    intro x
    rw [← hrequest]
    exact ⟨rfl, send_async_event_id_ne (args x) (timeout x), htimeout x⟩
  have hstep : ∀ (state : Slots ι κ × List (AsyncRecord ι)) event next, state.1.Kept request state.2 →
      state.1.Serial request event → asyncStep request state event = some next → next.1.Kept request next.2 := by
    rintro ⟨s, log⟩ event ⟨next, log'⟩ hkept hserial hnext
    obtain ⟨hslots, rfl⟩ := logged_eq_some.mp hnext
    exact hkept.step hasync hserial hslots
  constructor
  · exact hserial.of_invariant (fun state => state.1.Kept request state.2) hstep
      (fun state event hkept _ => hkept.ownSlot event) .init
  · exact hserial.throughout (fun state => state.1.Kept request state.2) hstep
      (fun state hkept =>
        ⟨hkept.accounted hasync, fun x hset hover => hkept.release hasync hset (hrequest ▸ hover)⟩) .init

end

open scoped Parties

/-- Requests from module 1 to module 2 with one timeout. -/
abbrev toSecond (timeout : UInt64) : Fin 2 → Request :=
  asyncRequests (fun x => .toSecond (x.val.toUInt16 + 1)) fun _ => timeout

/-- Request 0 is answered. Request 1 takes the same slot afterwards and times out. -/
def serialRequests : List (SlotEvent (Fin 2) Unit) :=
  [.lock 0, .read 0, .take 0, .mark 0, .arm 0, .tick, .reply () 0 0, .clear (), .forget (), .cancel (), .fire 0,
    .lock 1, .read 1, .take 1, .mark 1, .arm 1, .tick, .tick, .elapse 1, .fire 1, .expire 1, .retire 1]

theorem two_requests_accounted :
    (run (asyncStep (toSecond 2)) (Slots.init, []) serialRequests).map Prod.snd =
        some [.expired 1, .handled 0, .arrived 0] ∧
      Throughout (asyncStep (toSecond 2))
        (fun state => state.1.Accounted (toSecond 2) state.2 ∧
          ∀ x, state.1.timers x ≠ .unset → state.1.sent x + 2 ≤ state.1.clock → Released (toSecond 2) x state)
        (Slots.init, []) serialRequests :=
  ⟨by decide, (async_requests_accounted _ (fun _ => 2) (by decide) (by decide)).2⟩

/-- Request 1 takes the slot of request 0 before the handler of the reply to request 0 has
erased the event id and stopped the timer. -/
def hurriedRequests : List (SlotEvent (Fin 2) Unit) :=
  [.lock 0, .read 0, .take 0, .mark 0, .arm 0, .reply () 0 0, .clear (),
    .lock 1, .read 1, .take 1, .mark 1, .arm 1, .forget (), .cancel (), .fire 0, .fire 1]

/-- The reply to request 0 erases the event id of request 1 and stops its timer, so that
nothing will ever release its slot. The sleep of a request with a timeout of 4294967295 ms
never ends. -/
theorem request_abandoned :
    (∃ state, run (asyncStep (toSecond 2)) (Slots.init, []) hurriedRequests = some state ∧
      state.1.calls 1 = .marked 0 ∧ state.1.timers 1 = .off ∧ (∀ k, state.1.handlers k = .idle) ∧
      (∀ slot, state.1.event_id slot ≠ (toSecond 2 1).event_id) ∧ ¬state.1.Accounted (toSecond 2) state.2) ∧
    ∃ state : Slots (Fin 2) Unit,
      run (Slots.step (toSecond 4294967295)) Slots.init (hurriedRequests.take 5) = some state ∧
        state.calls 0 = .marked 0 ∧ state.timers 0 = .armed 0 ∧
      ∀ clock, Slots.step (toSecond 4294967295) { state with clock := clock } (.elapse 0) = none := by
  have hrun : ∃ state, run (asyncStep (toSecond 2)) (Slots.init, []) hurriedRequests = some state ∧
      state.1.calls 1 = .marked 0 ∧ state.1.timers 1 = .off ∧ (∀ k, state.1.handlers k = .idle) ∧
      ∀ slot, state.1.event_id slot ≠ (toSecond 2 1).event_id :=
    ⟨_, rfl, rfl, rfl, fun _ => rfl, by decide⟩
  obtain ⟨state, hstate, hcall, htimer, hhandlers, hevent⟩ := hrun
  refine ⟨⟨state, hstate, hcall, htimer, hhandlers, hevent, fun haccounted => ?_⟩, _, rfl, rfl, rfl, fun clock => ?_⟩
  · have hdone := haccounted.ended 1 htimer
    rw [hcall] at hdone
    cases hdone
  · exact Slots.elapse_eq_none rfl

end hub.nng_long
