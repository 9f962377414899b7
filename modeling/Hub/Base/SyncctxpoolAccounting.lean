import Hub.Base.Syncctxpool
import Hub.Lib.Run

namespace hub

open Syncctxpool

/-- A pool with the contexts that are lent. `undefined` says that the first entry of an
empty list was taken. -/
structure Lending (ι τ : Type) where
  contexts : Syncctxs ι τ
  pool : Syncctxpool
  lent : List SyncctxPtr
  undefined : Bool

inductive LendingEvent where
  /-- `syncctxpool_borrow`. `creates` says that `syncctx_create` succeeds if it is called. -/
  | borrow (creates : Bool)
  | giveBack (ctx : SyncctxPtr)

namespace Lending

variable {ι τ : Type}

variable (init_count : Nat) (creates : Nat → Bool)

/-- The state after `syncctxpool_create`, whose loop ends at the first context that cannot
be made. -/
def init (init_count : Nat) (creates : Nat → Bool) : Lending ι τ where
  contexts := (Syncctxpool.syncctxpool_create ((List.range init_count).takeWhile creates).length).1
  pool := (Syncctxpool.syncctxpool_create (ι := ι) (τ := τ) ((List.range init_count).takeWhile creates).length).2
  lent := []
  undefined := false

/-- One critical section. Only a context that is lent can be returned. -/
def step (s : Lending ι τ) : LendingEvent → Option (Lending ι τ)
  | .borrow creates =>
    if s.pool.size = 0 ∧ creates = false then some s
    else
      match Syncctxpool.syncctxpool_borrow s.contexts s.pool with
      | none => some { s with undefined := true }
      | some (ctx, contexts, pool) => some { s with contexts := contexts, pool := pool, lent := ctx :: s.lent }
  | .giveBack ctx =>
    if ctx ∈ s.lent then
      some { s with
        contexts := s.contexts.set ctx (s.contexts.get ctx).reset
        pool := s.pool.syncctxpool_return ctx
        lent := s.lent.erase ctx }
    else none

/-- The counters say how many contexts are idle and how many there are, and no context is
lent twice. -/
structure Accounted (s : Lending ι τ) : Prop where
  size : s.pool.size = s.pool.head.length
  capacity : s.pool.capacity = s.pool.size + s.lent.length
  exclusive : s.lent.Nodup
  defined : s.undefined = false

/-- No context is made for a borrower. -/
def Stocked (s : Lending ι τ) : LendingEvent → Prop
  | .borrow creates => 0 < s.pool.size ∨ creates = false
  | .giveBack _ => True

/-- Every context is idle or lent, once. This holds whatever the counters say. -/
structure Apart (s : Lending ι τ) : Prop where
  nodup : (s.pool.head ++ s.lent).Nodup
  live : ∀ ctx ∈ s.pool.head ++ s.lent, s.contexts.Live ctx

variable {s next : Lending ι τ} {ctx : SyncctxPtr}

theorem step_borrow_cases {creates : Bool} (hstep : step s (.borrow creates) = some next) :
    (s.pool.size = 0 ∧ creates = false ∧ next = s) ∨
      (0 < s.pool.size ∧ ∃ ctx rest, s.pool.head = ctx :: rest ∧ next = { s with
        pool := { s.pool with head := rest, size := s.pool.size - 1 }
        lent := ctx :: s.lent }) ∨
      (s.pool.size = 0 ∧ creates = true ∧ next = { s with
        contexts := s.contexts.alloc .syncctx_create
        pool := { s.pool with capacity := s.pool.capacity + 1, size := s.pool.size + 1 }
        lent := s.contexts.fresh :: s.lent }) ∨
      (0 < s.pool.size ∧ s.pool.head = [] ∧ next = { s with undefined := true }) := by
  rw [step] at hstep
  split at hstep
  · rename_i hempty
    cases hstep
    exact .inl ⟨hempty.1, hempty.2, rfl⟩
  · rename_i hsome
    rw [syncctxpool_borrow] at hstep
    by_cases hsize : s.pool.size > 0
    · rw [if_pos hsize] at hstep
      cases hhead : s.pool.head with
      | nil =>
        rw [hhead] at hstep
        cases hstep
        exact .inr (.inr (.inr ⟨hsize, rfl, rfl⟩))
      | cons ctx rest =>
        rw [hhead] at hstep
        cases hstep
        exact .inr (.inl ⟨hsize, ctx, rest, rfl, rfl⟩)
    · rw [if_neg hsize] at hstep
      cases hstep
      have hzero : s.pool.size = 0 := by omega
      have hcreates : creates = true := by
        by_contra hfails
        exact hsome ⟨hzero, by simpa using hfails⟩
      exact .inr (.inr (.inl ⟨hzero, hcreates, rfl⟩))

theorem step_giveBack_cases (hstep : step s (.giveBack ctx) = some next) :
    ctx ∈ s.lent ∧ next = { s with
      contexts := s.contexts.set ctx (s.contexts.get ctx).reset
      pool := s.pool.syncctxpool_return ctx
      lent := s.lent.erase ctx } := by
  obtain ⟨hlent, hnext⟩ := Option.ite_none_right_eq_some.mp hstep
  exact ⟨hlent, (Option.some.inj hnext).symm⟩

theorem Apart.perm (h : Apart s) (hperm : (s.pool.head ++ s.lent).Perm (next.pool.head ++ next.lent))
    (hlive : ∀ ctx, s.contexts.Live ctx → next.contexts.Live ctx) : Apart next where
  nodup := hperm.nodup_iff.mp h.nodup
  live ctx hctx := hlive ctx (h.live ctx (hperm.mem_iff.mpr hctx))

theorem Apart.create (h : Apart s) (hhead : next.pool.head = s.pool.head)
    (hcontexts : next.contexts = s.contexts.alloc .syncctx_create) (hlent : next.lent = s.contexts.fresh :: s.lent) :
    Apart next := by
  have hperm : (next.pool.head ++ next.lent).Perm (s.contexts.fresh :: (s.pool.head ++ s.lent)) := by
    rw [hhead, hlent]
    exact List.perm_middle
  constructor
  · rw [hperm.nodup_iff, List.nodup_cons]
    exact ⟨fun hmem => Heap.ne_fresh (h.live _ hmem) rfl, h.nodup⟩
  · intro ctx hctx
    rw [hcontexts]
    rcases List.mem_cons.mp (hperm.mem_iff.mp hctx) with rfl | hold
    · exact Heap.live_alloc_fresh _ _
    · exact (h.live ctx hold).alloc _

variable {event : LendingEvent}

theorem Apart.step (h : Apart s) (hstep : Lending.step s event = some next) : Apart next := by
  cases event with
  | borrow creates =>
    obtain ⟨-, -, rfl⟩ | ⟨-, ctx, rest, hhead, rfl⟩ | ⟨-, -, rfl⟩ | ⟨-, -, rfl⟩ := step_borrow_cases hstep
    · exact h
    · apply h.perm
      · rw [hhead]
        exact List.perm_middle.symm
      · exact fun _ hlive => hlive
    · exact h.create rfl rfl rfl
    · exact h.perm (.refl _) fun _ hlive => hlive
  | giveBack ctx =>
    obtain ⟨hlent, rfl⟩ := step_giveBack_cases hstep
    apply h.perm
    · calc s.pool.head ++ s.lent
        _ |>.Perm (s.pool.head ++ ctx :: s.lent.erase ctx) := (List.perm_cons_erase hlent).append_left _
        _ |>.Perm (ctx :: s.pool.head ++ s.lent.erase ctx) := List.perm_middle
    · exact fun _ hlive => hlive

theorem Accounted.giveBack (h : Accounted s) (hlent : ctx ∈ s.lent) (hnext : next = { s with
      contexts := s.contexts.set ctx (s.contexts.get ctx).reset
      pool := s.pool.syncctxpool_return ctx
      lent := s.lent.erase ctx }) : Accounted next := by
  have hcapacity := h.capacity
  have hlength : (s.lent.erase ctx).length + 1 = s.lent.length := by
    rw [List.length_erase_of_mem hlent]
    have := List.length_pos_of_mem hlent
    omega
  subst hnext
  refine ⟨?_, ?_, h.exclusive.erase ctx, h.defined⟩
  · exact congrArg (· + 1) h.size
  · show s.pool.capacity = s.pool.size + 1 + (s.lent.erase ctx).length
    omega

theorem accounted_step_iff (h : Accounted s) (happart : Apart s) (hstep : step s event = some next) :
    Accounted next ↔ Stocked s event := by
  have hnext := happart.step hstep
  cases event with
  | borrow creates =>
    obtain ⟨-, hfails, rfl⟩ | ⟨hsize, ctx, rest, hhead, heq⟩ | ⟨hsize, hcreates, rfl⟩ | ⟨hsize, hhead, -⟩ :=
      step_borrow_cases hstep
    · exact iff_of_true h (.inr hfails)
    · refine iff_of_true ?_ (.inl hsize)
      have hlength := h.size
      have hcapacity := h.capacity
      have hexclusive := (List.nodup_append.mp hnext.nodup).2.1
      subst heq
      rw [hhead, List.length_cons] at hlength
      refine ⟨?_, ?_, hexclusive, h.defined⟩
      · show s.pool.size - 1 = rest.length
        omega
      · show s.pool.capacity = s.pool.size - 1 + (s.lent.length + 1)
        omega
    · refine iff_of_false (fun haccounted => ?_) (fun hstocked => ?_)
      · have hmade := haccounted.size
        have hbefore := h.size
        change s.pool.size + 1 = s.pool.head.length at hmade
        omega
      · rcases hstocked with hpositive | hfails
        · omega
        · rw [hcreates] at hfails
          cases hfails
    · have hempty := h.size
      rw [hhead] at hempty
      exact absurd hempty (Nat.ne_of_gt hsize)
  | giveBack ctx =>
    obtain ⟨hlent, heq⟩ := step_giveBack_cases hstep
    exact iff_of_true (h.giveBack hlent heq) trivial

theorem create_counts (count : Nat) :
    (syncctxpool_create (ι := ι) (τ := τ) count).2.size = count ∧
      (syncctxpool_create (ι := ι) (τ := τ) count).2.capacity = count ∧
      (syncctxpool_create (ι := ι) (τ := τ) count).2.head.length = count := by
  induction count with
  | zero => exact ⟨rfl, rfl, rfl⟩
  | succ count ih => exact ⟨congrArg (· + 1) ih.1, congrArg (· + 1) ih.2.1, congrArg (· + 1) ih.2.2⟩

theorem Apart.init : Apart (Lending.init (ι := ι) (τ := τ) init_count creates) := by
  have howned := create_owned (ι := ι) (τ := τ) (κ := ι) ((List.range init_count).takeWhile creates).length
  constructor
  · rw [Lending.init, List.append_nil]
    exact howned.nodup
  · rw [Lending.init, List.append_nil]
    exact howned.live_idle

theorem Accounted.init : Accounted (Lending.init (ι := ι) (τ := τ) init_count creates) := by
  obtain ⟨hsize, hcapacity, hlength⟩ :=
    create_counts (ι := ι) (τ := τ) ((List.range init_count).takeWhile creates).length
  exact ⟨hsize.trans hlength.symm, hcapacity.trans hsize.symm, List.nodup_nil, rfl⟩

theorem stocked_of_stuck (hstep : step s event = none) : Stocked s event := by
  cases event with
  | borrow creates =>
    rw [step] at hstep
    split at hstep
    · cases hstep
    · split at hstep <;> cases hstep
  | giveBack ctx => trivial

/-- The accounts of a pool stay right exactly as long as no borrower finds it empty and
gets a context that is made for it. -/
theorem accounted_iff_stocked (init_count : Nat) (creates : Nat → Bool) (events : List LendingEvent) :
    Throughout step Accounted (Lending.init (ι := ι) (τ := τ) init_count creates) events ↔
      Meets step Stocked (Lending.init (ι := ι) (τ := τ) init_count creates) events := by
  apply throughout_iff_meets fun s _ => Apart s
  · exact fun s event _ next happart hstep => happart.step hstep
  · exact fun s event hstuck => stocked_of_stuck hstuck
  · exact fun s event _ next happart haccounted hstep => accounted_step_iff haccounted happart hstep
  · exact Apart.init init_count creates
  · exact Accounted.init init_count creates

/-- A pool that starts empty makes a context for the first borrower. Then it has no idle
context and counts one, and the second borrower takes the first entry of an empty list. -/
theorem second_borrower_gets_no_context :
    (∃ s : Lending Unit Unit, run step (Lending.init 0 fun _ => true) [.borrow true] = some s ∧ s.pool.head = [] ∧
      s.pool.size = 1 ∧ s.pool.capacity = 1 ∧ s.lent.length = 1) ∧
    ∃ s : Lending Unit Unit,
      run step (Lending.init 0 fun _ => true) [.borrow true, .borrow true] = some s ∧ s.undefined = true :=
  ⟨⟨_, rfl, rfl, rfl, rfl, rfl⟩, _, rfl, rfl⟩

end Lending

end hub
