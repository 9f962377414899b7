import Hub.Base.DsaHeapOrder
import Hub.Base.TimerCluster
import Hub.Lib.Trace
import Mathlib.Order.BooleanAlgebra.Set

namespace hub.timercluster

open UnorderedMap dsa.Heap

section Time

theorem lexicographic_iff (a b : Timespec) :
    (a.tv_sec < b.tv_sec ∨ a.tv_sec = b.tv_sec ∧ a.tv_nsec < b.tv_nsec) ↔ a.nanoseconds < b.nanoseconds := by
  have ha := a.normalized
  have hb := b.normalized
  unfold Timespec.nanoseconds
  omega

theorem time_less_than_eq (a b : Timespec) : time_less_than a b = decide (a.nanoseconds < b.nanoseconds) := by
  rw [Bool.eq_iff_iff, decide_eq_true_iff, ← lexicographic_iff]
  simp [time_less_than]

theorem nanoseconds_after (now : Timespec) (ms : UInt32) :
    (util_time_mono_after now ms).nanoseconds = now.nanoseconds + ms.toNat * 1000000 := by
  unfold util_time_mono_after Timespec.nanoseconds
  dsimp only
  split
  · dsimp only
    omega
  · dsimp only
    omega

end Time

variable {κ υ : Type}

def expiry (timers : Memory TimerRef (TimerNode κ υ)) (p : TimerPtr) : Int :=
  ((timers.lookup p).map fun node => node.expire_time.nanoseconds).getD 0

section Memory

variable {timers : Memory TimerRef (TimerNode κ υ)} {p q : TimerPtr} {node : TimerNode κ υ}

def allocated (timers : Memory TimerRef (TimerNode κ υ)) : Set TimerPtr := { p | p ∈ timers }

theorem compares_expiry (timers : Memory TimerRef (TimerNode κ υ)) (nodes : Set TimerPtr)
    (hnodes : nodes ⊆ allocated timers) :
    Compares (compare_timer timers) (expiry timers) nodes := by
  intro a b ha hb
  obtain ⟨ta, hta⟩ := Memory.mem_iff.mp (hnodes ha)
  obtain ⟨tb, htb⟩ := Memory.mem_iff.mp (hnodes hb)
  simp only [compare_timer, expiry, hta, htb, Option.bind_some, Option.map_some, Option.getD_some, Option.some.injEq]
  rw [Bool.eq_iff_iff, decide_eq_true_iff, ← lexicographic_iff]
  simp

theorem expiry_insert_ne (hne : q ≠ p) (node : TimerNode κ υ) : expiry
    (AList.insert p node timers) q = expiry timers q := by
  rw [expiry, expiry, AList.lookup_insert_ne hne]

theorem expiry_erase_ne (hne : q ≠ p) : expiry (timers.erase p) q = expiry timers q := by
  rw [expiry, expiry, AList.lookup_erase_ne hne]

theorem allocated_insert (p : TimerPtr) (node : TimerNode κ υ) :
    allocated (AList.insert p node timers) = insert p (allocated timers) := by
  ext q
  exact AList.mem_insert _

theorem allocated_erase (p : TimerPtr) : allocated (timers.erase p) = allocated timers \ {p} := by
  ext q
  simp [allocated, and_comm]

end Memory

theorem lookup_erase_of_none {rb : UnorderedMap UInt32 TimerPtr} {id other : UInt32} (hother : rb.lookup other = none) :
    (rb.erase id).lookup other = none := by
  rw [Option.eq_none_iff_forall_ne_some] at hother ⊢
  intro p hp
  exact hother p (lookup_erase_eq_some.mp hp).2

namespace Cluster

/-- The heap and the tree hold exactly the allocated timers, the heap by their times and
the tree by their ids. -/
structure Consistent (c : Cluster κ υ) : Prop where
  heap : c.heap.Sorted (expiry c.timers) (allocated c.timers)
  tree : ∀ id p, c.rb.lookup id = some p ↔ ∃ node, c.timers.lookup p = some node ∧ node.timer_id = id

/-- The timer `top` at the root is fired: its time has come, a `SINGLE` timer is gone, and a
`CYCLE` timer expires one interval after the second clock reading. -/
structure FiresAt (c c' : Cluster κ υ) (top : TimerNode κ υ) (now later : Timespec) (root : TimerPtr) : Prop where
  at_root : c.heap.root = some root
  lookup : c.timers.lookup root = some top
  due : top.expire_time.nanoseconds ≤ now.nanoseconds
  single : top.timer_type = .SINGLE → c'.rb.lookup top.timer_id = none ∧ root ∉ c'.timers
  cycle : top.timer_type = .CYCLE → c'.rb.lookup top.timer_id = some root ∧ ∃ node, c'.timers.lookup root = some node ∧
    node = { top with expire_time := node.expire_time } ∧
    node.expire_time.nanoseconds = later.nanoseconds + top.timer_interval.toNat * 1000000

structure StepFacts (c : Cluster κ υ) (event : Event κ υ) (c' : Cluster κ υ) (outcome : Outcome κ υ) : Prop where
  consistent : c'.Consistent
  fires : ∀ top, outcome = .fires top → ∃ now later root, event = .thread_turn now later ∧
    c.FiresAt c' top now later root
  absent : ∀ id, c.rb.lookup id = none → outcome ≠ .adds id → c'.rb.lookup id = none

theorem consistent_init : (timercluster_init : Cluster κ υ).Consistent where
  heap := by
    have hnone : allocated (timercluster_init : Cluster κ υ).timers = ∅ :=
      Set.eq_empty_of_forall_notMem AList.notMem_empty
    have : Nonempty TimerPtr := ⟨⟨0⟩⟩
    rw [hnone]
    exact .of_empty rfl rfl
  tree id p := by simp [timercluster_init]

namespace Consistent

variable {c : Cluster κ υ} (h : c.Consistent)

include h

variable {p : TimerPtr} {node node' : TimerNode κ υ} {heap : dsa.Heap TimerPtr}

theorem mem_allocated {id : UInt32} (hlookup : c.rb.lookup id = some p) : p ∈ allocated c.timers := by
  obtain ⟨node, hnode, -⟩ := (h.tree id p).mp hlookup
  exact Memory.mem_iff.mpr ⟨node, hnode⟩

theorem id_inj {p q : TimerPtr} {np nq : TimerNode κ υ} (hp : c.timers.lookup p = some np)
    (hq : c.timers.lookup q = some nq) (hid : np.timer_id = nq.timer_id) : p = q := by
  have hp' := (h.tree np.timer_id p).mpr ⟨np, hp, rfl⟩
  have hq' := (h.tree np.timer_id q).mpr ⟨nq, hq, hid.symm⟩
  exact Option.some.inj (hp'.symm.trans hq')

theorem kept (event : Event κ υ) (outcome : Outcome κ υ) (houtcome : ∀ top, outcome ≠ .fires top) :
    c.StepFacts event c outcome where
  consistent := h
  fires top heq := absurd heq (houtcome top)
  absent _ hid _ := hid

theorem erase {node : TimerNode κ υ} (hlookup : c.timers.lookup p = some node)
    (hheap : heap.Sorted (expiry c.timers) (allocated c.timers \ {p})) :
    Consistent { c with heap := heap, rb := c.rb.erase node.timer_id, timers := c.timers.erase p } where
  heap := by
    rw [allocated_erase]
    exact hheap.congr fun q hq => expiry_erase_ne hq.2
  tree id q := by
    rw [lookup_erase_eq_some, h.tree]
    constructor
    · rintro ⟨hne, other, hother, rfl⟩
      refine ⟨other, lookup_erase_eq_some.mpr ⟨?_, hother⟩, rfl⟩
      rintro rfl
      cases hlookup.symm.trans hother
      exact hne rfl
    · rintro ⟨other, hother, rfl⟩
      obtain ⟨hne, hother⟩ := lookup_erase_eq_some.mp hother
      exact ⟨fun hid => hne (h.id_inj hother hlookup hid), other, hother, rfl⟩

theorem update (hlookup : c.timers.lookup p = some node) (hid : node'.timer_id = node.timer_id)
    (hheap : heap.Sorted (expiry (AList.insert p node' c.timers)) (allocated c.timers)) :
    Consistent { c with heap := heap, timers := AList.insert p node' c.timers } where
  heap := by
    have hmem : p ∈ allocated c.timers := Memory.mem_iff.mpr ⟨node, hlookup⟩
    rw [allocated_insert, Set.insert_eq_of_mem hmem]
    exact hheap
  tree id q := by
    rw [h.tree]
    by_cases hqp : q = p
    · subst hqp
      simp [hlookup, hid]
    · rw [AList.lookup_insert_ne hqp]

theorem heap_remove (hlookup : c.timers.lookup p = some node) :
    ∃ heap, c.heap.heap_remove (compare_timer (AList.insert p node' c.timers)) (some p) = some heap ∧
      heap.Sorted (expiry (AList.insert p node' c.timers)) (allocated c.timers \ {p}) ∧ heap.Unlinked p := by
  have hmem : p ∈ allocated c.timers := Memory.mem_iff.mpr ⟨node, hlookup⟩
  refine h.heap.remove hmem (fun q _ hne => expiry_insert_ne hne node') (compares_expiry _ _ ?_)
  rw [allocated_insert]
  exact Set.sdiff_subset.trans (Set.subset_insert _ _)

theorem heap_remove_same {node : TimerNode κ υ} (hlookup : c.timers.lookup p = some node) :
    ∃ heap, c.heap.heap_remove (compare_timer c.timers) (some p) = some heap ∧
      heap.Sorted (expiry c.timers) (allocated c.timers \ {p}) ∧ heap.Unlinked p := by
  have hmem : p ∈ allocated c.timers := Memory.mem_iff.mpr ⟨node, hlookup⟩
  exact h.heap.remove hmem (fun _ _ _ => rfl) (compares_expiry _ _ Set.sdiff_subset)

omit h in
theorem heap_insert (hlookup : c.timers.lookup p = some node)
    (hheap : heap.Sorted (expiry (AList.insert p node' c.timers)) (allocated c.timers \ {p}))
    (hun : heap.Unlinked p) :
    ∃ heap', heap.heap_insert (compare_timer (AList.insert p node' c.timers)) p = some heap' ∧
      heap'.Sorted (expiry (AList.insert p node' c.timers)) (allocated c.timers) := by
  have hmem : p ∈ allocated c.timers := Memory.mem_iff.mpr ⟨node, hlookup⟩
  have hback : insert p (allocated c.timers \ {p}) = allocated c.timers := Set.insert_sdiff_self_of_mem hmem
  have hcompare := compares_expiry (AList.insert p node' c.timers) (insert p (allocated c.timers \ {p}))
    (by rw [allocated_insert]; exact Set.insert_subset_insert Set.sdiff_subset)
  have hinsert := heap_insert_sorted hheap (fun hp => hp.2 rfl) hun.1 hun.2 hcompare
  rwa [hback] at hinsert

theorem timer_add_facts (id : UInt32) (type : TimerType) (interval : UInt32) (cb : Option κ) (userdata : υ)
    (calloc : Calloc TimerRef (TimerNode κ υ)) (now : Timespec) :
    ∃ c' outcome, c.timercluster_timer_add id type interval cb userdata calloc now = some (c', outcome) ∧
      c.StepFacts (.timer_add id type interval cb userdata calloc now) c' outcome := by
  have hkept := h.kept (.timer_add id type interval cb userdata calloc now) (.returns false) (by simp)
  by_cases hrunning : c.running = true
  · cases hsearch : c.rb.lookup id with
    | some p => exact ⟨c, .returns false, by simp [timercluster_timer_add, hrunning, hsearch], hkept⟩
    | none =>
      by_cases hfails : calloc.fails = true
      · exact ⟨c, .returns false, by simp [timercluster_timer_add, hrunning, hsearch, hfails], hkept⟩
      · have hfresh := calloc.fresh c.timers
        generalize hp : calloc.pick c.timers = p at hfresh
        have hmem : p ∉ allocated c.timers := AList.lookup_eq_none.mp hfresh
        let node : TimerNode κ υ := ⟨id, type, interval, util_time_mono_after now interval, cb, userdata⟩
        have hkeys : ∀ q ∈ allocated c.timers, expiry (AList.insert p node c.timers) q = expiry c.timers q :=
          fun q hq => expiry_insert_ne (ne_of_mem_of_not_mem hq hmem) node
        have hun := cleared_unlinked c.heap p
        obtain ⟨heap, hinsert, hheap⟩ := heap_insert_sorted ((h.heap.cleared hmem).congr hkeys) hmem hun.1 hun.2
          (compares_expiry (AList.insert p node c.timers) _ (allocated_insert p node).symm.subset)
        refine ⟨{ c with heap := heap, rb := AList.insert id p c.rb, timers := AList.insert p node c.timers }, .adds id,
          ?_, ⟨?_, ?_⟩, ?_, ?_⟩
        · simp only [timercluster_timer_add, hrunning, hsearch, hfails, hp, rbtree_insert]
          simp [hinsert, node]
        · rw [← allocated_insert p node] at hheap
          exact hheap
        · intro other q
          rw [lookup_insert_eq_some, h.tree]
          constructor
          · rintro (⟨rfl, rfl⟩ | ⟨hne, found, hfound, hid⟩)
            · exact ⟨node, AList.lookup_insert _, rfl⟩
            · have hqp : q ≠ p := by
                rintro rfl
                cases hfresh.symm.trans hfound
              exact ⟨found, (AList.lookup_insert_ne hqp).trans hfound, hid⟩
          · rintro ⟨found, hfound, hid⟩
            rcases lookup_insert_eq_some.mp hfound with ⟨rfl, rfl⟩ | ⟨hqp, hfound⟩
            · exact .inl ⟨hid.symm, rfl⟩
            · refine .inr ⟨fun heq => ?_, found, hfound, hid⟩
              have htaken := (h.tree other q).mpr ⟨found, hfound, hid⟩
              rw [heq, hsearch] at htaken
              cases htaken
        · intro top heq
          cases heq
        · intro other hother hne
          have hid : other ≠ id := fun heq => hne (heq ▸ rfl)
          exact (AList.lookup_insert_ne hid).trans hother
  · exact ⟨c, .returns false, by simp [timercluster_timer_add, hrunning], hkept⟩

theorem timer_del_facts (id : UInt32) :
    ∃ c' outcome, c.timercluster_timer_del id = some (c', outcome) ∧ c.StepFacts (.timer_del id) c' outcome := by
  have hkept := h.kept (.timer_del id) (.returns false) (by simp)
  by_cases hrunning : c.running = true
  · cases hsearch : c.rb.lookup id with
    | none => exact ⟨c, .returns false, by simp [timercluster_timer_del, hrunning, hsearch], hkept⟩
    | some p =>
      obtain ⟨node, hlookup, hid⟩ := (h.tree id p).mp hsearch
      obtain ⟨heap, hremove, hheap, -⟩ := h.heap_remove_same hlookup
      refine ⟨{ c with heap := heap, rb := c.rb.erase node.timer_id, timers := c.timers.erase p }, .returns true, ?_,
        h.erase hlookup hheap, ?_, ?_⟩
      · simp [timercluster_timer_del, hrunning, hsearch, hlookup, hremove, Memory.free_of_lookup hlookup]
      · intro top heq
        cases heq
      · intro other hother _
        exact lookup_erase_of_none hother
  · exact ⟨c, .returns false, by simp [timercluster_timer_del, hrunning], hkept⟩

theorem timer_reset_facts (id new_interval : UInt32) (now : Timespec) :
    ∃ c' outcome, c.timercluster_timer_reset id new_interval now = some (c', outcome) ∧
      c.StepFacts (.timer_reset id new_interval now) c' outcome := by
  have hkept := h.kept (.timer_reset id new_interval now) (.returns false) (by simp)
  by_cases hrunning : c.running = true
  · cases hsearch : c.rb.lookup id with
    | none => exact ⟨c, .returns false, by simp [timercluster_timer_reset, hrunning, hsearch], hkept⟩
    | some p =>
      obtain ⟨node, hlookup, hid⟩ := (h.tree id p).mp hsearch
      let node' : TimerNode κ υ :=
        { node with timer_interval := new_interval, expire_time := util_time_mono_after now new_interval }
      have hid' : node'.timer_id = node.timer_id := rfl
      obtain ⟨heap, hremove, hheap, hun⟩ := @heap_remove κ υ c h p node node' hlookup
      obtain ⟨heap', hinsert, hheap'⟩ := heap_insert hlookup hheap hun
      refine ⟨{ c with heap := heap', timers := AList.insert p node' c.timers }, .returns true, ?_,
        h.update hlookup hid' hheap', ?_, ?_⟩
      · simp only [timercluster_timer_reset, hrunning, hsearch, hlookup, Option.bind_some]
        simp only [node'] at hremove hinsert
        simp [hremove, hinsert, node']
      · intro top heq
        cases heq
      · intro other hother _
        exact hother
  · exact ⟨c, .returns false, by simp [timercluster_timer_reset, hrunning], hkept⟩

theorem thread_turn_facts (now later : Timespec) :
    ∃ c' outcome, c.timercluster_thread_turn now later = some (c', outcome) ∧
      c.StepFacts (.thread_turn now later) c' outcome := by
  by_cases hrunning : c.running = true
  swap
  · exact ⟨c, .ends, by simp [timercluster_thread_turn, hrunning], h.kept _ _ (by simp)⟩
  cases hroot : c.heap.root with
  | none => exact ⟨c, .waits, by simp [timercluster_thread_turn, hrunning, hroot], h.kept _ _ (by simp)⟩
  | some root =>
    obtain ⟨top, hlookup⟩ := Memory.mem_iff.mp (h.heap.root_mem hroot)
    by_cases hearly : time_less_than now top.expire_time = true
    · exact ⟨c, .waits, by simp [timercluster_thread_turn, hrunning, hroot, hlookup, hearly], h.kept _ _ (by simp)⟩
    have hdue : top.expire_time.nanoseconds ≤ now.nanoseconds := by
      rw [time_less_than_eq, decide_eq_true_iff] at hearly
      omega
    cases htype : top.timer_type with
    | SINGLE =>
      obtain ⟨heap, hremove, hheap, -⟩ := h.heap_remove_same hlookup
      refine ⟨{ c with heap := heap, rb := c.rb.erase top.timer_id, timers := c.timers.erase root }, .fires top, ?_,
        h.erase hlookup hheap, ?_, ?_⟩
      · simp [timercluster_thread_turn, hrunning, hroot, hlookup, hearly, heap_dequeue, hremove, htype,
          Memory.free_of_lookup hlookup]
      · intro fired heq
        cases heq
        refine ⟨now, later, root, rfl, hroot, hlookup, hdue, fun _ => ⟨AList.lookup_erase .., ?_⟩, fun hcycle => ?_⟩
        · simp
        · cases htype.symm.trans hcycle
      · intro other hother _
        exact lookup_erase_of_none hother
    | CYCLE =>
      let node' : TimerNode κ υ := { top with expire_time := util_time_mono_after later top.timer_interval }
      have hid : node'.timer_id = top.timer_id := rfl
      obtain ⟨heap, hremove, hheap, hun⟩ := h.heap_remove_same hlookup
      have hkeys : ∀ q ∈ allocated c.timers \ {root}, expiry (AList.insert root node' c.timers) q = expiry c.timers q :=
        fun q hq => expiry_insert_ne hq.2 node'
      obtain ⟨heap', hinsert, hheap'⟩ := heap_insert hlookup (hheap.congr hkeys) hun
      refine ⟨{ c with heap := heap', timers := AList.insert root node' c.timers }, .fires top, ?_,
        h.update hlookup hid hheap', ?_, ?_⟩
      · simp only [timercluster_thread_turn, hrunning, hroot, hlookup, Option.bind_some, heap_dequeue, hremove,
          htype]
        simp only [node', htype] at hinsert
        simp [hearly, hinsert, node', htype]
      · intro fired heq
        cases heq
        refine ⟨now, later, root, rfl, hroot, hlookup, hdue, fun hsingle => ?_, fun _ => ⟨?_, node', ?_, rfl, ?_⟩⟩
        · cases htype.symm.trans hsingle
        · exact (h.tree _ _).mpr ⟨top, hlookup, rfl⟩
        · exact AList.lookup_insert _
        · exact nanoseconds_after later top.timer_interval
      · intro other hother _
        exact hother

theorem step_facts (event : Event κ υ) : ∃ c' outcome, c.step event = some
    (c', outcome) ∧ c.StepFacts event c' outcome := by
  cases event with
  | timer_add id type interval cb userdata calloc now => exact h.timer_add_facts id type interval cb userdata calloc now
  | timer_del id => exact h.timer_del_facts id
  | timer_reset id new_interval now => exact h.timer_reset_facts id new_interval now
  | thread_turn now later => exact h.thread_turn_facts now later
  | destroy =>
    refine ⟨{ c with running := false }, .returns true, rfl, ⟨h.heap, h.tree⟩, ?_, ?_⟩
    · intro top heq
      cases heq
    · intro id hid _
      exact hid

end Consistent

/-- The outcome is a firing of the `SINGLE` timer with this id. -/
def firesSingle (id : UInt32) : Outcome κ υ → Bool
  | .fires top => decide (top.timer_id = id ∧ top.timer_type = .SINGLE)
  | _ => false

variable {c c' : Cluster κ υ} {events : List (Event κ υ)} {outcomes : List (Outcome κ υ)} {id : UInt32}

variable {event : Event κ υ} {outcome : Outcome κ υ}

theorem Consistent.facts_of_step (h : c.Consistent)
    (hstep : c.step event = some (c', outcome)) : c.StepFacts event c' outcome := by
  obtain ⟨c₁, outcome₁, hstep₁, hfacts⟩ := h.step_facts event
  cases hstep.symm.trans hstep₁
  exact hfacts

theorem StepFacts.gone_of_firesSingle (h : c.StepFacts event c' outcome)
    (hfires : firesSingle id outcome = true) : c'.rb.lookup id = none := by
  cases outcome with
  | fires top =>
    obtain ⟨hid, hsingle⟩ := of_decide_eq_true hfires
    obtain ⟨now, later, root, -, hfires⟩ := h.fires top rfl
    rw [← hid]
    exact (hfires.single hsingle).1
  | _ => cases hfires

theorem StepFacts.present_of_firesSingle (hc : c.Consistent)
    (h : c.StepFacts event c' outcome) (hfires : firesSingle id outcome = true) : c.rb.lookup id ≠ none := by
  cases outcome with
  | fires top =>
    obtain ⟨hid, -⟩ := of_decide_eq_true hfires
    obtain ⟨now, later, root, -, hfires⟩ := h.fires top rfl
    have hlookup := (hc.tree id root).mpr ⟨top, hfires.lookup, hid⟩
    rw [hlookup]
    exact Option.some_ne_none root
  | _ => cases hfires

theorem trace_cons (htrace : trace step c (event :: events) = some (c', outcomes)) :
    ∃ c₁ outcome rest, c.step event = some (c₁, outcome) ∧ trace step c₁ events = some (c', rest) ∧
      outcomes = outcome :: rest := by
  obtain ⟨⟨c₁, outcome⟩, hstep, hrest⟩ := Option.bind_eq_some_iff.mp htrace
  obtain ⟨⟨c₂, rest⟩, htrace', heq⟩ := Option.map_eq_some_iff.mp hrest
  cases heq
  exact ⟨c₁, outcome, rest, hstep, htrace', rfl⟩

theorem Consistent.absent_of_trace (h : c.Consistent) (htrace : trace step c events = some (c', outcomes))
    (hadds : ∀ outcome ∈ outcomes, outcome ≠ .adds id) (hid : c.rb.lookup id = none) :
    c'.rb.lookup id = none ∧ outcomes.countP (firesSingle id) = 0 := by
  induction events generalizing c outcomes with
  | nil =>
    cases htrace
    exact ⟨hid, rfl⟩
  | cons event events ih =>
    obtain ⟨c₁, outcome, rest, hstep, hrest, rfl⟩ := trace_cons htrace
    have hfacts := h.facts_of_step hstep
    have hid₁ := hfacts.absent id hid (hadds outcome List.mem_cons_self)
    obtain ⟨hlast, hcount⟩ := ih hfacts.consistent hrest (fun o ho => hadds o (List.mem_cons_of_mem _ ho)) hid₁
    refine ⟨hlast, ?_⟩
    have hsilent : ¬ firesSingle id outcome = true := fun hfires => hfacts.present_of_firesSingle h hfires hid
    rw [List.countP_cons_of_neg hsilent, hcount]

theorem Consistent.single_fires_once (h : c.Consistent) (htrace : trace step c events = some (c', outcomes))
    (hadds : ∀ outcome ∈ outcomes, outcome ≠ .adds id) :
    outcomes.countP (firesSingle id) ≤ 1 ∧ (outcomes.countP (firesSingle id) = 1 → c'.rb.lookup id = none) := by
  induction events generalizing c outcomes with
  | nil =>
    cases htrace
    exact ⟨Nat.zero_le 1, fun hone => by cases hone⟩
  | cons event events ih =>
    obtain ⟨c₁, outcome, rest, hstep, hrest, rfl⟩ := trace_cons htrace
    have hfacts := h.facts_of_step hstep
    have hadds' : ∀ o ∈ rest, o ≠ .adds id := fun o ho => hadds o (List.mem_cons_of_mem _ ho)
    by_cases hfires : firesSingle id outcome = true
    · obtain ⟨hlast, hcount⟩ :=
        hfacts.consistent.absent_of_trace hrest hadds' (hfacts.gone_of_firesSingle hfires)
      rw [List.countP_cons_of_pos hfires, hcount]
      exact ⟨Nat.le_refl 1, fun _ => hlast⟩
    · rw [List.countP_cons_of_neg hfires]
      exact ih hfacts.consistent hrest hadds'

theorem Consistent.trace_consistent (h : c.Consistent) (events : List (Event κ υ)) :
    ∃ c' outcomes, trace step c events = some (c', outcomes) ∧ c'.Consistent := by
  induction events generalizing c with
  | nil => exact ⟨c, [], rfl, h⟩
  | cons event events ih =>
    obtain ⟨c₁, outcome, hstep, hfacts⟩ := h.step_facts event
    obtain ⟨c', outcomes, htrace, hconsistent⟩ := ih hfacts.consistent
    exact ⟨c', outcome :: outcomes, by simp [trace, hstep, htrace], hconsistent⟩

end Cluster

/-- The heap and the tree always hold the same timers, all with different ids, and the root
is the earliest. A timer fires only when its time has come, and a `SINGLE` timer at most
once until it is added again. -/
theorem timercluster_invariant (events : List (Event κ υ)) :
    ∃ c outcomes, trace Cluster.step .timercluster_init events = some (c, outcomes) ∧
      (∃ slot n, c.heap.Shape slot n ∧ ∀ p, p ∈ dsa.Heap.Members slot n ↔ ∃ id, c.rb.lookup id = some p) ∧
      (∀ id p, c.rb.lookup id = some p → ∃ node, c.timers.lookup p = some node ∧ node.timer_id = id) ∧
      (∀ p q np nq, c.timers.lookup p = some np → c.timers.lookup q = some nq → np.timer_id = nq.timer_id → p = q) ∧
      (∀ root top id p node, c.heap.root = some root → c.timers.lookup root = some top → c.rb.lookup id = some p →
        c.timers.lookup p = some node → top.expire_time.nanoseconds ≤ node.expire_time.nanoseconds) ∧
      (∀ event c' top, c.step event = some (c', .fires top) →
        ∃ now later root, event = .thread_turn now later ∧ c.FiresAt c' top now later root) ∧
      (∀ more c' outcomes' id, trace Cluster.step c more = some (c', outcomes') →
        (∀ outcome ∈ outcomes', outcome ≠ .adds id) → outcomes'.countP (Cluster.firesSingle id) ≤ 1 ∧
          (outcomes'.countP (Cluster.firesSingle id) = 1 → c'.rb.lookup id = none)) := by
  obtain ⟨c, outcomes, htrace, h⟩ := Cluster.consistent_init.trace_consistent events
  refine ⟨c, outcomes, htrace, ?_, ?_, ?_, ?_, ?_, ?_⟩
  · obtain ⟨slot, n, hs, hmembers, -⟩ := h.heap
    refine ⟨slot, n, hs, fun p => ?_⟩
    rw [hmembers]
    constructor
    · intro hmem
      obtain ⟨node, hnode⟩ := Memory.mem_iff.mp hmem
      exact ⟨node.timer_id, (h.tree _ p).mpr ⟨node, hnode, rfl⟩⟩
    · rintro ⟨id, hlookup⟩
      exact h.mem_allocated hlookup
  · intro id p
    exact (h.tree id p).mp
  · intro p q np nq hp hq
    exact h.id_inj hp hq
  · intro root top id p node hroot htop hlookup hnode
    have hle := h.heap.root_le hroot (h.mem_allocated hlookup)
    simpa [expiry, htop, hnode] using hle
  · intro event c' top hstep
    exact (h.facts_of_step hstep).fires top rfl
  · intro more c' outcomes' id htrace' hadds
    exact h.single_fires_once htrace' hadds

end hub.timercluster
