import Hub.Base.ThreadQueueFifo
import Hub.Base.UnboundedQueue
import Hub.Lib.Run
import Hub.Lib.Trace

namespace hub.threadqueue

/-- The FIFO of byte strings that the queue is meant to be. -/
structure UnboundedFifo where
  is_run : Bool
  messages : List (List UInt8)

namespace UnboundedFifo

def init : UnboundedFifo where
  is_run := true
  messages := []

/-- The oldest message goes to the front of the caller's buffer. -/
def pop (f : UnboundedFifo) (buffer : PopBuffer) (ifEmpty : Outcome) : UnboundedFifo × Outcome :=
  if f.is_run = false then (f, .returns .ERR_STOP)
  else
    match f.messages with
    | [] => (f, ifEmpty)
    | msg :: messages =>
      if buffer.len < msg.length then (f, .returns .ERR_LEN)
      else ({ f with messages := messages }, .pops (msg ++ buffer.data.drop msg.length) msg.length)

def step (f : UnboundedFifo) : UnboundedSection → UnboundedFifo × Outcome
  | .push data calloc =>
    if data = [] then (f, .returns .ERR_ARG)
    else if calloc.fails then (f, .returns .ERR_MEM)
    else if f.is_run = false then (f, .returns .ERR_STOP)
    else ({ f with messages := f.messages ++ [data] }, .returns .SUCCESS)
  | .pop_block buffer timeout wait =>
    match waitError timeout wait with
    | some ret => (f, .returns ret)
    | none => f.pop buffer .waits
  | .pop_nonblock buffer => f.pop buffer (.returns .ERR_NO_MSG)
  | .stop => ({ f with is_run := false }, .stops f.is_run)

end UnboundedFifo

def UnboundedNode.holding (msg : List UInt8) : UnboundedNode := ⟨msg.length, msg⟩

namespace UnboundedQueue

/-- The queue is in the state of the FIFO: its nodes hold the messages in order. -/
structure Represents (q : UnboundedQueue) (f : UnboundedFifo) : Prop where
  is_run_eq : q.is_run = f.is_run
  size_eq : q.size = q.queue.length
  nodup : q.queue.Nodup
  stores : (q.queue.map fun node => q.nodes.lookup node) = f.messages.map fun msg => some (.holding msg)

def Matches (q : UnboundedQueue) (f : UnboundedFifo) (s : UnboundedSection) : Prop :=
  StepMatches UnboundedQueue.step (fun f s => some (UnboundedFifo.step f s)) Represents q f s

variable {q : UnboundedQueue} {f : UnboundedFifo}

theorem create_represents : threadunboundedqueue_create.Represents .init :=
  ⟨rfl, rfl, List.nodup_nil, rfl⟩

namespace Represents

variable (h : q.Represents f)

variable (data : List UInt8) (calloc : NodeCalloc)

include h

variable {node : NodePtr}

theorem live (hnode : node ∈ q.queue) : node ∈ q.nodes := by
  have hlookup : q.nodes.lookup node ∈ f.messages.map fun msg => some (UnboundedNode.holding msg) := by
    rw [← h.stores]
    exact List.mem_map_of_mem hnode
  obtain ⟨msg, -, hmsg⟩ := List.mem_map.mp hlookup
  exact Memory.mem_iff.mpr ⟨_, hmsg.symm⟩

theorem length_eq : q.queue.length = f.messages.length := by
  have hlength := congrArg List.length h.stores
  rwa [List.length_map, List.length_map] at hlength

theorem lookup_alloc (value : UnboundedNode) (hnode : node ∈ q.queue) :
    (AList.insert (calloc.pick q.nodes) value q.nodes).lookup node = q.nodes.lookup node := by
  apply AList.lookup_insert_ne
  rintro rfl
  exact AList.lookup_eq_none.mp (calloc.fresh q.nodes) (h.live hnode)

theorem push : Represents
      { q with
        queue := q.queue ++ [calloc.pick q.nodes]
        size := q.size + 1
        nodes := AList.insert (calloc.pick q.nodes) (.holding data) q.nodes }
      { f with messages := f.messages ++ [data] } := by
  have hnew : calloc.pick q.nodes ∉ q.queue := fun hmem =>
    AList.lookup_eq_none.mp (calloc.fresh q.nodes) (h.live hmem)
  constructor
  · exact h.is_run_eq
  · show q.size + 1 = (q.queue ++ [calloc.pick q.nodes]).length
    rw [List.length_append, h.size_eq]
    rfl
  · exact List.nodup_append_comm.mp (List.nodup_cons.mpr ⟨hnew, h.nodup⟩)
  · have hold : (q.queue.map fun node => (AList.insert (calloc.pick q.nodes) (.holding data) q.nodes).lookup node) =
        q.queue.map fun node => q.nodes.lookup node :=
      List.map_congr_left fun node hnode => h.lookup_alloc calloc _ hnode
    show List.map _ (q.queue ++ _) = _
    rw [List.map_append, List.map_append, hold, h.stores, List.map_singleton, AList.lookup_insert]
    rfl

theorem pop {rest : List NodePtr} {msg : List UInt8} {messages : List (List UInt8)}
    (hqueue : q.queue = node :: rest) (hmessages : f.messages = msg :: messages) :
    Represents { q with queue := rest, size := q.size - 1, nodes := q.nodes.erase node }
      { f with messages := messages } := by
  have hnodup := h.nodup
  have hstores := h.stores
  have hsize := h.size_eq
  rw [hqueue] at hnodup hstores hsize
  rw [hmessages, List.map_cons, List.map_cons] at hstores
  obtain ⟨hnode, hrest⟩ := List.nodup_cons.mp hnodup
  constructor
  · exact h.is_run_eq
  · show q.size - 1 = rest.length
    rw [hsize]
    rfl
  · exact hrest
  · refine Eq.trans (List.map_congr_left fun other hother => ?_) (List.cons.inj hstores).2
    apply AList.lookup_erase_ne
    rintro rfl
    exact hnode hother

theorem stopped_iff : ¬ q.is_run = true ↔ f.is_run = false := by
  rw [h.is_run_eq, Bool.not_eq_true]

theorem push_matches : Agrees Represents (q.step (.push data calloc)) (f.step (.push data calloc)) := by
  refine .ite List.length_eq_zero_iff (fun _ => .keep h _) fun _ => ?_
  refine .ite Iff.rfl (fun _ => .keep h _) fun _ => ?_
  have hcopy : memcpy (List.replicate data.length 0) data data.length = some data := by
    simp [memcpy]
  rw [hcopy]
  by_cases hstopped : ¬ q.is_run = true
  · rw [if_pos (h.stopped_iff.mp hstopped)]
    refine ⟨_, congrArg some (if_pos hstopped), h.is_run_eq, h.size_eq, h.nodup, ?_⟩
    rw [← h.stores]
    exact List.map_congr_left fun node hnode => h.lookup_alloc calloc (.holding data) hnode
  · rw [if_neg (mt h.stopped_iff.mpr hstopped)]
    exact ⟨_, congrArg some (if_neg hstopped), h.push data calloc⟩

theorem pop_matches (buffer : PopBuffer) (ifEmpty : Outcome) (hrun : f.is_run = true) :
    Agrees Represents (if q.size = 0 then some (q, ifEmpty) else q.pop buffer) (f.pop buffer ifEmpty) := by
  have hstopped : ¬ f.is_run = false := by
    rw [hrun]
    decide
  rw [UnboundedFifo.pop, if_neg hstopped]
  cases hmessages : f.messages with
  | nil =>
    have hsize : q.size = 0 := by rw [h.size_eq, h.length_eq, hmessages, List.length_nil]
    rw [if_pos hsize]
    exact .keep h _
  | cons msg messages =>
    have hstores := h.stores
    rw [hmessages, List.map_cons] at hstores
    obtain ⟨node, rest, hqueue, hlookup, -⟩ := List.map_eq_cons_iff.mp hstores
    have hsize : q.size = rest.length + 1 := by rw [h.size_eq, hqueue, List.length_cons]
    rw [if_neg (by omega)]
    simp only [UnboundedQueue.pop, hqueue, hlookup, Option.bind_some]
    refine .ite Iff.rfl (fun _ => .keep h _) fun hlen => ?_
    have hcopy : memcpy buffer.data msg msg.length = some (msg ++ buffer.data.drop msg.length) := by
      have hfits := buffer.fits
      have hroom : msg.length ≤ buffer.data.length := Nat.le_trans (Nat.not_lt.mp hlen) hfits
      simp [memcpy, hroom]
    rw [UnboundedNode.holding, hcopy, Memory.free_of_lookup hlookup]
    exact ⟨_, rfl, h.pop hqueue hmessages⟩

theorem pop_block_matches (buffer : PopBuffer) (timeout : UInt32) (wait : Option Int) :
    Agrees Represents (q.step (.pop_block buffer timeout wait)) (f.step (.pop_block buffer timeout wait)) := by
  simp only [UnboundedQueue.step, threadunboundedqueue_pop_block, UnboundedFifo.step]
  cases waitError timeout wait with
  | some ret => exact .keep h _
  | none =>
    cases hrun : f.is_run with
    | false =>
      simp only [h.is_run_eq, hrun, UnboundedFifo.pop]
      exact .keep h _
    | true =>
      simp only [h.is_run_eq, hrun, true_and]
      exact h.pop_matches buffer .waits hrun

theorem pop_nonblock_matches (buffer : PopBuffer) :
    Agrees Represents (q.step (.pop_nonblock buffer)) (f.step (.pop_nonblock buffer)) := by
  simp only [UnboundedQueue.step, threadunboundedqueue_pop_nonblock, UnboundedFifo.step]
  cases hrun : f.is_run with
  | false =>
    simp only [h.is_run_eq, hrun, UnboundedFifo.pop]
    exact .keep h _
  | true =>
    simp only [h.is_run_eq, hrun]
    exact h.pop_matches buffer (.returns .ERR_NO_MSG) hrun

theorem stop_matches : Agrees Represents (q.step .stop) (f.step .stop) := by
  refine ⟨{ q with is_run := false }, ?_, { h with is_run_eq := rfl }⟩
  cases hrun : f.is_run with
  | false =>
    have hsame : { q with is_run := false } = q := by rw [← hrun, ← h.is_run_eq]
    simp [UnboundedQueue.step, threadunboundedqueue_stop, h.is_run_eq, hrun, hsame, UnboundedFifo.step]
  | true => simp [UnboundedQueue.step, threadunboundedqueue_stop, h.is_run_eq, hrun, UnboundedFifo.step]

variable {s : UnboundedSection}

theorem step_matches (s : UnboundedSection) : Matches q f s := by
  apply Agrees.stepMatches
  cases s with
  | push data calloc => exact h.push_matches data calloc
  | pop_block buffer timeout wait => exact h.pop_block_matches buffer timeout wait
  | pop_nonblock buffer => exact h.pop_nonblock_matches buffer
  | stop => exact h.stop_matches

end Represents

theorem freeAll_spec {queue : List NodePtr} {nodes : UnboundedNodes} (hnodup : queue.Nodup)
    (hlive : ∀ node ∈ queue, node ∈ nodes) :
    ∃ last, freeAll queue nodes = some last ∧ ∀ node, node ∈ last ↔ node ∈ nodes ∧ node ∉ queue := by
  induction queue generalizing nodes with
  | nil => exact ⟨nodes, rfl, by simp⟩
  | cons first rest ih =>
    obtain ⟨hfirst, hrest⟩ := List.nodup_cons.mp hnodup
    obtain ⟨value, hlookup⟩ := Memory.mem_iff.mp (hlive first List.mem_cons_self)
    let left : UnboundedNodes := (AList.insert first { value with len := 0 } nodes).erase first
    have hfree : Memory.free (AList.insert first { value with len := 0 } nodes) first = some left :=
      Memory.free_of_lookup (AList.lookup_insert nodes)
    have hleft : ∀ node, node ∈ left ↔ node ∈ nodes ∧ node ≠ first := by
      intro node
      simp only [left, AList.mem_erase, AList.mem_insert]
      tauto
    have hlive' : ∀ node ∈ rest, node ∈ left := by
      intro node hnode
      refine (hleft node).mpr ⟨hlive node (.tail _ hnode), ?_⟩
      rintro rfl
      exact hfirst hnode
    obtain ⟨last, hlast, hmem⟩ := ih hrest hlive'
    refine ⟨last, ?_, fun node => ?_⟩
    · rw [freeAll, hlookup, Option.bind_some, hfree]
      exact hlast
    · rw [hmem, hleft, List.mem_cons, not_or, and_assoc]

/-- Every allocated node is in the queue, and `threadunboundedqueue_uninit` would free all of
them. -/
structure Accounted (q : UnboundedQueue) : Prop where
  queued : ∀ node ∈ q.nodes, node ∈ q.queue
  uninit : ∃ nodes, q.threadunboundedqueue_uninit = some nodes ∧ ∀ node, node ∉ nodes

variable {next : UnboundedQueue}

def NotRefused (q : UnboundedQueue) : UnboundedSection → Prop
  | .push data calloc => ∀ next, q.step (.push data calloc) ≠ some (next, .returns .ERR_STOP)
  | .pop_block _ _ _ | .pop_nonblock _ | .stop => True

theorem Represents.accounted_iff (h : q.Represents f) : Accounted q ↔ ∀ node ∈ q.nodes, node ∈ q.queue := by
  refine ⟨fun haccounted => haccounted.queued, fun hqueued => ⟨hqueued, ?_⟩⟩
  obtain ⟨nodes, huninit, hmem⟩ := freeAll_spec h.nodup fun node hnode => h.live hnode
  refine ⟨nodes, huninit, fun node hnode => ?_⟩
  obtain ⟨hlive, hgone⟩ := (hmem node).mp hnode
  exact hgone (hqueued node hlive)

variable {outcome : Outcome} {s : UnboundedSection} {buffer : PopBuffer}

theorem push_cases {data : List UInt8} {calloc : NodeCalloc}
    (hpush : q.threadunboundedqueue_push data calloc = some (next, outcome)) :
    (next = q ∧ outcome ≠ .returns .ERR_STOP) ∨
      (outcome = .returns .ERR_STOP ∧ next.queue = q.queue ∧ calloc.pick q.nodes ∈ next.nodes) ∨
      (outcome = .returns .SUCCESS ∧ next.queue = q.queue ++ [calloc.pick q.nodes] ∧
        ∀ node, node ∈ next.nodes ↔ node = calloc.pick q.nodes ∨ node ∈ q.nodes) := by
  unfold threadunboundedqueue_push at hpush
  split at hpush
  · cases hpush
    exact .inl ⟨rfl, by decide⟩
  · split at hpush
    · cases hpush
      exact .inl ⟨rfl, by decide⟩
    · obtain ⟨contents, -, hnext⟩ := Option.map_eq_some_iff.mp hpush
      split at hnext
      · cases hnext
        exact .inr (.inl ⟨rfl, rfl, (AList.mem_insert q.nodes).mpr (.inl rfl)⟩)
      · cases hnext
        exact .inr (.inr ⟨rfl, rfl, fun node => AList.mem_insert q.nodes⟩)

def Shortens (q next : UnboundedQueue) (outcome : Outcome) : Prop :=
  next = q ∨ outcome ≠ .returns .ERR_LEN ∧ ∃ node, q.queue = node :: next.queue ∧ next.nodes = q.nodes.erase node

theorem pop_shortens (hpop : q.pop buffer = some (next, outcome)) :
    Shortens q next outcome := by
  unfold pop at hpop
  split at hpop
  · cases hpop
  · rename_i first rest hqueue
    obtain ⟨node, hlookup, hrest⟩ := Option.bind_eq_some_iff.mp hpop
    split at hrest
    · cases hrest
      exact .inl rfl
    · obtain ⟨data, -, hrest⟩ := Option.bind_eq_some_iff.mp hrest
      rw [Memory.free_of_lookup hlookup] at hrest
      cases hrest
      refine .inr ⟨fun heq => ?_, first, hqueue, rfl⟩
      cases heq

theorem pop_block_shortens {timeout : UInt32} {wait : Option Int}
    (hpop : q.threadunboundedqueue_pop_block buffer timeout wait = some (next, outcome)) : Shortens q next outcome := by
  unfold threadunboundedqueue_pop_block at hpop
  split at hpop
  · cases hpop
    exact .inl rfl
  · split at hpop
    · cases hpop
      exact .inl rfl
    · split at hpop
      · cases hpop
        exact .inl rfl
      · exact pop_shortens hpop

theorem pop_nonblock_shortens
    (hpop : q.threadunboundedqueue_pop_nonblock buffer = some (next, outcome)) : Shortens q next outcome := by
  unfold threadunboundedqueue_pop_nonblock at hpop
  split at hpop
  · cases hpop
    exact .inl rfl
  · split at hpop
    · cases hpop
      exact .inl rfl
    · exact pop_shortens hpop

theorem Shortens.queued (h : Shortens q next outcome) (hqueued : ∀ node ∈ q.nodes, node ∈ q.queue) :
    ∀ node ∈ next.nodes, node ∈ next.queue := by
  obtain rfl | ⟨-, first, hqueue, hnodes⟩ := h
  · exact hqueued
  · intro node hnode
    rw [hnodes, AList.mem_erase] at hnode
    have hmem := hqueued node hnode.2
    rw [hqueue] at hmem
    exact (List.mem_cons.mp hmem).resolve_left hnode.1

theorem Represents.queued_step_iff (h : q.Represents f)
    (hqueued : ∀ node ∈ q.nodes, node ∈ q.queue) (hstep : q.step s = some (next, outcome)) :
    (∀ node ∈ next.nodes, node ∈ next.queue) ↔ NotRefused q s := by
  cases s with
  | push data calloc =>
    have hunique : ∀ other result, q.step (.push data calloc) = some (other, result) → result = outcome := by
      intro other result hother
      cases hstep.symm.trans hother
      rfl
    have hfresh : calloc.pick q.nodes ∉ q.nodes := AList.lookup_eq_none.mp (calloc.fresh q.nodes)
    obtain ⟨rfl, hne⟩ | ⟨hstop, hqueue, hmem⟩ | ⟨hsuccess, hqueue, hmem⟩ := push_cases hstep
    · exact iff_of_true hqueued fun other hother => hne (hunique other _ hother).symm
    · refine iff_of_false (fun hall => ?_) (fun hnot => hnot next (hstop ▸ hstep))
      have hqueued' := hall _ hmem
      rw [hqueue] at hqueued'
      exact hfresh (h.live hqueued')
    · refine iff_of_true (fun node hnode => ?_) fun other hother => ?_
      · rw [hqueue, List.mem_append, List.mem_singleton]
        rcases (hmem node).mp hnode with rfl | hold
        · exact .inr rfl
        · exact .inl (hqueued node hold)
      · cases (hunique other _ hother).trans hsuccess
  | pop_block buffer timeout wait => exact iff_of_true ((pop_block_shortens hstep).queued hqueued) trivial
  | pop_nonblock buffer => exact iff_of_true ((pop_nonblock_shortens hstep).queued hqueued) trivial
  | stop =>
    refine iff_of_true ?_ trivial
    have hnext : next = (q.threadunboundedqueue_stop).1 := congrArg Prod.fst (Option.some.inj hstep).symm
    subst hnext
    unfold threadunboundedqueue_stop
    split
    · exact hqueued
    · exact hqueued

theorem eq_of_err_len (hstep : q.step s = some (next, .returns .ERR_LEN)) : next = q := by
  cases s with
  | push data calloc =>
    obtain ⟨rfl, -⟩ | ⟨hstop, -⟩ | ⟨hsuccess, -⟩ := push_cases hstep
    · rfl
    · cases hstop
    · cases hsuccess
  | pop_block buffer timeout wait => exact (pop_block_shortens hstep).resolve_right fun h => h.1 rfl
  | pop_nonblock buffer => exact (pop_nonblock_shortens hstep).resolve_right fun h => h.1 rfl
  | stop =>
    have houtcome : (q.threadunboundedqueue_stop).2 = .returns .ERR_LEN := congrArg Prod.snd (Option.some.inj hstep)
    unfold threadunboundedqueue_stop at houtcome
    split at houtcome <;> cases houtcome

theorem Represents.step (h : q.Represents f)
    (hstep : q.step s = some (next, outcome)) : next.Represents (f.step s).1 := by
  obtain ⟨q', f', result, hq', hf', hrepresents⟩ := h.step_matches s
  cases hstep.symm.trans hq'
  have hpair : f.step s = (f', outcome) := Option.some.inj hf'
  rw [hpair]
  exact hrepresents

theorem accounted_iff_notRefused (sections : List UnboundedSection) :
    Throughout after Accounted threadunboundedqueue_create sections ↔
      Meets after NotRefused threadunboundedqueue_create sections := by
  apply throughout_iff_meets fun q _ => ∃ f, q.Represents f
  · intro q s _ next hq hafter
    obtain ⟨f, hrepresents⟩ := hq
    obtain ⟨⟨q', outcome⟩, hstep, rfl⟩ := Option.map_eq_some_iff.mp hafter
    exact ⟨(f.step s).1, hrepresents.step hstep⟩
  · intro q s hafter
    have hnone : q.step s = none := Option.map_eq_none_iff.mp hafter
    cases s with
    | push data calloc =>
      intro next hstep
      cases hnone.symm.trans hstep
    | pop_block | pop_nonblock | stop => trivial
  · intro q s _ next hq haccounted hafter
    obtain ⟨f, hrepresents⟩ := hq
    obtain ⟨⟨q', outcome⟩, hstep, rfl⟩ := Option.map_eq_some_iff.mp hafter
    rw [(hrepresents.step hstep).accounted_iff]
    exact hrepresents.queued_step_iff haccounted.queued hstep
  · exact ⟨.init, create_represents⟩
  · refine create_represents.accounted_iff.mpr fun node hnode => ?_
    cases hnode

end UnboundedQueue

def UnboundedSection.pushed : UnboundedSection → Option (List UInt8)
  | .push data _ => some data
  | .pop_block _ _ _ | .pop_nonblock _ | .stop => none

namespace UnboundedFifo

def Accounts (f next : UnboundedFifo) (s : UnboundedSection) (outcome : Outcome) : Prop :=
  outcome.Accounts f.messages next.messages s.pushed

theorem accounts_pop (f : UnboundedFifo) (s : UnboundedSection) (buffer : PopBuffer) {ifEmpty : Outcome}
    (hempty : f.Accounts f s ifEmpty) : f.Accounts (f.pop buffer ifEmpty).1 s (f.pop buffer ifEmpty).2 := by
  unfold pop
  split
  · rfl
  · split
    · exact hempty
    · rename_i msg messages hmessages
      split
      · rfl
      · exact ⟨msg, hmessages, rfl, by simp⟩

theorem accounts_step (f : UnboundedFifo) (s : UnboundedSection) : f.Accounts (f.step s).1 s (f.step s).2 := by
  cases s with
  | push data calloc =>
    simp only [step]
    split
    · rfl
    · split
      · rfl
      · split
        · rfl
        · exact ⟨data, rfl, rfl⟩
  | pop_block buffer timeout wait =>
    simp only [step]
    split
    · rename_i ret hwait
      exact Outcome.accounts_of_waitError hwait
    · exact f.accounts_pop _ buffer rfl
  | pop_nonblock buffer => exact f.accounts_pop _ buffer rfl
  | stop => rfl

end UnboundedFifo

open UnboundedQueue

/-- The unbounded queue works like the FIFO in whatever order the calls get the mutex, and
its nodes are accounted for exactly as long as no push is refused because the queue was
stopped. -/
theorem threadunboundedqueue_is_fifo_iff (sections : List UnboundedSection) :
    (∃ q f outcomes, trace UnboundedQueue.step threadunboundedqueue_create sections = some (q, outcomes) ∧
      trace (fun f s => some (UnboundedFifo.step f s)) .init sections = some (f, outcomes) ∧ q.Represents f ∧
      ∀ s, ∃ next outcome, q.step s = some (next, outcome) ∧ f.step s = ((f.step s).1, outcome) ∧
        next.Represents (f.step s).1 ∧ f.Accounts (f.step s).1 s outcome ∧ (outcome = .returns .ERR_LEN → next = q)) ∧
    (Throughout after Accounted threadunboundedqueue_create sections ↔
      Meets after NotRefused threadunboundedqueue_create sections) := by
  refine ⟨?_, accounted_iff_notRefused sections⟩
  obtain ⟨q, f, outcomes, htrace, hfifo, hrepresents⟩ :=
    trace_simulation UnboundedQueue.Represents (fun q f s h => Represents.step_matches h s) create_represents sections
  refine ⟨q, f, outcomes, htrace, hfifo, hrepresents, fun s => ?_⟩
  obtain ⟨next, f', outcome, hstep, hspec, hnext⟩ := hrepresents.step_matches s
  have hpair : f.step s = (f', outcome) := Option.some.inj hspec
  have haccounts := f.accounts_step s
  rw [hpair] at haccounts ⊢
  refine ⟨next, outcome, hstep, rfl, hnext, haccounts, ?_⟩
  rintro rfl
  exact eq_of_err_len hstep

/-- A push after `threadunboundedqueue_stop` leaves its node allocated, outside the queue,
also after `threadunboundedqueue_uninit`. -/
theorem refused_push_loses_node :
    ∃ q outcomes nodes, trace UnboundedQueue.step threadunboundedqueue_create [.stop, .push [1] (.above false)] =
        some (q, outcomes) ∧ outcomes = [.stops true, .returns .ERR_STOP] ∧ q.queue = [] ∧ q.nodes.keys.length = 1 ∧
      q.threadunboundedqueue_uninit = some nodes ∧ nodes.keys.length = 1 :=
  ⟨_, _, _, rfl, rfl, rfl, rfl, rfl, rfl⟩

end hub.threadqueue
