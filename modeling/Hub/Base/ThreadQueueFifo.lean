import Hub.Base.ThreadQueue
import Hub.Lib.Ring
import Hub.Lib.Trace

namespace hub.threadqueue

/-- The bounded FIFO of byte strings that the queue is meant to be. Memory is only asked
for when a message is longer than `node_size`. -/
structure Fifo where
  capacity : Nat
  node_size : Nat
  is_run : Bool
  messages : List (List UInt8)

namespace Fifo

def init (capacity node_size : Nat) : Fifo where
  capacity := capacity
  node_size := node_size
  is_run := true
  messages := []

def push (f : Fifo) (data : List UInt8) (calloc : ExternCalloc) : Fifo × Outcome :=
  if f.node_size < data.length ∧ calloc.fails then (f, .returns .ERR_MEM)
  else ({ f with messages := f.messages ++ [data] }, .returns .SUCCESS)

/-- The oldest message goes to the front of the caller's buffer. -/
def pop (f : Fifo) (buffer : PopBuffer) (ifEmpty : Outcome) : Fifo × Outcome :=
  match f.messages with
  | [] => (f, ifEmpty)
  | msg :: messages =>
    if buffer.len < msg.length then (f, .returns .ERR_LEN)
    else ({ f with messages := messages }, .pops (msg ++ buffer.data.drop msg.length) msg.length)

def step (f : Fifo) : Section → Fifo × Outcome
  | .push_block data timeout wait calloc =>
    if data = [] then (f, .returns .ERR_ARG)
    else
      match waitError timeout wait with
      | some ret => (f, .returns ret)
      | none =>
        if f.is_run = false then (f, .returns .ERR_STOP)
        else if f.messages.length = f.capacity then (f, .waits)
        else f.push data calloc
  | .push_nonblock data calloc =>
    if data = [] then (f, .returns .ERR_ARG)
    else if f.is_run = false then (f, .returns .ERR_STOP)
    else if f.messages.length = f.capacity then (f, .returns .ERR_FULL)
    else f.push data calloc
  | .pop_block buffer timeout wait =>
    match waitError timeout wait with
    | some ret => (f, .returns ret)
    | none => if f.is_run = false then (f, .returns .ERR_STOP) else f.pop buffer .waits
  | .pop_nonblock buffer =>
    if f.is_run = false then (f, .returns .ERR_STOP) else f.pop buffer (.returns .ERR_NO_MSG)
  | .stop => ({ f with is_run := false }, .stops f.is_run)

end Fifo

def Node.Stores (externs : Externs) (node_size : Nat) (node : Node) (msg : List UInt8) : Prop :=
  node.len = msg.length ∧
    if node_size < msg.length then
      node.is_extern = true ∧ ∃ address, node.p_extern = some address ∧ externs.lookup address = some msg
    else node.is_extern = false ∧ node.p_extern = none ∧ node.data.take msg.length = msg

def Node.Idle (node : Node) : Prop := node.is_extern = false ∧ node.p_extern = none

namespace Queue

def nodeAt (q : Queue) (i : Nat) : Option Node := q.nodes[ringSlot q.capacity q.tail i]?

def externOf (q : Queue) (i : Nat) : Option Address := (q.nodeAt i).bind Node.p_extern

/-- The queue is in the state of the FIFO: its nodes hold the messages in order, and the
extern buffers are those of the long messages, each of one message. -/
structure Represents (q : Queue) (f : Fifo) : Prop where
  capacity_eq : q.capacity = f.capacity
  node_size_eq : q.node_size = f.node_size
  is_run_eq : q.is_run = f.is_run
  count_eq : q.count = f.messages.length
  count_le : q.count ≤ q.capacity
  length_nodes : q.nodes.length = q.capacity
  length_data : ∀ node ∈ q.nodes, node.data.length = q.node_size
  tail_lt : q.tail < q.capacity
  head_eq : q.head = ringSlot q.capacity q.tail q.count
  stores : ∀ i msg, f.messages[i]? = some msg → ∃ node, q.nodeAt i = some node ∧
    node.Stores q.externs q.node_size msg
  idle : ∀ i, q.count ≤ i → i < q.capacity → ∃ node, q.nodeAt i = some node ∧ node.Idle
  live : ∀ address, address ∈ q.externs ↔ ∃ i < q.count, q.externOf i = some address
  owned : ∀ i j address, i < q.count → j < q.count → q.externOf i = some address → q.externOf j = some address → i = j

/-- The section has a defined outcome, which is the one of the FIFO. -/
def Matches (q : Queue) (f : Fifo) (s : Section) : Prop :=
  StepMatches Queue.step (fun f s => some (Fifo.step f s)) Represents q f s

end Queue

theorem memcpy_prefix {dest source : List UInt8} {len : Nat} (hsource : len ≤ source.length)
    (hdest : len ≤ dest.length) :
    memcpy dest source len = some (source.take len ++ dest.drop len) :=
  if_pos ⟨hsource, hdest⟩

namespace Node

variable {node : Node} {externs : Externs} {node_size : Nat} {msg data : List UInt8}

theorem Idle.recycle_eq (h : node.Idle) (externs : Externs) : node.recycle externs = some (node, externs) := by
  simp [recycle, h.1]

theorem Stores.of_kept {externs' : Externs} (h : node.Stores externs node_size msg)
    (hkept : ∀ address, node.p_extern = some address → externs.lookup address = some msg →
      externs'.lookup address = some msg) : node.Stores externs' node_size msg := by
  obtain ⟨hlen, hstored⟩ := h
  refine ⟨hlen, ?_⟩
  split
  · rename_i hlong
    rw [if_pos hlong] at hstored
    obtain ⟨hflagged, address, haddress, hlookup⟩ := hstored
    exact ⟨hflagged, address, haddress, hkept address haddress hlookup⟩
  · rename_i hshort
    rwa [if_neg hshort] at hstored

theorem Stores.unload_eq (h : node.Stores externs node_size msg) (hfits : msg.length ≤ data.length)
    (hdata : node.data.length = node_size) :
    ∃ node' externs', node.unload externs data = some (msg ++ data.drop msg.length, node', externs') ∧ node'.Idle ∧
      node'.len = msg.length ∧ node'.data = node.data ∧
      ∀ address contents, externs'.lookup address = some contents ↔
        node.p_extern ≠ some address ∧ externs.lookup address = some contents := by
  obtain ⟨hlen, hstored⟩ := h
  by_cases hlong : node_size < msg.length
  · rw [if_pos hlong] at hstored
    obtain ⟨hflagged, address, haddress, hlookup⟩ := hstored
    refine ⟨{ node with p_extern := none, is_extern := false }, externs.erase address, ?_, ⟨rfl, rfl⟩, hlen, rfl, ?_⟩
    · simp [unload, hflagged, haddress, hlookup, memcpy, hlen, hfits, Memory.free]
    · intro other contents
      rw [UnorderedMap.lookup_erase_eq_some, haddress, ne_eq, ne_eq, Option.some.injEq, eq_comm]
  · rw [if_neg hlong] at hstored
    obtain ⟨hflagged, haddress, hbytes⟩ := hstored
    refine ⟨node, externs, ?_, ⟨hflagged, haddress⟩, hlen, rfl, by simp [haddress]⟩
    have hroom : msg.length ≤ node.data.length := by omega
    simp [unload, hflagged, memcpy, hlen, hfits, hroom, hbytes]

end Node

namespace Queue

variable {q : Queue}

theorem threadboundedqueue_create_represents {node_num node_size : Nat} {allocates : Bool} (hnum : 1 ≤ node_num)
    (hcreate : threadboundedqueue_create node_num node_size allocates = some q) :
    q.Represents (Fifo.init node_num node_size) := by
  simp only [threadboundedqueue_create] at hcreate
  split at hcreate
  swap
  · cases hcreate
  cases hcreate
  refine
    { capacity_eq := rfl
      node_size_eq := rfl
      is_run_eq := rfl
      count_eq := rfl
      count_le := Nat.zero_le _
      length_nodes := List.length_replicate
      length_data := ?_
      tail_lt := hnum
      head_eq := (ringSlot_zero hnum).symm
      stores := ?_
      idle := ?_
      live := ?_
      owned := ?_ }
  · intro node hnode
    rw [List.eq_of_mem_replicate hnode, List.length_replicate]
  · intro i msg hmsg
    simp [Fifo.init] at hmsg
  · intro i _ hi
    have hslot : ringSlot node_num 0 i < node_num := ringSlot_lt hnum
    exact ⟨{ is_extern := false, len := 0, p_extern := none, data := List.replicate node_size 0 },
      List.getElem?_replicate_of_lt hslot, rfl, rfl⟩
  · intro address
    simp
  · intro i j address hi
    exact absurd hi (Nat.not_lt_zero i)

/-- Every extern buffer belongs to exactly one of the first `count` messages. -/
structure Assigned (externs : Externs) (count : Nat) (buffer : Nat → Option Address) : Prop where
  live : ∀ address, address ∈ externs ↔ ∃ i < count, buffer i = some address
  owned : ∀ i j address, i < count → j < count → buffer i = some address → buffer j = some address → i = j

namespace Assigned

variable {externs externs' : Externs} {count : Nat} {buffer buffer' : Nat → Option Address}

theorem push (h : Assigned externs count buffer) {new : Option Address} (hold : ∀ i < count, buffer' i = buffer i)
    (hlast : buffer' count = new) (hlive : ∀ address, address ∈ externs' ↔ address ∈ externs ∨ new = some address)
    (hnew : ∀ address, new = some address → address ∉ externs) : Assigned externs' (count + 1) buffer' := by
  have hcases : ∀ i address, i < count + 1 → buffer' i = some address →
      i = count ∧ new = some address ∨ i < count ∧ buffer i = some address := by
    intro i address hi hbuffer
    rcases Nat.lt_succ_iff_lt_or_eq.mp hi with hlt | rfl
    · exact .inr ⟨hlt, (hold i hlt).symm.trans hbuffer⟩
    · exact .inl ⟨rfl, hlast.symm.trans hbuffer⟩
  have hfresh : ∀ i address, i < count → buffer i = some address → new ≠ some address :=
    fun i address hi hbuffer heq => hnew address heq ((h.live address).mpr ⟨i, hi, hbuffer⟩)
  constructor
  · intro address
    rw [hlive, h.live]
    constructor
    · rintro (⟨i, hi, hbuffer⟩ | heq)
      · exact ⟨i, Nat.lt_succ_of_lt hi, (hold i hi).trans hbuffer⟩
      · exact ⟨count, Nat.lt_succ_self count, hlast.trans heq⟩
    · rintro ⟨i, hi, hbuffer⟩
      obtain ⟨-, heq⟩ | hbefore := hcases i address hi hbuffer
      · exact .inr heq
      · exact .inl ⟨i, hbefore⟩
  · intro i j address hi hj hbuffer hbuffer'
    obtain ⟨rfl, heq⟩ | ⟨hi, hbefore⟩ := hcases i address hi hbuffer
    · obtain ⟨rfl, -⟩ | ⟨hj, hbefore'⟩ := hcases j address hj hbuffer'
      · rfl
      · exact absurd heq (hfresh j address hj hbefore')
    · obtain ⟨-, heq⟩ | ⟨hj, hbefore'⟩ := hcases j address hj hbuffer'
      · exact absurd heq (hfresh i address hi hbefore)
      · exact h.owned i j address hi hj hbefore hbefore'

theorem pop (h : Assigned externs (count + 1) buffer) (hnext : ∀ i < count, buffer' i = buffer (i + 1))
    (hlive : ∀ address, address ∈ externs' ↔ buffer 0 ≠ some address ∧ address ∈ externs) :
    Assigned externs' count buffer' := by
  constructor
  · intro address
    rw [hlive, h.live]
    constructor
    · rintro ⟨hfirst, i, hi, hbuffer⟩
      cases i with
      | zero => exact absurd hbuffer hfirst
      | succ i => exact ⟨i, Nat.lt_of_succ_lt_succ hi, (hnext i (Nat.lt_of_succ_lt_succ hi)).trans hbuffer⟩
    · rintro ⟨i, hi, hbuffer⟩
      rw [hnext i hi] at hbuffer
      refine ⟨fun hfirst => ?_, i + 1, Nat.succ_lt_succ hi, hbuffer⟩
      have hsame := h.owned 0 (i + 1) address (Nat.succ_pos count) (Nat.succ_lt_succ hi) hfirst hbuffer
      omega
  · intro i j address hi hj hbuffer hbuffer'
    rw [hnext i hi] at hbuffer
    rw [hnext j hj] at hbuffer'
    have hsame := h.owned (i + 1) (j + 1) address (Nat.succ_lt_succ hi) (Nat.succ_lt_succ hj) hbuffer hbuffer'
    omega

end Assigned

namespace Represents

variable {f : Fifo}

variable (h : q.Represents f)

variable {externs : Externs} {i : Nat} {node : Node} (data : List UInt8) (buffer : PopBuffer)
  (timeout : UInt32) (wait : Option Int) (calloc : ExternCalloc)

include h

theorem assigned : Assigned q.externs q.count q.externOf := ⟨h.live, h.owned⟩

theorem capacity_pos : 0 < q.capacity := Nat.zero_lt_of_lt h.tail_lt

theorem nodeAt_pop (hi : i < q.capacity) (node : Node) :
    (q.nodes.set q.tail node)[ringSlot q.capacity ((q.tail + 1) % q.capacity) i]? =
      if i + 1 = q.capacity then some node else q.nodeAt (i + 1) := by
  have hpos := h.capacity_pos
  have hset (j : Nat) (hj : j < q.capacity) : (q.nodes.set q.tail node)[ringSlot q.capacity q.tail j]? =
      if j = 0 then some node else q.nodeAt j := by
    have hj' : j < q.nodes.length := h.length_nodes ▸ hj
    have hpos' : 0 < q.nodes.length := h.length_nodes ▸ hpos
    have hset := @getElem?_set_ringSlot _ q.nodes q.tail j 0 hj' hpos' node
    rwa [h.length_nodes, ringSlot_zero h.tail_lt] at hset
  rw [ringSlot_advance]
  by_cases hlast : i + 1 = q.capacity
  · rw [if_pos hlast, hlast, ringSlot_capacity, hset 0 hpos, if_pos rfl]
  · rw [if_neg hlast, hset (i + 1) (by omega), if_neg (Nat.succ_ne_zero i)]

theorem push {data : List UInt8} (hroom : q.count < q.capacity) (hdata : node.data.length = q.node_size)
    (hstores : node.Stores externs q.node_size data)
    (hkept : ∀ address contents, q.externs.lookup address = some contents → externs.lookup address = some contents)
    (hlive : ∀ address, address ∈ externs ↔ address ∈ q.externs ∨ node.p_extern = some address)
    (hnew : ∀ address, node.p_extern = some address → address ∉ q.externs) : Represents
      { q with
        nodes := q.nodes.set q.head node
        externs := externs
        head := (q.head + 1) % q.capacity
        count := q.count + 1 }
      { f with messages := f.messages ++ [data] } := by
  let q' : Queue :=
    { q with
      nodes := q.nodes.set q.head node
      externs := externs
      head := (q.head + 1) % q.capacity
      count := q.count + 1 }
  have hnode (i : Nat) (hi : i < q.capacity) : q'.nodeAt i = if i = q.count then some node else q.nodeAt i := by
    have hset := @getElem?_set_ringSlot _ q.nodes q.tail i q.count (h.length_nodes ▸ hi) (h.length_nodes ▸ hroom) node
    rw [h.length_nodes] at hset
    change (q.nodes.set q.head node)[ringSlot q.capacity q.tail i]? = _
    rw [h.head_eq, hset, nodeAt]
  have hassigned : Assigned externs (q.count + 1) q'.externOf := by
    refine h.assigned.push (fun i hi => ?_) ?_ hlive hnew
    · rw [externOf, hnode i (hi.trans hroom), if_neg (Nat.ne_of_lt hi), externOf]
    · rw [externOf, hnode q.count hroom, if_pos rfl]
      rfl
  refine
    { capacity_eq := h.capacity_eq
      node_size_eq := h.node_size_eq
      is_run_eq := h.is_run_eq
      count_eq := ?_
      count_le := hroom
      length_nodes := by rw [List.length_set, h.length_nodes]
      length_data := ?_
      tail_lt := h.tail_lt
      head_eq := ?_
      stores := ?_
      idle := ?_
      live := hassigned.live
      owned := hassigned.owned }
  · simp [h.count_eq]
  · intro other hother
    rcases List.mem_or_eq_of_mem_set hother with hmem | rfl
    · exact h.length_data other hmem
    · exact hdata
  · rw [h.head_eq, ringSlot_succ]
  · intro i msg hmsg
    by_cases hi : i < f.messages.length
    · rw [List.getElem?_append_left hi] at hmsg
      obtain ⟨old, hold, hstored⟩ := h.stores i msg hmsg
      have hcount : i < q.count := h.count_eq ▸ hi
      refine ⟨old, ?_, hstored.of_kept fun address _ => hkept address msg⟩
      exact (hnode i (by omega)).trans (by rw [if_neg (by omega), hold])
    · have hlast : i = q.count ∧ msg = data := by
        have hlt : i < (f.messages ++ [data]).length := (List.getElem?_eq_some_iff.mp hmsg).1
        have hi' : i = f.messages.length := by
          simp at hlt
          omega
        subst hi'
        simp at hmsg
        exact ⟨h.count_eq.symm, hmsg.symm⟩
      obtain ⟨rfl, rfl⟩ := hlast
      exact ⟨node, (hnode _ hroom).trans (if_pos rfl), hstores⟩
  · intro i hcount hi
    change q.count + 1 ≤ i at hcount
    obtain ⟨old, hold, hidle⟩ := h.idle i (by omega) hi
    exact ⟨old, (hnode i hi).trans (by rw [if_neg (by omega), hold]), hidle⟩

theorem pop {msg : List UInt8} {messages : List (List UInt8)} {old : Node}
    (hmessages : f.messages = msg :: messages) (hold : q.nodeAt 0 = some old) (hidle : node.Idle)
    (hdata : node.data.length = q.node_size)
    (hexterns : ∀ address contents, externs.lookup address = some contents ↔
      old.p_extern ≠ some address ∧ q.externs.lookup address = some contents) : Represents
      { q with
        nodes := q.nodes.set q.tail node
        externs := externs
        tail := (q.tail + 1) % q.capacity
        count := q.count - 1 }
      { f with messages := messages } := by
  let q' : Queue :=
    { q with
      nodes := q.nodes.set q.tail node
      externs := externs
      tail := (q.tail + 1) % q.capacity
      count := q.count - 1 }
  have hcount : q.count = messages.length + 1 := by rw [h.count_eq, hmessages, List.length_cons]
  have hle := h.count_le
  have hnode (i : Nat) (hi : i < q.capacity) :
      q'.nodeAt i = if i + 1 = q.capacity then some node else q.nodeAt (i + 1) := h.nodeAt_pop hi node
  have hold' : q.externOf 0 = old.p_extern := by rw [externOf, hold]; rfl
  have hassigned : Assigned externs (q.count - 1) q'.externOf := by
    have hbefore := h.assigned
    rw [show q.count = q.count - 1 + 1 by omega] at hbefore
    refine hbefore.pop (fun i hi => ?_) fun address => ?_
    · rw [externOf, hnode i (by omega), if_neg (by omega), externOf]
    · simp only [Memory.mem_iff, hexterns, hold', exists_and_left]
  refine
    { capacity_eq := h.capacity_eq
      node_size_eq := h.node_size_eq
      is_run_eq := h.is_run_eq
      count_eq := ?_
      count_le := ?_
      length_nodes := by rw [List.length_set, h.length_nodes]
      length_data := ?_
      tail_lt := Nat.mod_lt _ h.capacity_pos
      head_eq := ?_
      stores := ?_
      idle := ?_
      live := hassigned.live
      owned := hassigned.owned }
  · change q.count - 1 = messages.length
    omega
  · change q.count - 1 ≤ q.capacity
    omega
  · intro other hother
    rcases List.mem_or_eq_of_mem_set hother with hmem | rfl
    · exact h.length_data other hmem
    · exact hdata
  · change q.head = ringSlot q.capacity ((q.tail + 1) % q.capacity) (q.count - 1)
    rw [ringSlot_advance, h.head_eq]
    congr
    omega
  · intro i m hm
    have hi : i < messages.length := (List.getElem?_eq_some_iff.mp hm).1
    obtain ⟨stored, hstored, hbytes⟩ := h.stores (i + 1) m (by rw [hmessages, List.getElem?_cons_succ, hm])
    refine ⟨stored, (hnode i (by omega)).trans (by rw [if_neg (by omega), hstored]), hbytes.of_kept ?_⟩
    intro address haddress hlookup
    -- the buffers that stay are those of the messages behind the oldest one
    have hbuffer : q.externOf (i + 1) = some address := by
      rw [externOf, hstored]
      exact haddress
    refine (hexterns address m).mpr ⟨fun hfirst => ?_, hlookup⟩
    have hsame := h.owned 0 (i + 1) address (by omega) (by omega) (hold'.trans hfirst) hbuffer
    omega
  · intro i hi hi'
    change q.count - 1 ≤ i at hi
    by_cases hlast : i + 1 = q.capacity
    · exact ⟨node, (hnode i hi').trans (if_pos hlast), hidle⟩
    · change i < q.capacity at hi'
      obtain ⟨stored, hstored, hidle'⟩ := h.idle (i + 1) (by omega) (by omega)
      exact ⟨stored, (hnode i hi').trans (by rw [if_neg hlast, hstored]), hidle'⟩

theorem push_matches {data : List UInt8} (hroom : q.count < q.capacity) :
    Agrees Represents (q.push data calloc) (f.push data calloc) := by
  obtain ⟨node, hnode, hidle⟩ := h.idle q.count (Nat.le_refl _) hroom
  have hhead : q.nodes[q.head]? = some node := by rw [h.head_eq]; exact hnode
  have hmem : node ∈ q.nodes := List.mem_of_getElem? hhead
  simp only [Queue.push, hhead, Option.bind_some, hidle.recycle_eq, Fifo.push]
  by_cases hlong : data.length > q.node_size
  · have hlong' : f.node_size < data.length := h.node_size_eq ▸ hlong
    by_cases hfails : calloc.fails = true
    · rw [if_pos hlong, if_pos hfails, if_pos ⟨hlong', hfails⟩]
      have hsame : q.nodes.set q.head { node with p_extern := none } = q.nodes := by
        have hnone : ({ node with p_extern := none } : Node) = node := by rw [← hidle.2]
        obtain ⟨hlt, hget⟩ := List.getElem?_eq_some_iff.mp hhead
        rw [hnone, ← hget, List.set_getElem_self]
      rw [hsame]
      exact .keep h _
    · have hfresh := calloc.fresh q.externs
      rw [if_pos hlong, if_neg hfails, if_neg fun hboth => hfails hboth.2,
        memcpy_prefix (Nat.le_refl _) (Nat.le_of_eq List.length_replicate.symm)]
      refine ⟨_, rfl, h.push hroom ?_ ?_ ?_ ?_ ?_⟩
      · exact h.length_data node hmem
      · refine ⟨rfl, ?_⟩
        rw [if_pos hlong]
        exact ⟨rfl, _, rfl, by simp⟩
      · intro address contents hlookup
        exact UnorderedMap.lookup_insert_eq_some.mpr (.inr ⟨by rintro rfl; simp [hfresh] at hlookup, hlookup⟩)
      · intro address
        rw [AList.mem_insert, or_comm, Option.some.injEq, eq_comm]
      · intro address haddress
        cases haddress
        exact AList.lookup_eq_none.mp hfresh
  · have hfits : data.length ≤ node.data.length := by rw [h.length_data node hmem]; omega
    have hshort : ¬ (f.node_size < data.length ∧ calloc.fails = true) := by
      rw [← h.node_size_eq]
      exact fun hboth => hlong hboth.1
    rw [if_neg hlong, if_neg hshort, memcpy_prefix (Nat.le_refl _) hfits]
    refine ⟨_, rfl, h.push hroom ?_ ?_ (fun _ _ hlookup => hlookup) ?_ ?_⟩
    · rw [← h.length_data node hmem]
      simp
      omega
    · refine ⟨rfl, ?_⟩
      rw [if_neg hlong]
      exact ⟨hidle.1, hidle.2, by simp⟩
    · simp [hidle.2]
    · simp [hidle.2]

theorem pop_matches (ifEmpty : Outcome) :
    Agrees Represents (if q.count = 0 then some (q, ifEmpty) else q.pop buffer) (f.pop buffer ifEmpty) := by
  have hcount := h.count_eq
  cases hmessages : f.messages with
  | nil =>
    rw [hmessages, List.length_nil] at hcount
    rw [if_pos hcount, Fifo.pop, hmessages]
    exact .keep h _
  | cons msg messages =>
    rw [hmessages, List.length_cons] at hcount
    obtain ⟨node, hnode, hstores⟩ := h.stores 0 msg (by rw [hmessages]; rfl)
    have htail : q.nodes[q.tail]? = some node := by
      rwa [nodeAt, ringSlot_zero h.tail_lt] at hnode
    have hdata := h.length_data node (List.mem_of_getElem? htail)
    rw [if_neg (by omega)]
    simp only [Queue.pop, htail, Option.bind_some, Fifo.pop, hmessages, hstores.1]
    refine .ite Iff.rfl (fun _ => .keep h _) fun hlen => ?_
    have hfits : msg.length ≤ buffer.data.length := by
      have := buffer.fits
      omega
    obtain ⟨node', externs', hunload, hidle, hlen', hdata', hexterns⟩ := hstores.unload_eq hfits hdata
    rw [hunload]
    have hidle' : Node.Idle { node' with len := 0 } := hidle
    refine ⟨_, by simp only [Option.map_some, hlen']; rfl, ?_⟩
    exact h.pop hmessages hnode hidle' (hdata'.symm ▸ hdata) hexterns

theorem full_iff : q.count ≥ q.capacity ↔ f.messages.length = f.capacity := by
  have hle := h.count_le
  rw [← h.count_eq, ← h.capacity_eq]
  omega

theorem stopped_iff : ¬ q.is_run = true ↔ f.is_run = false := by
  rw [h.is_run_eq, Bool.not_eq_true]

theorem push_or_full (ifFull : Outcome) :
    Agrees Represents (if q.count ≥ q.capacity then some (q, ifFull) else q.push data calloc)
      (if f.messages.length = f.capacity then (f, ifFull) else f.push data calloc) :=
  .ite h.full_iff (fun _ => .keep h _) fun hfull => h.push_matches calloc (Nat.lt_of_not_le hfull)

theorem push_block_matches :
    Agrees Represents (q.step (.push_block data timeout wait calloc))
      (f.step (.push_block data timeout wait calloc)) := by
  refine .ite List.length_eq_zero_iff (fun _ => .keep h _) fun _ => ?_
  cases waitError timeout wait with
  | some ret => exact .keep h _
  | none =>
    cases hrun : f.is_run with
    | false =>
      simp only [h.is_run_eq, hrun]
      exact .keep h _
    | true =>
      simp only [h.is_run_eq, hrun, true_and]
      exact h.push_or_full data calloc .waits

theorem push_nonblock_matches :
    Agrees Represents (q.step (.push_nonblock data calloc)) (f.step (.push_nonblock data calloc)) := by
  refine .ite List.length_eq_zero_iff (fun _ => .keep h _) fun _ => ?_
  refine .ite h.stopped_iff (fun _ => .keep h _) fun _ => ?_
  exact h.push_or_full data calloc (.returns .ERR_FULL)

theorem pop_block_matches :
    Agrees Represents (q.step (.pop_block buffer timeout wait)) (f.step (.pop_block buffer timeout wait)) := by
  simp only [step, threadboundedqueue_pop_block, Fifo.step]
  cases waitError timeout wait with
  | some ret => exact .keep h _
  | none =>
    cases hrun : f.is_run with
    | false =>
      simp only [h.is_run_eq, hrun]
      exact .keep h _
    | true =>
      simp only [h.is_run_eq, hrun, true_and]
      exact h.pop_matches buffer .waits

theorem pop_nonblock_matches :
    Agrees Represents (q.step (.pop_nonblock buffer)) (f.step (.pop_nonblock buffer)) :=
  .ite h.stopped_iff (fun _ => .keep h _) fun _ => h.pop_matches buffer (.returns .ERR_NO_MSG)

theorem stop_matches : Agrees Represents (q.step .stop) (f.step .stop) := by
  refine ⟨{ q with is_run := false }, ?_, { h with is_run_eq := rfl }⟩
  cases hrun : f.is_run with
  | false =>
    have hsame : { q with is_run := false } = q := by rw [← hrun, ← h.is_run_eq]
    simp [step, threadboundedqueue_stop, h.is_run_eq, hrun, hsame, Fifo.step]
  | true => simp [step, threadboundedqueue_stop, h.is_run_eq, hrun, Fifo.step]

theorem step_matches (s : Section) : Matches q f s := by
  apply Agrees.stepMatches
  cases s with
  | push_block data timeout wait calloc => exact h.push_block_matches data timeout wait calloc
  | push_nonblock data calloc => exact h.push_nonblock_matches data calloc
  | pop_block buffer timeout wait => exact h.pop_block_matches buffer timeout wait
  | pop_nonblock buffer => exact h.pop_nonblock_matches buffer
  | stop => exact h.stop_matches

end Represents

end Queue

def Section.pushed : Section → Option (List UInt8)
  | .push_block data .. | .push_nonblock data _ => some data
  | _ => none

/-- `SUCCESS` of a push adds its message as the newest one, a pop returns the oldest one,
and nothing else changes the messages. -/
def Outcome.Accounts (before after : List (List UInt8)) (pushed : Option (List UInt8)) : Outcome → Prop
  | .returns .SUCCESS => ∃ data, pushed = some data ∧ after = before ++ [data]
  | .pops data len => ∃ msg, before = msg :: after ∧ len = msg.length ∧ data.take len = msg
  | _ => after = before

theorem Outcome.accounts_of_waitError {messages : List (List UInt8)} {pushed : Option (List UInt8)} {timeout : UInt32}
    {wait : Option Int} {ret : Ret} (hwait : waitError timeout wait = some ret) :
    (Outcome.returns ret).Accounts messages messages pushed := by
  cases ret with
  | SUCCESS => exact absurd rfl (waitError_ne_success hwait)
  | _ => rfl

def Fifo.Accounts (f f' : Fifo) (s : Section) (outcome : Outcome) : Prop :=
  outcome.Accounts f.messages f'.messages s.pushed

namespace Fifo

variable {s : Section} (f : Fifo)

theorem accounts_push {data : List UInt8} (calloc : ExternCalloc) (hs : s.pushed = some data) :
    f.Accounts (f.push data calloc).1 s (f.push data calloc).2 := by
  unfold push
  split
  · rfl
  · exact ⟨data, hs, rfl⟩

theorem accounts_pop (s : Section) (buffer : PopBuffer) {ifEmpty : Outcome} (hempty : f.Accounts f s ifEmpty) :
    f.Accounts (f.pop buffer ifEmpty).1 s (f.pop buffer ifEmpty).2 := by
  unfold pop
  split
  · exact hempty
  · rename_i msg messages hmessages
    split
    · rfl
    · exact ⟨msg, hmessages, rfl, by simp⟩

theorem accounts_step (s : Section) : f.Accounts (f.step s).1 s (f.step s).2 := by
  cases s with
  | push_block data timeout wait calloc =>
    simp only [step]
    split
    · rfl
    · split
      · rename_i ret hwait
        exact Outcome.accounts_of_waitError hwait
      · split
        · rfl
        · split
          · rfl
          · exact f.accounts_push calloc rfl
  | push_nonblock data calloc =>
    simp only [step]
    split
    · rfl
    · split
      · rfl
      · split
        · rfl
        · exact f.accounts_push calloc rfl
  | pop_block buffer timeout wait =>
    simp only [step]
    split
    · rename_i ret hwait
      exact Outcome.accounts_of_waitError hwait
    · split
      · rfl
      · exact f.accounts_pop _ buffer rfl
  | pop_nonblock buffer =>
    simp only [step]
    split
    · rfl
    · exact f.accounts_pop _ buffer rfl
  | stop => rfl

end Fifo

/-- Every queue that was created works like the bounded FIFO, in whatever order the calls
get the mutex. -/
theorem threadboundedqueue_is_fifo {node_num node_size : Nat} {allocates : Bool} {q₀ : Queue} (hnum : 1 ≤ node_num)
    (hcreate : threadboundedqueue_create node_num node_size allocates = some q₀) (sections : List Section) :
    ∃ q f outcomes, trace Queue.step q₀ sections = some (q, outcomes) ∧
      trace (fun f s => some (Fifo.step f s)) (Fifo.init node_num node_size) sections = some (f, outcomes) ∧
      q.Represents f ∧
      ∀ s, ∃ q' outcome, q.step s = some (q', outcome) ∧ f.step s = ((f.step s).1, outcome) ∧
        q'.Represents (f.step s).1 ∧ f.Accounts (f.step s).1 s outcome := by
  obtain ⟨q, f, outcomes, htrace, hfifo, hrepresents⟩ :=
    trace_simulation Queue.Represents (fun q f s h => Queue.Represents.step_matches h s)
      (Queue.threadboundedqueue_create_represents hnum hcreate) sections
  refine ⟨q, f, outcomes, htrace, hfifo, hrepresents, fun s => ?_⟩
  obtain ⟨q', f', outcome, hstep, hspec, hrepresents'⟩ := hrepresents.step_matches s
  have hpair : f.step s = (f', outcome) := Option.some.inj hspec
  have haccounts := f.accounts_step s
  rw [hpair] at haccounts ⊢
  exact ⟨q', outcome, hstep, rfl, hrepresents', haccounts⟩

/-- Two nodes of one byte. A long message, a push that finds no memory, a short one, a full
queue, a buffer that is too small, and the messages in order. -/
theorem two_nodes_are_fifo :
    ∃ q₀ q outcomes, threadboundedqueue_create 2 1 true = some q₀ ∧
      trace Queue.step q₀
        [.push_nonblock [1, 2] (.above false), .push_nonblock [3, 4] (.above true),
          .push_block [5] 0 none (.above false),
          .push_nonblock [6] (.above false), .pop_nonblock ⟨[0], 1, by decide⟩, .pop_nonblock ⟨[0, 0, 0], 3, by decide⟩,
          .pop_block ⟨[0, 0], 2, by decide⟩ 5 none, .stop, .push_nonblock [7] (.above false)] = some (q, outcomes) ∧
      outcomes = [.returns .SUCCESS, .returns .ERR_MEM, .returns .SUCCESS, .returns .ERR_FULL, .returns .ERR_LEN,
        .pops [1, 2, 0] 2, .pops [5, 0] 1, .stops true, .returns .ERR_STOP] ∧
      q.count = 0 := by
  obtain ⟨q, f, outcomes, htrace, hfifo, hrepresents, -⟩ := threadboundedqueue_is_fifo (by decide)
    (rfl : threadboundedqueue_create 2 1 true = some _)
    [.push_nonblock [1, 2] (.above false), .push_nonblock [3, 4] (.above true), .push_block [5] 0 none (.above false),
      .push_nonblock [6] (.above false), .pop_nonblock ⟨[0], 1, by decide⟩, .pop_nonblock ⟨[0, 0, 0], 3, by decide⟩,
      .pop_block ⟨[0, 0], 2, by decide⟩ 5 none, .stop, .push_nonblock [7] (.above false)]
  cases hfifo
  exact ⟨_, q, _, rfl, htrace, rfl, hrepresents.count_eq⟩

end hub.threadqueue
