import Hub.Soa.SyncTrace
import Mathlib.Algebra.Group.Nat.Defs

namespace hub.soa

open SyncState

def LOCAL_REGISTRY_MSG_SIZE_MAX : UInt32 := 8 * 1024

/-- A response frame of the daemon, as `on_recv_daemon` has decoded it. `request` is the
call whose request it answers. -/
structure DaemonFrame (ι : Type) where
  request : ι
  client_id : UInt32
  msg_seqid : UInt32
  msg_type : UInt32
  service_id : UInt32
  msg_len : UInt32
  pstruct : Nat → UInt8
  fields_size : Nat

namespace DaemonFrame

variable {ι : Type}

def payload (frame : DaemonFrame ι) : Nat → UInt8 :=
  if 0 < frame.msg_len then memcpy (fun _ => 0) frame.pstruct frame.fields_size else fun _ => 0

def write (frame : DaemonFrame ι) (ctx : SyncMessage) : SyncMessage where
  header :=
    { client_id := frame.client_id, msg_seqid := frame.msg_seqid, msg_type := frame.msg_type,
      service_id := frame.service_id,
      msg_len := if 0 < frame.msg_len then UInt32.ofNat frame.fields_size else 0 }
  data := if 0 < frame.msg_len then memcpy ctx.data frame.pstruct frame.fields_size else fun _ => 0

end DaemonFrame

/-- The copy of the response to the caller of `send_msg_to_daemon_sync`. -/
def deliver_daemon (data : Nat → UInt8) (resp : RespBuffer) : RespBuffer :=
  match resp.data, resp.len with
  | some resp_data, some len =>
    let copy_size := min len LOCAL_REGISTRY_MSG_SIZE_MAX
    ⟨some (memcpy resp_data data copy_size.toNat), some copy_size⟩
  | data, len => ⟨data, len⟩

/-- What a call that got `frame` leaves in its caller's buffer: as many bytes of the decoded
response as buffer and message size allow, zeros after the response, and that number as the
length. Nothing else changes. -/
def DaemonFrame.Fills {ι : Type} (frame : DaemonFrame ι) (before after : RespBuffer) : Prop :=
  match before.data, before.len with
  | some old, some len =>
    ∃ new, after = ⟨some new, some (min len 8192)⟩ ∧
      (∀ j < (min len 8192).toNat,
        new j = if 0 < frame.msg_len ∧ j < frame.fields_size then frame.pstruct j else 0) ∧
      ∀ j, (min len 8192).toNat ≤ j → new j = old j
  | _, _ => after = before

theorem deliver_daemon_fills {ι : Type} (frame : DaemonFrame ι) (resp : RespBuffer) :
    frame.Fills resp (deliver_daemon frame.payload resp) := by
  obtain ⟨data, len⟩ := resp
  cases data with
  | none => rfl
  | some old =>
    cases len with
    | none => rfl
    | some len =>
      refine ⟨_, rfl, fun j hj => ?_, fun j hj => if_neg (Nat.not_lt.mpr hj)⟩
      refine (if_pos hj).trans ?_
      by_cases hlen : 0 < frame.msg_len
      · simp [DaemonFrame.payload, memcpy, hlen]
      · simp [DaemonFrame.payload, hlen]

/-- `send_msg_to_daemon_sync` with `on_recv_daemon`. -/
def daemonProtocol (ι : Type) : Protocol (DaemonFrame ι) where
  daemon := true
  msg_seqid := DaemonFrame.msg_seqid
  init args :=
    { header :=
        { client_id := args.client_id, msg_seqid := args.msg_seqid, msg_type := args.msg_type,
          service_id := args.service_id, msg_len := args.msg_len }
      data := fun _ => 0 }
  write := DaemonFrame.write
  deliver ctx := deliver_daemon ctx.data

/-- The calls to the daemon over one connection. `answered` are the requests that the
daemon has responded to. -/
structure DaemonCalls (ι κ : Type) where
  sync : SyncState ι κ (DaemonFrame ι)
  m_msg_seqid : UInt32
  answered : List ι

inductive DaemonEvent (ι κ : Type) where
  /-- A thread calls `send_msg_to_daemon_sync` and draws its number, which replaces the
  one in `args`. -/
  | call (i : ι) (args : SyncArgs)
  /-- A thread calls `send_msg_to_daemon`, which draws a number too. -/
  | notify
  | advance (i : ι)
  | refuse (i : ι)
  | expire (i : ι)
  | receive (k : κ) (frame : DaemonFrame ι)
  | complete (k : κ)

def DaemonEvent.draws {ι κ : Type} : DaemonEvent ι κ → Bool
  | .call _ _ | .notify => true
  | _ => false

namespace DaemonCalls

variable {ι κ : Type}

def init : DaemonCalls ι κ where
  sync := .init
  m_msg_seqid := 1
  answered := []

/-- The daemon responds to each request at most once, with its number and service. -/
abbrev Responds (s : DaemonCalls ι κ) (frame : DaemonFrame ι) : Prop :=
  s.sync.Awaits s.answered frame.request frame.msg_seqid frame.service_id

section

variable [DecidableEq ι] [DecidableEq κ]

def step (s : DaemonCalls ι κ) : DaemonEvent ι κ → Option (DaemonCalls ι κ)
  | .call i args =>
    (s.sync.step (daemonProtocol ι) (.enter i { args with msg_seqid := s.m_msg_seqid })).map fun sync =>
      { s with sync := sync, m_msg_seqid := s.m_msg_seqid + 1 }
  | .notify => some { s with m_msg_seqid := s.m_msg_seqid + 1 }
  | .advance i => (s.sync.step (daemonProtocol ι) (.advance i)).map fun sync => { s with sync := sync }
  | .refuse i => (s.sync.step (daemonProtocol ι) (.refuse i)).map fun sync => { s with sync := sync }
  | .expire i => (s.sync.step (daemonProtocol ι) (.expire i)).map fun sync => { s with sync := sync }
  | .receive k frame =>
    if s.Responds frame then
      (s.sync.step (daemonProtocol ι) (.receive k frame)).map fun sync =>
        { s with sync := sync, answered := frame.request :: s.answered }
    else none
  | .complete k => (s.sync.step (daemonProtocol ι) (.complete k)).map fun sync => { s with sync := sync }

end

/-- The invariant of the calls to the daemon. `draws` bounds the numbers still to be
drawn. -/
structure Consistent (s : DaemonCalls ι κ) (draws : Nat) : Prop where
  sound : s.sync.Sound (daemonProtocol ι) (fun frame i => frame.request = i)
  numbered : s.sync.Numbered (daemonProtocol ι) (fun n => ∃ t < draws, n = s.m_msg_seqid + UInt32.ofNat t)
  sent : ∀ i, (s.sync.calls i).sent = true → s.sync.Entered i
  frames : ∀ k frame, (s.sync.completions k).frame = some frame →
    frame.request ∈ s.answered ∧ s.sync.Entered frame.request ∧ frame.msg_seqid = s.sync.msg_seqid frame.request
  few : draws < 2 ^ 32

variable {draws : Nat} {s : DaemonCalls ι κ} {frame : DaemonFrame ι} {n : UInt32} {k : κ}

theorem Consistent.init (hfew : draws < 2 ^ 32) : (init : DaemonCalls ι κ).Consistent draws where
  sound := .init
  numbered := .init
  sent _ hsent := by cases hsent
  frames _ _ hk := by cases hk
  few := hfew

theorem next_number_fresh (hfew : draws + 1 < 2 ^ 32) :
    ¬∃ t < draws, n = n + 1 + UInt32.ofNat t := by
  rintro ⟨t, ht, heq⟩
  have hnat := congrArg UInt32.toNat heq
  simp only [UInt32.toNat_add, UInt32.toNat_one, UInt32.toNat_ofNat'] at hnat
  have hn := n.toNat_lt
  omega

theorem later_number {m : UInt32} (h : ∃ t < draws, m = n + 1 + UInt32.ofNat t) :
    ∃ t < draws + 1, m = n + UInt32.ofNat t := by
  obtain ⟨t, ht, rfl⟩ := h
  refine ⟨t + 1, Nat.add_lt_add_right ht 1, ?_⟩
  rw [UInt32.ofNat_add, UInt32.add_assoc, UInt32.add_comm 1]
  rfl

variable [DecidableEq ι] [DecidableEq κ]

/-- What a step does: it draws a number, and it is a step `inner` of the calls and
completions unless it is the notification. -/
structure Steps (s s' : DaemonCalls ι κ) (event : DaemonEvent ι κ) (inner : SyncEvent ι κ (DaemonFrame ι)) : Prop where
  sync : s.sync.step (daemonProtocol ι) inner = some s'.sync
  m_msg_seqid : s'.m_msg_seqid = if event.draws then s.m_msg_seqid + 1 else s.m_msg_seqid
  answered : ∀ i ∈ s.answered, i ∈ s'.answered
  enter : ∀ i args, inner = .enter i args → event.draws = true ∧ args.msg_seqid = s.m_msg_seqid
  receive : ∀ k frame, inner = .receive k frame → s.Responds frame ∧ frame.request ∈ s'.answered

theorem step_eq_some {s s' : DaemonCalls ι κ} {event : DaemonEvent ι κ} (hnext : s.step event = some s') :
    (event = .notify ∧ s' = { s with m_msg_seqid := s.m_msg_seqid + 1 }) ∨ ∃ inner, s.Steps s' event inner := by
  cases event with
  | notify =>
    cases hnext
    exact .inl ⟨rfl, rfl⟩
  | call i args =>
    obtain ⟨sync, hsync, rfl⟩ := Option.map_eq_some_iff.mp hnext
    refine .inr ⟨_, hsync, rfl, fun _ hi => hi, ?_, by simp⟩
    intro j args' heq
    cases heq
    exact ⟨rfl, rfl⟩
  | receive k frame =>
    simp only [step] at hnext
    split at hnext
    · rename_i hresponds
      obtain ⟨sync, hsync, rfl⟩ := Option.map_eq_some_iff.mp hnext
      refine .inr ⟨_, hsync, rfl, fun _ hi => .tail _ hi, by simp, ?_⟩
      intro k' frame' heq
      cases heq
      exact ⟨hresponds, List.mem_cons_self⟩
    · cases hnext
  | advance i | refuse i | expire i | complete k =>
    obtain ⟨sync, hsync, rfl⟩ := Option.map_eq_some_iff.mp hnext
    exact .inr ⟨_, hsync, rfl, fun _ hi => hi, by simp, by simp⟩

section

variable {s' : DaemonCalls ι κ} {event : DaemonEvent ι κ} {inner : SyncEvent ι κ (DaemonFrame ι)}

theorem Consistent.unmixed (h : s.Consistent (draws + event.draws.toNat)) (hsteps : s.Steps s' event inner) :
    s.sync.Unmixed (daemonProtocol ι) (fun frame i => frame.request = i) inner := by
  cases inner with
  | enter i args =>
    obtain ⟨hdraws, hnumber⟩ := hsteps.enter i args rfl
    apply h.numbered.unmixed
    rw [hnumber, hdraws]
    exact ⟨0, Nat.succ_pos _, (UInt32.add_zero _).symm⟩
  | receive k frame =>
    obtain ⟨hsent, hnew, hnumber, -⟩ := ((hsteps.receive k frame rfl).1)
    have hentered := h.sent _ hsent
    constructor
    · intro i ctx hi hsame
      have hlisted := entered_of_standing (s := s.sync) (i := i) (by rw [hi]; simp)
      exact h.numbered.distinct _ _ hentered hlisted (hnumber.symm.trans hsame.symm)
    · intro _ k' other hother hsame
      obtain ⟨hanswered, hentered', hnumber'⟩ := h.frames k' other hother
      apply hnew
      rw [h.numbered.distinct _ _ hentered hentered' (hnumber.symm.trans (hsame.symm.trans hnumber'))]
      exact hanswered
  | complete k => exact fun hprocess => by cases hprocess
  | _ => trivial

theorem Consistent.step (h : s.Consistent (draws + event.draws.toNat)) (hnext : s.step event = some s') :
    s'.Consistent draws := by
  have hfew : draws < 2 ^ 32 := Nat.lt_of_le_of_lt (Nat.le_add_right ..) h.few
  rcases step_eq_some hnext with ⟨rfl, rfl⟩ | ⟨inner, hsteps⟩
  · refine ⟨h.sound, ⟨h.numbered.distinct, fun i hi hlater => ?_, h.numbered.known⟩, h.sent, h.frames, hfew⟩
    exact h.numbered.given i hi (later_number hlater)
  · refine ⟨h.sound.step (h.unmixed hsteps) hsteps.sync, ?_, fun j hsent => ?_, ?_, hfew⟩
    · have hseqid := hsteps.m_msg_seqid
      cases hdraws : event.draws with
      | false =>
        rw [hdraws] at h hseqid
        refine h.numbered.step h.sound hsteps.sync (fun n hn => ?_) (fun i args heq => ?_)
        · rw [hseqid] at hn
          exact hn
        · cases hdraws.symm.trans (hsteps.enter i args heq).1
      | true =>
        rw [hdraws] at h hseqid
        refine h.numbered.step h.sound hsteps.sync (fun n hn => ?_) (fun i args heq => ?_)
        · rw [hseqid] at hn
          exact later_number hn
        · rw [(hsteps.enter i args heq).2, hseqid]
          exact ⟨⟨0, Nat.succ_pos _, (UInt32.add_zero _).symm⟩, next_number_fresh h.few⟩
    · -- A request is written only by a call that has its number.
      rcases step_calls hsteps.sync j with hsame | ⟨args, -, -, hcall⟩ | hmoves
      · rw [hsame] at hsent
        exact ((h.sent j hsent).step hsteps.sync).1
      · rw [hcall] at hsent
        cases hsent
      · exact hmoves.entered.2
    · intro k frame hk
      have hold : frame.request ∈ s'.answered ∧ s.sync.Entered frame.request ∧
          frame.msg_seqid = s.sync.msg_seqid frame.request := by
        rcases frame_step hsteps.sync hk with hold | hnew
        · obtain ⟨hmem, hentered⟩ := h.frames k frame hold
          exact ⟨hsteps.answered _ hmem, hentered⟩
        · obtain ⟨hresponds, hmem⟩ := hsteps.receive k frame hnew
          exact ⟨hmem, h.sent _ hresponds.1, hresponds.2.2.1⟩
      obtain ⟨hmem, hentered, hnumber⟩ := hold
      obtain ⟨hentered', hargs⟩ := hentered.step hsteps.sync
      exact ⟨hmem, hentered', hnumber.trans (congrArg SyncArgs.msg_seqid hargs).symm⟩

end

/-- A call that returns `SUCCESS` returns the payload of the response to its own
request. Handling a response touches neither the record nor the context of any other
call. When no call is in progress nothing is pending. -/
structure Correct (s : DaemonCalls ι κ) : Prop where
  own : ∀ i out, (s.sync.calls i).stage = .returned out → out.ret = IPC_HV_SOA_RET_SUCCESS →
    ∃ k frame, s.sync.completions k = .finished frame ∧ frame.request = i ∧
      frame.msg_seqid = s.sync.msg_seqid i ∧ frame.Fills (s.sync.calls i).args.resp out.resp
  others : ∀ k frame next, s.step (.receive k frame) = some next ∨
      (s.sync.completions k).frame = some frame ∧ s.step (.complete k) = some next →
    ∀ i, i ≠ frame.request → next.sync.calls i = s.sync.calls i ∧
      ∀ ctx, s.sync.holds i = some ctx → next.sync.context ctx = s.sync.context ctx
  empty : (∀ i, (s.sync.calls i).stage = .idle ∨ ∃ out, (s.sync.calls i).stage = .returned out) →
    s.sync.pending_requests = ∅

theorem Consistent.others (h : s.Consistent draws)
    {next : DaemonCalls ι κ} (hnext : s.step (.receive k frame) = some next ∨
      (s.sync.completions k).frame = some frame ∧ s.step (.complete k) = some next) {i : ι} (hi : i ≠ frame.request) :
    next.sync.calls i = s.sync.calls i ∧
      ∀ ctx, s.sync.holds i = some ctx → next.sync.context ctx = s.sync.context ctx := by
  rcases hnext with hnext | ⟨hframe, hnext⟩
  · simp only [DaemonCalls.step] at hnext
    split at hnext
    · obtain ⟨sync, hsync, rfl⟩ := Option.map_eq_some_iff.mp hnext
      cases steps_of_step hsync with
      | missed | locked | found => exact ⟨rfl, fun _ _ => rfl⟩
    · cases hnext
  · obtain ⟨sync, hsync, rfl⟩ := Option.map_eq_some_iff.mp hnext
    have hwrites : ∃ frame' ctx, (s.sync.completions k = .found frame' ctx ∨ s.sync.completions k = .wrote frame' ctx) ∧
        sync.calls = s.sync.calls ∧ ∀ p, p ≠ ctx → sync.context p = s.sync.context p := by
      cases steps_of_step hsync with
      | write hfound => exact ⟨_, _, .inl hfound, rfl, fun p hp => Heap.get_set_ne _ _ hp⟩
      | setResult hwrote => exact ⟨_, _, .inr hwrote, rfl, fun p hp => Heap.get_set_ne _ _ hp⟩
    obtain ⟨frame', ctx, hk, hcalls, hcontext⟩ := hwrites
    refine ⟨congrFun hcalls i, fun p hp => hcontext p ?_⟩
    rintro rfl
    -- the context belongs to the call whose request is answered
    obtain ⟨-, j, hj, hnumber⟩ := h.sound.held rfl k _ p (target_of_frame _ hk)
    have hji : j = i := h.sound.owned.exclusive j i p (holds_of_listed hj) hp
    have hsame : frame' = frame := by
      rcases hk with hk | hk
      · rw [hk] at hframe
        exact Option.some.inj hframe
      · rw [hk] at hframe
        exact Option.some.inj hframe
    subst hsame
    obtain ⟨-, hentered, hecho⟩ := h.frames k frame' hframe
    have hj' := entered_of_standing (s := s.sync) (i := j) (by rw [hj]; simp)
    exact hi (hji.symm.trans (h.numbered.distinct j _ hj' hentered (hnumber.trans hecho)))

theorem Consistent.correct (h : s.Consistent draws) : s.Correct where
  own i out hstage hret := by
    have hjustified := h.sound.calls i
    rw [hstage] at hjustified
    obtain ⟨k, frame, hk, hown, hresp⟩ := hjustified hret
    refine ⟨k, frame, hk, hown.2, hown.1, ?_⟩
    rw [hresp]
    exact deliver_daemon_fills frame _
  others k frame next hnext i hi := h.others hnext hi
  empty hover := by
    apply AList.ext
    change s.sync.pending_requests.entries = []
    rw [List.eq_nil_iff_forall_not_mem]
    rintro ⟨n, ctx⟩ hentry
    obtain ⟨i, hi, -⟩ := h.sound.correlated.entry n ctx (AList.mem_lookup_iff.mpr hentry)
    rcases hover i with hidle | ⟨out, hreturned⟩
    · rw [standing, hidle] at hi
      cases hi
    · rw [standing, hreturned] at hi
      cases hi

end DaemonCalls

/-- The calls to the daemon are correlated correctly as long as fewer numbers are drawn
than there are. -/
theorem daemon_calls_correct {ι κ : Type} [DecidableEq ι] [DecidableEq κ] {labels : List (DaemonEvent ι κ)}
    (hfew : labels.countP DaemonEvent.draws < 2 ^ 32) :
    Throughout DaemonCalls.step DaemonCalls.Correct DaemonCalls.init labels := by
  have hmeets : Meets DaemonCalls.step (fun _ _ => True) (DaemonCalls.init : DaemonCalls ι κ) labels :=
    .of_forall (fun _ _ => trivial) _
  refine hmeets.throughout_ahead (fun s rest => s.Consistent (rest.countP DaemonEvent.draws)) ?_ ?_ (.init hfew)
  · intro s event rest next h _ hnext
    rw [List.countP_cons] at h
    have hcount : (if event.draws then 1 else 0) = event.draws.toNat := by
      cases event.draws with
      | false | true => rfl
    rw [hcount] at h
    exact h.step hnext
  · exact fun s rest h => h.correct

def daemonCallArgs : SyncArgs := ⟨1, 0, 2, 7, 0, ⟨some fun _ => 9, some 6⟩, 1000⟩

/-- The daemon's response of 4 bytes to the request of call `i`, which had the number
`n`. -/
def daemonResponse {ι : Type} (i : ι) (n : UInt32) : DaemonFrame ι :=
  ⟨i, 1, n, 3, 7, 4, fun j => n.toUInt8 + UInt8.ofNat j, 4⟩

open scoped Parties

/-- The first call times out while its response is handled, and the second call is answered
after that. -/
def daemonCallsOfTwo : List (DaemonEvent (Fin 2) (Fin 2)) :=
  List.flatten [[.call 0 daemonCallArgs], List.replicate 5 (.advance 0), [.expire 0, .notify, .call 1 daemonCallArgs],
    [.receive 0 (daemonResponse 0 1)], List.replicate 5 (.advance 1), [.complete 0, .advance 0, .complete 0],
    List.replicate 3 (.advance 0), [.advance 1, .advance 1, .receive 1 (daemonResponse 1 3), .complete 1, .complete 1],
    List.replicate 5 (.advance 1)]

def DaemonCalls.returned (s : DaemonCalls (Fin 2) (Fin 2)) (i : Fin 2) : Option (Int × Option UInt32 × List UInt8) :=
  (s.sync.calls i).stage.outcome.map fun out =>
    (out.ret, out.resp.len, (List.range 7).map fun j => (out.resp.data.map (· j)).getD 0)

theorem daemon_calls_correct_of_two :
    ((run DaemonCalls.step DaemonCalls.init daemonCallsOfTwo).bind (·.returned 0) =
      some (IPC_HV_SOA_RET_TIMEOUT, some 6, [9, 9, 9, 9, 9, 9, 9])) ∧
    ((run DaemonCalls.step DaemonCalls.init daemonCallsOfTwo).bind (·.returned 1) =
      some (IPC_HV_SOA_RET_SUCCESS, some 6, [3, 4, 5, 6, 0, 0, 9])) ∧
    Throughout DaemonCalls.step DaemonCalls.Correct DaemonCalls.init daemonCallsOfTwo :=
  ⟨by decide +kernel, by decide +kernel, daemon_calls_correct (by decide)⟩

end hub.soa
