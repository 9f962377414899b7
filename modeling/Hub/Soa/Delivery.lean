import Hub.Soa.LateResponse
import Hub.Soa.Library

namespace hub.soa

open SyncState

/-- What the call will return, once nothing can change that any more. -/
def Phase.decided : Phase → Option Outcome
  | .erase out => some out
  | .release out => some out
  | .give out => some out
  | _ => none

def Stage.decided : Stage → Option Outcome
  | .holding _ phase => phase.decided
  | .returned out => some out
  | .idle | .borrowing _ => none

namespace SyncState

variable {ι κ φ : Type} {proto : Protocol φ} {s s' : SyncState ι κ φ}

/-- The response that a call takes with a step: its wait was successful, and the response
is for its service. -/
def takes (s : SyncState ι κ φ) : SyncEvent ι κ φ → List (ι × SyncMessage)
  | .advance i =>
    match (s.calls i).stage with
    | .holding ctx (.check wait_result) =>
      if wait_result = IPC_HV_SOA_COND_STATE_SUCCESS ∧
          (s.context ctx).data.header.service_id = (s.calls i).args.service_id then
        [(i, (s.context ctx).data)]
      else []
    | _ => []
  | _ => []

/-- How a step decides what call `j` returns: it takes a response, or it fails and
leaves the caller's buffers alone. -/
inductive Decides (proto : Protocol φ) (s : SyncState ι κ φ) (event : SyncEvent ι κ φ) (j : ι) : Outcome → Prop where
  | takes (data : SyncMessage) (htakes : s.takes event = [(j, data)]) :
    Decides proto s event j ⟨IPC_HV_SOA_RET_SUCCESS, proto.deliver data (s.calls j).args.resp⟩
  | fails (ret : Int) (hret : ret ≠ IPC_HV_SOA_RET_SUCCESS) (htakes : ∀ data, (j, data) ∉ s.takes event) :
    Decides proto s event j ⟨ret, (s.calls j).args.resp⟩

/-- What a step does to what call `j` returns. -/
inductive Settles (proto : Protocol φ) (s s' : SyncState ι κ φ) (event : SyncEvent ι κ φ) (j : ι) : Prop where
  | keeps (hdecided : (s'.calls j).stage.decided = (s.calls j).stage.decided)
      (hargs : (s.calls j).stage.decided ≠ none → (s'.calls j).args = (s.calls j).args)
      (htakes : ∀ data, (j, data) ∉ s.takes event)
  | decides (out : Outcome) (hopen : (s.calls j).stage.decided = none)
      (hdecided : (s'.calls j).stage.decided = some out)
      (hargs : (s'.calls j).args = (s.calls j).args) (hdecides : Decides proto s event j out)

theorem eq_of_mem_takes {i j : ι} {data : SyncMessage} (hmem : (j, data) ∈ s.takes (.advance i)) : j = i := by
  simp only [takes] at hmem
  split at hmem
  · split at hmem
    · exact congrArg Prod.fst (List.mem_singleton.mp hmem)
    · cases hmem
  · cases hmem

theorem takes_eq_nil {i : ι} (hstage : ∀ ctx wait_result, (s.calls i).stage ≠ .holding ctx (.check wait_result)) :
    s.takes (.advance i) = [] := by
  simp only [takes]

theorem decides_check {i : ι} {ctx : ContextPtr} {wait_result : Int}
    (hstage : (s.calls i).stage = .holding ctx (.check wait_result)) :
    Decides proto s (.advance i) i (outcome proto (s.calls i).args wait_result (s.context ctx).data) := by
  have htakes : s.takes (.advance i) =
      if wait_result = IPC_HV_SOA_COND_STATE_SUCCESS ∧
          (s.context ctx).data.header.service_id = (s.calls i).args.service_id then
        [(i, (s.context ctx).data)]
      else [] := by
    simp only [takes, hstage]
  unfold outcome
  split
  · rename_i hneg
    have hne : wait_result ≠ IPC_HV_SOA_COND_STATE_SUCCESS := Int.ne_of_lt hneg
    exact .fails _ (by decide) (by simp [htakes, hne])
  · split
    · rename_i hne
      exact .fails _ (by decide) (by simp [htakes, hne])
    · split
      · rename_i hservice
        exact .fails _ (by decide) (by simp [htakes, hservice])
      · rename_i hsuccess hservice
        exact .takes _ (by rw [htakes, if_pos ⟨not_not.mp hsuccess, not_not.mp hservice⟩])

variable [DecidableEq ι] {event : SyncEvent ι κ φ} {i j : ι} {stage : Stage}

theorem Settles.of_setStage (hcalls : s'.calls = (s.setStage i stage).calls)
    (hother : ∀ j data, (j, data) ∈ s.takes event → j = i)
    (hself : (stage.decided = (s.calls i).stage.decided ∧ s.takes event = []) ∨
      ∃ out, (s.calls i).stage.decided = none ∧ stage.decided = some out ∧ Decides proto s event i out) :
    Settles proto s s' event j := by
  by_cases hji : j = i
  · subst hji
    have hcall : s'.calls j = { s.calls j with stage := stage } := by rw [hcalls, setStage_calls_self]
    rcases hself with ⟨hdecided, htakes⟩ | ⟨out, hopen, hdecided, hdecides⟩
    · exact .keeps (by rw [hcall, hdecided]) (fun _ => by rw [hcall]) (by simp [htakes])
    · exact .decides out hopen (by rw [hcall, hdecided]) (by rw [hcall]) hdecides
  · have hcall : s'.calls j = s.calls j := by rw [hcalls, setStage_calls_ne s i stage hji]
    exact .keeps (by rw [hcall]) (fun _ => by rw [hcall]) (fun data hmem => hji (hother j data hmem))

omit [DecidableEq ι] in
theorem Settles.of_calls (hcalls : s'.calls = s.calls) (htakes : s.takes event = []) : Settles proto s s' event j :=
  .keeps (by rw [hcalls]) (fun _ => by rw [hcalls]) (by simp [htakes])

theorem Settles.still_open (hcalls : s'.calls = (s.setStage i stage).calls) (htakes : s.takes event = [])
    (hbefore : (s.calls i).stage.decided = none) (hafter : stage.decided = none) : Settles proto s s' event j :=
  .of_setStage hcalls (by simp [htakes]) (.inl ⟨hafter.trans hbefore.symm, htakes⟩)

theorem Settles.gives_up {ret : Int} (hcalls : s'.calls = (s.setStage i stage).calls) (htakes : s.takes event = [])
    (hbefore : (s.calls i).stage.decided = none) (hafter : stage.decided = some ⟨ret, (s.calls i).args.resp⟩)
    (hret : ret ≠ IPC_HV_SOA_RET_SUCCESS) : Settles proto s s' event j :=
  .of_setStage hcalls (by simp [htakes]) (.inr ⟨_, hbefore, hafter, .fails ret hret (by simp [htakes])⟩)

theorem settles_refused (hbefore : (s.calls i).stage.decided = none) (htakes : s.takes event = []) :
    Settles proto s (s.refused i) event j :=
  .gives_up rfl htakes hbefore rfl (by decide)

theorem settles_Borrow {at_ : Borrowing} (hstage : (s.calls i).stage = .borrowing at_) (htakes : s.takes event = []) :
    Settles proto s (s.Borrow i at_) event j := by
  have hbefore : (s.calls i).stage.decided = none := by rw [hstage]; rfl
  cases at_ with
  | trying =>
    simp only [Borrow, takeOr]
    split
    · exact .still_open rfl htakes hbefore rfl
    · exact .still_open rfl htakes hbefore rfl
  | deciding =>
    simp only [Borrow]
    split
    · exact .still_open rfl htakes hbefore rfl
    · exact .still_open rfl htakes hbefore rfl
  | creating => exact .still_open rfl htakes hbefore rfl
  | parked =>
    simp only [Borrow, takeOr]
    split
    · exact .still_open rfl htakes hbefore rfl
    · exact settles_refused hbefore htakes

theorem settles_work {ctx : ContextPtr} {timeout : Bool} {phase : Phase}
    (hstage : (s.calls i).stage = .holding ctx phase)
    (hevent : event = .advance i ∨ event = .expire i ∧ phase = .wait)
    (hnext : s.work proto i ctx timeout phase = some s') :
    Settles proto s s' event j := by
  have hdecided : (s.calls i).stage.decided = phase.decided := by rw [hstage]; rfl
  -- only the end of a wait takes a response
  have htakes : (∀ wait_result, phase ≠ .check wait_result) → s.takes event = [] := by
    intro hphase
    rcases hevent with rfl | ⟨rfl, -⟩
    · refine takes_eq_nil fun ctx' wait_result hcheck => ?_
      rw [hstage] at hcheck
      exact hphase wait_result (Stage.holding.inj hcheck).2
    · rfl
  cases phase with
  | check wait_result =>
    cases hnext
    rcases hevent with rfl | ⟨-, hwait⟩
    · exact .of_setStage rfl (fun _ _ hmem => eq_of_mem_takes hmem) (.inr ⟨_, hdecided, rfl, decides_check hstage⟩)
    · cases hwait
  | send =>
    cases hnext
    by_cases hji : j = i
    · subst hji
      exact .keeps (by rw [setCall_calls_self, hdecided]; rfl) (fun _ => by rw [setCall_calls_self]) (by simp [htakes])
    · have hcall := setCall_calls_ne s { s.calls i with stage := .holding ctx .wait, sent := true } hji
      exact .keeps (by rw [hcall]) (fun _ => by rw [hcall]) (by simp [htakes])
  | wait =>
    obtain ⟨wait_result, -, rfl⟩ := Option.map_eq_some_iff.mp hnext
    exact .still_open rfl (htakes (by simp)) hdecided rfl
  | insert | undo =>
    simp only [work] at hnext
    split at hnext
    · cases hnext
    · cases hnext
      exact .still_open rfl (htakes (by simp)) hdecided rfl
  | reset | fill =>
    cases hnext
    exact .still_open rfl (htakes (by simp)) hdecided rfl
  | cancel =>
    cases hnext
    exact .gives_up rfl (htakes (by simp)) hdecided rfl (by decide)
  | erase out =>
    simp only [work] at hnext
    split at hnext
    · cases hnext
    · cases hnext
      exact .of_setStage rfl (by simp [htakes]) (.inl ⟨hdecided.symm, htakes (by simp)⟩)
  | release out | give out =>
    cases hnext
    exact .of_setStage rfl (by simp [htakes]) (.inl ⟨hdecided.symm, htakes (by simp)⟩)

theorem step_settles [DecidableEq κ] (hnext : s.step proto event = some s') (j : ι) : Settles proto s s' event j := by
  cases steps_of_step hnext with
  | @enter i args hstage =>
    by_cases hji : j = i
    · subst hji
      refine .keeps (by rw [setCall_calls_self, hstage]; rfl) (fun hdecided => ?_) (by simp [takes])
      rw [hstage] at hdecided
      exact absurd rfl hdecided
    · have hcall := setCall_calls_ne s ⟨args, .borrowing .trying, false⟩ hji
      exact .keeps (by rw [hcall]) (fun _ => by rw [hcall]) (by simp [takes])
  | abandon hstage hret => exact .gives_up rfl rfl (by rw [hstage]; rfl) rfl hret
  | borrow hstage => exact settles_Borrow hstage (takes_eq_nil (by simp [hstage]))
  | work hstage hwork => exact settles_work hstage (.inl rfl) hwork
  | undo hstage => exact .still_open rfl rfl (by rw [hstage]; rfl) rfl
  | refuse hstage => exact .gives_up rfl rfl (by rw [hstage]; rfl) rfl (by decide)
  | expire hstage => exact settles_refused (by rw [hstage]; rfl) rfl
  | timeout hstage hwork => exact settles_work hstage (.inr ⟨rfl, rfl⟩) hwork
  | missed | locked | found | write | setResult | clear | disconnect => exact .of_calls rfl rfl

/-- What a call returns, by the responses that it took: the one that it took is delivered
to its caller, or there was none and the call fails with the caller's buffers untouched. -/
inductive Returned (proto : Protocol φ) (log : List (ι × SyncMessage)) (i : ι) (resp : RespBuffer) :
    Outcome → Prop where
  | taken (data : SyncMessage) (htaken : ∀ other, (i, other) ∈ log ↔ other = data) :
    Returned proto log i resp ⟨IPC_HV_SOA_RET_SUCCESS, proto.deliver data resp⟩
  | failed (ret : Int) (hret : ret ≠ IPC_HV_SOA_RET_SUCCESS) (htaken : ∀ data, (i, data) ∉ log) :
    Returned proto log i resp ⟨ret, resp⟩

/-- A call has taken no response before it has decided what it returns. -/
structure Accounted (proto : Protocol φ) (s : SyncState ι κ φ) (log : List (ι × SyncMessage)) (i : ι) : Prop where
  undecided : (s.calls i).stage.decided = none → ∀ data, (i, data) ∉ log
  decided : ∀ out, (s.calls i).stage.decided = some out → Returned proto log i (s.calls i).args.resp out

omit [DecidableEq ι] in
theorem Accounted.settles {log : List (ι × SyncMessage)} (h : Accounted proto s log i)
    (hsettles : Settles proto s s' event i) : Accounted proto s' (s.takes event ++ log) i := by
  cases hsettles with
  | keeps hdecided hargs htakes =>
    have hlog : ∀ data, (i, data) ∈ s.takes event ++ log ↔ (i, data) ∈ log := by
      intro data
      rw [List.mem_append, or_iff_right (htakes data)]
    constructor
    · intro hopen data hmem
      rw [hdecided] at hopen
      exact h.undecided hopen data ((hlog data).mp hmem)
    · intro out hout
      rw [hdecided] at hout
      rw [hargs (by simp [hout])]
      cases h.decided out hout with
      | taken data htaken => exact .taken data fun other => (hlog other).trans (htaken other)
      | failed ret hret htaken => exact .failed ret hret fun data hmem => htaken data ((hlog data).mp hmem)
  | decides out hopen hdecided hargs hdecides =>
    have hnone := h.undecided hopen
    constructor
    · intro hopen'
      cases hopen'.symm.trans hdecided
    · intro out' hout
      cases hdecided.symm.trans hout
      rw [hargs]
      cases hdecides with
      | takes data htakes =>
        refine .taken data fun other => ?_
        rw [htakes, List.mem_append, or_iff_left (hnone other), List.mem_singleton, Prod.mk.injEq]
        simp
      | fails ret hret htakes =>
        refine .failed ret hret fun data hmem => ?_
        rcases List.mem_append.mp hmem with hmem | hmem
        · exact htakes data hmem
        · exact hnone data hmem

theorem run_accounted [DecidableEq κ] {labels : List (SyncEvent ι κ φ)} {log : List (ι × SyncMessage)}
    (hrun : run (logged (step proto) takes) (init, []) labels = some (s, log)) (i : ι) :
    Accounted proto s log i := by
  refine run_invariant (fun state : SyncState ι κ φ × List (ι × SyncMessage) => Accounted proto state.1 state.2 i) ?_
    ⟨fun _ _ hmem => (by cases hmem), fun _ hout => (by cases hout)⟩ hrun
  rintro ⟨state, log⟩ event ⟨next, log'⟩ h hnext
  obtain ⟨hstep, rfl⟩ := logged_eq_some.mp hnext
  exact h.settles (step_settles hstep i)

section

variable [DecidableEq κ]

/-- Call `i` waits with the number `n` in the table, and completion `k` is free. -/
structure Awaiting (s : SyncState ι κ φ) (i : ι) (k : κ) (ctx : ContextPtr) (n : UInt32) : Prop where
  waits : (s.calls i).stage = .holding ctx .wait
  pending : s.pending_requests.lookup n = some ctx
  idle : s.completions k = .idle
  unlocked : s.lock = none

def answering (i : ι) (k : κ) (frame : φ) : List (SyncEvent ι κ φ) :=
  [.receive k frame, .complete k, .complete k, .advance i, .advance i]

theorem Awaiting.answered {k : κ} {ctx : ContextPtr} {frame : φ} (h : s.Awaiting i k ctx (proto.msg_seqid frame)) :
    ∃ s', run (step proto) s (answering i k frame) = some s' ∧
      (s'.calls i).stage = .holding ctx (.erase (outcome proto (s.calls i).args IPC_HV_SOA_COND_STATE_SUCCESS
        (proto.write frame (s.context ctx).data))) := by
  let found := { s with
    pending_requests :=
      if proto.daemon then s.pending_requests else s.pending_requests.erase (proto.msg_seqid frame)
    lock := if proto.daemon then some k else none }.setCompletion k (.found frame ctx)
  let wrote := (found.setContext ctx
    { s.context ctx with data := proto.write frame (s.context ctx).data }).setCompletion k (.wrote frame ctx)
  let finished := { wrote.setContext ctx ((wrote.context ctx).SetResult IPC_HV_SOA_COND_STATE_SUCCESS) with
    lock := none }.setCompletion k (.finished frame)
  let checking := finished.setStage i (.holding ctx (.check IPC_HV_SOA_COND_STATE_SUCCESS))
  have hwrote : wrote.context ctx = { s.context ctx with data := proto.write frame (s.context ctx).data } :=
    Heap.get_set_self ..
  have hfinished : finished.context ctx = (wrote.context ctx).SetResult IPC_HV_SOA_COND_STATE_SUCCESS :=
    Heap.get_set_self ..
  have hcall : finished.calls i = s.calls i := rfl
  have hfound_step : s.step proto (.receive k frame) = some found := by
    simp only [step, receive, h.idle, h.unlocked, h.pending]
    cases hdaemon : proto.daemon with
    | true | false => simp [found, hdaemon]
  have hwrote_step : found.step proto (.complete k) = some wrote := by
    have hk : found.completions k = .found frame ctx := Function.update_self ..
    simp only [step, complete, hk]
    rfl
  have hfinished_step : wrote.step proto (.complete k) = some finished := by
    have hk : wrote.completions k = .wrote frame ctx := Function.update_self ..
    simp only [step, complete, hk]
    rfl
  have hchecking_step : finished.step proto (.advance i) = some checking := by
    simp only [step, advance, hcall, h.waits, work, hfinished, SyncContext.Wait, SyncContext.SetResult, if_true]
    rfl
  have hstage : (checking.calls i).stage = .holding ctx (.check IPC_HV_SOA_COND_STATE_SUCCESS) :=
    congrArg SyncCall.stage (setStage_calls_self ..)
  have hargs : (checking.calls i).args = (s.calls i).args := setStage_args ..
  have hdata : (checking.context ctx).data = proto.write frame (s.context ctx).data := by
    change (finished.context ctx).data = _
    rw [hfinished, hwrote]
    rfl
  refine ⟨checking.setStage i (.holding ctx (.erase (outcome proto (s.calls i).args IPC_HV_SOA_COND_STATE_SUCCESS
    (proto.write frame (s.context ctx).data)))), ?_, congrArg SyncCall.stage (setStage_calls_self ..)⟩
  refine run_cons_eq_some.mpr ⟨found, hfound_step, run_cons_eq_some.mpr ⟨wrote, hwrote_step, run_cons_eq_some.mpr
    ⟨finished, hfinished_step, run_cons_eq_some.mpr ⟨checking, hchecking_step, run_cons_eq_some.mpr ⟨_, ?_, rfl⟩⟩⟩⟩⟩
  simp only [step, advance, hstage, work, hargs, hdata]

end

end SyncState

/-- What a call with a buffer of `len` bytes owes its caller: `SUCCESS` comes with all bytes
of a response that fits, and for one that does not fit there is `ERR_ARG` and no length
beyond the bytes that were written. -/
structure Delivered (method_resp_data : Nat → UInt8) (len : UInt32) (taken : SyncMessage → Prop)
    (out : Outcome) : Prop where
  success : out.ret = IPC_HV_SOA_RET_SUCCESS → ∃ data, taken data ∧ data.header.msg_len ≤ len ∧
    out.resp.data = some (memcpy method_resp_data data.data data.header.msg_len.toNat)
  too_long : ∀ data, taken data → len < data.header.msg_len → out.ret = IPC_HV_SOA_RET_ERR_ARG ∧
    ∃ written, out.resp.data = some (memcpy method_resp_data data.data written) ∧
      ∀ reported ∈ out.resp.len, reported.toNat ≤ written

/-- `SUCCESS` is returned for every response, also for one that does not fit. -/
theorem delivered_iff_fits {ι κ : Type} [DecidableEq ι] [DecidableEq κ] {client_id : UInt32}
    {labels : List (SyncEvent ι κ SyncComplete)} {s : SyncState ι κ SyncComplete} {log : List (ι × SyncMessage)}
    (hrun : run (logged (SyncState.step (processProtocol client_id)) SyncState.takes) (SyncState.init, []) labels =
      some (s, log))
    {i : ι} {out : Outcome} (hreturned : (s.calls i).stage = .returned out) {method_resp_data : Nat → UInt8}
    {len : UInt32} (hresp : (s.calls i).args.resp = ⟨some method_resp_data, some len⟩) :
    Delivered method_resp_data len (fun data => (i, data) ∈ log) out ↔
      ∀ data, (i, data) ∈ log → data.header.msg_len ≤ len := by
  have haccounted := (run_accounted hrun i).decided out (by rw [hreturned]; rfl)
  rw [hresp] at haccounted
  constructor
  · intro hdelivered data hmem
    by_contra hlong
    obtain ⟨hret, -⟩ := hdelivered.too_long data hmem (UInt32.not_le.mp hlong)
    cases haccounted with
    | taken => cases hret
    | failed ret hret' htaken => exact htaken data hmem
  · intro hfits
    cases haccounted with
    | taken data htaken =>
      have hfit := hfits data ((htaken data).mpr rfl)
      constructor
      · intro _
        refine ⟨data, (htaken data).mpr rfl, hfit, ?_⟩
        change (if len < data.header.msg_len then some method_resp_data
          else some (memcpy method_resp_data data.data data.header.msg_len.toNat)) = _
        rw [if_neg (UInt32.not_lt.mpr hfit)]
      · intro other hmem hlong
        exact absurd (hfits other hmem) (UInt32.not_le.mpr hlong)
    | failed ret hret htaken =>
      constructor
      · exact fun hsuccess => absurd hsuccess hret
      · exact fun data hmem => absurd hmem (htaken data)

def callAnswered (msg_len : UInt32) : List (SyncEvent Unit Unit SyncComplete) :=
  List.flatten [[.enter () (callWith 1)], advances () 5,
    [.receive () { responseTo 1 2 with method_resp_data_len := msg_len }, .complete (), .complete ()], advances () 5]

theorem delivered_when_it_fits : ∃ s log out,
    run (logged (SyncState.step (processProtocol 9)) SyncState.takes) (SyncState.init, [])
      (callAnswered 4) = some (s, log) ∧
      (s.calls ()).stage = .returned out ∧ out.ret = IPC_HV_SOA_RET_SUCCESS ∧
      Delivered (fun _ => 0) 4 (fun data => ((), data) ∈ log) out := by
  have hruns : ∃ s log out data,
      run (logged (step (processProtocol 9)) takes) (init, []) (callAnswered 4) =
        some (s, log) ∧
      (s.calls ()).stage = .returned out ∧ (s.calls ()).args.resp = ⟨some fun _ => 0, some 4⟩ ∧
      out.ret = IPC_HV_SOA_RET_SUCCESS ∧ log = [((), data)] ∧ data.header.msg_len = 4 :=
    ⟨_, _, _, _, rfl, rfl, rfl, rfl, rfl, rfl⟩
  obtain ⟨s, log, out, data, hrun, hstage, hresp, hret, hlog, hlen⟩ := hruns
  refine ⟨s, log, out, hrun, hstage, hret, (delivered_iff_fits hrun hstage hresp).mpr fun other hmem => ?_⟩
  rw [hlog, List.mem_singleton, Prod.mk.injEq] at hmem
  rw [hmem.2, hlen]
  decide

/-- A response of eight bytes for a buffer of four: the call returns `SUCCESS` and the
length eight, and has written nothing. -/
theorem success_without_delivery : ∃ s log out data,
    run (logged (SyncState.step (processProtocol 9)) SyncState.takes) (SyncState.init, [])
      (callAnswered 8) = some (s, log) ∧
      (s.calls ()).stage = .returned out ∧ (s.calls ()).args.resp = ⟨some fun _ => 0, some 4⟩ ∧ ((), data) ∈ log ∧
      data.header.msg_len = 8 ∧ out.ret = IPC_HV_SOA_RET_SUCCESS ∧ out.resp = ⟨some fun _ => 0, some 8⟩ :=
  ⟨_, _, _, _, rfl, rfl, rfl, List.mem_singleton.mpr rfl, rfl, rfl, rfl⟩

end hub.soa
