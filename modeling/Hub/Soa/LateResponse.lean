import Hub.Soa.SyncTrace
import Mathlib.Data.Fintype.Basic

namespace hub.soa

structure SyncComplete where
  service_id : UInt32
  msg_type : UInt32
  msg_seqid : UInt32
  method_resp_data : Option (Nat → UInt8)
  method_resp_data_len : UInt32

namespace SyncComplete

/-- What the completion writes in the context; `client_id` is the process's own. -/
def write (client_id : UInt32) (frame : SyncComplete) (ctx : SyncMessage) : SyncMessage where
  header :=
    { client_id := client_id, msg_seqid := frame.msg_seqid, msg_type := frame.msg_type,
      service_id := frame.service_id, msg_len := frame.method_resp_data_len }
  data :=
    match frame.method_resp_data with
    | some method_resp_data =>
      if 0 < frame.method_resp_data_len then memcpy ctx.data method_resp_data frame.method_resp_data_len.toNat
      else fun _ => 0
    | none => fun _ => 0

end SyncComplete

/-- The copy of the response to the caller of `send_msg_to_process_sync`. A buffer that
is too small is left alone, and the call still succeeds. -/
def deliver_process (ctx : SyncMessage) (resp : RespBuffer) : RespBuffer where
  data :=
    match resp.data, resp.len with
    | some method_resp_data, some len =>
      if len < ctx.header.msg_len then some method_resp_data
      else some (memcpy method_resp_data ctx.data ctx.header.msg_len.toNat)
    | data, _ => data
  len := resp.len.map fun _ => ctx.header.msg_len

/-- `send_msg_to_process_sync` with `ipc_hv_soa_inn_sync_complete`. -/
def processProtocol (client_id : UInt32) : Protocol SyncComplete where
  daemon := false
  msg_seqid := SyncComplete.msg_seqid
  init args :=
    { header :=
        { client_id := 0, msg_seqid := args.msg_seqid, msg_type := E_IPC_HV_SOA_MSG_TYPE_METHOD_RESPONSE_SYNC,
          service_id := args.service_id, msg_len := 0 }
      data := fun _ => 0 }
  write := SyncComplete.write client_id
  deliver := deliver_process

def SyncEvent.number {ι κ φ : Type} : SyncEvent ι κ φ → Option UInt32
  | .enter _ args => some args.msg_seqid
  | _ => none

def numbers {ι κ φ : Type} (labels : List (SyncEvent ι κ φ)) : List UInt32 := labels.filterMap SyncEvent.number

namespace SyncState

variable {ι κ : Type}

/-- A completion finds its context either given back or still with the call that it
answers: no call with another number has borrowed it in the meantime. -/
def Unreused (client_id : UInt32) (s : SyncState ι κ SyncComplete) : SyncEvent ι κ SyncComplete → Prop
  | .complete k =>
    ∀ aim ∈ s.target (processProtocol client_id) k, ∀ i, s.holds i = some aim.2 → s.msg_seqid i = aim.1
  | _ => True

instance [Fintype ι] (client_id : UInt32) (s : SyncState ι κ SyncComplete) : DecidablePred (s.Unreused client_id)
  | .complete k => inferInstanceAs (Decidable (∀ aim ∈ s.target (processProtocol client_id) k, _))
  | .enter _ _ | .abandon _ _ | .advance _ | .refuse _ | .expire _ | .receive _ _ | .clear | .disconnect =>
    .isTrue trivial

/-- A call that returns `SUCCESS` returns what a completion with its number wrote. -/
def ReturnsOwn (client_id : UInt32) (s : SyncState ι κ SyncComplete) : Prop :=
  ∀ i out, (s.calls i).stage = .returned out → out.ret = IPC_HV_SOA_RET_SUCCESS →
    ∃ k frame, s.completions k = .finished frame ∧ frame.msg_seqid = s.msg_seqid i ∧
      out.resp = deliver_process (frame.write client_id ((processProtocol client_id).init (s.calls i).args))
        (s.calls i).args.resp

theorem Unreused.unmixed {client_id : UInt32} {s : SyncState ι κ SyncComplete} {later : UInt32 → Prop}
    {event : SyncEvent ι κ SyncComplete} (h : s.Unreused client_id event)
    (hnumbered : s.Numbered (processProtocol client_id) later) (hlater : ∀ n ∈ event.number, later n) :
    s.Unmixed (processProtocol client_id) (fun _ _ => True) event := by
  cases event with
  | enter i args => exact hnumbered.unmixed (hlater args.msg_seqid rfl)
  | receive k frame => exact ⟨fun _ _ _ _ => trivial, fun hdaemon => by cases hdaemon⟩
  | complete k => exact fun _ n ctx hk i hi => h (n, ctx) hk i hi
  | _ => trivial

end SyncState

/-- Calls with different numbers get their own answers as long as no context is reused
under a completion. -/
theorem returns_own_of_unreused {ι κ : Type} [DecidableEq ι] [DecidableEq κ] {client_id : UInt32}
    {labels : List (SyncEvent ι κ SyncComplete)} (hdistinct : (numbers labels).Nodup)
    (hmeets : Meets (SyncState.step (processProtocol client_id)) (SyncState.Unreused client_id) SyncState.init labels) :
    Throughout (SyncState.step (processProtocol client_id)) (SyncState.ReturnsOwn client_id) SyncState.init labels := by
  refine hmeets.throughout_ahead
    (fun s rest => s.Sound (processProtocol client_id) (fun _ _ => True) ∧
      s.Numbered (processProtocol client_id) (· ∈ numbers rest) ∧ (numbers rest).Nodup) ?_ ?_
    ⟨.init, .init, hdistinct⟩
  · rintro s event rest next ⟨hsound, hnumbered, hnodup⟩ hunreused hnext
    have hnumbers : numbers (event :: rest) = event.number.toList ++ numbers rest := by
      simp only [numbers, List.filterMap_cons]
      cases event.number with
      | none | some n => rfl
    rw [hnumbers] at hnumbered hnodup
    have hlater : ∀ n ∈ event.number, n ∈ event.number.toList ++ numbers rest :=
      fun n hn => List.mem_append_left _ (Option.mem_toList.mpr hn)
    refine ⟨hsound.step (hunreused.unmixed hnumbered hlater) hnext, ?_, hnodup.of_append_right⟩
    refine hnumbered.step hsound hnext (fun n hn => List.mem_append_right _ hn) ?_
    rintro i args rfl
    exact ⟨List.mem_cons_self, (List.nodup_cons.mp hnodup).1⟩
  · rintro s rest ⟨hsound, -, -⟩ i out hstage hret
    have hjustified := hsound.calls i
    rw [hstage] at hjustified
    obtain ⟨k, frame, hk, hown, hresp⟩ := hjustified hret
    exact ⟨k, frame, hk, hown.1, hresp⟩

def callWith (n : UInt32) : SyncArgs where
  client_id := 1
  msg_seqid := n
  msg_type := 2
  service_id := 7
  msg_len := 0
  resp := ⟨some fun _ => 0, some 4⟩
  timeout_ms := 1000

def responseTo (n : UInt32) (byte : UInt8) : SyncComplete :=
  ⟨7, E_IPC_HV_SOA_MSG_TYPE_METHOD_RESPONSE_SYNC, n, some fun _ => byte, 4⟩

def advances {ι κ φ : Type} (i : ι) (n : Nat) : List (SyncEvent ι κ φ) := List.replicate n (.advance i)

open scoped Parties

/-- The first call times out while its response is handled, and gives its context back
only after that. The second call is answered in the same context. -/
def punctualCompletion : List (SyncEvent (Fin 2) (Fin 2) SyncComplete) :=
  List.flatten [[.enter 0 (callWith 1)], advances 0 5, [.receive 0 (responseTo 1 1), .expire 0, .advance 0],
    [.complete 0, .complete 0], advances 0 3, [.enter 1 (callWith 2)], advances 1 5,
    [.receive 1 (responseTo 2 2), .complete 1, .complete 1], advances 1 5]

theorem returns_own_after_punctual_completion :
    ((run (SyncState.step (processProtocol 9)) SyncState.init punctualCompletion).bind fun s =>
      (s.calls 1).stage.outcome.map Outcome.ret) = some IPC_HV_SOA_RET_SUCCESS ∧
    Throughout (SyncState.step (processProtocol 9)) (SyncState.ReturnsOwn 9) SyncState.init punctualCompletion :=
  ⟨by decide +kernel, returns_own_of_unreused (by decide +kernel) (by decide +kernel)⟩

/-- The first call times out between the lookup of its entry and the write to its
context, and the second call borrows the context in between. -/
def lateCompletion : List (SyncEvent (Fin 2) (Fin 2) SyncComplete) :=
  List.flatten [[.enter 0 (callWith 1)], advances 0 5, [.receive 0 (responseTo 1 1), .expire 0], advances 0 4,
    [.enter 1 (callWith 2)], advances 1 5, [.complete 0, .complete 0], advances 1 5]

/-- The second call returns the response to the first, and no completion had its
number. -/
theorem returns_other_after_late_completion : (numbers lateCompletion).Nodup ∧
    ∃ s out, run (SyncState.step (processProtocol 9)) SyncState.init lateCompletion = some s ∧
      s.msg_seqid 1 = 2 ∧ (s.calls 1).stage = .returned out ∧ out.ret = IPC_HV_SOA_RET_SUCCESS ∧
      out.resp.data.map (fun data => data 0) = some 1 ∧
      ∀ k frame, s.completions k = .finished frame → frame.msg_seqid ≠ 2 := by
  refine ⟨by decide +kernel, ?_⟩
  have hrun : ((run (SyncState.step (processProtocol 9)) SyncState.init lateCompletion).map fun s =>
      (s.msg_seqid 1, (s.calls 1).stage.outcome.map (fun out => (out.ret, out.resp.data.map fun data => data 0)),
        decide (∀ k, (s.completions k).frame.map SyncComplete.msg_seqid ≠ some 2))) =
      some (2, some (IPC_HV_SOA_RET_SUCCESS, some 1), true) := by decide +kernel
  obtain ⟨s, hs, hfacts⟩ := Option.map_eq_some_iff.mp hrun
  obtain ⟨hnumber, hrest⟩ := Prod.mk.inj hfacts
  obtain ⟨hout, hcompletions⟩ := Prod.mk.inj hrest
  obtain ⟨out, hreturned, hresp⟩ := Option.map_eq_some_iff.mp hout
  obtain ⟨hret, hdata⟩ := Prod.mk.inj hresp
  refine ⟨s, out, hs, hnumber, Stage.outcome_eq_some.mp hreturned, hret, hdata, ?_⟩
  intro k frame hk heq
  apply of_decide_eq_true hcompletions k
  rw [hk, Completion.frame, Option.map_some, heq]

end hub.soa
