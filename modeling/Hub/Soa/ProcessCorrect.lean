import Hub.Soa.ProcessCall

namespace hub.soa

open Provider SyncState

namespace Provider

variable {ι κ : Type}

/-- The invariant of the calls to one provider. A request without a response does not
share its number with another call in progress. -/
structure Consistent (client_id : UInt32) (s : Provider ι κ) : Prop where
  sound : s.sync.Sound (methodProtocol ι client_id) (fun frame i => frame.request = i)
  separate : ∀ i j, s.sync.standing i ≠ .absent → (s.sync.calls j).sent = true → j ∉ s.answered →
    s.sync.msg_seqid j = s.sync.msg_seqid i → j = i

theorem Consistent.init {client_id : UInt32} : (init : Provider ι κ).Consistent client_id where
  sound := .init
  separate _ _ h := absurd rfl h

/-- No two calls wait with the same number, and a call that returns `SUCCESS` returns
what the response to its own request holds. -/
structure Correct (client_id : UInt32) (s : Provider ι κ) : Prop where
  distinct : ∀ i j ctx ctx', (s.sync.calls i).stage = .holding ctx .wait →
    (s.sync.calls j).stage = .holding ctx' .wait → s.sync.msg_seqid i = s.sync.msg_seqid j → i = j
  own : ∀ i out, (s.sync.calls i).stage = .returned out → out.ret = IPC_HV_SOA_RET_SUCCESS →
    ∃ k frame, s.sync.completions k = .finished frame ∧ frame.request = i ∧
      frame.complete.msg_seqid = s.sync.msg_seqid i ∧
      out.resp = deliver_process
        (frame.complete.write client_id ((processProtocol client_id).init (s.sync.calls i).args))
        (s.sync.calls i).args.resp

theorem Consistent.correct {client_id : UInt32} {s : Provider ι κ} (h : s.Consistent client_id) :
    s.Correct client_id where
  distinct i j ctx ctx' hi hj heq := by
    apply h.sound.correlated.distinct i j _ _ heq
    · simp [standing, hi, Stage.standing, Phase.standing]
    · simp [standing, hj, Stage.standing, Phase.standing]
  own i out hstage hret := by
    have hjustified := h.sound.calls i
    rw [hstage] at hjustified
    obtain ⟨k, frame, hk, hown, hresp⟩ := hjustified hret
    exact ⟨k, frame, hk, hown.2, hown.1, hresp⟩

variable [DecidableEq ι] [DecidableEq κ]

structure Steps (client_id : UInt32) (s s' : Provider ι κ) (event : ProviderEvent ι κ)
    (inner : SyncEvent ι κ (ProcessFrame ι)) : Prop where
  sync : s.sync.step (methodProtocol ι client_id) inner = some s'.sync
  answered : ∀ i ∈ s.answered, i ∈ s'.answered
  enter : ∀ i args, inner = .enter i args → args.msg_seqid = s.msg_seqid ∧ ∃ args', event = .call i .sync args'
  receive : ∀ k frame, inner = .receive k frame → s.Responds frame
  complete : ∀ k, inner = .complete k → event = .complete k

/-- A step either leaves the calls and completions alone or is one of theirs. -/
def Does (client_id : UInt32) (s s' : Provider ι κ) (event : ProviderEvent ι κ) : Prop :=
  (s'.sync = s.sync ∧ s'.answered = s.answered) ∨ ∃ inner, s.Steps client_id s' event inner

variable {client_id : UInt32} {s s' t : Provider ι κ} {event : ProviderEvent ι κ} {i : ι}

theorem fail_does {ret : Int} (hsync : t.sync = s.sync) (hanswered : t.answered = s.answered)
    (hnext : t.fail client_id i ret = some s') : s.Does client_id s' event := by
  unfold fail at hnext
  split at hnext
  · obtain ⟨sync, hstep, rfl⟩ := Option.map_eq_some_iff.mp hnext
    rw [hsync] at hstep
    exact .inr ⟨_, hstep, fun _ hi => hanswered ▸ hi, by simp, by simp, by simp⟩
  all_goals
    cases hnext
    exact .inl ⟨hsync, hanswered⟩

theorem call_does {method : MethodCall} {args : SyncArgs} (hnext : s.call client_id i method args = some s') :
    s.Does client_id s' (.call i method args) := by
  unfold call at hnext
  split at hnext
  · cases hnext
    exact .inl ⟨rfl, rfl⟩
  · obtain ⟨sync, hstep, rfl⟩ := Option.map_eq_some_iff.mp hnext
    refine .inr ⟨_, hstep, fun _ hi => hi, ?_, by simp, by simp⟩
    rintro j args' heq
    cases heq
    exact ⟨rfl, args, rfl⟩
  · cases hnext
    exact .inl ⟨rfl, rfl⟩
  · cases hnext
    exact .inl ⟨rfl, rfl⟩
  · cases hnext

theorem proceed_does {ok : Bool} (hnext : s.proceed client_id i ok = some s') : s.Does client_id s' event := by
  unfold proceed at hnext
  split at hnext
  · cases hnext
    exact .inl ⟨rfl, rfl⟩
  · cases hnext
    exact .inl ⟨rfl, rfl⟩
  · split at hnext
    · exact fail_does (t := { s with client_send_io := some ⟨false⟩ }) rfl rfl hnext
    · split at hnext
      · cases hnext
        exact .inl ⟨rfl, rfl⟩
      · exact fail_does rfl rfl hnext
  · split at hnext
    · cases hnext
      exact .inl ⟨rfl, rfl⟩
    · exact fail_does rfl rfl hnext
  · cases hnext
    exact .inl ⟨rfl, rfl⟩
  · split at hnext
    · obtain ⟨ctx, -, rfl⟩ := Option.map_eq_some_iff.mp hnext
      exact .inl ⟨rfl, rfl⟩
    · exact fail_does rfl rfl hnext
  · obtain ⟨wait_result, -, hnext⟩ := Option.bind_eq_some_iff.mp hnext
    split at hnext
    · exact fail_does rfl rfl hnext
    · split at hnext
      · exact fail_does rfl rfl hnext
      · cases hnext
        exact .inl ⟨rfl, rfl⟩
  · split at hnext
    · cases hnext
    all_goals
      cases hnext
      exact .inl ⟨rfl, rfl⟩
  · cases hnext
  · cases hnext

theorem whileSending_does {inner : SyncEvent ι κ (ProcessFrame ι)} (henter : ∀ j args, inner ≠ .enter j args)
    (hreceive : ∀ k frame, inner ≠ .receive k frame) (hcomplete : ∀ k, inner ≠ .complete k)
    (hnext : s.whileSending client_id i inner = some s') : s.Does client_id s' event := by
  unfold whileSending at hnext
  split at hnext
  · obtain ⟨sync, hstep, rfl⟩ := Option.map_eq_some_iff.mp hnext
    exact .inr ⟨inner, hstep, fun _ hi => hi, fun j args heq => absurd heq (henter j args),
      fun k frame heq => absurd heq (hreceive k frame), fun k heq => absurd heq (hcomplete k)⟩
  · cases hnext

theorem step_does (hnext : s.step client_id event = some s') : s.Does client_id s' event := by
  cases event with
  | call i method args => exact call_does hnext
  | proceed i ok => exact proceed_does hnext
  | advance i | refuse i | expire i => exact whileSending_does (by simp) (by simp) (by simp) hnext
  | receive k frame =>
    simp only [step] at hnext
    split at hnext
    · rename_i hresponds
      obtain ⟨sync, hstep, rfl⟩ := Option.map_eq_some_iff.mp hnext
      refine .inr ⟨_, hstep, fun _ hi => .tail _ hi, by simp, ?_, by simp⟩
      rintro k' frame' heq
      cases heq
      exact hresponds
    · cases hnext
  | complete k =>
    obtain ⟨sync, hstep, rfl⟩ := Option.map_eq_some_iff.mp hnext
    refine .inr ⟨_, hstep, fun _ hi => hi, by simp, by simp, ?_⟩
    rintro k' heq
    cases heq
    rfl
  | connected =>
    simp only [step] at hnext
    split at hnext
    · cases hnext
      exact .inl ⟨rfl, rfl⟩
    · cases hnext
  | clear | closed =>
    simp only [step] at hnext
    split at hnext
    · obtain ⟨sync, hstep, rfl⟩ := Option.map_eq_some_iff.mp hnext
      exact .inr ⟨_, hstep, fun _ hi => hi, by simp, by simp, by simp⟩
    · cases hnext
  | set =>
    simp only [step] at hnext
    split at hnext
    · cases hnext
      exact .inl ⟨rfl, rfl⟩
    · cases hnext
      exact .inl ⟨rfl, rfl⟩
    · cases hnext
  | status client_status =>
    cases hnext
    exact .inl ⟨rfl, rfl⟩

theorem Consistent.unmixed {inner : SyncEvent ι κ (ProcessFrame ι)} (h : s.Consistent client_id)
    (hsteps : s.Steps client_id s' event inner) (hunused : s.Unused client_id event) :
    s.sync.Unmixed (methodProtocol ι client_id) (fun frame i => frame.request = i) inner := by
  cases inner with
  | enter i args =>
    obtain ⟨hnumber, args', rfl⟩ := hsteps.enter i args rfl
    constructor
    · intro j hj heq
      exact hj (hunused.1 j (heq.trans hnumber)).1
    · intro k n ctx hk heq
      exact hunused.2 k (n, ctx) hk (heq.trans hnumber)
  | receive k frame =>
    obtain ⟨hsent, hnew, hnumber, -⟩ := hsteps.receive k frame rfl
    refine ⟨fun i ctx hi hsame => ?_, fun hdaemon => by cases hdaemon⟩
    exact h.separate i frame.request (by rw [hi]; simp) hsent hnew (hnumber.symm.trans hsame.symm)
  | complete k =>
    rw [hsteps.complete k rfl] at hunused
    exact fun _ n ctx hk i hi => hunused (n, ctx) hk i hi
  | _ => trivial

theorem Consistent.step (h : s.Consistent client_id) (hunused : s.Unused client_id event)
    (hnext : s.step client_id event = some s') : s'.Consistent client_id := by
  rcases step_does hnext with ⟨hsync, hanswered⟩ | ⟨inner, hsteps⟩
  · constructor
    · rw [hsync]
      exact h.sound
    · rw [hsync, hanswered]
      exact h.separate
  · refine ⟨h.sound.step (h.unmixed hsteps hunused) hsteps.sync, ?_⟩
    intro i j hi hsent hnew hnumber
    have hnew' : j ∉ s.answered := fun hold => hnew (hsteps.answered j hold)
    -- the request of `j` was written before, or it is written now
    have hj : s.sync.msg_seqid j = s'.sync.msg_seqid j ∧
        ((s.sync.calls j).sent = true ∨ s.sync.standing j ≠ .absent) := by
      rcases step_calls hsteps.sync j with hsame | ⟨args, -, -, hcall⟩ | hmoves
      · rw [hsame] at hsent
        exact ⟨congrArg (·.args.msg_seqid) hsame.symm, .inl hsent⟩
      · rw [hcall] at hsent
        cases hsent
      · refine ⟨congrArg SyncArgs.msg_seqid hmoves.args_eq.symm, ?_⟩
        generalize s'.sync.calls j = next at hmoves hsent
        cases hmoves with
        | stage => exact .inl hsent
        | send ctx hsend =>
          right
          simp [standing, hsend, Stage.standing, Phase.standing]
    have hold : s.sync.standing i ≠ .absent → s'.sync.msg_seqid i = s.sync.msg_seqid i → j = i := by
      intro hstanding hsame
      have hequal : s.sync.msg_seqid j = s.sync.msg_seqid i := hj.1.trans (hnumber.trans hsame)
      rcases hj.2 with hsent | hstanding'
      · exact h.separate i j hstanding hsent hnew' hequal
      · exact h.sound.correlated.distinct j i hstanding' hstanding hequal
    rcases step_calls hsteps.sync i with hsame | ⟨args, rfl, -, hcall⟩ | hmoves
    · rw [standing, hsame] at hi
      exact hold hi (congrArg (·.args.msg_seqid) hsame)
    · -- the number of the new call is not in use
      obtain ⟨hdrawn, args', rfl⟩ := hsteps.enter i args rfl
      have hsame : s'.sync.msg_seqid i = args.msg_seqid := congrArg (·.args.msg_seqid) hcall
      obtain ⟨habsent, hanswered⟩ := hunused.1 j (hj.1.trans (hnumber.trans (hsame.trans hdrawn)))
      rcases hj.2 with hsent | hstanding
      · exact absurd (hanswered hsent) hnew'
      · exact absurd habsent hstanding
    · exact hold (hmoves.standing hi) (congrArg SyncArgs.msg_seqid hmoves.args_eq)

end Provider

/-- The calls to a provider are correlated correctly as long as no call draws a number
that is in use and no context is reused under a completion. -/
theorem method_calls_correct_of_unused {ι κ : Type} [DecidableEq ι] [DecidableEq κ] {client_id : UInt32}
    {labels : List (ProviderEvent ι κ)}
    (hmeets : Meets (Provider.step client_id) (Provider.Unused client_id) Provider.init labels) :
    Throughout (Provider.step client_id) (Provider.Correct client_id) Provider.init labels :=
  hmeets.throughout (Consistent client_id) (fun _ _ _ h hunused hnext => h.step hunused hnext)
    (fun _ h => h.correct) .init

def connects {ι κ : Type} (i : ι) : List (ProviderEvent ι κ) :=
  [.proceed i true, .proceed i true, .proceed i true, .proceed i true, .connected, .clear, .set, .proceed i true]

/-- A synchronous call that finds the connection open, up to its `n`-th step after that. -/
def syncCall {ι κ : Type} (i : ι) (n : Nat) : List (ProviderEvent ι κ) :=
  [.call i .sync (callWith 0), .proceed i true, .proceed i true] ++ List.replicate n (.advance i)

open scoped Parties

/-- The process connects to the provider and makes two calls with a notification in
between. -/
def methodCallsOfTwo : List (ProviderEvent (Fin 4) (Fin 2)) :=
  List.flatten [[.call 0 .connect (callWith 0)], connects 0, syncCall 1 5,
    [.call 2 .notify (callWith 0), .proceed 2 true, .proceed 2 true, .proceed 2 true], syncCall 3 7,
    [.receive 0 ⟨3, responseTo 3 3⟩, .complete 0, .receive 1 ⟨1, responseTo 1 1⟩, .complete 0,
    .complete 1, .complete 1],
    List.replicate 5 (.advance 1), List.replicate 5 (.advance 3)]

theorem method_calls_correct_of_two :
    ((run (Provider.step 9) Provider.init methodCallsOfTwo).map fun s =>
      ((s.sync.calls 1).stage.outcome.map Outcome.ret,
      (s.sync.calls 3).stage.outcome.map Outcome.ret)) =
        some (some IPC_HV_SOA_RET_SUCCESS, some IPC_HV_SOA_RET_SUCCESS) ∧
    Throughout (Provider.step 9) (Provider.Correct 9) Provider.init methodCallsOfTwo :=
  ⟨by decide +kernel, method_calls_correct_of_unused (by decide +kernel)⟩

/-- The connection is lost. Call 1 draws its number, connects again and waits; call 2
draws the number that the new connection starts with. -/
def callsAfterReconnect : List (ProviderEvent (Fin 3) (Fin 1)) :=
  List.flatten [[.call 0 .connect (callWith 0)], connects 0, [.closed],
    [.call 1 .sync (callWith 0), .proceed 1 true], connects 1, List.replicate 5 (.advance 1), syncCall 2 7]

def responseToSecond : List (ProviderEvent (Fin 3) (Fin 1)) :=
  List.flatten [[.receive 0 ⟨2, responseTo 1 2⟩, .complete 0, .complete 0], List.replicate 5 (.advance 1)]

/-- Both calls wait with the same number, and call 1 returns the payload of the response
to call 2. -/
theorem method_calls_mixed_after_reconnect :
    (∃ s ctx ctx', run (Provider.step 9) Provider.init callsAfterReconnect = some s ∧
      (s.sync.calls 1).stage = .holding ctx .wait ∧ (s.sync.calls 2).stage = .holding ctx' .wait ∧
      s.sync.msg_seqid 1 = s.sync.msg_seqid 2) ∧
    ∃ s out, run (Provider.step 9) Provider.init (callsAfterReconnect ++ responseToSecond) = some s ∧
      (s.sync.calls 1).stage = .returned out ∧ out.ret = IPC_HV_SOA_RET_SUCCESS ∧
      out.resp.data.map (fun data => data 0) = some 2 ∧
      ∀ k frame, s.sync.completions k = .finished frame → frame.request = 2 := by
  have hwaiting : ((run (step 9) init callsAfterReconnect).map fun s =>
      ((s.sync.calls 1).stage.waitsWith, (s.sync.calls 2).stage.waitsWith,
        decide (s.sync.msg_seqid 1 = s.sync.msg_seqid 2))) = some (some ⟨0⟩, some ⟨1⟩, true) := by decide +kernel
  have hreturned : ((run (step 9) init (callsAfterReconnect ++ responseToSecond)).map fun s =>
      ((s.sync.calls 1).stage.outcome.map (fun out => (out.ret, out.resp.data.map fun data => data 0)),
        decide (∀ k, (s.sync.completions k).frame.map ProcessFrame.request = some 2))) =
      some (some (IPC_HV_SOA_RET_SUCCESS, some 2), true) := by decide +kernel
  obtain ⟨s, hs, hfacts⟩ := Option.map_eq_some_iff.mp hwaiting
  obtain ⟨t, ht, hresults⟩ := Option.map_eq_some_iff.mp hreturned
  obtain ⟨hfirst, hrest⟩ := Prod.mk.inj hfacts
  obtain ⟨hsecond, hnumbers⟩ := Prod.mk.inj hrest
  obtain ⟨hout, hcompletions⟩ := Prod.mk.inj hresults
  obtain ⟨out, houtcome, hresp⟩ := Option.map_eq_some_iff.mp hout
  obtain ⟨hret, hdata⟩ := Prod.mk.inj hresp
  refine ⟨⟨s, _, _, hs, Stage.waitsWith_eq_some.mp hfirst, Stage.waitsWith_eq_some.mp hsecond,
    of_decide_eq_true hnumbers⟩, t, out, ht, Stage.outcome_eq_some.mp houtcome, hret, hdata, ?_⟩
  intro k frame hk
  have hrequest := of_decide_eq_true hcompletions k
  rw [hk] at hrequest
  exact Option.some.inj hrequest

end hub.soa
