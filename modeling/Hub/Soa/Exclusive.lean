import Hub.Soa.Coherence

namespace hub.soa

open local_registry soa.System LocalRegistry

variable {ι : Type}

theorem Processes.validate_eq_some (processes : Processes ι) {p : ι} {resp : StRegisterClientResp} {client_id : UInt32}
    (h : processes.validate p resp = some client_id) :
    resp.client_id = client_id ∧ resp.client_pid = processes.client_pid p := by
  unfold validate at h
  split at h
  · cases h
  · rename_i hpid
    exact ⟨Option.some.inj h, not_not.mp hpid⟩

variable [DecidableEq ι]

namespace System

variable {processes : Processes ι}

abbrev channels (sys : System ι) : ι → Option UInt32 := fun p => (sys.process p).channel

theorem channels_setProcess (sys : System ι) (p : ι) (state : ProcessState) :
    (sys.setProcess p state).channels = Function.update sys.channels p state.channel :=
  Function.comp_update ProcessState.channel sys.process p state

theorem process_setProcess_self (sys : System ι) (p : ι) (state : ProcessState) :
    (sys.setProcess p state).process p = state := Function.update_self ..

theorem process_setProcess_of_ne (sys : System ι) {p q : ι} (state : ProcessState) (h : q ≠ p) :
    (sys.setProcess p state).process q = sys.process q := Function.update_of_ne h ..

theorem told_setProcess (sys : System ι) (p : ι) (channel : Option UInt32) (q : ι) :
    ((sys.setProcess p { sys.process p with channel := channel }).process q).told = (sys.process q).told := by
  by_cases hqp : q = p
  · subst hqp
    rw [process_setProcess_self]
  · rw [process_setProcess_of_ne _ _ hqp]

inductive Turn (processes : Processes ι) (sys : System ι) : Env × SystemEvent ι → System ι → Prop where
  | opens {env : Env} {p : ι} {id : UInt32} {daemon : LocalRegistry} (hclosed : (sys.process p).channel = none)
      (hdaemon : sys.daemon.step (env, .connect (processes.channel p id)) = some daemon) :
      Turn processes sys (env, .opens p id)
        ({ sys with daemon := daemon }.setProcess p { sys.process p with channel := some id })
  | closes {env : Env} {p : ι} {id : UInt32} :
      Turn processes sys (env, .closes p id) (sys.setProcess p { sys.process p with channel := none })
  | disconnects {env : Env} {p : ι} {id : UInt32} {daemon : LocalRegistry}
      (hchannel : sys.daemon.m_server.getChannelById id = some (processes.channel p id))
      (hclosed : (sys.process p).channel ≠ some id) (hdaemon : sys.daemon.step (env, .close id) = some daemon) :
      Turn processes sys (env, .disconnects p id) { sys with daemon := daemon }
  | requests {env : Env} {p : ι} {id : UInt32} {header : StLocalMsgHeader} {daemon : LocalRegistry}
      (hchannel : sys.daemon.m_server.getChannelById id = some (processes.channel p id))
      (hdaemon : sys.daemon.step (env, .message (processes.channel p id)
        (.register_client header (processes.request p))) = some daemon) :
      Turn processes sys (env, .requests p id header) { sys with daemon := daemon }
  | receives {env : Env} {p : ι} {id : UInt32} {n : Nat} {header : StLocalMsgHeader} {resp : StRegisterClientResp}
      (hopen : (sys.process p).channel = some id)
      (hframe : sys.daemon.sent[n]? = some ⟨id, header, .register_client_resp resp⟩) :
      Turn processes sys (env, .receives p id n)
        (sys.setProcess p ((sys.process p).hear n (processes.validate p resp)))

theorem turn_of_step {sys sys' : System ι} {label : Env × SystemEvent ι} (h : sys.step processes label = some sys') :
    sys.Turn processes label sys' := by
  obtain ⟨env, event⟩ := label
  cases event with
  | opens p id =>
    simp only [step, Option.ite_none_right_eq_some, Option.map_eq_some_iff] at h
    obtain ⟨hclosed, daemon, hdaemon, rfl⟩ := h
    exact .opens hclosed hdaemon
  | closes p id =>
    simp only [step, Option.ite_none_right_eq_some, Option.some.injEq] at h
    obtain ⟨hopen, rfl⟩ := h
    exact .closes
  | disconnects p id =>
    simp only [step, Option.ite_none_right_eq_some, Option.map_eq_some_iff] at h
    obtain ⟨⟨hchannel, hclosed⟩, daemon, hdaemon, rfl⟩ := h
    exact .disconnects hchannel hclosed hdaemon
  | requests p id header =>
    simp only [step, Option.ite_none_right_eq_some, Option.map_eq_some_iff] at h
    obtain ⟨hchannel, daemon, hdaemon, rfl⟩ := h
    exact .requests hchannel hdaemon
  | receives p id n =>
    simp only [step] at h
    split at h
    · rename_i channel_id header resp hframe
      simp only [Option.ite_none_right_eq_some, Option.some.injEq] at h
      obtain ⟨⟨hopen, rfl⟩, rfl⟩ := h
      exact .receives hopen hframe
    · cases h

end System

/-- The process has asked for its registration, the daemon has answered with its frame `n`,
and when it handled the request some record had the client id and the pid of the process. -/
def Asked (processes : Processes ι) (labels : List (Env × SystemEvent ι)) (p : ι) (n : Nat)
    (client_id : UInt32) : Prop :=
  ∃ before env id header after sys next, labels = before ++ (env, .requests p id header) :: after ∧
    systemRun processes before = some sys ∧ sys.step processes (env, .requests p id header) = some next ∧
    sys.daemon.sent.length ≤ n ∧ n < next.daemon.sent.length ∧
    ∃ c, sys.daemon.clients.Live c ∧ (sys.daemon.client c).client_id = client_id ∧
      (sys.daemon.client c).client_pid = processes.client_pid p

/-- The invariants of the system and its past. Only answers to requests go to the channel of
a process with the pid of that process in them. -/
structure Settled (processes : Processes ι) (labels : List (Env × SystemEvent ι)) (sys : System ι) : Prop where
  coherent : Coherent processes sys.daemon.toTables sys.channels
  issued : ∀ {frame resp}, frame ∈ sys.daemon.sent → frame.payload = .register_client_resp resp →
    frame.channel_id ∈ sys.daemon.m_server.issued
  answers : ∀ {n : Nat} {frame : Sent} {resp : StRegisterClientResp} {p : ι},
    sys.daemon.sent[n]? = some frame → frame.payload = .register_client_resp resp →
    sys.channels p = some frame.channel_id → resp.client_pid = processes.client_pid p →
    Asked processes labels p n resp.client_id ∧ Recorded processes sys.daemon.toTables sys.channels p resp.client_id
  told : ∀ {n p client_id}, (n, client_id) ∈ (sys.process p).told →
    Asked processes labels p n client_id ∧ Recorded processes sys.daemon.toTables sys.channels p client_id

section Step

variable {processes : Processes ι} {before : List (Env × SystemEvent ι)} {sys : System ι}

theorem Asked.append {p : ι} {n : Nat} {client_id : UInt32} (h : Asked processes before p n client_id)
    (after : List (Env × SystemEvent ι)) : Asked processes (before ++ after) p n client_id := by
  obtain ⟨first, env, id, header, second, sys, next, rfl, hasked⟩ := h
  exact ⟨first, env, id, header, second ++ after, sys, next, by simp, hasked⟩

theorem sent_cases {sent frames : List Sent} {n : Nat} {frame : Sent} (h : (sent ++ frames)[n]? = some frame) :
    sent[n]? = some frame ∨ (sent.length ≤ n ∧ frame ∈ frames) := by
  rw [List.getElem?_append] at h
  split at h
  · exact .inl h
  · exact .inr ⟨by omega, List.mem_of_getElem? h⟩

theorem told_hear {state : ProcessState} {n m : Nat} {result : Option UInt32} {client_id : UInt32}
    (h : (m, client_id) ∈ (state.hear n result).told) :
    (m = n ∧ result = some client_id) ∨ (m, client_id) ∈ state.told := by
  cases result with
  | none => exact .inr h
  | some other =>
    rcases List.mem_cons.mp h with heq | hold
    · cases heq
      exact .inl ⟨rfl, rfl⟩
    · exact .inr hold

namespace Settled

variable (h : Settled processes before sys)

include h

theorem opens {env : Env} {p : ι} {id : UInt32} {daemon : LocalRegistry} (hfresh : sys.FreshChannel (env, .opens p id))
    (hreleased : sys.Released processes (env, .opens p id))
    (hdaemon : sys.daemon.step (env, .connect (processes.channel p id)) = some daemon) :
    Settled processes (before ++ [(env, .opens p id)])
      ({ sys with daemon := daemon }.setProcess p { sys.process p with channel := some id }) := by
  have hsent := connect_sent hdaemon
  refine ⟨?_, ?_, ?_, ?_⟩
  · rw [channels_setProcess]
    exact h.coherent.opens hfresh (fun c hc hpid => hreleased c hc (.inr hpid)) hdaemon
  · intro frame resp hframe hpayload
    exact step_issued h.coherent.wellFormed hdaemon (h.issued (hsent ▸ hframe) hpayload)
  · intro n frame resp q hframe hpayload hq hpid
    have hold : sys.daemon.sent[n]? = some frame := by
      rw [← hsent]
      exact hframe
    rw [channels_setProcess] at hq ⊢
    by_cases hqp : q = p
    · subst hqp
      cases (Function.update_self ..).symm.trans hq
      exact absurd (h.issued (List.mem_of_getElem? hold) hpayload) hfresh
    · rw [Function.update_of_ne hqp] at hq
      obtain ⟨hasked, hrecorded⟩ := h.answers hold hpayload hq hpid
      exact ⟨hasked.append _, hrecorded.opens h.coherent hfresh (fun heq => absurd heq hqp) hdaemon⟩
  · intro n q client_id hmem
    have hold : (n, client_id) ∈ (sys.process q).told := (told_setProcess sys p (some id) q) ▸ hmem
    obtain ⟨hasked, hrecorded⟩ := h.told hold
    rw [channels_setProcess]
    refine ⟨hasked.append _, hrecorded.opens h.coherent hfresh (fun heq c hc => ?_) hdaemon⟩
    exact hreleased c hc (.inl (List.ne_nil_of_mem (heq ▸ hold)))

theorem closes (env : Env) (p : ι) (id : UInt32) :
    Settled processes (before ++ [(env, .closes p id)]) (sys.setProcess p { sys.process p with channel := none }) := by
  refine ⟨?_, h.issued, ?_, ?_⟩
  · rw [channels_setProcess]
    exact h.coherent.closes p
  · intro n frame resp q hframe hpayload hq hpid
    rw [channels_setProcess] at hq ⊢
    by_cases hqp : q = p
    · subst hqp
      cases (Function.update_self ..).symm.trans hq
    · rw [Function.update_of_ne hqp] at hq
      obtain ⟨hasked, hrecorded⟩ := h.answers hframe hpayload hq hpid
      exact ⟨hasked.append _, hrecorded.closes p⟩
  · intro n q client_id hmem
    rw [told_setProcess] at hmem
    obtain ⟨hasked, hrecorded⟩ := h.told hmem
    rw [channels_setProcess]
    exact ⟨hasked.append _, hrecorded.closes p⟩

theorem disconnects {env : Env} {p : ι} {id : UInt32} {daemon : LocalRegistry}
    (hchannel : sys.daemon.m_server.getChannelById id = some (processes.channel p id))
    (hclosed : (sys.process p).channel ≠ some id) (hdaemon : sys.daemon.step (env, .close id) = some daemon) :
    Settled processes (before ++ [(env, .disconnects p id)]) { sys with daemon := daemon } := by
  obtain ⟨frames, hsent, hother⟩ := close_answers hdaemon
  refine ⟨h.coherent.disconnects hdaemon hchannel hclosed, ?_, ?_, ?_⟩
  · intro frame resp hframe hpayload
    apply step_issued h.coherent.wellFormed hdaemon
    rcases List.mem_append.mp (hsent ▸ hframe) with hold | hnew
    · exact h.issued hold hpayload
    · exact absurd (hpayload ▸ trivial) (hother frame hnew)
  · intro n frame resp q hframe hpayload hq hpid
    rcases sent_cases (hsent ▸ hframe) with hold | ⟨_, hnew⟩
    · obtain ⟨hasked, hrecorded⟩ := h.answers hold hpayload hq hpid
      exact ⟨hasked.append _, hrecorded.disconnects hdaemon⟩
    · exact absurd (hpayload ▸ trivial) (hother frame hnew)
  · intro n q client_id hmem
    exact ⟨(h.told hmem).1.append _, (h.told hmem).2.disconnects hdaemon⟩

theorem requests {env : Env} {p : ι} {id : UInt32} {header : StLocalMsgHeader} {daemon : LocalRegistry}
    (hrun : systemRun processes before = some sys)
    (hstep : sys.step processes (env, .requests p id header) = some { sys with daemon := daemon })
    (hchannel : sys.daemon.m_server.getChannelById id = some (processes.channel p id))
    (hdaemon : sys.daemon.step (env, .message (processes.channel p id)
      (.register_client header (processes.request p))) = some daemon) :
    Settled processes (before ++ [(env, .requests p id header)]) { sys with daemon := daemon } := by
  obtain ⟨htables, frames, hsent, hnew⟩ := register_client_step hdaemon
  refine ⟨htables ▸ h.coherent, ?_, ?_, ?_⟩
  · intro frame resp hframe hpayload
    apply step_issued h.coherent.wellFormed hdaemon
    rcases List.mem_append.mp (hsent ▸ hframe) with hold | hframe
    · exact h.issued hold hpayload
    · rw [(hnew frame hframe).1]
      exact h.coherent.connected.open_issued hchannel
  · intro n frame resp q hframe hpayload hq hpid
    change Asked .. ∧ Recorded processes daemon.toTables sys.channels q _
    rw [htables]
    rcases sent_cases (hsent ▸ hframe) with hold | ⟨hn, hmem⟩
    · obtain ⟨hasked, hrecorded⟩ := h.answers hold hpayload hq hpid
      exact ⟨hasked.append _, hrecorded⟩
    · -- the request came over the connection of the process that can read the answer
      obtain ⟨hid, hanswer⟩ := hnew frame hmem
      rw [hid] at hq
      cases processes.eq_of_channel (Option.some.inj (hchannel.symm.trans (h.coherent.opened hq)))
      cases hanswer.symm.trans hpayload
      obtain ⟨c, hlookup, hrecord⟩ := record_of_registerResp hpid
      refine ⟨⟨before, env, id, header, [], sys, _, rfl, hrun, hstep, hn, ?_, c,
        h.coherent.wellFormed.names_live hlookup, hrecord⟩, h.coherent.recorded hpid⟩
      exact (List.getElem?_eq_some_iff.mp hframe).1
  · intro n q client_id hmem
    change Asked .. ∧ Recorded processes daemon.toTables sys.channels q _
    rw [htables]
    exact ⟨(h.told hmem).1.append _, (h.told hmem).2⟩

theorem receives {env : Env} {p : ι} {id : UInt32} {n : Nat} {header : StLocalMsgHeader} {resp : StRegisterClientResp}
    (hopen : (sys.process p).channel = some id)
    (hframe : sys.daemon.sent[n]? = some ⟨id, header, .register_client_resp resp⟩) :
    Settled processes (before ++ [(env, .receives p id n)])
      (sys.setProcess p ((sys.process p).hear n (processes.validate p resp))) := by
  have hchannels : (sys.setProcess p ((sys.process p).hear n (processes.validate p resp))).channels = sys.channels := by
    rw [channels_setProcess]
    refine (congrArg _ ?_).trans (Function.update_eq_self p sys.channels)
    cases processes.validate p resp <;> rfl
  refine ⟨hchannels ▸ h.coherent, h.issued, ?_, ?_⟩
  · intro m frame resp' q hframe' hpayload hq hpid
    rw [hchannels] at hq ⊢
    obtain ⟨hasked, hrecorded⟩ := h.answers hframe' hpayload hq hpid
    exact ⟨hasked.append _, hrecorded⟩
  · intro m q client_id hmem
    rw [hchannels]
    suffices hmem : Asked processes before q m client_id ∧ _ from ⟨hmem.1.append _, hmem.2⟩
    by_cases hqp : q = p
    · subst hqp
      rw [process_setProcess_self] at hmem
      rcases told_hear hmem with ⟨rfl, hresult⟩ | hold
      · obtain ⟨rfl, hpid⟩ := processes.validate_eq_some hresult
        exact h.answers hframe rfl hopen hpid
      · exact h.told hold
    · rw [process_setProcess_of_ne _ _ hqp] at hmem
      exact h.told hmem

end Settled

variable {label : Env × SystemEvent ι}

theorem systemRun_settled {labels : List (Env × SystemEvent ι)}
    (hmeets : Meets (step processes)
      (fun sys label => sys.FreshChannel label ∧ sys.Released processes label) .init labels)
    (hrun : systemRun processes labels = some sys) : Settled processes labels sys := by
  refine run_history_of_meets (Settled processes) ?_ ⟨⟨Tables.init_wellFormed, Tables.init_connected, ?_, ?_, ?_⟩,
    ?_, ?_, ?_⟩ hmeets hrun
  · rintro before state label next hbefore hstate ⟨hfresh, hreleased⟩ hstep
    cases turn_of_step hstep with
    | opens _ hdaemon => exact hstate.opens hfresh hreleased hdaemon
    | closes => exact hstate.closes ..
    | disconnects hchannel hclosed hdaemon => exact hstate.disconnects hchannel hclosed hdaemon
    | requests hchannel hdaemon => exact hstate.requests hbefore hstep hchannel hdaemon
    | receives hopen hframe => exact hstate.receives hopen hframe
  · intro p id hchannel
    cases hchannel
  · intro c p hlive
    exact absurd hlive (Nat.not_lt_zero _)
  · intro c p id hlive
    exact absurd hlive (Nat.not_lt_zero _)
  · intro frame resp hframe
    cases hframe
  · intro n frame resp p hframe
    cases hframe
  · intro n p client_id hmem
    cases hmem

end Step

section Daemon

variable {processes : Processes ι}

omit [DecidableEq ι] in
theorem daemonLabels_append (first second : List (Env × SystemEvent ι)) :
    daemonLabels processes (first ++ second) = daemonLabels processes first ++ daemonLabels processes second :=
  List.filterMap_append ..

theorem daemonRun_of_systemRun {sys : System ι} {labels : List (Env × SystemEvent ι)}
    (hrun : systemRun processes labels = some sys) : daemonRun (daemonLabels processes labels) = some sys.daemon := by
  suffices hall : ∀ start : System ι, run (step processes) start labels = some sys →
      run step start.daemon (daemonLabels processes labels) = some sys.daemon from hall .init hrun
  clear hrun
  induction labels with
  | nil =>
    intro start hrun
    cases hrun
    rfl
  | cons label labels ih =>
    intro start hrun
    obtain ⟨next, hstep, hrest⟩ := run_cons_eq_some.mp hrun
    have hlabels : daemonLabels processes (label :: labels) =
        daemonLabels processes [label] ++ daemonLabels processes labels := daemonLabels_append [label] labels
    rw [hlabels]
    refine run_append_eq_some.mpr ⟨next.daemon, ?_, ih next hrest⟩
    cases turn_of_step hstep with
    | opens _ hdaemon | disconnects _ _ hdaemon | requests _ hdaemon => exact run_cons_eq_some.mpr ⟨_, hdaemon, rfl⟩
    | closes | receives => rfl

theorem identified_of_systemRun {sys : System ι} {before after : List (Env × SystemEvent ι)}
    (hnames : (connectNames (daemonLabels processes (before ++ after))).toFinset.card < 2 ^ 32 - 1)
    (hrun : systemRun processes before = some sys) : sys.daemon.Identified (daemonLabels processes after) := by
  rw [daemonLabels_append] at hnames
  exact (init_identified hnames).run (daemonRun_of_systemRun hrun)

end Daemon

/-- The daemon has a record with the client id, and the record has the pid. -/
def CarriesPid (r : LocalRegistry) (client_id : UInt32) (client_pid : Nat) : Prop :=
  (∃ name c, r.m_clients_by_name.lookup name = some c ∧ (r.client c).client_id = client_id) ∧
    ∀ name c, r.m_clients_by_name.lookup name = some c → (r.client c).client_id = client_id →
      (r.client c).client_pid = client_pid

/-- Channel ids are never reused, fewer names than client ids appear, and a process that has
been told a client id, or has its pid in the record of its name, connects again only after
the daemon has dropped the channel of that record. Then no two processes that are connected
have been told the same client id, and whenever a process is told one, the daemon's record
with that id carried its pid when the daemon handled the request that it answered so. -/
theorem client_ids_exclusive {processes : Processes ι} {labels : List (Env × SystemEvent ι)} {sys : System ι}
    (hmeets : Meets (System.step processes) (fun sys label => sys.FreshChannel label ∧ sys.Released processes label)
      .init labels)
    (hnames : (connectNames (daemonLabels processes labels)).toFinset.card < 2 ^ 32 - 1)
    (hrun : systemRun processes labels = some sys) :
    (∀ p q client_id n m, p ≠ q → (sys.process p).channel.isSome → (sys.process q).channel.isSome →
      (n, client_id) ∈ (sys.process p).told → (m, client_id) ∉ (sys.process q).told) ∧
      ∀ p client_id n, (n, client_id) ∈ (sys.process p).told → ∃ before env id header after sys₁ sys₂,
        labels = before ++ (env, .requests p id header) :: after ∧ systemRun processes before = some sys₁ ∧
        sys₁.step processes (env, .requests p id header) = some sys₂ ∧
        sys₁.daemon.sent.length ≤ n ∧ n < sys₂.daemon.sent.length ∧
        CarriesPid sys₁.daemon client_id (processes.client_pid p) := by
  have hsettled := systemRun_settled hmeets hrun
  constructor
  · intro p q client_id n m hne hp hq hpmem hqmem
    obtain ⟨_, c, hlookup, hid, hpid⟩ := (hsettled.told hpmem).2
    obtain ⟨_, c', hlookup', hid', hpid'⟩ := (hsettled.told hqmem).2
    rw [← List.append_nil labels] at hnames
    have hidentified := identified_of_systemRun hnames hrun
    cases hidentified.id_inj (hidentified.wellFormed.names_live hlookup) (hidentified.wellFormed.names_live hlookup')
      (hid.trans hid'.symm)
    exact hne (processes.eq_of_pid ((hpid hp).symm.trans (hpid' hq)))
  · intro p client_id n hmem
    obtain ⟨before, env, id, header, after, sys₁, sys₂, rfl, hbefore, hstep, hle, hlt, c, hlive, hid, hpid⟩ :=
      (hsettled.told hmem).1
    have hidentified := identified_of_systemRun hnames hbefore
    have hlookup := hidentified.wellFormed.live_named hlive
    refine ⟨before, env, id, header, after, sys₁, sys₂, rfl, hbefore, hstep, hle, hlt, ⟨_, c, hlookup, hid⟩, ?_⟩
    intro name c' hlookup' hid'
    cases hidentified.id_inj hlive (hidentified.wellFormed.names_live hlookup') (hid.trans hid'.symm)
    exact hpid

def namesakes : Processes Bool where
  client_pid p := if p then 11 else 12
  client_name _ := ['a']
  pid_inj := by decide
  pid_pos := by decide
  pid_le := by decide
  no_slash := by decide
  no_dot := by decide

/-- One process opens its connection and calls `register_client_req`, of which the
answer is the `n`-th frame of the daemon. -/
def registration (p : Bool) (id : UInt32) (n : Nat) : List (Env × SystemEvent Bool) :=
  [(.plain, .opens p id), (.plain, .requests p id ⟨0, 0, 0, 0, 0⟩), (.plain, .receives p id n)]

/-- The second process is started while the first one runs, and told nothing. When the first
one has left, the second one connects again and takes over the record. -/
def succession : List (Env × SystemEvent Bool) :=
  registration true 1 0 ++ registration false 2 1 ++ [(.plain, .closes true 1), (.plain, .disconnects true 1),
    (.plain, .closes false 2)] ++ registration false 3 2

theorem client_id_of_successor :
    ∃ sys, systemRun namesakes succession = some sys ∧ (sys.process true).told = [(0, 1)] ∧
      (sys.process false).told = [(2, 1)] ∧ ∃ before env id header after sys₁ sys₂,
        succession = before ++ (env, .requests false id header) :: after ∧ systemRun namesakes before = some sys₁ ∧
        sys₁.step namesakes (env, .requests false id header) = some sys₂ ∧
        sys₁.daemon.sent.length ≤ 2 ∧ 2 < sys₂.daemon.sent.length ∧ CarriesPid sys₁.daemon 1 12 := by
  refine ⟨_, rfl, by decide, by decide, ?_⟩
  exact (@client_ids_exclusive Bool _ namesakes succession _ (by decide) (by decide) rfl).2 false 1 2 (by decide)

/-- The first process reconnects before the daemon has handled its closing, and is refused.
Its request over the refused connection is answered from the record, which the second
process takes over. -/
def hurriedReconnect : List (Env × SystemEvent Bool) :=
  registration true 1 0 ++ [(.plain, .closes true 1), (.plain, .opens true 3), (.plain, .disconnects true 1),
    (.plain, .requests true 3 ⟨0, 0, 0, 0, 0⟩), (.plain, .receives true 3 1)] ++ registration false 4 2

theorem client_id_of_both_namesakes :
    (connectNames (daemonLabels namesakes hurriedReconnect)).toFinset.card < 2 ^ 32 - 1 ∧
    Meets (System.step namesakes) System.FreshChannel .init hurriedReconnect ∧
    ∃ sys, systemRun namesakes hurriedReconnect = some sys ∧ (sys.process true).channel = some 3 ∧
      (sys.process false).channel = some 4 ∧ (sys.process true).told = [(1, 1), (0, 1)] ∧
      (sys.process false).told = [(2, 1)] := by
  exact ⟨by decide, by decide, _, rfl, by decide, by decide, by decide, by decide⟩

end hub.soa
