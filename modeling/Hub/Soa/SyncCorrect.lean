import Hub.Lib.Correlation
import Hub.Lib.Ownership
import Hub.Soa.SyncCall

namespace hub.soa

def Stage.context : Stage → Option ContextPtr
  | .holding ctx _ => some ctx
  | .idle | .borrowing _ | .returned _ => none

def Phase.standing (ctx : ContextPtr) : Phase → Standing ContextPtr
  | .reset | .fill | .insert => .preparing
  | .send | .wait | .check _ | .erase _ | .undo => .listed ctx
  | .cancel | .release _ | .give _ => .absent

def Stage.standing : Stage → Standing ContextPtr
  | .idle | .returned _ => .absent
  | .borrowing _ => .preparing
  | .holding ctx phase => phase.standing ctx

theorem Stage.context_of_listed {stage : Stage} {ctx : ContextPtr} (hlisted : stage.standing = .listed ctx) :
    stage.context = some ctx := by
  cases stage with
  | holding p phase =>
    cases phase <;> cases hlisted
    all_goals rfl
  | _ => cases hlisted

def Completion.context {φ : Type} : Completion φ → Option ContextPtr
  | .found _ ctx | .wrote _ ctx => some ctx
  | .idle | .finished _ | .missed _ => none

def Completion.frame {φ : Type} : Completion φ → Option φ
  | .found frame _ | .wrote frame _ | .finished frame | .missed frame => some frame
  | .idle => none

namespace SyncState

variable {ι κ φ : Type}

variable (proto : Protocol φ) (s : SyncState ι κ φ) (Answers : φ → ι → Prop)

def holds (i : ι) : Option ContextPtr := (s.calls i).stage.context

def standing (i : ι) : Standing ContextPtr := (s.calls i).stage.standing

def target (k : κ) : Option (UInt32 × ContextPtr) :=
  match s.completions k with
  | .found frame ctx | .wrote frame ctx => some (proto.msg_seqid frame, ctx)
  | .idle | .finished _ | .missed _ => none

theorem holds_of_listed {s : SyncState ι κ φ} {i : ι} {ctx : ContextPtr} (hlisted : s.standing i = .listed ctx) :
    s.holds i = some ctx := Stage.context_of_listed hlisted

/-- The frame answers the call: it has its number, and `Answers` relates the two. -/
def Own (s : SyncState ι κ φ) (i : ι) (frame : φ) : Prop :=
  proto.msg_seqid frame = s.msg_seqid i ∧ Answers frame i

/-- The context holds the answer to the call, and no other answer can follow. -/
structure Answered (proto : Protocol φ) (Answers : φ → ι → Prop) (s : SyncState ι κ φ) (i : ι) (ctx : ContextPtr)
    (k : κ) (frame : φ) : Prop where
  finished : s.completions k = .finished frame
  own : s.Own proto Answers i frame
  gone : proto.daemon = false → s.pending_requests.lookup (s.msg_seqid i) = none
  alone : ∀ k' p, s.target proto k' ≠ some (s.msg_seqid i, p)
  data : (s.context ctx).data = proto.write frame (proto.init (s.calls i).args)

/-- How far the answer to a call that waits has come. Until it is there the context is
either not ready or was woken by `on_close`. -/
inductive Progress (proto : Protocol φ) (Answers : φ → ι → Prop) (s : SyncState ι κ φ) (i : ι) (ctx : ContextPtr) :
    Prop where
  | unanswered (alone : ∀ k p, s.target proto k ≠ some (s.msg_seqid i, p))
      (data : (s.context ctx).data = proto.init (s.calls i).args)
      (unset : (s.context ctx).ready = true → (s.context ctx).result ≠ 0)
  | taken (k : κ) (frame : φ) (found : s.completions k = .found frame ctx) (own : s.Own proto Answers i frame)
      (gone : proto.daemon = false → s.pending_requests.lookup (s.msg_seqid i) = none)
      (alone : ∀ k' p, s.target proto k' = some (s.msg_seqid i, p) → k' = k)
      (data : (s.context ctx).data = proto.init (s.calls i).args)
      (unset : (s.context ctx).ready = true → (s.context ctx).result ≠ 0)
  | written (k : κ) (frame : φ) (wrote : s.completions k = .wrote frame ctx) (own : s.Own proto Answers i frame)
      (gone : proto.daemon = false → s.pending_requests.lookup (s.msg_seqid i) = none)
      (alone : ∀ k' p, s.target proto k' = some (s.msg_seqid i, p) → k' = k)
      (data : (s.context ctx).data = proto.write frame (proto.init (s.calls i).args))
      (unset : (s.context ctx).ready = true → (s.context ctx).result ≠ 0)
  | answered (k : κ) (frame : φ) (h : s.Answered proto Answers i ctx k frame)

/-- A call that succeeds returns what a completion with its number wrote. -/
def Justified (s : SyncState ι κ φ) (i : ι) (out : Outcome) : Prop :=
  out.ret = IPC_HV_SOA_RET_SUCCESS → ∃ k frame, s.completions k = .finished frame ∧ s.Own proto Answers i frame ∧
    out.resp = proto.deliver (proto.write frame (proto.init (s.calls i).args)) (s.calls i).args.resp

def StageSound (s : SyncState ι κ φ) (i : ι) : Stage → Prop
  | .holding ctx .fill => (s.context ctx).ready = false
  | .holding ctx .insert =>
    (s.context ctx).ready = false ∧ (s.context ctx).data = proto.init (s.calls i).args
  | .holding ctx .send | .holding ctx .wait => s.Progress proto Answers i ctx
  | .holding ctx (.check wait_result) => wait_result = 0 → ∃ k frame, s.Answered proto Answers i ctx k frame
  | .holding _ (.erase out) | .holding _ (.release out) | .holding _ (.give out) | .returned out =>
    s.Justified proto Answers i out
  | .idle | .borrowing _ | .holding _ .reset | .holding _ .undo | .holding _ .cancel => True

/-- The invariant of the calls and completions. `held` is what holding
`pending_requests_mutex` through the completion gives: the call that it answers keeps
its context meanwhile. -/
structure Sound (proto : Protocol φ) (Answers : φ → ι → Prop) (s : SyncState ι κ φ) : Prop where
  owned : Owned s.contexts.Live s.sync_pool.objects_ s.holds
  correlated : Correlated s.standing s.msg_seqid s.pending_requests.lookup (s.target proto)
  held : proto.daemon = true → ∀ k n ctx, s.target proto k = some (n, ctx) →
    s.lock = some k ∧ ∃ i, s.standing i = .listed ctx ∧ s.msg_seqid i = n
  calls : ∀ i, s.StageSound proto Answers i (s.calls i).stage

/-- The step leaves the arguments of the call, its context and its answer alone. -/
structure Undisturbed (proto : Protocol φ) (s s' : SyncState ι κ φ) (i : ι) : Prop where
  args : (s'.calls i).args = (s.calls i).args
  context : ∀ ctx, s.holds i = some ctx → s'.context ctx = s.context ctx
  finished : ∀ k frame, s.completions k = .finished frame → s'.completions k = .finished frame
  active : ∀ k ctx, s.holds i = some ctx → (s.completions k).context = some ctx → s'.completions k = s.completions k
  target : ∀ ctx, s.standing i = .listed ctx → ∀ k p, s'.target proto k = some (s.msg_seqid i, p) →
    s.target proto k = some (s.msg_seqid i, p)
  gone : ∀ ctx, s.standing i = .listed ctx → s.pending_requests.lookup (s.msg_seqid i) = none →
    s'.pending_requests.lookup (s.msg_seqid i) = none

section

variable {proto} {Answers} {s} {s' : SyncState ι κ φ} {i : ι} {ctx : ContextPtr}

theorem Undisturbed.of_completions (hargs : (s'.calls i).args = (s.calls i).args)
    (hcontext : ∀ ctx, s.holds i = some ctx → s'.context ctx = s.context ctx)
    (hcompletions : s'.completions = s.completions)
    (hgone : ∀ ctx, s.standing i = .listed ctx → s.pending_requests.lookup (s.msg_seqid i) = none →
      s'.pending_requests.lookup (s.msg_seqid i) = none) : Undisturbed proto s s' i where
  args := hargs
  context := hcontext
  finished k frame hk := by rw [hcompletions, hk]
  active k ctx _ _ := by rw [hcompletions]
  target _ _ k p hk := by
    unfold SyncState.target at hk ⊢
    rwa [hcompletions] at hk
  gone := hgone

section

variable (hu : Undisturbed proto s s' i)

include hu

theorem Undisturbed.own {frame : φ} (h : s.Own proto Answers i frame) :
    s'.Own proto Answers i frame := by
  refine ⟨?_, h.2⟩
  rw [msg_seqid, hu.args]
  exact h.1

theorem Undisturbed.justified {out : Outcome} (h : s.Justified proto Answers i out) :
    s'.Justified proto Answers i out := by
  intro hret
  obtain ⟨k, frame, hk, hown, hresp⟩ := h hret
  refine ⟨k, frame, hu.finished k frame hk, hu.own hown, ?_⟩
  rw [hu.args]
  exact hresp

theorem Undisturbed.answered {ctx : ContextPtr} (hlisted : s.standing i = .listed ctx)
    {k : κ} {frame : φ} (h : s.Answered proto Answers i ctx k frame) : s'.Answered proto Answers i ctx k frame := by
  have hnumber : s'.msg_seqid i = s.msg_seqid i := by rw [msg_seqid, hu.args]; rfl
  constructor
  · exact hu.finished k frame h.finished
  · exact hu.own h.own
  · intro hproto
    rw [hnumber]
    exact hu.gone ctx hlisted (h.gone hproto)
  · intro k' p hk'
    rw [hnumber] at hk'
    exact h.alone k' p (hu.target ctx hlisted k' p hk')
  · rw [hu.context ctx (holds_of_listed hlisted), hu.args]
    exact h.data

theorem Undisturbed.progress {ctx : ContextPtr} (hlisted : s.standing i = .listed ctx)
    (h : s.Progress proto Answers i ctx) : s'.Progress proto Answers i ctx := by
  have hnumber : s'.msg_seqid i = s.msg_seqid i := by rw [msg_seqid, hu.args]; rfl
  have hholds := holds_of_listed hlisted
  have hcontext := hu.context ctx hholds
  have hargs := hu.args
  cases h with
  | unanswered alone data unset =>
    refine .unanswered ?_ ?_ ?_
    · intro k p hk
      rw [hnumber] at hk
      exact alone k p (hu.target ctx hlisted k p hk)
    · rw [hcontext, hargs]
      exact data
    · rw [hcontext]
      exact unset
  | taken k frame found own gone alone data unset =>
    refine .taken k frame ?_ (hu.own own) ?_ ?_ ?_ ?_
    · rw [hu.active k ctx hholds (by rw [found]; rfl)]
      exact found
    · intro hproto
      rw [hnumber]
      exact hu.gone ctx hlisted (gone hproto)
    · intro k' p hk'
      rw [hnumber] at hk'
      exact alone k' p (hu.target ctx hlisted k' p hk')
    · rw [hcontext, hargs]
      exact data
    · rw [hcontext]
      exact unset
  | written k frame wrote own gone alone data unset =>
    refine .written k frame ?_ (hu.own own) ?_ ?_ ?_ ?_
    · rw [hu.active k ctx hholds (by rw [wrote]; rfl)]
      exact wrote
    · intro hproto
      rw [hnumber]
      exact hu.gone ctx hlisted (gone hproto)
    · intro k' p hk'
      rw [hnumber] at hk'
      exact alone k' p (hu.target ctx hlisted k' p hk')
    · rw [hcontext, hargs]
      exact data
    · rw [hcontext]
      exact unset
  | answered k frame h => exact .answered k frame (hu.answered hlisted h)

end

theorem StageSound.map (h : s.StageSound proto Answers i (s.calls i).stage)
    (hsame : (s'.calls i).stage = (s.calls i).stage) (hargs : (s'.calls i).args = (s.calls i).args)
    (hfinished : ∀ k frame, s.completions k = .finished frame → s'.completions k = .finished frame)
    (hprepared : ∀ ctx, s.holds i = some ctx → s.standing i = .preparing → s'.context ctx = s.context ctx)
    (hprogress : ∀ ctx, s.standing i = .listed ctx → s.Progress proto Answers i ctx → s'.Progress proto Answers i ctx)
    (hanswered : ∀ ctx k frame, s.standing i = .listed ctx → s.Answered proto Answers i ctx k frame →
      s'.Answered proto Answers i ctx k frame) :
    s'.StageSound proto Answers i (s'.calls i).stage := by
  have hjustified : ∀ out, s.Justified proto Answers i out → s'.Justified proto Answers i out := by
    intro out hout hret
    obtain ⟨k, frame, hk, hown, hresp⟩ := hout hret
    refine ⟨k, frame, hfinished k frame hk, ?_, ?_⟩
    · rw [Own, msg_seqid, hargs]
      exact hown
    · rw [hargs]
      exact hresp
  rw [hsame]
  have hholds : ∀ ctx phase, (s.calls i).stage = .holding ctx phase → s.holds i = some ctx := by
    intro ctx phase hstage
    rw [holds, hstage]
    rfl
  have hstanding : ∀ ctx phase, (s.calls i).stage = .holding ctx phase → s.standing i = phase.standing ctx := by
    intro ctx phase hstage
    rw [standing, hstage]
    rfl
  cases hstage : (s.calls i).stage with
  | idle | borrowing _ => trivial
  | returned out =>
    rw [hstage] at h
    exact hjustified out h
  | holding ctx phase =>
    rw [hstage] at h
    cases phase with
    | reset | undo | cancel => trivial
    | fill =>
      rw [StageSound, hprepared ctx (hholds _ _ hstage) (hstanding _ _ hstage)]
      exact h
    | insert =>
      rw [StageSound, hprepared ctx (hholds _ _ hstage) (hstanding _ _ hstage), hargs]
      exact h
    | send | wait => exact hprogress ctx (hstanding _ _ hstage) h
    | check wait_result =>
      intro hzero
      obtain ⟨k, frame, hframe⟩ := h hzero
      exact ⟨k, frame, hanswered ctx k frame (hstanding _ _ hstage) hframe⟩
    | erase out | release out | give out => exact hjustified out h

theorem Undisturbed.stageSound (hu : Undisturbed proto s s' i) (hsame : (s'.calls i).stage = (s.calls i).stage)
    (h : s.StageSound proto Answers i (s.calls i).stage) : s'.StageSound proto Answers i (s'.calls i).stage :=
  h.map hsame hu.args hu.finished (fun ctx hctx _ => hu.context ctx hctx) (fun _ hlisted => hu.progress hlisted)
    (fun _ _ _ hlisted => hu.answered hlisted)

theorem outcome_of_success {args : SyncArgs} {wait_result : Int} {data : SyncMessage}
    (hret : (outcome proto args wait_result data).ret = IPC_HV_SOA_RET_SUCCESS) :
    wait_result = 0 ∧ (outcome proto args wait_result data).resp = proto.deliver data args.resp := by
  have htimeout : IPC_HV_SOA_RET_TIMEOUT ≠ IPC_HV_SOA_RET_SUCCESS := by decide
  have hfail : IPC_HV_SOA_RET_FAIL ≠ IPC_HV_SOA_RET_SUCCESS := by decide
  unfold outcome at hret ⊢
  split at hret
  · exact absurd hret htimeout
  · rename_i hnonneg
    split at hret
    · exact absurd hret hfail
    · rename_i hzero
      split at hret
      · exact absurd hret hfail
      · rename_i hservice
        rw [if_neg hnonneg, if_neg hzero, if_neg hservice]
        exact ⟨not_not.mp hzero, rfl⟩

theorem Answered.justified {wait_result : Int}
    (h : wait_result = 0 → ∃ k frame, s.Answered proto Answers i ctx k frame) :
    s.Justified proto Answers i (outcome proto (s.calls i).args wait_result (s.context ctx).data) := by
  intro hret
  obtain ⟨hzero, hresp⟩ := outcome_of_success hret
  obtain ⟨k, frame, hanswered⟩ := h hzero
  refine ⟨k, frame, hanswered.finished, hanswered.own, ?_⟩
  rw [hresp, hanswered.data]

end

end SyncState

end hub.soa
