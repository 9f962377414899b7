import Hub.Base.TimerClusterInvariant
import Hub.Base.TimerFd
import Hub.Lib.Run

namespace hub.timercluster

variable {κ υ : Type}

namespace ClusterV2

/-- The `timerfd` is set for the timers as they are: disarmed if there are none, and else it
has fired or fires at most 1 ns after the time of the first timer, or after it was set if
that time had passed. -/
def InLine (s : ClusterV2 κ υ) : Prop :=
  match s.cluster.heap.root with
  | none => s.timer_fd.armed = none ∧ s.timer_fd.unread = false
  | some root => ∃ top, s.cluster.timers.lookup root = some top ∧ (s.timer_fd.unread = true ∨
      ∃ time, s.timer_fd.armed = some time ∧ time ≤ max top.expire_time.nanoseconds s.timer_fd.setAt + 1)

/-- A thread that would block in `epoll_wait` will be woken for the next timer, and the thread
does not get stuck on its way back to `epoll_wait`. -/
structure Armed (s : ClusterV2 κ υ) : Prop where
  armed : s.thread = .polling → s.event_fd = 0 → s.raising = false → s.cluster.running = true → s.InLine
  processes : s.thread = .processing → s.raising = false → ∀ later, s.clock.nanoseconds ≤ later.nanoseconds →
    (s.step (.process later)).isSome = true
  sets : s.thread = .setting → s.raising = false → (s.step .set_next_timeout).isSome = true

/-- Whatever changes the timers while the thread is in `epoll_wait` raises the eventfd. -/
structure Tended (s : ClusterV2 κ υ) : Prop where
  consistent : s.cluster.Consistent
  watched : s.thread = .polling → s.cluster.running = true → 0 < s.event_fd ∨ s.raising = true ∨ s.InLine

end ClusterV2

section NextTimeout

theorem relative_timeout_eq (now expire_time : Timespec) :
    (relative_timeout now expire_time).1 * 1000000000 + (relative_timeout now expire_time).2 =
      expire_time.nanoseconds - now.nanoseconds ∧
    0 ≤ (relative_timeout now expire_time).2 ∧ (relative_timeout now expire_time).2 < 1000000000 := by
  have hnow := now.normalized
  have hexpire := expire_time.normalized
  unfold relative_timeout Timespec.nanoseconds
  dsimp only
  split
  · dsimp only
    omega
  · dsimp only
    omega

variable {c : Cluster κ υ} {now : Timespec} {it_value : Int × Int}

theorem next_timeout_normalized (h : next_timeout c now = some it_value) :
    0 ≤ it_value.1 ∧ 0 ≤ it_value.2 ∧ it_value.2 < 1000000000 ∧ (c.heap.root ≠ none → it_value ≠ (0, 0)) := by
  unfold next_timeout at h
  split at h
  · rename_i hroot
    cases h
    exact ⟨by decide, by decide, by decide, fun hne => absurd hroot hne⟩
  · obtain ⟨top, -, rfl⟩ := Option.map_eq_some_iff.mp h
    split
    · exact ⟨by decide, by decide, by decide, fun _ => by decide⟩
    · rename_i hearly
      rw [not_not, time_less_than_eq, decide_eq_true_iff] at hearly
      obtain ⟨htotal, hnonneg, hlt⟩ := relative_timeout_eq now top.expire_time
      refine ⟨by omega, hnonneg, hlt, fun _ heq => ?_⟩
      rw [heq] at htotal
      dsimp only at htotal
      omega

theorem Cluster.Consistent.next_timeout_isSome (h : c.Consistent) (now : Timespec) :
    (next_timeout c now).isSome = true := by
  cases hroot : c.heap.root with
  | none => simp only [next_timeout, hroot, Option.isSome_some]
  | some root =>
    obtain ⟨top, htop⟩ := Memory.mem_iff.mp (h.heap.root_mem hroot)
    simp only [next_timeout, hroot, htop, Option.map_some, Option.isSome_some]

end NextTimeout

namespace ClusterV2

variable {s next : ClusterV2 κ υ}

theorem inLine_of_set {it_value : Int × Int} (hc : s.cluster.Consistent)
    (hvalue : next_timeout s.cluster s.clock = some it_value) (hcluster : next.cluster = s.cluster)
    (htimer : next.timer_fd = .timerfd_settime s.clock.nanoseconds it_value) : next.InLine := by
  obtain ⟨-, -, -, hnonzero⟩ := next_timeout_normalized hvalue
  unfold InLine
  rw [hcluster, htimer]
  cases hroot : s.cluster.heap.root with
  | none =>
    simp only [next_timeout, hroot, Option.some.injEq] at hvalue
    subst hvalue
    exact ⟨rfl, rfl⟩
  | some root =>
    obtain ⟨top, htop⟩ := Memory.mem_iff.mp (hc.heap.root_mem hroot)
    have harmed : it_value ≠ (0, 0) := hnonzero (by rw [hroot]; exact Option.some_ne_none root)
    refine ⟨top, htop, .inr ⟨_, if_neg harmed, ?_⟩⟩
    change s.clock.nanoseconds + it_value.1 * 1000000000 + it_value.2 ≤
      max top.expire_time.nanoseconds s.clock.nanoseconds + 1
    simp only [next_timeout, hroot, htop, Option.map_some, Option.some.injEq] at hvalue
    subst hvalue
    split
    · dsimp only
      omega
    · have htotal := (relative_timeout_eq s.clock top.expire_time).1
      omega

theorem operation_kept {c c' : Cluster κ υ} {op : Operation κ υ} {now : Timespec} {outcome : Outcome κ υ}
    (hstep : c.step (op.critical now) = some (c', outcome)) (hquiet : outcome.raises = false) : c' = c := by
  cases op with
  | timer_add id type interval cb userdata calloc =>
    simp only [Operation.critical, Cluster.step, Cluster.timercluster_timer_add] at hstep
    split at hstep
    · cases hstep
      rfl
    · split at hstep
      · cases hstep
        rfl
      · rename_i hsearch
        split at hstep
        · cases hstep
          rfl
        · simp only [rbtree_insert, hsearch] at hstep
          obtain ⟨heap, -, hnext⟩ := Option.map_eq_some_iff.mp hstep
          cases hnext
          cases hquiet
  | timer_del id =>
    simp only [Operation.critical, Cluster.step, Cluster.timercluster_timer_del] at hstep
    split at hstep
    · cases hstep
      rfl
    · split at hstep
      · cases hstep
        rfl
      · obtain ⟨node, -, hstep⟩ := Option.bind_eq_some_iff.mp hstep
        obtain ⟨heap, -, hstep⟩ := Option.bind_eq_some_iff.mp hstep
        obtain ⟨timers, -, hnext⟩ := Option.map_eq_some_iff.mp hstep
        cases hnext
        cases hquiet
  | timer_reset id new_interval =>
    simp only [Operation.critical, Cluster.step, Cluster.timercluster_timer_reset] at hstep
    split at hstep
    · cases hstep
      rfl
    · split at hstep
      · cases hstep
        rfl
      · obtain ⟨node, -, hstep⟩ := Option.bind_eq_some_iff.mp hstep
        obtain ⟨removed, -, hstep⟩ := Option.bind_eq_some_iff.mp hstep
        obtain ⟨heap, -, hnext⟩ := Option.map_eq_some_iff.mp hstep
        cases hnext
        cases hquiet

theorem acking_ne_polling (timer event : Bool) : acking timer event ≠ .polling := by
  unfold acking
  split
  · intro heq
    cases heq
  · intro heq
    cases heq

theorem Tended.of_busy (h : next.cluster.Consistent) (hbusy : next.thread ≠ .polling) : Tended next :=
  ⟨h, fun hpolling => absurd hpolling hbusy⟩

section

variable (h : Tended s)

include h

theorem Tended.of_same (hcluster : next.cluster = s.cluster) (hthread : next.thread = s.thread)
    (hraised : 0 < s.event_fd → 0 < next.event_fd)
    (hraising : s.raising = true → 0 < next.event_fd ∨ next.raising = true)
    (hinline : s.InLine → next.InLine) : Tended next := by
  refine ⟨?_, fun hpolling hrunning => ?_⟩
  · rw [hcluster]
    exact h.consistent
  · rw [hthread] at hpolling
    rw [hcluster] at hrunning
    obtain hraised' | hraising' | hline := h.watched hpolling hrunning
    · exact .inl (hraised hraised')
    · obtain hnow | hstill := hraising hraising'
      · exact .inl hnow
      · exact .inr (.inl hstill)
    · exact .inr (.inr (hinline hline))

theorem Tended.operation {op : Operation κ υ} (hstep : s.step (.operation op) = some next) :
    Tended next := by
  obtain ⟨hfree, hstep⟩ := Option.ite_none_left_eq_some.mp hstep
  obtain ⟨⟨cluster, outcome⟩, hcluster, rfl⟩ := Option.map_eq_some_iff.mp hstep
  refine ⟨(h.consistent.facts_of_step hcluster).consistent, fun hpolling hrunning => ?_⟩
  cases hraises : outcome.raises with
  | true => exact .inr (.inl hraises)
  | false =>
    have hsame : cluster = s.cluster := operation_kept hcluster hraises
    subst hsame
    obtain hraised | hraising | hline := h.watched hpolling hrunning
    · exact .inl hraised
    · exact absurd hraising hfree
    · exact .inr (.inr hline)

theorem Tended.expire (hstep : s.step .expire = some next) : Tended next := by
  simp only [step] at hstep
  split at hstep
  · rename_i time harmed
    obtain ⟨-, hnext⟩ := Option.ite_none_right_eq_some.mp hstep
    cases hnext
    refine h.of_same rfl rfl (fun hraised => hraised) (fun hraising => .inr hraising) fun hline => ?_
    unfold InLine at hline ⊢
    cases hroot : s.cluster.heap.root with
    | none =>
      rw [hroot] at hline
      cases harmed.symm.trans hline.1
    | some root =>
      simp only [hroot] at hline ⊢
      obtain ⟨top, htop, -⟩ := hline
      exact ⟨top, htop, .inl trivial⟩
  · cases hstep

theorem Tended.set (hstep : s.step .set_next_timeout = some next) : Tended next := by
  obtain ⟨-, hstep⟩ := Option.ite_none_right_eq_some.mp hstep
  split at hstep
  · obtain ⟨it_value, hvalue, rfl⟩ := Option.map_eq_some_iff.mp hstep
    exact ⟨h.consistent, fun _ _ => .inr (.inr (inLine_of_set h.consistent hvalue rfl rfl))⟩
  · rename_i hstopped
    cases hstep
    exact ⟨h.consistent, fun _ hrunning => absurd hrunning hstopped⟩

theorem Tended.process {later : Timespec} (hstep : s.step (.process later) = some next) :
    Tended next := by
  obtain ⟨-, hstep⟩ := Option.ite_none_right_eq_some.mp hstep
  obtain ⟨⟨cluster, outcome⟩, hcluster, rfl⟩ := Option.map_eq_some_iff.mp hstep
  refine .of_busy (h.consistent.facts_of_step hcluster).consistent ?_
  dsimp only
  split
  · intro heq
    cases heq
  · intro heq
    cases heq

theorem Tended.step {event : EventV2 κ υ} (hstep : ClusterV2.step s event = some next) : Tended next := by
  cases event with
  | operation op => exact h.operation hstep
  | raise =>
    obtain ⟨-, hnext⟩ := Option.ite_none_right_eq_some.mp hstep
    cases hnext
    exact ⟨h.consistent, fun _ _ => .inl (Nat.succ_pos _)⟩
  | destroy =>
    obtain ⟨-, hnext⟩ := Option.ite_none_left_eq_some.mp hstep
    cases hnext
    refine ⟨⟨h.consistent.heap, h.consistent.tree⟩, fun _ hrunning => ?_⟩
    cases hrunning
  | wakeup =>
    obtain ⟨-, hnext⟩ := Option.ite_none_left_eq_some.mp hstep
    cases hnext
    exact ⟨h.consistent, fun _ _ => .inl (Nat.succ_pos _)⟩
  | tick now =>
    obtain ⟨-, hnext⟩ := Option.ite_none_right_eq_some.mp hstep
    cases hnext
    exact h.of_same rfl rfl (fun hraised => hraised) (fun hraising => .inr hraising) fun hline => hline
  | expire => exact h.expire hstep
  | epoll_wait timer event =>
    obtain ⟨-, hnext⟩ := Option.ite_none_right_eq_some.mp hstep
    cases hnext
    refine .of_busy h.consistent fun heq => ?_
    cases heq
  | read_timer | clear_event =>
    simp only [ClusterV2.step] at hstep
    split at hstep
    · cases hstep
      exact .of_busy h.consistent (acking_ne_polling _ _)
    · cases hstep
  | check =>
    obtain ⟨-, hnext⟩ := Option.ite_none_right_eq_some.mp hstep
    cases hnext
    refine .of_busy h.consistent ?_
    dsimp only
    split
    · intro heq
      cases heq
    · intro heq
      cases heq
  | process later => exact h.process hstep
  | set_next_timeout => exact h.set hstep

end

theorem Tended.init (clock : Timespec) : Tended (ClusterV2.init clock : ClusterV2 κ υ) :=
  ⟨Cluster.consistent_init, fun _ _ => .inr (.inr ⟨rfl, rfl⟩)⟩

theorem Tended.armed (h : Tended s) : Armed s := by
  refine ⟨fun hpolling hzero hfree hrunning => ?_, fun hprocessing hfree later hlater => ?_, fun hsetting hfree => ?_⟩
  · obtain hraised | hraising | hline := h.watched hpolling hrunning
    · omega
    · cases hfree.symm.trans hraising
    · exact hline
  · obtain ⟨cluster, outcome, hcluster, -⟩ := h.consistent.step_facts (.thread_turn s.clock later)
    simp only [ClusterV2.step, hprocessing, hfree, hlater, and_self, if_true, hcluster, Option.map_some,
      Option.isSome_some]
  · obtain ⟨it_value, hvalue⟩ := Option.isSome_iff_exists.mp (h.consistent.next_timeout_isSome s.clock)
    simp only [ClusterV2.step, hsetting, hfree, and_self, if_true, hvalue, Option.map_some]
    split <;> rfl

/-- In every interleaving the `timerfd` is armed for the next timer whenever the thread
could block, and `timerfd_settime` gets a normalized time that arms it if there is a timer.
-/
theorem timerfd_armed_for_next_timer (clock : Timespec) (events : List (EventV2 κ υ)) :
    Throughout ClusterV2.step Armed (ClusterV2.init clock) events ∧
      ∀ (c : Cluster κ υ) (now : Timespec) (it_value : Int × Int), next_timeout c now = some it_value →
        0 ≤ it_value.1 ∧ 0 ≤ it_value.2 ∧ it_value.2 < 1000000000 ∧ (c.heap.root ≠ none → it_value ≠ (0, 0)) := by
  refine ⟨?_, fun c now it_value => next_timeout_normalized⟩
  exact throughout_of_invariant Tended (fun s event next h hstep => h.step hstep) (fun s h => h.armed) events
    (Tended.init clock)

end ClusterV2

end hub.timercluster
