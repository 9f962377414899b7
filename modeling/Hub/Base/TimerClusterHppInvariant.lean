import Hub.Base.TimerClusterHpp
import Hub.Lib.Run
import Mathlib.Data.Prod.Lex
import Mathlib.Order.Lattice.Nat

namespace hub.hpp

open OrderedSet TimerOutcome Heap

variable {κ υ : Type}

/-- What `TimerInfoCompare` compares. -/
def key (infos : TimerInfos κ υ) (p : TimerInfoPtr) : Int ×ₗ Nat :=
  toLex ((infos.get p).timer_expire, (infos.get p).timer_id.toNat)

theorem key_keyed (infos : TimerInfos κ υ) : Keyed (TimerInfoCompare infos) (key infos) := by
  intro lhs rhs
  rw [key, key, Prod.Lex.toLex_lt_toLex, TimerInfoCompare]
  split
  · rename_i hne
    simp [hne]
  · rename_i heq
    rw [not_not] at heq
    simp [heq, UInt32.lt_iff_toNat_lt]

variable {p : TimerInfoPtr} {outcome : TimerOutcome κ υ}

theorem insert_spec {infos infos' : TimerInfos κ υ} {set : List TimerInfoPtr}
    (hset : Sorted (TimerInfoCompare infos) set) (hsame : ∀ q ∈ set, infos'.get q = infos.get q)
    (hid : ∀ q ∈ set, (infos'.get q).timer_id ≠ (infos'.get p).timer_id) :
    Sorted (TimerInfoCompare infos') (insert (TimerInfoCompare infos') p set) ∧
      ∀ q, q ∈ insert (TimerInfoCompare infos') p set ↔ q = p ∨ q ∈ set := by
  have hnew : ∀ q ∈ set, key infos' q ≠ key infos' p := by
    intro q hq heq
    have hpair : (_, _) = (_, _) := toLex.injective heq
    exact hid q hq (UInt32.toNat_inj.mp (Prod.mk.inj hpair).2)
  have hsorted : Sorted (TimerInfoCompare infos') set := by
    refine hset.congr (key_keyed infos) (key_keyed infos') fun q hq => ?_
    rw [key, key, hsame q hq]
  exact ⟨sorted_insert (key_keyed infos') hsorted hnew,
    fun q => mem_insert (key_keyed infos') hnew⟩

namespace TimerCluster

/-- The set and the map hold the same timers, under pairwise distinct ids. -/
structure Matching (c : TimerCluster κ υ) : Prop where
  same : ∀ id p, c.timer_map.lookup id = some p ↔ p ∈ c.timer_set ∧ (c.infos.get p).timer_id = id
  distinct : (c.timer_set.map fun p => (c.infos.get p).timer_id).Nodup

/-- No `timer_expire` changes while the timer is in the set: one that is assigned to is not
in it, and the others stay as they are. -/
structure KeysFixed (c next : TimerCluster κ υ) (effect : TimerEffect κ υ) : Prop where
  outside : ∀ write ∈ effect.writes, write.1 ∉ write.2
  others : ∀ p ∈ c.timer_set, (∀ write ∈ effect.writes, write.1 ≠ p) →
    (next.infos.get p).timer_expire = (c.infos.get p).timer_expire

/-- The firing of the timer `p` at the time `now`. -/
structure Fires (c next : TimerCluster κ υ) (now : Int) (p : TimerInfoPtr) (info : TimerInfo κ υ) : Prop where
  current : p ∈ c.timer_set ∧ c.infos.get p = info
  due : info.timer_expire ≤ now
  earliest : ∀ q ∈ c.timer_set, info.timer_expire ≤ (c.infos.get q).timer_expire
  single : info.timer_type = .SINGLE → p ∉ next.timer_set ∧ next.TimerExist info.timer_id = false
  cycle : info.timer_type = .CYCLE →
    p ∈ next.timer_set ∧ next.infos.get p = { info with timer_expire := after now info.timer_interval }

/-- What holds in one state, for every critical section that may come next. -/
structure Sound (c : TimerCluster κ υ) : Prop where
  matching : c.Matching
  keys : ∀ event, c.KeysFixed (c.step event).1 (c.step event).2
  fires : ∀ event p info, (c.step event).2.outcome = .fires p info →
    ∃ now, event = .Processer now ∧ c.Fires (c.step event).1 now p info

/-- The set is in order, and the map leads to its elements by their ids. -/
structure Consistent (c : TimerCluster κ υ) : Prop where
  sorted : OrderedSet.Sorted (TimerInfoCompare c.infos) c.timer_set
  live : ∀ p ∈ c.timer_set, c.infos.Live p
  same : ∀ id p, c.timer_map.lookup id = some p ↔ p ∈ c.timer_set ∧ (c.infos.get p).timer_id = id

variable {c : TimerCluster κ υ} {q : TimerInfoPtr} {rest : List TimerInfoPtr}

theorem consistent_init [Inhabited υ] : Consistent (init : TimerCluster κ υ) where
  sorted := List.Pairwise.nil
  live := fun p hp => absurd hp List.not_mem_nil
  same := fun id p => by simp [init]

theorem Consistent.eq_of_id (h : Consistent c) (hp : p ∈ c.timer_set) (hq : q ∈ c.timer_set)
    (hid : (c.infos.get p).timer_id = (c.infos.get q).timer_id) : p = q := by
  have hfound := (h.same _ p).mpr ⟨hp, rfl⟩
  have hfound' := (h.same _ q).mpr ⟨hq, hid.symm⟩
  exact Option.some.inj (hfound.symm.trans hfound')

theorem Consistent.matching (h : Consistent c) : c.Matching := by
  refine ⟨h.same, List.Nodup.map_on (fun p hp q hq hid => h.eq_of_id hp hq hid) ?_⟩
  exact h.sorted.nodup (key_keyed c.infos)

/-- `rest` are the timers of the set without `p`. -/
structure Without (c : TimerCluster κ υ) (p : TimerInfoPtr) (rest : List TimerInfoPtr) : Prop where
  sorted : OrderedSet.Sorted (TimerInfoCompare c.infos) rest
  mem : ∀ q, q ∈ rest ↔ q ∈ c.timer_set ∧ q ≠ p

theorem Consistent.without_erase (h : Consistent c) (hp : p ∈ c.timer_set) :
    c.Without p (erase (TimerInfoCompare c.infos) p c.timer_set) where
  sorted := h.sorted.erase p
  mem := fun _ => h.sorted.mem_erase (key_keyed c.infos) hp

theorem Consistent.without_first (h : Consistent c) (hset : c.timer_set = p :: rest) : c.Without p rest := by
  have hsorted := h.sorted
  have hnodup := h.sorted.nodup (key_keyed c.infos)
  rw [hset] at hsorted hnodup
  refine ⟨(List.pairwise_cons.mp hsorted).2, fun q => ?_⟩
  rw [hset, List.mem_cons]
  constructor
  · intro hq
    refine ⟨.inr hq, ?_⟩
    rintro rfl
    exact (List.nodup_cons.mp hnodup).1 hq
  · exact fun hq => hq.1.resolve_left hq.2

variable {info : TimerInfo κ υ}

theorem Consistent.rearm (h : Consistent c) (hp : p ∈ c.timer_set) (hrest : c.Without p rest)
    (hid : info.timer_id = (c.infos.get p).timer_id) :
    Consistent { c with
      infos := c.infos.set p info
      timer_set := insert (TimerInfoCompare (c.infos.set p info)) p rest } ∧
    ∀ q, q ∈ insert (TimerInfoCompare (c.infos.set p info)) p rest ↔ q ∈ c.timer_set := by
  have hother : ∀ q ∈ rest, (c.infos.set p info).get q = c.infos.get q := fun q hq =>
    c.infos.get_set_ne info ((hrest.mem q).mp hq).2
  have hids := c.infos.map_get_set TimerInfo.timer_id hid
  have hnew : ∀ q ∈ rest, ((c.infos.set p info).get q).timer_id ≠ ((c.infos.set p info).get p).timer_id := by
    intro q hq
    rw [hids, hids]
    exact fun heq => ((hrest.mem q).mp hq).2 (h.eq_of_id ((hrest.mem q).mp hq).1 hp heq)
  obtain ⟨hsorted, hinsert⟩ := insert_spec hrest.sorted hother hnew
  have hmem : ∀ q, q ∈ insert (TimerInfoCompare (c.infos.set p info)) p rest ↔ q ∈ c.timer_set := by
    intro q
    rw [hinsert, hrest.mem]
    constructor
    · rintro (rfl | ⟨hq, -⟩)
      · exact hp
      · exact hq
    · intro hq
      by_cases heq : q = p
      · exact .inl heq
      · exact .inr ⟨hq, heq⟩
  refine ⟨⟨hsorted, fun q hq => h.live q ((hmem q).mp hq), ?_⟩, hmem⟩
  intro id q
  rw [h.same, hmem, hids]

theorem Consistent.remove (h : Consistent c) (hp : p ∈ c.timer_set) (hrest : c.Without p rest) :
    Consistent { c with timer_set := rest, timer_map := c.timer_map.erase (c.infos.get p).timer_id } where
  sorted := hrest.sorted
  live := fun q hq => h.live q ((hrest.mem q).mp hq).1
  same := by
    intro id q
    rw [UnorderedMap.lookup_erase_eq_some, h.same, hrest.mem]
    constructor
    · rintro ⟨hne, hq, rfl⟩
      refine ⟨⟨hq, ?_⟩, rfl⟩
      rintro rfl
      exact hne rfl
    · rintro ⟨⟨hq, hne⟩, rfl⟩
      exact ⟨fun hid => hne (h.eq_of_id hq hp hid), hq, rfl⟩

/-- What every critical section leaves true, and what it may change. -/
structure StepFacts (c next : TimerCluster κ υ) (effect : TimerEffect κ υ) : Prop where
  consistent : Consistent next
  keys : c.KeysFixed next effect
  live : ∀ p, c.infos.Live p → next.infos.Live p
  adds : ∀ p, effect.outcome = .adds p → ¬ c.infos.Live p ∧ next.infos.Live p
  members : ∀ p ∈ next.timer_set, p ∈ c.timer_set ∨ effect.outcome = .adds p

theorem StepFacts.of_quiet {next : TimerCluster κ υ} (hnext : Consistent next)
    (hinfos : next.infos = c.infos) (hmem : ∀ p ∈ next.timer_set, p ∈ c.timer_set)
    (hadds : ∀ p, outcome ≠ .adds p) : StepFacts c next ⟨outcome, []⟩ where
  consistent := hnext
  keys := by
    refine ⟨fun write hwrite => absurd hwrite List.not_mem_nil, fun p _ _ => ?_⟩
    rw [hinfos]
  live := by
    intro p hp
    rw [hinfos]
    exact hp
  adds := fun p heq => absurd heq (hadds p)
  members := fun p hp => .inl (hmem p hp)

theorem StepFacts.of_rearm (h : Consistent c) (hp : p ∈ c.timer_set) (hrest : c.Without p rest)
    (hid : info.timer_id = (c.infos.get p).timer_id)
    (hadds : ∀ q, outcome ≠ .adds q) :
    StepFacts c
      { c with
        infos := c.infos.set p info
        timer_set := insert (TimerInfoCompare (c.infos.set p info)) p rest }
      ⟨outcome, [(p, rest)]⟩ := by
  obtain ⟨hnext, hmem⟩ := h.rearm hp hrest hid
  refine ⟨hnext, ⟨fun write hwrite => ?_, fun q hq hothers => ?_⟩, fun q hq => hq, fun q heq => absurd heq (hadds q),
    fun q hq => .inl ((hmem q).mp hq)⟩
  · rw [List.mem_singleton.mp hwrite]
    exact fun hmem => ((hrest.mem p).mp hmem).2 rfl
  · have hne : p ≠ q := hothers (p, rest) List.mem_cons_self
    dsimp only
    rw [get_set_ne _ _ hne.symm]

theorem Consistent.facts_of_add (h : Consistent c) (id : UInt32) (type : TimerType) (timer_interval : UInt32)
    (cb : Option κ) (userdata : υ) (now : Int) :
    StepFacts c (c.AddTimer id type timer_interval cb userdata now).1
      (c.AddTimer id type timer_interval cb userdata now).2 := by
  unfold AddTimer
  cases hid : c.timer_map.lookup id with
  | some found => exact .of_quiet h rfl (fun p hp => hp) fun p heq => by cases heq
  | none =>
    let info : TimerInfo κ υ := ⟨id, type, timer_interval, after now timer_interval, cb, userdata⟩
    change StepFacts c ⟨c.infos.alloc info, insert (TimerInfoCompare (c.infos.alloc info)) c.infos.fresh
      c.timer_set, AList.insert id c.infos.fresh c.timer_map⟩ ⟨.adds c.infos.fresh, []⟩
    have hother : ∀ q ∈ c.timer_set, (c.infos.alloc info).get q = c.infos.get q := fun q hq =>
      c.infos.get_alloc_ne info (ne_fresh (h.live q hq))
    have hunused : ∀ q ∈ c.timer_set, (c.infos.get q).timer_id ≠ id := by
      intro q hq heq
      have hfound := (h.same id q).mpr ⟨hq, heq⟩
      cases hid.symm.trans hfound
    have hnew : ∀ q ∈ c.timer_set,
        ((c.infos.alloc info).get q).timer_id ≠ ((c.infos.alloc info).get c.infos.fresh).timer_id := by
      intro q hq
      rw [hother q hq, get_alloc_fresh]
      exact hunused q hq
    obtain ⟨hsorted, hmem⟩ := insert_spec h.sorted hother hnew
    refine ⟨⟨hsorted, fun q hq => ?_, fun id' q => ?_⟩,
      ⟨fun write hwrite => absurd hwrite List.not_mem_nil, fun q hq _ => ?_⟩, fun q hq => hq.alloc info,
      fun q heq => ?_, fun q hq => ?_⟩
    · rcases (hmem q).mp hq with rfl | hq
      · exact c.infos.live_alloc_fresh info
      · exact (h.live q hq).alloc info
    · rw [UnorderedMap.lookup_insert_eq_some, h.same, hmem]
      constructor
      · rintro (⟨rfl, rfl⟩ | ⟨-, hq, rfl⟩)
        · exact ⟨.inl rfl, by rw [get_alloc_fresh]⟩
        · exact ⟨.inr hq, by rw [hother q hq]⟩
      · rintro ⟨rfl | hq, rfl⟩
        · refine .inl ⟨?_, rfl⟩
          rw [get_alloc_fresh]
        · rw [hother q hq]
          exact .inr ⟨hunused q hq, hq, rfl⟩
    · dsimp only
      rw [hother q hq]
    · cases heq
      exact ⟨fun hlive => ne_fresh hlive rfl, c.infos.live_alloc_fresh info⟩
    · rcases (hmem q).mp hq with rfl | hq
      · exact .inr rfl
      · exact .inl hq

theorem Consistent.facts_of_del (h : Consistent c) (id : UInt32) :
    StepFacts c (c.DelTimer id).1 (c.DelTimer id).2 := by
  unfold DelTimer
  cases hid : c.timer_map.lookup id with
  | none => exact .of_quiet h rfl (fun p hp => hp) fun p heq => by cases heq
  | some p =>
    obtain ⟨hp, rfl⟩ := (h.same id p).mp hid
    have hrest := h.without_erase hp
    exact .of_quiet (h.remove hp hrest) rfl (fun q hq => ((hrest.mem q).mp hq).1) fun q heq => by cases heq

theorem Consistent.facts_of_reset (h : Consistent c) (id new_interval : UInt32) (now : Int) :
    StepFacts c (c.ResetTimer id new_interval now).1 (c.ResetTimer id new_interval now).2 := by
  unfold ResetTimer
  cases hid : c.timer_map.lookup id with
  | none => exact .of_quiet h rfl (fun p hp => hp) fun p heq => by cases heq
  | some p =>
    obtain ⟨hp, -⟩ := (h.same id p).mp hid
    refine .of_rearm h hp (h.without_erase hp) ?_ fun q heq => ?_
    · rfl
    · cases heq

theorem processer_cases (c : TimerCluster κ υ) (now : Int) :
    (∃ expire, c.Processer now = (c, ⟨.waits expire, []⟩)) ∨
    ∃ p rest, c.timer_set = p :: rest ∧ (c.infos.get p).timer_expire ≤ now ∧
      (((c.infos.get p).timer_type = .CYCLE ∧
        c.Processer now = ({ c with
          infos := c.infos.set p { c.infos.get p with timer_expire := after now (c.infos.get p).timer_interval }
          timer_set := insert (TimerInfoCompare (c.infos.set p
            { c.infos.get p with timer_expire := after now (c.infos.get p).timer_interval })) p rest },
          ⟨.fires p (c.infos.get p), [(p, rest)]⟩)) ∨
      ((c.infos.get p).timer_type = .SINGLE ∧
        c.Processer now = ({ c with timer_set := rest, timer_map := c.timer_map.erase (c.infos.get p).timer_id },
          ⟨.fires p (c.infos.get p), []⟩))) := by
  unfold Processer
  cases hset : c.timer_set with
  | nil => exact .inl ⟨none, rfl⟩
  | cons p rest =>
    dsimp only
    by_cases hdue : (c.infos.get p).timer_expire ≤ now
    · refine .inr ⟨p, rest, rfl, hdue, ?_⟩
      rw [if_pos hdue]
      cases htype : (c.infos.get p).timer_type with
      | CYCLE => exact .inl ⟨rfl, rfl⟩
      | SINGLE => exact .inr ⟨rfl, rfl⟩
    · rw [if_neg hdue]
      exact .inl ⟨_, rfl⟩

theorem Consistent.facts_of_processer (h : Consistent c) (now : Int) :
    StepFacts c (c.Processer now).1 (c.Processer now).2 := by
  obtain ⟨expire, hwaits⟩ | ⟨p, rest, hset, -, ⟨-, hcycle⟩ | ⟨-, hsingle⟩⟩ := processer_cases c now
  · rw [hwaits]
    exact .of_quiet h rfl (fun p hp => hp) fun p heq => by cases heq
  · have hp : p ∈ c.timer_set := hset ▸ List.mem_cons_self
    rw [hcycle]
    refine .of_rearm h hp (h.without_first hset) ?_ fun q heq => ?_
    · rfl
    · cases heq
  · have hp : p ∈ c.timer_set := hset ▸ List.mem_cons_self
    have hrest := h.without_first hset
    rw [hsingle]
    exact .of_quiet (h.remove hp hrest) rfl (fun q hq => ((hrest.mem q).mp hq).1) fun q heq => by cases heq

theorem Consistent.step_facts (h : Consistent c) (event : TimerEvent κ υ) :
    StepFacts c (c.step event).1 (c.step event).2 := by
  cases event with
  | AddTimer id type timer_interval cb userdata now => exact h.facts_of_add id type timer_interval cb userdata now
  | DelTimer id => exact h.facts_of_del id
  | ResetTimer id new_interval now => exact h.facts_of_reset id new_interval now
  | Processer now => exact h.facts_of_processer now

theorem fires_processer {event : TimerEvent κ υ}
    (hfires : (c.step event).2.outcome = .fires p info) : ∃ now, event = .Processer now := by
  cases event with
  | Processer now => exact ⟨now, rfl⟩
  | AddTimer id type timer_interval cb userdata now =>
    simp only [step, AddTimer] at hfires
    split at hfires
    · cases hfires
    · cases hfires
  | DelTimer id =>
    simp only [step, DelTimer] at hfires
    split at hfires
    · cases hfires
    · cases hfires
  | ResetTimer id new_interval now =>
    simp only [step, ResetTimer] at hfires
    split at hfires
    · cases hfires
    · cases hfires

theorem Consistent.first_earliest (h : Consistent c) (hset : c.timer_set = p :: rest) (hq : q ∈ c.timer_set) :
    (c.infos.get p).timer_expire ≤ (c.infos.get q).timer_expire := by
  have hsorted := h.sorted
  rw [hset] at hsorted hq
  rcases List.mem_cons.mp hq with rfl | hq
  · exact le_refl _
  · have hless := (key_keyed c.infos p q).mp ((List.pairwise_cons.mp hsorted).1 q hq)
    rw [key, key, Prod.Lex.toLex_lt_toLex] at hless
    rcases hless with hlt | ⟨heq, -⟩
    · exact le_of_lt hlt
    · exact le_of_eq heq

theorem Consistent.fires (h : Consistent c) {now : Int}
    (hfires : (c.Processer now).2.outcome = .fires p info) : c.Fires (c.Processer now).1 now p info := by
  obtain ⟨expire, hwaits⟩ | ⟨first, rest, hset, hdue, ⟨htype, hcycle⟩ | ⟨htype, hsingle⟩⟩ := processer_cases c now
  · rw [hwaits] at hfires
    cases hfires
  · rw [hcycle] at hfires ⊢
    cases hfires
    have hp : p ∈ c.timer_set := hset ▸ List.mem_cons_self
    refine ⟨⟨hp, rfl⟩, hdue, fun q hq => h.first_earliest hset hq, fun htype' => ?_, fun _ => ⟨?_, ?_⟩⟩
    · cases htype.symm.trans htype'
    · refine ((h.rearm hp (h.without_first hset) ?_).2 p).mpr hp
      rfl
    · rw [get_set_self]
  · rw [hsingle] at hfires ⊢
    cases hfires
    have hp : p ∈ c.timer_set := hset ▸ List.mem_cons_self
    refine ⟨⟨hp, rfl⟩, hdue, fun q hq => h.first_earliest hset hq, fun _ => ⟨?_, ?_⟩, fun htype' => ?_⟩
    · exact fun hmem => (((h.without_first hset).mem p).mp hmem).2 rfl
    · rw [TimerExist, AList.lookup_erase]
      rfl
    · cases htype.symm.trans htype'

theorem Consistent.sound (h : Consistent c) : c.Sound where
  matching := h.matching
  keys := fun event => (h.step_facts event).keys
  fires := by
    intro event p info hfires
    obtain ⟨now, rfl⟩ := fires_processer hfires
    exact ⟨now, rfl, h.fires hfires⟩

def outcomes (c : TimerCluster κ υ) : List (TimerEvent κ υ) → List (TimerOutcome κ υ)
  | [] => []
  | event :: events => (c.step event).2.outcome :: outcomes (c.step event).1 events

end TimerCluster

def TimerOutcome.makes (p : TimerInfoPtr) : TimerOutcome κ υ → Bool
  | .adds timer_info => timer_info = p
  | _ => false

def TimerOutcome.firesSingle (p : TimerInfoPtr) : TimerOutcome κ υ → Bool
  | .fires timer_info info => timer_info = p ∧ info.timer_type = .SINGLE
  | _ => false

theorem TimerOutcome.makes_iff :
    outcome.makes p = true ↔ outcome = .adds p := by
  cases outcome <;> simp [makes]

theorem TimerOutcome.firesSingle_iff :
    outcome.firesSingle p = true ↔ ∃ info, outcome = .fires p info ∧ info.timer_type = .SINGLE := by
  cases outcome with
  | fires timer_info info =>
    rw [firesSingle, decide_eq_true_iff]
    constructor
    · rintro ⟨rfl, htype⟩
      exact ⟨info, rfl, htype⟩
    · rintro ⟨_, heq, htype⟩
      cases heq
      exact ⟨rfl, htype⟩
  | _ => simp [firesSingle]

namespace TimerCluster

variable {c : TimerCluster κ υ}

open Classical in
theorem Consistent.makes_le (h : Consistent c) (p : TimerInfoPtr) (events : List (TimerEvent κ υ)) :
    (c.outcomes events).countP (makes p) ≤ if c.infos.Live p then 0 else 1 := by
  induction events generalizing c with
  | nil => exact Nat.zero_le _
  | cons event events ih =>
    have hfacts := h.step_facts event
    have hrest := ih hfacts.consistent
    rw [outcomes, List.countP_cons]
    by_cases hmakes : (c.step event).2.outcome.makes p = true
    · obtain ⟨hnew, hlive⟩ := hfacts.adds p (makes_iff.mp hmakes)
      rw [if_pos hlive] at hrest
      rw [if_pos hmakes, if_neg hnew]
      omega
    · rw [if_neg hmakes]
      by_cases hlive : c.infos.Live p
      · rw [if_pos (hfacts.live p hlive)] at hrest
        rw [if_pos hlive]
        exact hrest
      · rw [if_neg hlive]
        split at hrest <;> omega

theorem Consistent.firesSingle_le (h : Consistent c) (p : TimerInfoPtr) (events : List (TimerEvent κ υ)) :
    (c.outcomes events).countP (firesSingle p) ≤
      (if p ∈ c.timer_set then 1 else 0) + (c.outcomes events).countP (makes p) := by
  induction events generalizing c with
  | nil => exact Nat.zero_le _
  | cons event events ih =>
    have hfacts := h.step_facts event
    have hrest := ih hfacts.consistent
    rw [outcomes, List.countP_cons, List.countP_cons]
    by_cases hfires : (c.step event).2.outcome.firesSingle p = true
    · obtain ⟨info, hfired, htype⟩ := firesSingle_iff.mp hfires
      obtain ⟨now, rfl⟩ := fires_processer hfired
      have hfiring : c.Fires (c.step (.Processer now)).1 now p info := h.fires hfired
      rw [if_neg (hfiring.single htype).1] at hrest
      rw [if_pos hfires, if_pos hfiring.current.1]
      omega
    · rw [if_neg hfires]
      by_cases hmem : p ∈ (c.step event).1.timer_set
      · rw [if_pos hmem] at hrest
        rcases hfacts.members p hmem with hp | hadds
        · rw [if_pos hp]
          omega
        · rw [if_pos (makes_iff.mpr hadds)]
          omega
      · rw [if_neg hmem] at hrest
        omega

/-- In every sequence of critical sections the set and the map stay matched, the timers fire
in order, and a single timer fires at most once. -/
theorem timers_match_and_fire_in_order [Inhabited υ] (events : List (TimerEvent κ υ)) :
    Throughout (fun (c : TimerCluster κ υ) event => some (c.step event).1) Sound init events ∧
      ∀ p, ((init : TimerCluster κ υ).outcomes events).countP (TimerOutcome.firesSingle p) ≤
          ((init : TimerCluster κ υ).outcomes events).countP (TimerOutcome.makes p) ∧
        ((init : TimerCluster κ υ).outcomes events).countP (TimerOutcome.makes p) ≤ 1 := by
  refine ⟨?_, fun p => ⟨?_, ?_⟩⟩
  · apply throughout_of_invariant Consistent ?_ (fun c h => h.sound) events consistent_init
    intro c event next h hnext
    cases hnext
    exact (h.step_facts event).consistent
  · have hle := (consistent_init (κ := κ) (υ := υ)).firesSingle_le p events
    rw [if_neg (show p ∉ (init : TimerCluster κ υ).timer_set from List.not_mem_nil)] at hle
    omega
  · have hle := (consistent_init (κ := κ) (υ := υ)).makes_le p events
    split at hle <;> omega

end TimerCluster

end hub.hpp
