import Mathlib.Logic.Basic

namespace hub

universe u v w

section Run

variable {σ : Type u} {ℓ : Type v} (step : σ → ℓ → Option σ)

variable {P : σ → Prop} {cond : σ → ℓ → Prop} {label : ℓ} {labels : List ℓ} {result state : σ}
  (Inv : σ → Prop)

/-- Executes the labels in order. A step that yields nothing ends the program
abnormally and there is no state after it. -/
def run : σ → List ℓ → Option σ
  | state, [] => some state
  | state, label :: labels => (step state label).bind fun next => run next labels

/-- Every step that the run takes meets `cond` in the state it starts from. -/
def Meets (cond : σ → ℓ → Prop) : σ → List ℓ → Prop
  | _, [] => True
  | state, label :: labels =>
    cond state label ∧ ∀ next, step state label = some next → Meets cond next labels

/-- `P` holds in the first state of the run and after each of its steps. -/
def Throughout (P : σ → Prop) : σ → List ℓ → Prop
  | state, [] => P state
  | state, label :: labels => P state ∧ ∀ next, step state label = some next → Throughout P next labels

variable {step}

@[simp] theorem run_nil (state : σ) : run step state [] = some state := rfl

theorem run_cons_eq_some : run step state (label :: labels) = some result ↔
      ∃ next, step state label = some next ∧ run step next labels = some result := by
  simp [run, Option.bind_eq_some_iff]

theorem run_append_eq_some {first second : List ℓ} : run step state (first ++ second) = some result ↔
      ∃ middle, run step state first = some middle ∧ run step middle second = some result := by
  induction first generalizing state with
  | nil => simp
  | cons label labels ih =>
    simp only [List.cons_append, run_cons_eq_some, ih]
    constructor
    · rintro ⟨next, hstep, middle, hfirst, hsecond⟩
      exact ⟨middle, ⟨next, hstep, hfirst⟩, hsecond⟩
    · rintro ⟨middle, ⟨next, hstep, hfirst⟩, hsecond⟩
      exact ⟨next, hstep, middle, hfirst, hsecond⟩

theorem Meets.append_left {first second : List ℓ} (h : Meets step cond state (first ++ second)) :
    Meets step cond state first := by
  induction first generalizing state with
  | nil => trivial
  | cons label labels ih => exact ⟨h.1, fun next hstep => ih (h.2 next hstep)⟩

theorem Meets.append_right {middle : σ} {first second : List ℓ} (h : Meets step cond state (first ++ second))
    (hrun : run step state first = some middle) : Meets step cond middle second := by
  induction first generalizing state with
  | nil =>
    cases hrun
    exact h
  | cons label labels ih =>
    obtain ⟨next, hstep, hrest⟩ := run_cons_eq_some.mp hrun
    exact ih (h.2 next hstep) hrest

theorem Meets.of_forall {cond : ℓ → Prop} (h : ∀ label ∈ labels, cond label) (state : σ) :
    Meets step (fun _ label => cond label) state labels := by
  induction labels generalizing state with
  | nil => trivial
  | cons label labels ih =>
    exact ⟨h label List.mem_cons_self, fun next _ => ih (fun other hother => h other (.tail _ hother)) next⟩

variable {cond' : σ → ℓ → Prop}

theorem Meets.and (h : Meets step cond state labels) (h' : Meets step cond' state labels) :
    Meets step (fun state label => cond state label ∧ cond' state label) state labels := by
  induction labels generalizing state with
  | nil => trivial
  | cons label labels ih => exact ⟨⟨h.1, h'.1⟩, fun next hstep => ih (h.2 next hstep) (h'.2 next hstep)⟩

section

variable (hstep : ∀ state label next, Inv state → cond state label → step state label = some next → Inv next)

include hstep

/-- What the steps meeting `cond` meet in states of an invariant that they keep. -/
theorem Meets.of_invariant
    (hcond : ∀ state label, Inv state → cond state label → cond' state label) (hinit : Inv state)
    (hmeets : Meets step cond state labels) : Meets step cond' state labels := by
  induction labels generalizing state with
  | nil => trivial
  | cons label labels ih =>
    refine ⟨hcond state label hinit hmeets.1, fun next hnext => ?_⟩
    exact ih (hstep state label next hinit hmeets.1 hnext) (hmeets.2 next hnext)

instance Meets.decidable {cond : σ → ℓ → Prop} [∀ state label, Decidable (cond state label)] :
    ∀ (state : σ) (labels : List ℓ), Decidable (Meets step cond state labels)
  | _, [] => .isTrue trivial
  | state, label :: labels =>
    match hstep : step state label with
    | none => decidable_of_iff (cond state label) (by simp [Meets, hstep])
    | some next =>
      have : Decidable (Meets step cond next labels) := Meets.decidable next labels
      decidable_of_iff (cond state label ∧ Meets step cond next labels) (by simp [Meets, hstep])

/-- The induction rule for runs: what the steps meeting `cond` preserve holds
at the end of every run whose steps all meet it. -/
theorem run_invariant_of_meets
    (hinit : Inv state) (hmeets : Meets step cond state labels) (hrun : run step state labels = some result) :
    Inv result := by
  induction labels generalizing state with
  | nil =>
    cases hrun
    exact hinit
  | cons label labels ih =>
    obtain ⟨next, hnext, hrest⟩ := run_cons_eq_some.mp hrun
    exact ih (hstep _ _ _ hinit hmeets.1 hnext) (hmeets.2 next hnext) hrest

end

theorem run_invariant (hstep : ∀ state label next, Inv state → step state label = some next → Inv next)
    (hinit : Inv state) (hrun : run step state labels = some result) : Inv result := by
  induction labels generalizing state with
  | nil =>
    cases hrun
    exact hinit
  | cons label labels ih =>
    obtain ⟨next, hnext, hrest⟩ := run_cons_eq_some.mp hrun
    exact ih (hstep _ _ _ hinit hnext) hrest

/-- The induction rule for statements about a state and the labels that have led
to it. -/
theorem run_history_of_meets {start : σ} (Inv : List ℓ → σ → Prop)
    (hstep : ∀ before state label next, run step start before = some state → Inv before state →
      cond state label → step state label = some next → Inv (before ++ [label]) next) (hinit : Inv [] start)
    (hmeets : Meets step cond start labels) (hrun : run step start labels = some result) :
    Inv labels result := by
  suffices hextend : ∀ before state, run step start before = some state → Inv before state →
      Meets step cond state labels → run step state labels = some result → Inv (before ++ labels) result from
    hextend [] start rfl hinit hmeets hrun
  clear hinit hmeets hrun
  induction labels with
  | nil =>
    intro before state _ hinv _ hrun
    cases hrun
    rw [List.append_nil]
    exact hinv
  | cons label labels ih =>
    intro before state hbefore hinv hmeets hrun
    obtain ⟨next, hnext, hrest⟩ := run_cons_eq_some.mp hrun
    have hlonger : run step start (before ++ [label]) = some next :=
      run_append_eq_some.mpr ⟨state, hbefore, run_cons_eq_some.mpr ⟨next, hnext, rfl⟩⟩
    have hmore := ih (before ++ [label]) next hlonger (hstep before state label next hbefore hinv hmeets.1 hnext)
      (hmeets.2 next hnext) hrest
    rw [List.append_assoc] at hmore
    exact hmore

theorem Throughout.last (h : Throughout step P state labels) (hrun : run step state labels = some result) :
    P result := by
  induction labels generalizing state with
  | nil =>
    cases hrun
    exact h
  | cons label labels ih =>
    obtain ⟨next, hnext, hrest⟩ := run_cons_eq_some.mp hrun
    exact ih (h.2 next hnext) hrest

theorem Throughout.first (h : Throughout step P state labels) : P state := by
  cases labels with
  | nil => exact h
  | cons label labels => exact h.1

/-- What the steps meeting `cond` preserve holds all along every run whose steps
all meet it. What is preserved may depend on the labels still to come. -/
theorem Meets.throughout_ahead (Inv : σ → List ℓ → Prop)
    (hstep : ∀ state label labels next, Inv state (label :: labels) → cond state label →
      step state label = some next → Inv next labels) (hP : ∀ state labels, Inv state labels → P state)
    (hinit : Inv state labels) (hmeets : Meets step cond state labels) : Throughout step P state labels := by
  induction labels generalizing state with
  | nil => exact hP state [] hinit
  | cons label labels ih =>
    refine ⟨hP state _ hinit, fun next hnext => ?_⟩
    exact ih (hstep state label labels next hinit hmeets.1 hnext) (hmeets.2 next hnext)

theorem Meets.throughout
    (hstep : ∀ state label next, Inv state → cond state label → step state label = some next → Inv next)
    (hP : ∀ state, Inv state → P state) (hinit : Inv state) (hmeets : Meets step cond state labels) :
    Throughout step P state labels :=
  hmeets.throughout_ahead (fun state _ => Inv state) (fun state label _ next => hstep state label next)
    (fun state _ => hP state) hinit

theorem throughout_of_invariant
    (hstep : ∀ state label next, Inv state → step state label = some next → Inv next)
    (hP : ∀ state, Inv state → P state) (labels : List ℓ) (hinit : Inv state) :
    Throughout step P state labels := by
  induction labels generalizing state with
  | nil => exact hP state hinit
  | cons label labels ih => exact ⟨hP state hinit, fun next hnext => ih (hstep state label next hinit hnext)⟩

instance Throughout.decidable {P : σ → Prop} [DecidablePred P] :
    ∀ (state : σ) (labels : List ℓ), Decidable (Throughout step P state labels)
  | state, [] => inferInstanceAs (Decidable (P state))
  | state, label :: labels =>
    match hstep : step state label with
    | none => decidable_of_iff (P state) (by simp [Throughout, hstep])
    | some next =>
      have : Decidable (Throughout step P next labels) := Throughout.decidable next labels
      decidable_of_iff (P state ∧ Throughout step P next labels) (by simp [Throughout, hstep])

/-- When a step keeps `P` exactly under `cond`, a run stays within `P` exactly
when all its steps meet `cond`. What else the steps rest on may depend on the
labels still to come. -/
theorem throughout_iff_meets (Wf : σ → List ℓ → Prop)
    (hwf : ∀ state label labels next, Wf state (label :: labels) → step state label = some next → Wf next labels)
    (hstuck : ∀ state label, step state label = none → cond state label)
    (hiff : ∀ state label labels next, Wf state (label :: labels) → P state → step state label = some next →
      (P next ↔ cond state label)) (hstate : Wf state labels) (hP : P state) :
    Throughout step P state labels ↔ Meets step cond state labels := by
  induction labels generalizing state with
  | nil => exact ⟨fun _ => trivial, fun _ => hP⟩
  | cons label labels ih =>
    cases hnext : step state label with
    | none => simp [Throughout, Meets, hnext, hP, hstuck state label hnext]
    | some next =>
      have hkeep := hiff state label labels next hstate hP hnext
      have hrest := ih (hwf state label labels next hstate hnext)
      constructor
      · intro h
        have hnextP := (h.2 next hnext).first
        refine ⟨hkeep.mp hnextP, fun other hother => ?_⟩
        cases hnext.symm.trans hother
        exact (hrest hnextP).mp (h.2 next hnext)
      · intro h
        have hnextP := hkeep.mpr h.1
        refine ⟨hP, fun other hother => ?_⟩
        cases hnext.symm.trans hother
        exact (hrest hnextP).mpr (h.2 next hnext)

/-- The step with a log beside the state, to which each step adds what `record` notes
of it, newest first. -/
def logged {α : Type w} (step : σ → ℓ → Option σ) (record : σ → ℓ → List α) :
    σ × List α → ℓ → Option (σ × List α)
  | (state, log), label => (step state label).map fun next => (next, record state label ++ log)

theorem logged_eq_some {α : Type w} {record : σ → ℓ → List α} {next : σ} {log log' : List α} :
    logged step record (state, log) label = some (next, log') ↔
      step state label = some next ∧ log' = record state label ++ log := by
  simp only [logged, Option.map_eq_some_iff, Prod.mk.injEq]
  constructor
  · rintro ⟨_, hstep, rfl, rfl⟩
    exact ⟨hstep, rfl⟩
  · rintro ⟨hstep, rfl⟩
    exact ⟨next, hstep, rfl, rfl⟩

theorem throughout_logged {α : Type w} {record : σ → ℓ → List α} {log : List α} :
    Throughout (logged step record) (fun s => P s.1) (state, log) labels ↔ Throughout step P state labels := by
  induction labels generalizing state log with
  | nil => rfl
  | cons label labels ih =>
    simp only [Throughout]
    refine and_congr_right fun _ => ⟨fun h next hnext => ?_, ?_⟩
    · exact ih.mp (h (next, record state label ++ log) (logged_eq_some.mpr ⟨hnext, rfl⟩))
    · rintro h ⟨next, log'⟩ hnext
      exact ih.mpr (h next (logged_eq_some.mp hnext).1)

end Run

section Fold

variable {σ : Type u} {α : Type v}

variable {cond : σ → α → Prop} {f : σ → α → σ} {item : α} {items : List α} {state : σ} (Base Inv : σ → Prop)

theorem foldl_invariant (hstep : ∀ state item, item ∈ items → Inv state → Inv (f state item))
    (hinit : Inv state) : Inv (items.foldl f state) := by
  induction items generalizing state with
  | nil => exact hinit
  | cons item items ih =>
    exact ih (fun state other hmem => hstep state other (List.mem_cons_of_mem _ hmem))
      (hstep state item List.mem_cons_self hinit)

/-- What one turn of a loop brings about and every turn keeps holds after the
loop. -/
theorem foldl_established (hbase : ∀ state item, item ∈ items → Base state → Base (f state item))
    (hstep : ∀ state item, item ∈ items → Base state → Inv state → Inv (f state item)) {item : α}
    (hmem : item ∈ items) (hset : ∀ state, Base state → Inv (f state item)) {state : σ} (hinit : Base state) :
    Inv (items.foldl f state) := by
  obtain ⟨before, after, rfl⟩ := List.append_of_mem hmem
  have hbefore : Base (before.foldl f state) :=
    foldl_invariant Base (fun _ other hother => hbase _ other (List.mem_append_left _ hother)) hinit
  rw [List.foldl_append, List.foldl_cons]
  refine (foldl_invariant (fun state => Base state ∧ Inv state) ?_
    ⟨hbase _ item (by simp) hbefore, hset _ hbefore⟩).2
  rintro state' other hother ⟨hbase', hinv'⟩
  have hother' : other ∈ before ++ item :: after :=
    List.mem_append_right _ (List.mem_cons_of_mem _ hother)
  exact ⟨hbase state' other hother' hbase', hstep state' other hother' hbase' hinv'⟩

/-- Every turn of a loop meets `cond` in the state it starts from. -/
def LoopMeets (f : σ → α → σ) (cond : σ → α → Prop) : σ → List α → Prop
  | _, [] => True
  | state, item :: items => cond state item ∧ LoopMeets f cond (f state item) items

theorem LoopMeets.append {first second : List α} (hfirst : LoopMeets f cond state first)
    (hsecond : LoopMeets f cond (first.foldl f state) second) : LoopMeets f cond state (first ++ second) := by
  induction first generalizing state with
  | nil => exact hsecond
  | cons item items ih => exact ⟨hfirst.1, ih hfirst.2 hsecond⟩

theorem LoopMeets.of_mem (h : LoopMeets f cond state items) (hmem : item ∈ items) :
    ∃ turn, cond turn item := by
  induction items generalizing state with
  | nil => cases hmem
  | cons other items ih =>
    rcases List.mem_cons.mp hmem with rfl | hmem
    · exact ⟨state, h.1⟩
    · exact ih h.2 hmem

theorem LoopMeets.and {cond' : σ → α → Prop} (h : LoopMeets f cond state items)
    (h' : LoopMeets f cond' state items) :
    LoopMeets f (fun state item => cond state item ∧ cond' state item) state items := by
  induction items generalizing state with
  | nil => trivial
  | cons item items ih => exact ⟨⟨h.1, h'.1⟩, ih h.2 h'.2⟩

theorem foldl_invariant_of_meets (hstep : ∀ state item, Inv state → cond state item → Inv (f state item))
    (hinit : Inv state) (hmeets : LoopMeets f cond state items) : Inv (items.foldl f state) := by
  induction items generalizing state with
  | nil => exact hinit
  | cons item items ih => exact ih (hstep _ _ hinit hmeets.1) hmeets.2

theorem LoopMeets.of_invariant (hcond : ∀ state item, item ∈ items → Inv state → cond state item)
    (hstep : ∀ state item, item ∈ items → Inv state → Inv (f state item)) (hinit : Inv state) :
    LoopMeets f cond state items := by
  induction items generalizing state with
  | nil => trivial
  | cons item items ih =>
    refine ⟨hcond state item List.mem_cons_self hinit, ih ?_ ?_ (hstep state item List.mem_cons_self hinit)⟩
    · exact fun state other hmem => hcond state other (List.mem_cons_of_mem _ hmem)
    · exact fun state other hmem => hstep state other (List.mem_cons_of_mem _ hmem)

theorem LoopMeets.and_invariant (hstep : ∀ state item, Inv state → cond state item → Inv (f state item))
    (hinit : Inv state) (hmeets : LoopMeets f cond state items) :
    LoopMeets f (fun state item => Inv state ∧ cond state item) state items := by
  induction items generalizing state with
  | nil => trivial
  | cons item items ih => exact ⟨⟨hinit, hmeets.1⟩, ih (hstep _ _ hinit hmeets.1) hmeets.2⟩

/-- A property that no turn of the loop can bring about holds around every turn
when it holds after the loop. -/
theorem LoopMeets.of_last (P : σ → Prop)
    (hbase : ∀ state item, item ∈ items → Base state → Base (f state item))
    (hback : ∀ state item, item ∈ items → Base state → P (f state item) → P state) (hinit : Base state)
    (hlast : P (items.foldl f state)) :
    P state ∧ LoopMeets f (fun state item => P state ∧ P (f state item)) state items := by
  induction items generalizing state with
  | nil => exact ⟨hlast, trivial⟩
  | cons item items ih =>
    obtain ⟨hnext, hrest⟩ := ih (fun state other hmem => hbase state other (List.mem_cons_of_mem _ hmem))
      (fun state other hmem => hback state other (List.mem_cons_of_mem _ hmem))
      (hbase state item List.mem_cons_self hinit) hlast
    have hstate := hback state item List.mem_cons_self hinit hnext
    exact ⟨hstate, ⟨hstate, hnext⟩, hrest⟩

theorem LoopMeets.imp {weaker : σ → α → Prop}
    (himp : ∀ state item, item ∈ items → cond state item → weaker state item)
    (h : LoopMeets f cond state items) : LoopMeets f weaker state items := by
  induction items generalizing state with
  | nil => trivial
  | cons item items ih =>
    exact ⟨himp state item List.mem_cons_self h.1,
      ih (fun state other hmem => himp state other (List.mem_cons_of_mem _ hmem)) h.2⟩

end Fold

namespace Parties

-- opened where a run on fixed inputs has numerals for its two or three parties
scoped instance neZeroTwo : @NeZero Nat Zero.ofOfNat0 2 := ⟨Nat.succ_ne_zero 1⟩

scoped instance neZeroThree : @NeZero Nat Zero.ofOfNat0 3 := ⟨Nat.succ_ne_zero 2⟩

end Parties

end hub
