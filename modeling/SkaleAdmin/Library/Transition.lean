import Mathlib.Logic.Basic

/-! Systems whose labelled steps may be refused, and what holds in every state
along a list of steps. -/

namespace Transition

variable {σ ℓ : Type} {step : σ → ℓ → Option σ}

/-- The steps are all taken, one after the other. -/
inductive Runs (step : σ → ℓ → Option σ) : σ → List ℓ → σ → Prop
  | nil (state : σ) : Runs step state [] state
  | cons {first middle last : σ} {label : ℓ} {labels : List ℓ}
      (taken : step first label = some middle)
      (rest : Runs step middle labels last) :
      Runs step first (label :: labels) last

/-- `property` holds in every state that is reached along the labels. -/
def Always (step : σ → ℓ → Option σ) (property : σ → Prop) :
    σ → List ℓ → Prop
  | state, [] => property state
  | state, label :: labels =>
      property state ∧
        ∀ next, step state label = some next → Always step property next labels

/-- `condition` holds of every step that is taken along the labels. -/
def EachStep (step : σ → ℓ → Option σ) (condition : σ → ℓ → Prop) :
    σ → List ℓ → Prop
  | _, [] => True
  | state, label :: labels =>
      ∀ next, step state label = some next →
        condition state label ∧ EachStep step condition next labels

def EachStep.test (step : σ → ℓ → Option σ) (condition : σ → ℓ → Prop)
    [∀ state label, Decidable (condition state label)] : σ → List ℓ → Bool
  | _, [] => true
  | state, label :: labels =>
      match step state label with
      | none => true
      | some next =>
          if condition state label then test step condition next labels else false

theorem EachStep.test_iff {condition : σ → ℓ → Prop}
    [∀ state label, Decidable (condition state label)] {first : σ}
    {labels : List ℓ} :
    EachStep.test step condition first labels = true ↔
      EachStep step condition first labels := by
  induction labels generalizing first with
  | nil => exact iff_of_true rfl trivial
  | cons label labels ih =>
      rw [EachStep.test, EachStep]
      cases step first label with
      | none =>
          refine iff_of_true rfl ?_
          rintro next ⟨⟩
      | some next =>
          simp only [Option.some.injEq, forall_eq', ← ih]
          by_cases meets : condition first label
          · simp [meets]
          · simp [meets]

instance EachStep.decidable {condition : σ → ℓ → Prop}
    [∀ state label, Decidable (condition state label)] (first : σ)
    (labels : List ℓ) : Decidable (EachStep step condition first labels) :=
  decidable_of_iff (EachStep.test step condition first labels = true)
    EachStep.test_iff

theorem Always.now {property : σ → Prop} {state : σ} {labels : List ℓ}
    (always : Always step property state labels) : property state := by
  cases labels with
  | nil => exact always
  | cons label labels => exact always.1

theorem Always.mono {property weaker : σ → Prop} {first : σ} {labels : List ℓ}
    (always : Always step property first labels)
    (enough : ∀ {state}, property state → weaker state) :
    Always step weaker first labels := by
  induction labels generalizing first with
  | nil => exact enough always
  | cons label labels ih =>
      exact ⟨enough always.1, fun next taken => ih (always.2 next taken)⟩

def play (step : σ → ℓ → Option σ) : σ → List ℓ → Option σ
  | state, [] => some state
  | state, label :: labels =>
      (step state label).bind fun next => play step next labels

theorem Always.at_play {property : σ → Prop} {first last : σ} {labels : List ℓ}
    (always : Always step property first labels)
    (played : play step first labels = some last) : property last := by
  induction labels generalizing first with
  | nil =>
      cases played
      exact always
  | cons label labels ih =>
      obtain ⟨next, taken, rest⟩ := Option.bind_eq_some_iff.mp played
      exact ih (always.2 next taken) rest

theorem eachStep_of_mem {condition : σ → ℓ → Prop} {labels : List ℓ}
    (all : ∀ state, ∀ label ∈ labels, condition state label) (first : σ) :
    EachStep step condition first labels := by
  induction labels generalizing first with
  | nil => trivial
  | cons label labels ih =>
      intro next _
      refine ⟨all first label List.mem_cons_self, ih ?_ next⟩
      intro state later listed
      exact all state later (List.mem_cons_of_mem _ listed)

theorem EachStep.and {condition other : σ → ℓ → Prop} {first : σ} {labels : List ℓ}
    (steps : EachStep step condition first labels)
    (others : EachStep step other first labels) :
    EachStep step (fun state label => condition state label ∧ other state label)
      first labels := by
  induction labels generalizing first with
  | nil => trivial
  | cons label labels ih =>
      intro next taken
      obtain ⟨meets, rest⟩ := steps next taken
      obtain ⟨meetsOther, restOther⟩ := others next taken
      exact ⟨⟨meets, meetsOther⟩, ih rest restOther⟩

theorem EachStep.mono {condition other : σ → ℓ → Prop} {first : σ} {labels : List ℓ}
    (steps : EachStep step condition first labels)
    (weaker : ∀ state label, condition state label → other state label) :
    EachStep step other first labels := by
  induction labels generalizing first with
  | nil => trivial
  | cons label labels ih =>
      intro next taken
      obtain ⟨meets, rest⟩ := steps next taken
      exact ⟨weaker first label meets, ih rest⟩

/-- The invariant rule: what every step in `condition` keeps holds always. -/
theorem always_of_eachStep {invariant property : σ → Prop}
    {condition : σ → ℓ → Prop}
    (kept : ∀ {state next label}, invariant state → condition state label →
      step state label = some next → invariant next)
    (enough : ∀ {state}, invariant state → property state) {first : σ}
    {labels : List ℓ} (start : invariant first)
    (steps : EachStep step condition first labels) :
    Always step property first labels := by
  induction labels generalizing first with
  | nil => exact enough start
  | cons label labels ih =>
      refine ⟨enough start, ?_⟩
      intro next taken
      obtain ⟨meets, rest⟩ := steps next taken
      exact ih (kept start meets taken) rest

/-- A property that a step keeps exactly when it meets `condition` holds always
exactly when every step does. -/
theorem always_iff_eachStep {invariant property : σ → Prop}
    {condition : σ → ℓ → Prop}
    (kept : ∀ {state next label}, invariant state → property next →
      step state label = some next → invariant next)
    (exact' : ∀ {state next label}, invariant state → property state →
      step state label = some next →
      (property next ↔ condition state label))
    {first : σ} {labels : List ℓ} (start : invariant first)
    (holds : property first) :
    Always step property first labels ↔
      EachStep step condition first labels := by
  induction labels generalizing first with
  | nil => exact iff_of_true holds trivial
  | cons label labels ih =>
      constructor
      · intro always next taken
        have later := always.2 next taken
        refine ⟨(exact' start holds taken).mp later.now, ?_⟩
        exact (ih (kept start later.now taken) later.now).mp later
      · intro steps
        refine ⟨holds, ?_⟩
        intro next taken
        obtain ⟨meets, rest⟩ := steps next taken
        have holdsNext := (exact' start holds taken).mpr meets
        exact (ih (kept start holdsNext taken) holdsNext).mpr rest

end Transition
