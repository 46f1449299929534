import SkaleAdmin.Library.Interaction
import SkaleAdmin.Library.Transition

/-! Programs in a world that moves on its own account between their calls, and
the rule that proves an invariant of every interleaving from an outline of each
program. -/

namespace Interaction

open Program

/-- `serve` is given a proposed answer, which the world replaces where it is
the world that decides.  The world is told when a job begins and ends. -/
structure Host (I : Interface) (W M J ρ : Type) where
  move : W → M → Option W
  serve : (query : I.Query) → I.Answer query → W → Option (I.Answer query × W)
  job : J → Program I ρ
  begin : J → W → W := fun _ world => world
  finish : W → W := id

structure Configuration (I : Interface) (W ρ : Type) where
  world : W
  running : Option (Program I ρ) := none

/-- `stop` ends the running program wherever it stands. -/
inductive Label (I : Interface) (M J : Type) where
  | move (move : M)
  | start (job : J)
  | call (proposed : (query : I.Query) → I.Answer query)
  | stop

namespace Host

variable {I : Interface} {W M J ρ τ : Type} (host : Host I W M J ρ)

def settle (world : W) : Program I ρ → Configuration I W ρ
  | .done _ => { world := host.finish world }
  | .call query next => { world, running := some (.call query next) }

def step : Configuration I W ρ → Label I M J → Option (Configuration I W ρ)
  | ⟨world, running⟩, .move move =>
      (host.move world move).map fun moved => ⟨moved, running⟩
  | ⟨world, none⟩, .start job =>
      some (host.settle (host.begin job world) (host.job job))
  | ⟨world, some (.call query next)⟩, .call proposed =>
      (host.serve query (proposed query) world).map fun served =>
        host.settle served.2 (next served.1)
  | ⟨world, some _⟩, .stop => some { world := host.finish world }
  | _, _ => none

/-- What an observer notes down of the moves, of the calls and of the jobs that
begin, each with the world before it. -/
structure Watch (I : Interface) (W M J G : Type) where
  move : M → W → G → G := fun _ _ notes => notes
  call : (query : I.Query) → I.Answer query → W → G → G :=
    fun _ _ _ notes => notes
  begin : J → W → G → G := fun _ _ notes => notes

/-- The observer's notes stand beside the world and change nothing in it. -/
def watch {G : Type} (watch : Watch I W M J G) : Host I (W × G) M J ρ where
  move world move :=
    (host.move world.1 move).map fun moved =>
      (moved, watch.move move world.1 world.2)
  serve query proposed world :=
    (host.serve query proposed world.1).map fun served =>
      (served.1, served.2, watch.call query served.1 world.1 world.2)
  job := host.job
  begin job world := (host.begin job world.1, watch.begin job world.1 world.2)
  finish world := (host.finish world.1, world.2)

/-- What is assumed of the steps, in the world before them. -/
structure Discipline (I : Interface) (W M J : Type) where
  move : W → M → Prop := fun _ _ => True
  start : W → J → Prop := fun _ _ => True
  call : (query : I.Query) → I.Answer query → W → Prop := fun _ _ _ => True
  stop : W → Prop := fun _ => True

def Discipline.Meets (discipline : Discipline I W M J) :
    Configuration I W ρ → Label I M J → Prop
  | config, .move move => discipline.move config.world move
  | config, .start job => discipline.start config.world job
  | ⟨world, some (.call query _)⟩, .call proposed =>
      discipline.call query (proposed query) world
  | config, .stop => discipline.stop config.world
  | _, _ => True

instance Discipline.decidableMeets (discipline : Discipline I W M J)
    [∀ world move, Decidable (discipline.move world move)]
    [∀ world job, Decidable (discipline.start world job)]
    [∀ query answer world, Decidable (discipline.call query answer world)]
    [∀ world, Decidable (discipline.stop world)] :
    (config : Configuration I W ρ) → (label : Label I M J) →
      Decidable (discipline.Meets config label)
  | config, .move move => inferInstanceAs (Decidable (discipline.move config.world move))
  | config, .start job => inferInstanceAs (Decidable (discipline.start config.world job))
  | ⟨world, some (.call query _)⟩, .call proposed =>
      inferInstanceAs (Decidable (discipline.call query (proposed query) world))
  | config, .stop => inferInstanceAs (Decidable (discipline.stop config.world))
  | ⟨_, some (.done _)⟩, .call _ | ⟨_, none⟩, .call _ => isTrue trivial

def Discipline.and (first second : Discipline I W M J) : Discipline I W M J where
  move world move := first.move world move ∧ second.move world move
  start world job := first.start world job ∧ second.start world job
  call query answer world := first.call query answer world ∧ second.call query answer world
  stop world := first.stop world ∧ second.stop world

def Discipline.ofTests (calls : (query : I.Query) → I.Answer query → W → Bool)
    (moves : W → M → Bool := fun _ _ => true) (stops : W → Bool := fun _ => true) :
    Discipline I W M J where
  move world move := moves world move = true
  call query answer world := calls query answer world = true
  stop world := stops world = true

instance Discipline.decidableTests
    {step : Configuration I W ρ → Label I M J → Option (Configuration I W ρ)}
    (calls : (query : I.Query) → I.Answer query → W → Bool) (moves : W → M → Bool)
    (stops : W → Bool) (config : Configuration I W ρ) (labels : List (Label I M J)) :
    Decidable (Transition.EachStep step (Discipline.ofTests calls moves stops).Meets
      config labels) :=
  have (world : W) (move : M) :
      Decidable ((ofTests calls moves stops : Discipline I W M J).move world move) :=
    inferInstanceAs (Decidable (moves world move = true))
  have (world : W) (job : J) :
      Decidable ((ofTests calls moves stops : Discipline I W M J).start world job) :=
    isTrue trivial
  have (query : I.Query) (answer : I.Answer query) (world : W) :
      Decidable
        ((ofTests calls moves stops : Discipline I W M J).call query answer world) :=
    inferInstanceAs (Decidable (calls query answer world = true))
  have (world : W) :
      Decidable ((ofTests calls moves stops : Discipline I W M J).stop world) :=
    inferInstanceAs (Decidable (stops world = true))
  inferInstance

abbrev Discipline.ofTest (test : (query : I.Query) → I.Answer query → W → Bool) :
    Discipline I W M J :=
  .ofTests test

variable (discipline : Discipline I W M J) (invariant : W → Prop)

/-- What no move of the world takes away. -/
def Stable (assertion : W → Prop) : Prop :=
  ∀ ⦃world moved : W⦄ ⦃move : M⦄, invariant world → assertion world →
    discipline.move world move → host.move world move = some moved →
    assertion moved

/-- The program, started where `before` holds, keeps the invariant at each of
its calls and ends where `after` holds. -/
inductive Outline {τ : Type} :
    (W → Prop) → Program I τ → (τ → W → Prop) → Prop
  | done {before : W → Prop} {result : τ} {after : τ → W → Prop}
      (stable : host.Stable discipline invariant before)
      (ends : ∀ world, invariant world → before world → after result world) :
      Outline before (.done result) after
  | call {before : W → Prop} {query : I.Query}
      {next : I.Answer query → Program I τ} {after : τ → W → Prop}
      (between : I.Answer query → W → Prop)
      (stable : host.Stable discipline invariant before)
      (served : ∀ ⦃world world' : W⦄ ⦃proposed answer : I.Answer query⦄,
        invariant world → before world →
        discipline.call query proposed world →
        host.serve query proposed world = some (answer, world') →
        invariant world' ∧ between answer world')
      (rest : ∀ answer, Outline (between answer) (next answer) after) :
      Outline before (.call query next) after

section Rules

variable {host : Host I W M J ρ} {discipline : Discipline I W M J}
  {invariant : W → Prop}

theorem meets_default (config : Configuration I W ρ) (label : Label I M J) :
    ({} : Discipline I W M J).Meets config label := by
  obtain ⟨world, running⟩ := config
  cases label with
  | move move => trivial
  | start job => trivial
  | stop =>
      cases running with
      | none => trivial
      | some program => cases program <;> trivial
  | call proposed =>
      cases running with
      | none => trivial
      | some program => cases program <;> trivial

theorem meets_and {first second : Discipline I W M J} {config : Configuration I W ρ}
    {label : Label I M J} (meets : first.Meets config label)
    (meetsToo : second.Meets config label) :
    (first.and second).Meets config label := by
  obtain ⟨world, running⟩ := config
  cases label with
  | move move => exact ⟨meets, meetsToo⟩
  | start job => exact ⟨meets, meetsToo⟩
  | stop =>
      cases running with
      | none => exact ⟨meets, meetsToo⟩
      | some program => cases program <;> exact ⟨meets, meetsToo⟩
  | call proposed =>
      cases running with
      | none => trivial
      | some program =>
          cases program with
          | done result => trivial
          | call query next => exact ⟨meets, meetsToo⟩

theorem meets_mono {first second : Discipline I W M J} {config : Configuration I W ρ}
    {label : Label I M J} (moves : ∀ world move, first.move world move → second.move world move)
    (starts : ∀ world job, first.start world job → second.start world job)
    (calls : ∀ query answer world, first.call query answer world →
      second.call query answer world)
    (stops : ∀ world, first.stop world → second.stop world)
    (meets : first.Meets config label) : second.Meets config label := by
  obtain ⟨world, running⟩ := config
  cases label with
  | move move => exact moves _ _ meets
  | start job => exact starts _ _ meets
  | stop =>
      cases running with
      | none => exact stops _ meets
      | some program => cases program <;> exact stops _ meets
  | call proposed =>
      cases running with
      | none => trivial
      | some program =>
          cases program with
          | done result => trivial
          | call query next => exact calls _ _ _ meets

theorem stable_true :
    host.Stable discipline invariant fun _ => True := by
  intro world moved move _ _ _ _
  trivial

theorem stable_const (fact : Prop) :
    host.Stable discipline invariant fun _ => fact := by
  intro world moved move _ holds _ _
  exact holds

theorem Stable.and {first second : W → Prop}
    (firstStable : host.Stable discipline invariant first)
    (secondStable : host.Stable discipline invariant second) :
    host.Stable discipline invariant fun world =>
      first world ∧ second world := by
  intro world moved move kept holds allowed taken
  exact ⟨firstStable kept holds.1 allowed taken,
    secondStable kept holds.2 allowed taken⟩

theorem stable_of_view {κ : Type} (view : W → κ) (assertion : κ → Prop)
    (kept : ∀ world move moved, host.move world move = some moved →
      view moved = view world) :
    host.Stable discipline invariant fun world => assertion (view world) := by
  intro world moved move _ holds _ taken
  rw [kept world move moved taken]
  exact holds

theorem stable_of_still {assertion : W → Prop}
    (still : ∀ world move, assertion world → ¬ discipline.move world move) :
    host.Stable discipline invariant assertion := by
  intro world moved move _ holds allowed _
  exact absurd allowed (still world move holds)

theorem idle_of_start {config config' : Configuration I W ρ} {job : J}
    (taken : host.step config (.start job) = some config') : config.running = none := by
  obtain ⟨world, running⟩ := config
  cases running with
  | none => rfl
  | some program => cases taken

theorem step_cases {config config' : Configuration I W ρ} {label : Label I M J}
    (taken : host.step config label = some config') :
    (∃ move, label = .move move ∧
      host.move config.world move = some config'.world) ∨
    (∃ job, label = .start job ∧
      (config'.world = host.begin job config.world ∨
        config'.world = host.finish (host.begin job config.world))) ∨
    (∃ query next proposed answer world', label = .call proposed ∧
      config.running = some (.call query next) ∧
      host.serve query (proposed query) config.world = some (answer, world') ∧
      (config'.world = world' ∨ config'.world = host.finish world')) ∨
    (label = .stop ∧ config'.world = host.finish config.world) := by
  have settled : ∀ world (program : Program I ρ),
      (host.settle world program).world = world ∨
        (host.settle world program).world = host.finish world := by
    intro world program
    cases program with
    | done result => exact .inr rfl
    | call query next => exact .inl rfl
  obtain ⟨world, running⟩ := config
  cases label with
  | move move =>
      obtain ⟨moved, served, rfl⟩ := Option.map_eq_some_iff.mp taken
      exact .inl ⟨move, rfl, served⟩
  | start job =>
      cases running with
      | some program => cases taken
      | none =>
          obtain rfl := Option.some.inj taken
          exact .inr (.inl ⟨job, rfl, settled _ _⟩)
  | call proposed =>
      cases running with
      | none => cases taken
      | some program =>
          cases program with
          | done result => cases taken
          | call query next =>
              obtain ⟨⟨answer, world'⟩, served, rfl⟩ :=
                Option.map_eq_some_iff.mp taken
              exact .inr (.inr (.inl ⟨query, next, proposed, answer, world', rfl,
                rfl, served, settled _ _⟩))
  | stop =>
      cases running with
      | none => cases taken
      | some program =>
          obtain rfl := Option.some.inj taken
          exact .inr (.inr (.inr ⟨rfl, rfl⟩))

theorem watch_serve {G : Type} {observed : Watch I W M J G} {query : I.Query}
    {proposed answer : I.Answer query} {world world' : W × G} :
    (host.watch observed).serve query proposed world = some (answer, world') ↔
      host.serve query proposed world.1 = some (answer, world'.1) ∧
        world'.2 = observed.call query answer world.1 world.2 := by
  simp only [watch, Option.map_eq_some_iff, Prod.mk.injEq]
  constructor
  · rintro ⟨⟨reply, served⟩, taken, rfl, rfl⟩
    exact ⟨taken, rfl⟩
  · rintro ⟨taken, noted⟩
    exact ⟨_, taken, rfl, Prod.ext rfl noted.symm⟩

theorem watch_move {G : Type} {observed : Watch I W M J G} {move : M}
    {world world' : W × G} :
    (host.watch observed).move world move = some world' ↔
      host.move world.1 move = some world'.1 ∧
        world'.2 = observed.move move world.1 world.2 := by
  simp only [watch, Option.map_eq_some_iff]
  constructor
  · rintro ⟨moved, taken, rfl⟩
    exact ⟨taken, rfl⟩
  · rintro ⟨taken, noted⟩
    exact ⟨_, taken, Prod.ext rfl noted.symm⟩

namespace Outline

variable {before before' : W → Prop} {program : Program I τ}
  {after : τ → W → Prop}

theorem strengthen
    (outline : host.Outline discipline invariant before program after)
    (stable : host.Stable discipline invariant before')
    (stronger : ∀ world, invariant world → before' world → before world) :
    host.Outline discipline invariant before' program after := by
  cases outline with
  | done _ ends =>
      refine .done stable ?_
      intro world kept holds
      exact ends world kept (stronger world kept holds)
  | call between _ served rest =>
      refine .call between stable ?_ rest
      intro world world' proposed answer kept holds allowed taken
      exact served kept (stronger world kept holds) allowed taken

theorem weaken {after' : τ → W → Prop}
    (outline : host.Outline discipline invariant before program after)
    (weaker : ∀ result world, invariant world → after result world →
      after' result world) :
    host.Outline discipline invariant before program after' := by
  induction outline with
  | done stable ends =>
      refine .done stable ?_
      intro world kept holds
      exact weaker _ world kept (ends world kept holds)
  | call between stable served rest ih =>
      exact .call between stable served fun answer => ih answer weaker

theorem bind {υ : Type} {next : τ → Program I υ} {middle : τ → W → Prop}
    {after : υ → W → Prop}
    (outline : host.Outline discipline invariant before program middle)
    (rest : ∀ result, host.Outline discipline invariant (middle result)
      (next result) after) :
    host.Outline discipline invariant before (program.bind next) after := by
  induction outline with
  | done stable ends => exact (rest _).strengthen stable ends
  | call between stable served _ ih =>
      exact .call between stable served fun answer => ih answer rest

theorem of_exists {ι : Sort*} {before : ι → W → Prop}
    (outlines : ∀ index,
      host.Outline discipline invariant (before index) program after) :
    host.Outline discipline invariant (fun world => ∃ index, before index world)
      program after := by
  induction program generalizing ι with
  | done result =>
      refine .done ?_ ?_
      · rintro world moved move kept ⟨index, holds⟩ allowed taken
        refine ⟨index, ?_⟩
        cases outlines index with
        | done stable _ => exact stable kept holds allowed taken
      · rintro world kept ⟨index, holds⟩
        cases outlines index with
        | done _ ends => exact ends world kept holds
  | call query next ih =>
      have steps : ∀ index, ∃ between : I.Answer query → W → Prop,
          host.Stable discipline invariant (before index) ∧
          (∀ ⦃world world' : W⦄ ⦃proposed answer : I.Answer query⦄,
            invariant world → before index world →
            discipline.call query proposed world →
            host.serve query proposed world = some (answer, world') →
            invariant world' ∧ between answer world') ∧
          ∀ answer, host.Outline discipline invariant (between answer) (next answer)
            after := by
        intro index
        cases outlines index with
        | call between stable served rest => exact ⟨between, stable, served, rest⟩
      choose between stable served rest using steps
      refine .call (fun answer world => ∃ index, between index answer world) ?_ ?_ ?_
      · rintro world moved move kept ⟨index, holds⟩ allowed taken
        exact ⟨index, stable index kept holds allowed taken⟩
      · rintro world world' proposed answer kept ⟨index, holds⟩ allowed taken
        obtain ⟨kept', holds'⟩ := served index kept holds allowed taken
        exact ⟨kept', index, holds'⟩
      · intro answer
        exact ih answer fun index => rest index answer

theorem of_unsatisfiable (absurd : ∀ world, ¬ before world) :
    host.Outline discipline invariant before program after := by
  have never : before = fun world => ∃ _ : False, before world := by
    funext world
    simp [absurd world]
  rw [never]
  exact of_exists fun index => index.elim

theorem of_fact {fact : Prop} (known : ∀ world, before world → fact)
    (outline : fact → host.Outline discipline invariant before program after) :
    host.Outline discipline invariant before program after := by
  by_cases holds : fact
  · exact outline holds
  · exact of_unsatisfiable fun world reached => holds (known world reached)

end Outline

/-- The invariant holds, and the running program is at a point of its outline
whose assertion holds. -/
def Proved (host : Host I W M J ρ) (discipline : Discipline I W M J)
    (invariant : W → Prop) (config : Configuration I W ρ) : Prop :=
  invariant config.world ∧
    ∀ program, config.running = some program →
      ∃ before after, before config.world ∧
        host.Outline discipline invariant before program after

theorem proved_settle {world : W} {program : Program I ρ}
    {before : W → Prop} {after : ρ → W → Prop}
    (finished : ∀ {world}, invariant world → invariant (host.finish world))
    (kept : invariant world) (holds : before world)
    (outline : host.Outline discipline invariant before program after) :
    host.Proved discipline invariant (host.settle world program) := by
  cases program with
  | done result =>
      refine ⟨finished kept, ?_⟩
      intro program absurdity
      cases absurdity
  | call query next =>
      refine ⟨kept, ?_⟩
      intro program same
      cases same
      exact ⟨before, after, holds, outline⟩

theorem step_proved {config config' : Configuration I W ρ} {label : Label I M J}
    (moved : ∀ {world world' move}, invariant world →
      discipline.move world move → host.move world move = some world' →
      invariant world')
    (finished : ∀ {world}, invariant world → invariant (host.finish world))
    (begun : ∀ {world job}, invariant world → discipline.start world job →
      invariant (host.begin job world) ∧
        ∃ before after, before (host.begin job world) ∧
          host.Outline discipline invariant before (host.job job) after)
    (proved : host.Proved discipline invariant config)
    (meets : discipline.Meets config label)
    (taken : host.step config label = some config') :
    host.Proved discipline invariant config' := by
  obtain ⟨world, running⟩ := config
  obtain ⟨kept, outlined⟩ := proved
  cases label with
  | move move =>
      obtain ⟨world', served, rfl⟩ := Option.map_eq_some_iff.mp taken
      refine ⟨moved kept meets served, ?_⟩
      intro program same
      obtain ⟨before, after, holds, outline⟩ := outlined program same
      refine ⟨before, after, ?_, outline⟩
      cases outline with
      | done stable _ => exact stable kept holds meets served
      | call _ stable _ _ => exact stable kept holds meets served
  | start job =>
      cases running with
      | some program => cases taken
      | none =>
          obtain rfl := Option.some.inj taken
          obtain ⟨ready, before, after, holds, outline⟩ := begun kept meets
          exact proved_settle finished ready holds outline
  | call proposed =>
      cases running with
      | none => cases taken
      | some program =>
          cases program with
          | done result => cases taken
          | call query next =>
              obtain ⟨⟨answer, world'⟩, served, rfl⟩ :=
                Option.map_eq_some_iff.mp taken
              obtain ⟨before, after, holds, outline⟩ := outlined _ rfl
              cases outline with
              | call between _ serves rest =>
                  obtain ⟨kept', holds'⟩ := serves kept holds meets served
                  exact proved_settle finished kept' holds' (rest answer)
  | stop =>
      cases running with
      | none => cases taken
      | some program =>
          obtain rfl := Option.some.inj taken
          refine ⟨finished kept, ?_⟩
          intro program absurdity
          cases absurdity

/-- An invariant that the moves keep and that every job has an outline for
holds along every interleaving that meets the discipline. -/
theorem always_of_outlines {property : Configuration I W ρ → Prop}
    (moved : ∀ {world world' move}, invariant world →
      discipline.move world move → host.move world move = some world' →
      invariant world')
    (finished : ∀ {world}, invariant world → invariant (host.finish world))
    (begun : ∀ {world job}, invariant world → discipline.start world job →
      invariant (host.begin job world) ∧
        ∃ before after, before (host.begin job world) ∧
          host.Outline discipline invariant before (host.job job) after)
    (enough : ∀ config, invariant config.world → property config)
    {world : W} {labels : List (Label I M J)} (start : invariant world)
    (steps : Transition.EachStep host.step discipline.Meets { world } labels) :
    Transition.Always host.step property { world } labels := by
  apply Transition.always_of_eachStep (step_proved moved finished begun)
    (fun proved => enough _ proved.1) ⟨start, ?_⟩ steps
  intro program absurdity
  cases absurdity

end Rules

end Host

namespace Procedure

variable {I : Interface} {W M J ρ ε α β : Type} {host : Host I W M J ρ}
  {discipline : Host.Discipline I W M J} {invariant before : W → Prop}

/-- `value` where a procedure returns and `raised` where it raises. -/
def Ends (value : α → W → Prop) (raised : ε → W → Prop) :
    Outcome ε α × Unit → W → Prop
  | (.value result, _) => value result
  | (.raised error, _) => raised error
  | (.running, _) => fun _ => True

/-- An outline of a procedure. -/
def Sketch (host : Host I W M J ρ) (discipline : Host.Discipline I W M J)
    (invariant before : W → Prop) (body : Procedure I Unit ε α)
    (value : α → W → Prop) (raised : ε → W → Prop) : Prop :=
  host.Outline discipline invariant before (body ()) (Ends value raised)

section Sketch

variable {value : α → W → Prop} {raised : ε → W → Prop}

theorem sketch_pure {result : α}
    (stable : host.Stable discipline invariant before)
    (ends : ∀ world, invariant world → before world → value result world) :
    Sketch host discipline invariant before
      (pure result : Procedure I Unit ε α) value raised :=
  .done stable ends

theorem sketch_raise {error : ε}
    (stable : host.Stable discipline invariant before)
    (ends : ∀ world, invariant world → before world → raised error world) :
    Sketch host discipline invariant before
      (raise error : Procedure I Unit ε α) value raised :=
  .done stable ends

theorem Sketch.strengthen {before' : W → Prop} {body : Procedure I Unit ε α}
    (sketch : Sketch host discipline invariant before body value raised)
    (stable : host.Stable discipline invariant before')
    (stronger : ∀ world, invariant world → before' world → before world) :
    Sketch host discipline invariant before' body value raised :=
  Host.Outline.strengthen sketch stable stronger

theorem Sketch.weaken {body : Procedure I Unit ε α}
    {value' : α → W → Prop} {raised' : ε → W → Prop}
    (sketch : Sketch host discipline invariant before body value raised)
    (valueWeaker : ∀ result world, value result world → value' result world)
    (raisedWeaker : ∀ error world, raised error world → raised' error world) :
    Sketch host discipline invariant before body value' raised' := by
  apply Host.Outline.weaken sketch
  intro ended world _ holds
  obtain ⟨outcome, ⟨⟩⟩ := ended
  cases outcome with
  | value result => exact valueWeaker result world holds
  | raised error => exact raisedWeaker error world holds
  | running => trivial

theorem sketch_bind {first : Procedure I Unit ε β}
    {next : β → Procedure I Unit ε α} {middle : β → W → Prop}
    (sketch : Sketch host discipline invariant before first middle raised)
    (rest : ∀ result, Sketch host discipline invariant (middle result)
      (next result) value raised)
    (stable : ∀ error, host.Stable discipline invariant (raised error)) :
    Sketch host discipline invariant before (first >>= next) value raised := by
  apply Host.Outline.bind sketch
  intro ended
  obtain ⟨outcome, ⟨⟩⟩ := ended
  cases outcome with
  | value result => exact rest result
  | raised error => exact .done (stable error) fun _ _ holds => holds
  | running => exact .done Host.stable_true fun _ _ holds => holds

theorem sketch_attempt {body : Procedure I Unit ε α}
    {handler : ε → Option (Procedure I Unit ε α)} (thrown : ε → W → Prop)
    (sketch : Sketch host discipline invariant before body value thrown)
    (clauses : ∀ error clause, handler error = some clause →
      Sketch host discipline invariant (thrown error) clause value raised)
    (escapes : ∀ error, handler error = none → ∀ world, thrown error world →
      raised error world)
    (valueStable : ∀ result, host.Stable discipline invariant (value result))
    (thrownStable : ∀ error, host.Stable discipline invariant (thrown error)) :
    Sketch host discipline invariant before (attempt body handler)
      value raised := by
  apply Host.Outline.bind sketch
  intro ended
  obtain ⟨outcome, ⟨⟩⟩ := ended
  cases outcome with
  | value result => exact .done (valueStable result) fun _ _ holds => holds
  | raised error =>
      cases clauseOf : handler error with
      | some clause =>
          simp only [clauseOf]
          exact clauses error clause clauseOf
      | none =>
          simp only [clauseOf]
          refine .done (thrownStable error) ?_
          intro world _ holds
          exact escapes error clauseOf world holds
  | running => exact .done Host.stable_true fun _ _ holds => holds

end Sketch

theorem sketch_invoke {Query : Type} {Reply : Query → Type} {query : Query}
    {host : Host (fallible Query Reply ε) W M J ρ}
    {discipline : Host.Discipline (fallible Query Reply ε) W M J}
    {value : Reply query → W → Prop} {raised : ε → W → Prop}
    (stable : host.Stable discipline invariant before)
    (served : ∀ ⦃world world' : W⦄ ⦃proposed answer : Except ε (Reply query)⦄,
      invariant world → before world → discipline.call query proposed world →
      host.serve query proposed world = some (answer, world') →
      invariant world' ∧
        match answer with
        | .ok reply => value reply world'
        | .error error => raised error world')
    (valueStable : ∀ reply, host.Stable discipline invariant (value reply))
    (raisedStable : ∀ error, host.Stable discipline invariant (raised error)) :
    Sketch host discipline invariant before
      (invoke query : Procedure (fallible Query Reply ε) Unit ε _)
      value raised := by
  refine .call _ stable served ?_
  intro answer
  cases answer with
  | ok reply => exact .done (valueStable reply) fun _ _ holds => holds
  | error error => exact .done (raisedStable error) fun _ _ holds => holds

end Procedure

end Interaction
