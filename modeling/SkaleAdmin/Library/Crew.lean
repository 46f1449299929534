import SkaleAdmin.Library.Calls
import Mathlib.Logic.Function.Basic

/-! Programs that run side by side in one world, and the rule that proves an
invariant of all their interleavings from an outline of each. -/

namespace Interaction

structure Crew (I : Interface) (W M T J ρ : Type) where
  move : W → M → Option W
  serve : T → (query : I.Query) → I.Answer query → W → Option (I.Answer query × W)
  job : T → J → Program I ρ

namespace Crew

variable {I : Interface} {W M T J ρ : Type}

/-- A program that is over stays with its worker until the next one starts. -/
structure Configuration (I : Interface) (W T ρ : Type) where
  world : W
  running : T → Option (Program I ρ) := fun _ => none

/-- `stop` ends a program wherever it stands. -/
inductive Label (I : Interface) (M T J : Type) where
  | move (move : M)
  | start (worker : T) (job : J)
  | call (worker : T) (proposed : (query : I.Query) → I.Answer query)
  | stop (worker : T)

section Step

variable [DecidableEq T] (crew : Crew I W M T J ρ)

def Configuration.assign (config : Configuration I W T ρ) (world : W) (worker : T)
    (program : Option (Program I ρ)) : Configuration I W T ρ where
  world := world
  running := Function.update config.running worker program

@[simp] theorem assign_self (config : Configuration I W T ρ) (world : W) (worker : T)
    (program : Option (Program I ρ)) :
    (config.assign world worker program).running worker = program :=
  Function.update_self ..

theorem assign_of_ne (config : Configuration I W T ρ) (world : W)
    {worker other : T} (different : other ≠ worker) (program : Option (Program I ρ)) :
    (config.assign world worker program).running other = config.running other :=
  Function.update_of_ne different ..

def step (config : Configuration I W T ρ) :
    Label I M T J → Option (Configuration I W T ρ)
  | .move move => (crew.move config.world move).map fun moved =>
      { config with world := moved }
  | .start worker job =>
      match config.running worker with
      | some (.call ..) => none
      | _ => some (config.assign config.world worker (some (crew.job worker job)))
  | .call worker proposed =>
      match config.running worker with
      | some (.call query next) =>
          (crew.serve worker query (proposed query) config.world).map fun served =>
            config.assign served.2 worker (some (next served.1))
      | _ => none
  | .stop worker => some (config.assign config.world worker none)

end Step

/-- What a worker has to expect of the world and of the others. -/
inductive Rely (I : Interface) (M T : Type) where
  | move (move : M)
  | call (other : T) (query : I.Query) (proposed : I.Answer query)

def host [DecidableEq T] (crew : Crew I W M T J ρ) (worker : T) :
    Host I W (Rely I M T) J ρ where
  move world
    | .move move => crew.move world move
    | .call other query proposed =>
        if other = worker then none
        else (crew.serve other query proposed world).map Prod.snd
  serve := crew.serve worker
  job := crew.job worker

structure Discipline (I : Interface) (W M T : Type) where
  move : W → M → Prop := fun _ _ => True
  call : T → (query : I.Query) → I.Answer query → W → Prop := fun _ _ _ _ => True

def Discipline.Meets (discipline : Discipline I W M T) (config : Configuration I W T ρ) :
    Label I M T J → Prop
  | .move move => discipline.move config.world move
  | .call worker proposed =>
      match config.running worker with
      | some (.call query _) =>
          discipline.call worker query (proposed query) config.world
      | _ => True
  | _ => True

theorem meets_default (config : Configuration I W T ρ) (label : Label I M T J) :
    ({} : Discipline I W M T).Meets config label := by
  cases label with
  | move move => trivial
  | start worker job => trivial
  | stop worker => trivial
  | call worker proposed =>
      unfold Discipline.Meets
      dsimp only
      split <;> trivial

/-- The others make only calls that they are permitted. -/
def rely (discipline : Discipline I W M T) (permitted : T → I.Query → Prop)
    (worker : T) : Host.Discipline I W (Rely I M T) J where
  move world
    | .move move => discipline.move world move
    | .call other query proposed =>
        permitted other query ∧ discipline.call other query proposed world
  call := discipline.call worker

section Rules

variable [DecidableEq T] {crew : Crew I W M T J ρ} {discipline : Discipline I W M T}
  {permitted : T → I.Query → Prop} {invariant : W → Prop} {after : T → ρ → W → Prop}

variable (crew discipline permitted invariant after) in
/-- The invariant holds, and every program makes permitted calls only and is at a
point of its outline whose assertion holds. -/
structure Proved (config : Configuration I W T ρ) : Prop where
  kept : invariant config.world
  calls : ∀ worker program, config.running worker = some program →
    program.Calls (permitted worker)
  outlined : ∀ worker program, config.running worker = some program →
    ∃ before, before config.world ∧
      (crew.host worker).Outline (rely discipline permitted worker) invariant before
        program (after worker)

/-- What holds at a point of an outline holds until the program goes on. -/
theorem outlined_of_rely {host : Host I W M J ρ}
    {discipline : Host.Discipline I W M J} {before : W → Prop}
    {program : Program I ρ} {after : ρ → W → Prop} {world moved : W} {move : M}
    (outline : host.Outline discipline invariant before program after)
    (kept : invariant world) (holds : before world)
    (allowed : discipline.move world move)
    (taken : host.move world move = some moved) : before moved := by
  cases outline with
  | done stable _ => exact stable kept holds allowed taken
  | call _ stable _ _ => exact stable kept holds allowed taken

variable {config config' : Configuration I W T ρ}

theorem proved_assign {worker : T} {world : W} {program : Option (Program I ρ)}
    (proved : Proved crew discipline permitted invariant after config)
    (kept : invariant world)
    (calls : ∀ body, program = some body → body.Calls (permitted worker))
    (outlined : ∀ body, program = some body → ∃ before, before world ∧
      (crew.host worker).Outline (rely discipline permitted worker) invariant before
        body (after worker))
    (others : ∀ other body before, other ≠ worker → before config.world →
      (crew.host other).Outline (rely discipline permitted other) invariant before
        body (after other) → before world) :
    Proved crew discipline permitted invariant after
      (config.assign world worker program) := by
  refine ⟨kept, ?_, ?_⟩
  · intro other body running
    by_cases same : other = worker
    · subst same
      rw [assign_self] at running
      exact calls body running
    · rw [assign_of_ne _ _ same] at running
      exact proved.calls other body running
  · intro other body running
    by_cases same : other = worker
    · subst same
      rw [assign_self] at running
      exact outlined body running
    · rw [assign_of_ne _ _ same] at running
      obtain ⟨before, holds, outline⟩ := proved.outlined other body running
      exact ⟨before, others other body before same holds outline, outline⟩

theorem step_proved {label : Label I M T J}
    (moved : ∀ {world world' move}, invariant world → discipline.move world move →
      crew.move world move = some world' → invariant world')
    (begun : ∀ worker job, (crew.job worker job).Calls (permitted worker) ∧
      ∃ before, (∀ world, invariant world → before world) ∧
        (crew.host worker).Outline (rely discipline permitted worker) invariant before
          (crew.job worker job) (after worker))
    (proved : Proved crew discipline permitted invariant after config)
    (meets : discipline.Meets config label)
    (taken : crew.step config label = some config') :
    Proved crew discipline permitted invariant after config' := by
  cases label with
  | move move =>
      obtain ⟨world, served, rfl⟩ := Option.map_eq_some_iff.mp taken
      refine ⟨moved proved.kept meets served, proved.calls, ?_⟩
      intro worker program running
      obtain ⟨before, holds, outline⟩ := proved.outlined worker program running
      have expected : (crew.host worker).move config.world (.move move) = some world :=
        served
      have relied : (rely discipline permitted worker : Host.Discipline I W _ J).move
          config.world (.move move) := meets
      exact ⟨before, outlined_of_rely outline proved.kept holds relied expected,
        outline⟩
  | start worker job =>
      obtain ⟨calls, before, begins, outline⟩ := begun worker job
      have assigned : config' =
          config.assign config.world worker (some (crew.job worker job)) := by
        unfold step at taken
        dsimp only at taken
        split at taken
        · cases taken
        · exact (Option.some.inj taken).symm
      subst assigned
      refine proved_assign proved proved.kept ?_ ?_ ?_
      · rintro body ⟨⟩
        exact calls
      · rintro body ⟨⟩
        exact ⟨before, begins _ proved.kept, outline⟩
      · intro other body before _ holds _
        exact holds
  | stop worker =>
      obtain rfl := Option.some.inj taken
      refine proved_assign proved proved.kept (by rintro body ⟨⟩)
        (by rintro body ⟨⟩) ?_
      intro other body before _ holds _
      exact holds
  | call worker proposed =>
      unfold step at taken
      dsimp only at taken
      split at taken
      · rename_i query next running
        obtain ⟨⟨answer, world⟩, served, rfl⟩ := Option.map_eq_some_iff.mp taken
        have allowed : discipline.call worker query (proposed query) config.world := by
          unfold Discipline.Meets at meets
          dsimp only at meets
          rw [running] at meets
          exact meets
        obtain ⟨before, holds, outline⟩ := proved.outlined worker _ running
        have calls := proved.calls worker _ running
        cases calls with
        | call here rest =>
            cases outline with
            | call between _ serves outlines =>
                obtain ⟨kept, holds'⟩ := serves proved.kept holds allowed served
                refine proved_assign proved kept ?_ ?_ ?_
                · rintro body ⟨⟩
                  exact rest answer
                · rintro body ⟨⟩
                  exact ⟨between answer, holds', outlines answer⟩
                · intro other body expects different holds outline
                  have expected : (crew.host other).move config.world
                      (.call worker query (proposed query)) = some world := by
                    change (if worker = other then none else _) = some world
                    rw [if_neg (Ne.symm different), served]
                    rfl
                  have relied : (rely discipline permitted other :
                      Host.Discipline I W _ J).move config.world
                      (.call worker query (proposed query)) := ⟨here, allowed⟩
                  exact outlined_of_rely outline proved.kept holds relied expected
      · cases taken

/-- An invariant that the moves keep holds along every interleaving of programs
that have outlines and make permitted calls only. -/
theorem always_of_outlines {property : Configuration I W T ρ → Prop}
    (moved : ∀ {world world' move}, invariant world → discipline.move world move →
      crew.move world move = some world' → invariant world')
    (begun : ∀ worker job, (crew.job worker job).Calls (permitted worker) ∧
      ∃ before, (∀ world, invariant world → before world) ∧
        (crew.host worker).Outline (rely discipline permitted worker) invariant before
          (crew.job worker job) (after worker))
    (enough : ∀ config, Proved crew discipline permitted invariant after config →
      property config)
    {world : W} {labels : List (Label I M T J)} (start : invariant world)
    (steps : Transition.EachStep crew.step discipline.Meets { world } labels) :
    Transition.Always crew.step property { world } labels := by
  apply Transition.always_of_eachStep (step_proved moved begun)
    (fun proved => enough _ proved) ⟨start, ?_, ?_⟩ steps
  · intro worker program absurdity
    cases absurdity
  · intro worker program absurdity
    cases absurdity

end Rules

end Crew

end Interaction
