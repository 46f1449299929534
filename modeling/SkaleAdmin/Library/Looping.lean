import SkaleAdmin.Library.Interleaving

/-! A program that goes round again and again, in a world that moves between its calls. -/

namespace Interaction

open Program

namespace Looping

inductive Position (I : Interface) (ρ : Type) where
  | inside (program : Program I ρ)
  | closed (result : ρ)

structure Configuration (I : Interface) (W ρ : Type) where
  world : W
  position : Position I ρ

/-- `next` goes on where a round is over. -/
inductive Label (I : Interface) (M : Type) where
  | move (move : M)
  | call (proposed : (query : I.Query) → I.Answer query)
  | next

variable {I : Interface} {W M J ρ : Type} (host : Host I W M J ρ) (again : ρ → Option J)

/-- The jobs of the host are the rounds; `again` tells which of them follows a result. -/
def step : Configuration I W ρ → Label I M → Option (Configuration I W ρ)
  | ⟨world, position⟩, .move move =>
      (host.move world move).map fun moved => ⟨moved, position⟩
  | ⟨world, .inside (.call query next)⟩, .call proposed =>
      (host.serve query (proposed query) world).map fun served =>
        ⟨served.2, .inside (next served.1)⟩
  | ⟨world, .inside (.done result)⟩, .next =>
      match again result with
      | some job => some ⟨world, .inside (host.job job)⟩
      | none => some ⟨world, .closed result⟩
  | _, _ => none

variable (discipline : Host.Discipline I W M J) (invariant : W → Prop)

def Meets : Configuration I W ρ → Label I M → Prop
  | config, .move move => discipline.move config.world move
  | ⟨world, .inside (.call query _)⟩, .call proposed =>
      discipline.call query (proposed query) world
  | _, _ => True

instance decidableMeets
    [∀ world move, Decidable (discipline.move world move)]
    [∀ query answer world, Decidable (discipline.call query answer world)] :
    (config : Configuration I W ρ) → (label : Label I M) →
      Decidable (Meets discipline config label)
  | config, .move move => inferInstanceAs (Decidable (discipline.move config.world move))
  | ⟨world, .inside (.call query _)⟩, .call proposed =>
      inferInstanceAs (Decidable (discipline.call query (proposed query) world))
  | ⟨_, .inside (.done _)⟩, .call _ | ⟨_, .closed _⟩, .call _ | _, .next => isTrue trivial

/-- What holds where a result is handed on: what the next round begins with, or what the
loop ends with. -/
def HandedOn (before : J → W → Prop) (ended : ρ → W → Prop) (result : ρ) (world : W) : Prop :=
  match again result with
  | some job => before job world
  | none => ended result world

def Rounds (before : J → W → Prop) (ended : ρ → W → Prop) : Prop :=
  ∀ job, host.Outline discipline invariant (before job) (host.job job)
    (HandedOn again before ended)

variable {host again discipline invariant} {before : J → W → Prop} {ended : ρ → W → Prop}

/-- The round is at a point of its outline whose assertion holds, or the loop has ended. -/
def Proved (host : Host I W M J ρ) (again : ρ → Option J)
    (discipline : Host.Discipline I W M J) (invariant : W → Prop) (before : J → W → Prop)
    (ended : ρ → W → Prop) (config : Configuration I W ρ) : Prop :=
  invariant config.world ∧
    match config.position with
    | .inside program => ∃ here, here config.world ∧
        host.Outline discipline invariant here program (HandedOn again before ended)
    | .closed result => ended result config.world

theorem step_proved {config config' : Configuration I W ρ} {label : Label I M}
    (moved : ∀ {world world' move}, invariant world → discipline.move world move →
      host.move world move = some world' → invariant world')
    (rounds : Rounds host again discipline invariant before ended)
    (stable : ∀ result, host.Stable discipline invariant (ended result))
    (proved : Proved host again discipline invariant before ended config)
    (meets : Meets discipline config label)
    (taken : step host again config label = some config') :
    Proved host again discipline invariant before ended config' := by
  obtain ⟨world, position⟩ := config
  obtain ⟨kept, at_⟩ := proved
  cases label with
  | move move =>
      obtain ⟨world', served, rfl⟩ := Option.map_eq_some_iff.mp taken
      refine ⟨moved kept meets served, ?_⟩
      cases position with
      | closed result => exact stable result kept at_ meets served
      | inside program =>
          obtain ⟨here, holds, outline⟩ := at_
          refine ⟨here, ?_, outline⟩
          cases outline with
          | done stable _ => exact stable kept holds meets served
          | call _ stable _ _ => exact stable kept holds meets served
  | call proposed =>
      cases position with
      | closed result => cases taken
      | inside program =>
          cases program with
          | done result => cases taken
          | call query next =>
              obtain ⟨⟨answer, world'⟩, served, rfl⟩ := Option.map_eq_some_iff.mp taken
              obtain ⟨here, holds, outline⟩ := at_
              cases outline with
              | call between _ serves rest =>
                  obtain ⟨kept', holds'⟩ := serves kept holds meets served
                  exact ⟨kept', between answer, holds', rest answer⟩
  | next =>
      cases position with
      | closed result => cases taken
      | inside program =>
          cases program with
          | call query next => cases taken
          | done result =>
              obtain ⟨here, holds, outline⟩ := at_
              cases outline with
              | done _ ends =>
                  have handed := ends world kept holds
                  unfold HandedOn at handed
                  unfold step at taken
                  cases follows : again result with
                  | some job =>
                      rw [follows] at handed
                      simp only [follows, Option.some.injEq] at taken
                      subst taken
                      exact ⟨kept, before job, handed, rounds job⟩
                  | none =>
                      rw [follows] at handed
                      simp only [follows, Option.some.injEq] at taken
                      subst taken
                      exact ⟨kept, handed⟩

/-- What each round keeps holds all along, and what the rounds end with where the loop has
ended. -/
theorem always_of_rounds {property : Configuration I W ρ → Prop}
    (moved : ∀ {world world' move}, invariant world → discipline.move world move →
      host.move world move = some world' → invariant world')
    (rounds : Rounds host again discipline invariant before ended)
    (stable : ∀ result, host.Stable discipline invariant (ended result))
    (enough : ∀ config, Proved host again discipline invariant before ended config →
      property config)
    {first : Configuration I W ρ} {labels : List (Label I M)}
    (start : Proved host again discipline invariant before ended first)
    (steps : Transition.EachStep (step host again) (Meets discipline) first labels) :
    Transition.Always (step host again) property first labels :=
  Transition.always_of_eachStep (step_proved moved rounds stable) (enough _) start steps

theorem outline_pose {here : W → Prop} {query : I.Query} {after : I.Answer query → W → Prop}
    (stable : host.Stable discipline invariant here)
    (served : ∀ ⦃world world' : W⦄ ⦃proposed answer : I.Answer query⦄,
      invariant world → here world → discipline.call query proposed world →
      host.serve query proposed world = some (answer, world') →
      invariant world' ∧ after answer world')
    (afterStable : ∀ answer, host.Stable discipline invariant (after answer)) :
    host.Outline discipline invariant here (.call query .done) after :=
  .call after stable served fun answer => .done (afterStable answer) fun _ _ holds => holds

end Looping

end Interaction
