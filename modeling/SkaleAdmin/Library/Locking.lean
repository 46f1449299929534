import SkaleAdmin.Library.Crew

/-! Crews whose workers take a lock in turn.  What the holder of the lock knows of
the store behind it stays true until the holder itself goes on. -/

namespace Interaction

namespace Crew

variable {I : Interface} {W M T J ρ G S : Type}

structure Watch (I : Interface) (W M T G : Type) where
  move : M → W → G → G := fun _ _ notes => notes
  call : T → (query : I.Query) → I.Answer query → W → G → G :=
    fun _ _ _ _ notes => notes

def watch (crew : Crew I W M T J ρ) (watch : Watch I W M T G) :
    Crew I (W × G) M T J ρ where
  move world move :=
    (crew.move world.1 move).map fun moved =>
      (moved, watch.move move world.1 world.2)
  serve worker query proposed world :=
    (crew.serve worker query proposed world.1).map fun served =>
      (served.1, served.2, watch.call worker query served.1 world.1 world.2)
  job := crew.job

section Watch

variable {crew : Crew I W M T J ρ} {observed : Watch I W M T G} {worker : T}
  {world world' : W × G}

theorem watch_serve {query : I.Query} {proposed answer : I.Answer query} :
    (crew.watch observed).serve worker query proposed world = some (answer, world') ↔
      crew.serve worker query proposed world.1 = some (answer, world'.1) ∧
        world'.2 = observed.call worker query answer world.1 world.2 := by
  simp only [watch, Option.map_eq_some_iff, Prod.mk.injEq]
  constructor
  · rintro ⟨⟨reply, served⟩, taken, rfl, rfl⟩
    exact ⟨taken, rfl⟩
  · rintro ⟨taken, noted⟩
    exact ⟨_, taken, rfl, Prod.ext rfl noted.symm⟩

theorem watch_move {move : M} :
    (crew.watch observed).move world move = some world' ↔
      crew.move world.1 move = some world'.1 ∧
        world'.2 = observed.move move world.1 world.2 := by
  simp only [watch, Option.map_eq_some_iff]
  constructor
  · rintro ⟨moved, taken, rfl⟩
    exact ⟨taken, rfl⟩
  · rintro ⟨taken, noted⟩
    exact ⟨_, taken, Prod.ext rfl noted.symm⟩

end Watch

/-- One lock and the store behind it, as far as they are seen in the world.  A worker
that is gone makes no more calls; `broken` is for good. -/
structure Lock (W T S : Type) where
  holder : W → Option T
  gone : W → T → Prop
  broken : W → Prop
  store : W → S

namespace Lock

variable (lock : Lock W T S)

/-- The worker has the lock and the store is as it knows it, unless all bets are off. -/
def Held (worker : T) (assertion : S → Prop) (world : W) : Prop :=
  lock.broken world ∨ lock.gone world worker ∨
    lock.holder world = some worker ∧ assertion (lock.store world)

/-- A step that leaves a worker its lock and its store, or breaks the rules. -/
structure Spares (worker : T) (world world' : W) : Prop where
  broken : lock.broken world → lock.broken world'
  gone : lock.gone world worker → lock.gone world' worker
  held : lock.holder world = some worker →
    lock.broken world' ∨ lock.gone world' worker ∨
      lock.holder world' = some worker ∧ lock.store world' = lock.store world

structure Guards [DecidableEq T] (crew : Crew I W M T J ρ) : Prop where
  moves : ∀ {world world' move}, crew.move world move = some world' →
    ∀ worker, lock.Spares worker world world'
  serves : ∀ {other query proposed answer world world'},
    crew.serve other query proposed world = some (answer, world') →
    ∀ worker, other ≠ worker → lock.Spares worker world world'

variable {lock} {worker : T} {world world' : W} {assertion assertion' : S → Prop}

theorem Spares.refl (worker : T) (world : W) : lock.Spares worker world world :=
  ⟨id, id, fun holds => .inr (.inr ⟨holds, rfl⟩)⟩

theorem Held.mono (held : lock.Held worker assertion world)
    (weaker : assertion (lock.store world) → assertion' (lock.store world)) :
    lock.Held worker assertion' world := by
  rcases held with broken | gone | ⟨holds, known⟩
  · exact .inl broken
  · exact .inr (.inl gone)
  · exact .inr (.inr ⟨holds, weaker known⟩)

theorem Held.spared (held : lock.Held worker assertion world)
    (spares : lock.Spares worker world world') :
    lock.Held worker assertion world' := by
  rcases held with broken | gone | ⟨holds, known⟩
  · exact .inl (spares.broken broken)
  · exact .inr (.inl (spares.gone gone))
  · rcases spares.held holds with broken | gone | ⟨holds', same⟩
    · exact .inl broken
    · exact .inr (.inl gone)
    · exact .inr (.inr ⟨holds', same ▸ known⟩)

theorem Held.known (held : lock.Held worker assertion world)
    (whole : ¬ lock.broken world) (present : ¬ lock.gone world worker) :
    lock.holder world = some worker ∧ assertion (lock.store world) := by
  rcases held with broken | gone | known
  · exact absurd broken whole
  · exact absurd gone present
  · exact known

theorem stable_held [DecidableEq T] {crew : Crew I W M T J ρ}
    {discipline : Discipline I W M T} {permitted : T → I.Query → Prop}
    {invariant : W → Prop} (guards : lock.Guards crew) (worker : T)
    (assertion : S → Prop) :
    (crew.host worker).Stable (rely discipline permitted worker) invariant
      (lock.Held worker assertion) := by
  intro world moved move _ held _ taken
  cases move with
  | move move => exact held.spared (guards.moves taken worker)
  | call other query proposed =>
      change (if other = worker then none else _) = some moved at taken
      split at taken
      · cases taken
      · rename_i different
        obtain ⟨⟨answer, world'⟩, served, rfl⟩ := Option.map_eq_some_iff.mp taken
        exact held.spared (guards.serves served worker different)

end Lock

theorem stable_of_kept [DecidableEq T] {crew : Crew I W M T J ρ}
    {discipline : Discipline I W M T} {permitted : T → I.Query → Prop}
    {invariant assertion : W → Prop} {worker : T}
    (moves : ∀ {world world' move}, assertion world →
      crew.move world move = some world' → assertion world')
    (serves : ∀ {other query proposed answer world world'}, other ≠ worker →
      assertion world → crew.serve other query proposed world = some (answer, world') →
      assertion world') :
    (crew.host worker).Stable (rely discipline permitted worker) invariant
      assertion := by
  intro world moved move _ holds _ taken
  cases move with
  | move move => exact moves holds taken
  | call other query proposed =>
      change (if other = worker then none else _) = some moved at taken
      split at taken
      · cases taken
      · rename_i different
        obtain ⟨⟨answer, world'⟩, served, rfl⟩ := Option.map_eq_some_iff.mp taken
        exact serves different holds served

end Crew

end Interaction
