import SkaleAdmin.Library.Interaction

/-! Programs that are killed between two of their calls. -/

namespace Interaction

namespace Program

variable {I : Interface} {W ρ τ : Type}

instance : Monad (Program I) where
  pure := .done
  bind := bind

def pose (query : I.Query) : Program I (I.Answer query) :=
  .call query .done

/-- What is left of a program after a number of its calls, and the world it has
left by then. -/
def advance (serve : (query : I.Query) → W → I.Answer query × W) :
    Nat → Program I ρ → W → Program I ρ × W
  | 0, program, world => (program, world)
  | _ + 1, .done result, world => (.done result, world)
  | calls + 1, .call query next, world =>
      let served := serve query world
      advance serve calls (next served.1) served.2

variable {serve : (query : I.Query) → W → I.Answer query × W}

@[simp] theorem advance_done (calls : Nat) (result : ρ) (world : W) :
    advance serve calls (.done result) world = (.done result, world) := by
  cases calls <;> rfl

theorem advance_bind_return (calls : Nat) (program : Program I ρ)
    (value : ρ → τ) (world : W) :
    (advance serve calls (program.bind fun result => .done (value result))
      world).2 = (advance serve calls program world).2 := by
  induction calls generalizing program world with
  | zero => rfl
  | succ calls ih =>
      cases program with
      | done result => rfl
      | call query rest => exact ih (rest (serve query world).1) _

/-- The program ends after `calls` calls that leave the world as it is. -/
inductive Looks (serve : (query : I.Query) → W → I.Answer query × W) (world : W) :
    Nat → Program I ρ → ρ → Prop
  | done (result : ρ) : Looks serve world 0 (.done result) result
  | call {calls : Nat} {query : I.Query} {next : I.Answer query → Program I ρ}
      {result : ρ} (silent : (serve query world).2 = world)
      (rest : Looks serve world calls (next (serve query world).1) result) :
      Looks serve world (calls + 1) (.call query next) result

namespace Looks

variable {world : W} {calls : Nat} {program : Program I ρ} {result : ρ}
  {next : ρ → Program I τ}

theorem bind {more : Nat} {value : τ}
    (looks : Looks serve world calls program result)
    (rest : Looks serve world more (next result) value) :
    Looks serve world (more + calls) (program.bind next) value := by
  induction looks with
  | done result => exact rest
  | call silent _ ih => exact .call silent (ih rest)

theorem advance_world (looks : Looks serve world calls program result)
    (killed : Nat) : (advance serve killed program world).2 = world := by
  induction looks generalizing killed with
  | done result => rw [advance_done]
  | @call calls query following result silent _ ih =>
      cases killed with
      | zero => rfl
      | succ killed =>
          change (advance serve killed (following (serve query world).1)
            (serve query world).2).2 = world
          rw [silent]
          exact ih killed

theorem advance_within (looks : Looks serve world calls program result)
    {killed : Nat} (early : killed ≤ calls) :
    (advance serve killed (program.bind next) world).2 = world := by
  induction looks generalizing killed with
  | done result =>
      obtain rfl : killed = 0 := by omega
      rfl
  | @call calls query following result silent _ ih =>
      cases killed with
      | zero => rfl
      | succ killed =>
          change (advance serve killed
            ((following (serve query world).1).bind next) (serve query world).2).2 =
              world
          rw [silent]
          exact ih (by omega)

theorem advance_beyond (looks : Looks serve world calls program result)
    (more : Nat) :
    advance serve (more + calls) (program.bind next) world =
      advance serve more (next result) world := by
  induction looks with
  | done result => rfl
  | @call calls query following result silent _ ih =>
      change advance serve (more + calls)
        ((following (serve query world).1).bind next) (serve query world).2 = _
      rw [silent]
      exact ih

end Looks

/-! ### Where a sequence of programs is killed -/

def stop (serve : (query : I.Query) → W → I.Answer query × W) (calls : Nat)
    (program : Program I ρ) (world : W) : Option I.Query × W :=
  match advance serve calls program world with
  | (.done _, world') => (none, world')
  | (.call query _, world') => (some query, world')

@[simp] theorem stop_done (calls : Nat) (result : ρ) (world : W) :
    stop serve calls (.done result) world = (none, world) := by
  rw [stop, advance_done]

@[simp] theorem stop_zero_call (query : I.Query) (next : I.Answer query → Program I ρ)
    (world : W) : stop serve 0 (.call query next) world = (some query, world) :=
  rfl

@[simp] theorem stop_succ_call (calls : Nat) (query : I.Query)
    (next : I.Answer query → Program I ρ) (world : W) :
    stop serve (calls + 1) (.call query next) world =
      stop serve calls (next (serve query world).1) (serve query world).2 :=
  rfl

/-- A sequence is killed in its first part, or in what follows the end of it. -/
theorem stop_bind (calls : Nat) (program : Program I ρ) (next : ρ → Program I τ)
    (world : W) :
    (∃ query, (stop serve calls program world).1 = some query ∧
        stop serve calls (program.bind next) world = stop serve calls program world) ∨
      ∃ used more result,
        stop serve used program world = (none, (stop serve used program world).2) ∧
        stop serve calls (program.bind next) world =
          stop serve more (next result) (stop serve used program world).2 := by
  induction program generalizing calls world with
  | done result => exact .inr ⟨0, calls, result, rfl, by rw [stop_done]; rfl⟩
  | call query rest ih =>
      cases calls with
      | zero => exact .inl ⟨query, rfl, rfl⟩
      | succ calls =>
          rcases ih (serve query world).1 calls (serve query world).2 with
            early | ⟨used, more, result, ended, later⟩
          · exact .inl early
          · exact .inr ⟨used + 1, more, result, ended, later⟩

/-- `outcome` relates the world before to where the program is killed and to what it has
left by then. -/
def Leaves (serve : (query : I.Query) → W → I.Answer query × W)
    (outcome : W → Option I.Query × W → Prop) (program : Program I ρ) : Prop :=
  ∀ calls world, outcome world (stop serve calls program world)

def Composes (outcome : W → Option I.Query × W → Prop) : Prop :=
  ∀ ⦃world middle : W⦄ ⦃stopped : Option I.Query × W⦄,
    outcome world (none, middle) → outcome middle stopped → outcome world stopped

variable {before after outcome : W → Option I.Query × W → Prop}

theorem Leaves.sequence {program : Program I ρ} {next : ρ → Program I τ}
    (killed : ∀ {world query middle},
      before world (some query, middle) → outcome world (some query, middle))
    (ended : ∀ {world middle stopped},
      before world (none, middle) → after middle stopped → outcome world stopped)
    (first : Leaves serve before program)
    (rest : ∀ result, Leaves serve after (next result)) :
    Leaves serve outcome (program.bind next) := by
  intro calls world
  rcases stop_bind calls program next world with
    ⟨query, posed, early⟩ | ⟨used, more, result, done, later⟩
  · have held := first calls world
    rw [early]
    generalize stop serve calls program world = stopped at posed held ⊢
    obtain ⟨_, middle⟩ := stopped
    obtain rfl := posed
    exact killed held
  · rw [later]
    refine ended ?_ (rest result more _)
    rw [← done]
    exact first used world

theorem Leaves.bind {program : Program I ρ} {next : ρ → Program I τ}
    (composes : Composes outcome) (first : Leaves serve outcome program)
    (rest : ∀ result, Leaves serve outcome (next result)) :
    Leaves serve outcome (program.bind next) :=
  first.sequence id (fun here later => composes here later) rest

theorem Leaves.mono {program : Program I ρ} (leaves : Leaves serve before program)
    (weaker : ∀ {world stopped}, before world stopped → outcome world stopped) :
    Leaves serve outcome program :=
  fun calls world => weaker (leaves calls world)

theorem Leaves.and {program : Program I ρ} (leaves : Leaves serve before program)
    (others : Leaves serve after program) :
    Leaves serve (fun world stopped => before world stopped ∧ after world stopped) program :=
  fun calls world => ⟨leaves calls world, others calls world⟩

/-- What holds of the world before and the one after where the program is not killed. -/
def Ends (post : W → W → Prop) (world : W) (stopped : Option I.Query × W) : Prop :=
  stopped.1 = none → post world stopped.2

theorem ends_bind {first second post : W → W → Prop} {program : Program I ρ}
    {next : ρ → Program I τ}
    (composes : ∀ {world middle world'}, first world middle → second middle world' →
      post world world')
    (ended : Leaves serve (Ends first) program)
    (rest : ∀ result, Leaves serve (Ends second) (next result)) :
    Leaves serve (Ends post) (program.bind next) :=
  ended.sequence (fun _ unended => nomatch unended)
    (fun here later finished => composes (here rfl) (later finished)) rest

theorem leaves_done {result : ρ} (same : ∀ world, outcome world (none, world)) :
    Leaves serve outcome (.done result) := by
  intro calls world
  rw [stop_done]
  exact same world

theorem leaves_call {query : I.Query}
    (unposed : ∀ world, outcome world (some query, world))
    (posed : ∀ world, outcome world (none, (serve query world).2)) :
    Leaves serve outcome (.call query .done) := by
  intro calls world
  cases calls with
  | zero => exact unposed world
  | succ calls =>
      rw [stop_succ_call, stop_done]
      exact posed world

end Program

end Interaction
