import Mathlib.Data.List.Basic

/-! Programs that talk to a world outside them.  A program is the tree of the
calls it can pose; a run of it is one path through that tree, that is a trace
of calls together with the answers the world happened to give. -/

namespace Interaction

/-- The calls a program may pose, each with the type of its answers. -/
structure Interface where
  Query : Type
  Answer : Query → Type

structure Event (I : Interface) where
  query : I.Query
  answer : I.Answer query

abbrev Trace (I : Interface) := List (Event I)

/-- Some call of the trace is one of `asked`. -/
def Poses {I : Interface} (asked : I.Query → Bool) (trace : Trace I) : Prop :=
  ∃ event ∈ trace, asked event.query = true

section Poses

variable {I : Interface} {asked : I.Query → Bool}

@[simp] theorem poses_nil : ¬ Poses asked [] := by
  simp [Poses]

@[simp] theorem poses_cons {event : Event I} {trace : Trace I} :
    Poses asked (event :: trace) ↔
      asked event.query = true ∨ Poses asked trace := by
  simp [Poses]

@[simp] theorem poses_append {front back : Trace I} :
    Poses asked (front ++ back) ↔ Poses asked front ∨ Poses asked back := by
  unfold Poses
  simp only [List.mem_append, or_and_right, exists_or]

theorem not_poses_of_forall {allowed : I.Query → Prop} {trace : Trace I}
    (calls : ∀ event ∈ trace, allowed event.query)
    (apart : ∀ query, allowed query → asked query = false) :
    ¬ Poses asked trace := by
  intro posed
  obtain ⟨event, member, yes⟩ := posed
  rw [apart _ (calls event member)] at yes
  cases yes

end Poses

/-- Calls that are answered with a reply or an error. -/
abbrev fallible (Query : Type) (Reply : Query → Type) (ε : Type) :
    Interface where
  Query := Query
  Answer query := Except ε (Reply query)

inductive Program (I : Interface) (ρ : Type) : Type where
  | done (result : ρ)
  | call (query : I.Query) (next : I.Answer query → Program I ρ)

namespace Program

variable {I : Interface} {ρ τ : Type}

def bind (program : Program I ρ) (next : ρ → Program I τ) : Program I τ :=
  match program with
  | .done result => next result
  | .call query rest => .call query fun answer => (rest answer).bind next

theorem bind_assoc {υ : Type} (program : Program I ρ) (next : ρ → Program I τ)
    (last : τ → Program I υ) :
    (program.bind next).bind last =
      program.bind fun result => (next result).bind last := by
  induction program with
  | done result => rfl
  | call query rest ih =>
      simp only [bind, ih]

/-- `Runs program trace result`: against a world that answers as `trace`
records, the program poses exactly the calls of `trace` and ends in `result`. -/
inductive Runs : Program I ρ → Trace I → ρ → Prop
  | done (result : ρ) : Runs (.done result) [] result
  | call {query : I.Query} {next : I.Answer query → Program I ρ}
      {trace : Trace I} {result : ρ} (answer : I.Answer query)
      (rest : Runs (next answer) trace result) :
      Runs (.call query next) (⟨query, answer⟩ :: trace) result

theorem runs_done_iff {result other : ρ} {trace : Trace I} :
    Runs (.done result) trace other ↔ trace = [] ∧ other = result := by
  constructor
  · intro run
    cases run
    exact ⟨rfl, rfl⟩
  · rintro ⟨rfl, rfl⟩
    exact .done _

theorem runs_call_iff {query : I.Query} {next : I.Answer query → Program I ρ}
    {trace : Trace I} {result : ρ} :
    Runs (.call query next) trace result ↔
      ∃ answer rest, trace = ⟨query, answer⟩ :: rest ∧
        Runs (next answer) rest result := by
  constructor
  · intro run
    cases run with
    | call answer rest => exact ⟨answer, _, rfl, rest⟩
  · rintro ⟨answer, rest, rfl, run⟩
    exact .call answer run

/-- A run of a sequence splits where its first part ends. -/
theorem runs_bind_iff {program : Program I ρ} {next : ρ → Program I τ}
    {trace : Trace I} {result : τ} :
    Runs (program.bind next) trace result ↔
      ∃ front middle back, trace = front ++ back ∧
        Runs program front middle ∧ Runs (next middle) back result := by
  induction program generalizing trace with
  | done value =>
      simp only [bind, runs_done_iff]
      constructor
      · intro run
        exact ⟨[], value, trace, rfl, ⟨rfl, rfl⟩, run⟩
      · rintro ⟨front, middle, back, rfl, ⟨rfl, rfl⟩, run⟩
        exact run
  | call query rest ih =>
      simp only [bind, runs_call_iff]
      constructor
      · rintro ⟨answer, tail, rfl, run⟩
        obtain ⟨front, middle, back, rfl, first, second⟩ := (ih answer).mp run
        exact ⟨⟨query, answer⟩ :: front, middle, back, rfl,
          ⟨answer, front, rfl, first⟩, second⟩
      · rintro ⟨front, middle, back, rfl, ⟨answer, tail, rfl, first⟩, second⟩
        exact ⟨answer, tail ++ back, rfl,
          (ih answer).mpr ⟨tail, middle, back, rfl, first, second⟩⟩

/-- Runs along one history end at the same place with the same result. -/
theorem runs_unique {program : Program I ρ} {front front' back back' : Trace I}
    {result result' : ρ} (first : Runs program front result)
    (second : Runs program front' result')
    (same : front ++ back = front' ++ back') :
    front = front' ∧ result = result' ∧ back = back' := by
  induction first generalizing front' with
  | done result =>
      obtain ⟨rfl, rfl⟩ := runs_done_iff.mp second
      exact ⟨rfl, rfl, same⟩
  | call answer rest ih =>
      obtain ⟨other, tail, rfl, later⟩ := runs_call_iff.mp second
      simp only [List.cons_append, List.cons.injEq, Event.mk.injEq,
        heq_eq_eq, true_and] at same
      obtain ⟨rfl, same⟩ := same
      obtain ⟨rfl, rfl, rfl⟩ := ih later same
      exact ⟨rfl, rfl, rfl⟩

/-- The run against a world whose answer to the call number `clock` is
`oracle clock`. -/
def play (oracle : Nat → (query : I.Query) → I.Answer query) :
    Program I ρ → Nat → Trace I × ρ
  | .done result, _ => ([], result)
  | .call query next, clock =>
      let rest := (next (oracle clock query)).play oracle (clock + 1)
      (⟨query, oracle clock query⟩ :: rest.1, rest.2)

theorem runs_play (oracle : Nat → (query : I.Query) → I.Answer query)
    (program : Program I ρ) (clock : Nat) :
    Runs program (program.play oracle clock).1 (program.play oracle clock).2 := by
  induction program generalizing clock with
  | done result => exact .done result
  | call query next ih => exact .call _ (ih _ (clock + 1))

theorem answer_of_mem_play {oracle : Nat → (query : I.Query) → I.Answer query}
    {program : Program I ρ} {clock : Nat} {event : Event I}
    (member : event ∈ (program.play oracle clock).1) :
    ∃ clock, event.answer = oracle clock event.query := by
  induction program generalizing clock with
  | done result => cases member
  | call query next ih =>
      rcases List.mem_cons.mp member with rfl | member
      · exact ⟨clock, rfl⟩
      · exact ih _ member

section Follow

variable [DecidableEq I.Query]

/-- The result of the program along the trace, if its calls are those of the
trace. -/
def follow : Program I ρ → Trace I → Option ρ
  | .done result, [] => some result
  | .done _, _ :: _ => none
  | .call _ _, [] => none
  | .call query next, event :: rest =>
      if same : event.query = query then (next (same ▸ event.answer)).follow rest
      else none

theorem runs_of_follow {program : Program I ρ} {trace : Trace I} {result : ρ}
    (followed : program.follow trace = some result) :
    Runs program trace result := by
  induction program generalizing trace with
  | done value =>
      cases trace with
      | nil => exact Option.some.inj followed ▸ .done value
      | cons event rest => cases followed
  | call query next ih =>
      cases trace with
      | nil => cases followed
      | cons event rest =>
          obtain ⟨posed, answer⟩ := event
          by_cases same : posed = query
          · subst same
            rw [follow, dif_pos rfl] at followed
            exact .call answer (ih answer followed)
          · rw [follow, dif_neg same] at followed
            cases followed

end Follow

end Program

/-- How a procedure ends: with a value, with an uncaught error, or not yet
(a loop was cut off while it was still going round). -/
inductive Outcome (ε α : Type) where
  | value (result : α)
  | raised (error : ε)
  | running
  deriving DecidableEq

/-- A procedure reads and writes a state of type `σ`, which keeps what was
written to it also when an error escapes. -/
def Procedure (I : Interface) (σ ε α : Type) :=
  σ → Program I (Outcome ε α × σ)

namespace Procedure

open Program

variable {I : Interface} {σ τ ε α β : Type}

instance : Monad (Procedure I σ ε) where
  pure result := fun state => .done (.value result, state)
  bind first next := fun state =>
    (first state).bind fun ended =>
      match ended with
      | (.value result, state) => next result state
      | (.raised error, state) => .done (.raised error, state)
      | (.running, state) => .done (.running, state)

def raise (error : ε) : Procedure I σ ε α :=
  fun state => .done (.raised error, state)

/-- The end of a run that is observed while the procedure still goes on. -/
def cutOff : Procedure I σ ε α :=
  fun state => .done (.running, state)

def read (view : σ → α) : Procedure I σ ε α :=
  fun state => .done (.value (view state), state)

def modify (change : σ → σ) : Procedure I σ ε Unit :=
  fun state => .done (.value (), change state)

def ask (query : I.Query) : Procedure I σ ε (I.Answer query) :=
  fun state => .call query fun answer => .done (.value answer, state)

/-- Run `body`; an error for which `handler` has a clause is handled there, any
other error escapes. -/
def attempt (body : Procedure I σ ε α)
    (handler : ε → Option (Procedure I σ ε α)) : Procedure I σ ε α :=
  fun state =>
    (body state).bind fun ended =>
      match ended with
      | (.value result, state) => .done (.value result, state)
      | (.raised error, state) =>
          match handler error with
          | some clause => clause state
          | none => .done (.raised error, state)
      | (.running, state) => .done (.running, state)

/-- Run `body` on the state extended by a local variable, and return what the
variable holds at the end. -/
def withLocal (initial : τ) (body : Procedure I (σ × τ) ε α) :
    Procedure I σ ε (α × τ) :=
  fun state =>
    (body (state, initial)).bind fun ended =>
      match ended with
      | (.value result, state, held) => .done (.value (result, held), state)
      | (.raised error, state, _) => .done (.raised error, state)
      | (.running, state, _) => .done (.running, state)

def onSecond (body : Procedure I τ ε α) : Procedure I (σ × τ) ε α :=
  fun state =>
    (body state.2).bind fun ended => .done (ended.1, state.1, ended.2)

def onFirst (body : Procedure I σ ε α) : Procedure I (σ × τ) ε α :=
  fun state =>
    (body state.1).bind fun ended => .done (ended.1, ended.2, state.2)

/-- Go round a loop: `step` either hands on the next loop state or ends the
loop with a result.  After `fuel` rounds the run is cut off. -/
def iterate (step : β → Procedure I σ ε (β ⊕ α)) :
    Nat → β → Procedure I σ ε α
  | 0, _ => cutOff
  | fuel + 1, current => do
      match ← step current with
      | .inl following => iterate step fuel following
      | .inr result => pure result

section Sequence

variable {state : σ} {next : β → Procedure I σ ε α}

@[simp] theorem pure_bind_apply {result : β} :
    ((pure result : Procedure I σ ε β) >>= next) state = next result state :=
  rfl

@[simp] theorem read_bind_apply {view : σ → β} :
    (read view >>= next) state = next (view state) state :=
  rfl

@[simp] theorem modify_bind_apply {change : σ → σ}
    {next : Unit → Procedure I σ ε α} :
    (modify change >>= next) state = next () (change state) :=
  rfl

@[simp] theorem raise_bind_apply {error : ε} :
    ((raise error : Procedure I σ ε β) >>= next) state =
      (raise error : Procedure I σ ε α) state :=
  rfl

theorem bind_assoc {γ : Type} (first : Procedure I σ ε β)
    (second : β → Procedure I σ ε γ) (third : γ → Procedure I σ ε α) :
    (first >>= second) >>= third =
      first >>= fun result => second result >>= third := by
  funext state
  change ((first state).bind _).bind _ = (first state).bind _
  rw [Program.bind_assoc]
  congr 1
  funext ended
  cases ended with
  | mk outcome middle => cases outcome <;> rfl

end Sequence

section Runs

variable {state state' : σ} {trace : Trace I} {outcome : Outcome ε α}

@[simp] theorem runs_pure_iff {result : α} :
    Runs ((pure result : Procedure I σ ε α) state) trace (outcome, state') ↔
      trace = [] ∧ outcome = .value result ∧ state' = state := by
  simp [pure, runs_done_iff]

@[simp] theorem runs_raise_iff {error : ε} :
    Runs ((raise error : Procedure I σ ε α) state) trace (outcome, state') ↔
      trace = [] ∧ outcome = .raised error ∧ state' = state := by
  simp [raise, runs_done_iff]

@[simp] theorem runs_cutOff_iff :
    Runs ((cutOff : Procedure I σ ε α) state) trace (outcome, state') ↔
      trace = [] ∧ outcome = .running ∧ state' = state := by
  simp [cutOff, runs_done_iff]

@[simp] theorem runs_read_iff {view : σ → α} :
    Runs ((read view : Procedure I σ ε α) state) trace (outcome, state') ↔
      trace = [] ∧ outcome = .value (view state) ∧ state' = state := by
  simp [read, runs_done_iff]

@[simp] theorem runs_modify_iff {change : σ → σ} {outcome : Outcome ε Unit} :
    Runs ((modify change : Procedure I σ ε Unit) state) trace (outcome, state') ↔
      trace = [] ∧ outcome = .value () ∧ state' = change state := by
  simp [modify, runs_done_iff]

theorem runs_ask_iff {query : I.Query} {outcome : Outcome ε (I.Answer query)} :
    Runs ((ask query : Procedure I σ ε _) state) trace (outcome, state') ↔
      ∃ answer, trace = [⟨query, answer⟩] ∧ outcome = .value answer ∧
        state' = state := by
  simp only [ask, runs_call_iff, runs_done_iff, Prod.mk.injEq]
  constructor
  · rintro ⟨answer, rest, rfl, rfl, rfl, rfl⟩
    exact ⟨answer, rfl, rfl, rfl⟩
  · rintro ⟨answer, rfl, rfl, rfl⟩
    exact ⟨answer, [], rfl, rfl, rfl, rfl⟩

theorem runs_bind_iff {first : Procedure I σ ε β}
    {next : β → Procedure I σ ε α} :
    Runs ((first >>= next) state) trace (outcome, state') ↔
      (∃ result middle front back, trace = front ++ back ∧
        Runs (first state) front (.value result, middle) ∧
        Runs (next result middle) back (outcome, state')) ∨
      (∃ error, outcome = .raised error ∧
        Runs (first state) trace (.raised error, state')) ∨
      (outcome = .running ∧ Runs (first state) trace (.running, state')) := by
  change Runs ((first state).bind _) _ _ ↔ _
  rw [Program.runs_bind_iff]
  constructor
  · rintro ⟨front, ⟨ended, middle⟩, back, rfl, run, rest⟩
    cases ended with
    | value result => exact .inl ⟨result, middle, front, back, rfl, run, rest⟩
    | raised error =>
        obtain ⟨rfl, same⟩ := runs_done_iff.mp rest
        cases same
        exact .inr (.inl ⟨error, rfl, by simpa using run⟩)
    | running =>
        obtain ⟨rfl, same⟩ := runs_done_iff.mp rest
        cases same
        exact .inr (.inr ⟨rfl, by simpa using run⟩)
  · rintro (⟨result, middle, front, back, rfl, run, rest⟩ |
      ⟨error, rfl, run⟩ | ⟨rfl, run⟩)
    · exact ⟨front, _, back, rfl, run, rest⟩
    · exact ⟨trace, _, [], by simp, run, .done _⟩
    · exact ⟨trace, _, [], by simp, run, .done _⟩

theorem runs_bind_value {first : Procedure I σ ε β} {next : β → Procedure I σ ε α}
    {result : α} (run : Runs ((first >>= next) state) trace
      (.value result, state')) :
    ∃ given middle front back, trace = front ++ back ∧
      Runs (first state) front (.value given, middle) ∧
      Runs (next given middle) back (.value result, state') := by
  rcases runs_bind_iff.mp run with
    ⟨given, middle, front, back, split, firstRun, nextRun⟩ |
    ⟨_, absurdity, _⟩ | ⟨absurdity, _⟩
  · exact ⟨given, middle, front, back, split, firstRun, nextRun⟩
  · cases absurdity
  · cases absurdity

theorem runs_bind_raised {first : Procedure I σ ε β} {next : β → Procedure I σ ε α}
    {error : ε} (run : Runs ((first >>= next) state) trace (.raised error, state')) :
    (∃ given middle front back, trace = front ++ back ∧
      Runs (first state) front (.value given, middle) ∧
      Runs (next given middle) back (.raised error, state')) ∨
    Runs (first state) trace (.raised error, state') := by
  rcases runs_bind_iff.mp run with continued | ⟨_, same, firstRun⟩ | ⟨absurdity, _⟩
  · exact .inl continued
  · cases same
    exact .inr firstRun
  · cases absurdity

/-- Once the first part has ended with a value, the rest of the history is a
run of the second part. -/
theorem runs_of_runs_bind {first : Procedure I σ ε β}
    {next : β → Procedure I σ ε α} {middle : σ} {result : β}
    {front back : Trace I}
    (run : Runs ((first >>= next) state) (front ++ back) (outcome, state'))
    (firstRun : Runs (first state) front (.value result, middle)) :
    Runs (next result middle) back (outcome, state') := by
  rcases runs_bind_iff.mp run with
    ⟨other, reached, front', back', split, otherRun, rest⟩ |
    ⟨error, _, otherRun⟩ | ⟨_, otherRun⟩
  · obtain ⟨rfl, same, rfl⟩ := runs_unique firstRun otherRun split
    cases same
    exact rest
  · obtain ⟨_, same, _⟩ := runs_unique firstRun otherRun
      (List.append_nil (front ++ back)).symm
    cases same
  · obtain ⟨_, same, _⟩ := runs_unique firstRun otherRun
      (List.append_nil (front ++ back)).symm
    cases same

theorem runs_attempt_iff {body : Procedure I σ ε α}
    {handler : ε → Option (Procedure I σ ε α)} :
    Runs (attempt body handler state) trace (outcome, state') ↔
      (∃ result, outcome = .value result ∧
        Runs (body state) trace (.value result, state')) ∨
      (∃ error clause middle front back, trace = front ++ back ∧
        handler error = some clause ∧
        Runs (body state) front (.raised error, middle) ∧
        Runs (clause middle) back (outcome, state')) ∨
      (∃ error, outcome = .raised error ∧ handler error = none ∧
        Runs (body state) trace (.raised error, state')) ∨
      (outcome = .running ∧ Runs (body state) trace (.running, state')) := by
  rw [attempt, Program.runs_bind_iff]
  constructor
  · rintro ⟨front, ⟨ended, middle⟩, back, rfl, run, rest⟩
    cases ended with
    | value result =>
        obtain ⟨rfl, same⟩ := runs_done_iff.mp rest
        cases same
        exact .inl ⟨result, rfl, by simpa using run⟩
    | raised error =>
        cases clauseOf : handler error with
        | some clause =>
            simp only [clauseOf] at rest
            exact .inr (.inl
              ⟨error, clause, middle, front, back, rfl, clauseOf, run, rest⟩)
        | none =>
            simp only [clauseOf] at rest
            obtain ⟨rfl, same⟩ := runs_done_iff.mp rest
            cases same
            exact .inr (.inr (.inl ⟨error, rfl, clauseOf, by simpa using run⟩))
    | running =>
        obtain ⟨rfl, same⟩ := runs_done_iff.mp rest
        cases same
        exact .inr (.inr (.inr ⟨rfl, by simpa using run⟩))
  · rintro (⟨result, rfl, run⟩ |
      ⟨error, clause, middle, front, back, rfl, clauseOf, run, rest⟩ |
      ⟨error, rfl, clauseOf, run⟩ | ⟨rfl, run⟩)
    · exact ⟨trace, _, [], by simp, run, .done _⟩
    · exact ⟨front, _, back, rfl, run, by simpa [clauseOf] using rest⟩
    · exact ⟨trace, _, [], by simp, run, by simpa [clauseOf] using .done _⟩
    · exact ⟨trace, _, [], by simp, run, .done _⟩

/-- A handler whose clauses only return leaves the trace and the state of the
body as they are. -/
theorem runs_attempt_of_returning {body : Procedure I σ ε α}
    {handler : ε → Option (Procedure I σ ε α)}
    (returning : ∀ error clause, handler error = some clause →
      ∃ result, clause = pure result)
    (run : Runs (attempt body handler state) trace (outcome, state')) :
    ∃ ended, Runs (body state) trace (ended, state') ∧
      (outcome = ended ∨
        ∃ error result, ended = .raised error ∧
          handler error = some (pure result) ∧ outcome = .value result) := by
  rcases runs_attempt_iff.mp run with
    ⟨result, rfl, bodyRun⟩ |
    ⟨error, clause, middle, front, back, rfl, clauseOf, bodyRun, clauseRun⟩ |
    ⟨error, rfl, _, bodyRun⟩ | ⟨rfl, bodyRun⟩
  · exact ⟨_, bodyRun, .inl rfl⟩
  · obtain ⟨result, rfl⟩ := returning error clause clauseOf
    obtain ⟨rfl, rfl, rfl⟩ := runs_pure_iff.mp clauseRun
    rw [List.append_nil]
    exact ⟨_, bodyRun, .inr ⟨error, result, rfl, clauseOf, rfl⟩⟩
  · exact ⟨_, bodyRun, .inl rfl⟩
  · exact ⟨_, bodyRun, .inl rfl⟩

theorem runs_withLocal_iff {initial : τ} {body : Procedure I (σ × τ) ε α}
    {outcome : Outcome ε (α × τ)} :
    Runs (withLocal initial body state) trace (outcome, state') ↔
      ∃ ended held,
        Runs (body (state, initial)) trace (ended, state', held) ∧
        outcome = match ended with
          | .value result => .value (result, held)
          | .raised error => .raised error
          | .running => .running := by
  rw [withLocal, Program.runs_bind_iff]
  constructor
  · rintro ⟨front, ⟨ended, middle, held⟩, back, rfl, run, rest⟩
    cases ended <;>
      · obtain ⟨rfl, same⟩ := runs_done_iff.mp rest
        cases same
        exact ⟨_, held, by simpa using run, rfl⟩
  · rintro ⟨ended, held, run, rfl⟩
    cases ended <;> exact ⟨trace, _, [], by simp, run, .done _⟩

theorem runs_onSecond_iff {body : Procedure I τ ε α}
    {state state' : σ × τ} :
    Runs (onSecond body state) trace (outcome, state') ↔
      state'.1 = state.1 ∧ Runs (body state.2) trace (outcome, state'.2) := by
  obtain ⟨outer, inner⟩ := state
  obtain ⟨outer', inner'⟩ := state'
  rw [onSecond, Program.runs_bind_iff]
  constructor
  · rintro ⟨front, ⟨ended, middle⟩, back, rfl, run, rest⟩
    obtain ⟨rfl, same⟩ := runs_done_iff.mp rest
    cases same
    exact ⟨rfl, by simpa using run⟩
  · rintro ⟨rfl, run⟩
    exact ⟨trace, _, [], by simp, run, .done _⟩

theorem runs_onFirst_iff {body : Procedure I σ ε α}
    {state state' : σ × τ} :
    Runs (onFirst body state) trace (outcome, state') ↔
      state'.2 = state.2 ∧ Runs (body state.1) trace (outcome, state'.1) := by
  obtain ⟨inner, outer⟩ := state
  obtain ⟨inner', outer'⟩ := state'
  rw [onFirst, Program.runs_bind_iff]
  constructor
  · rintro ⟨front, ⟨ended, middle⟩, back, rfl, run, rest⟩
    obtain ⟨rfl, same⟩ := runs_done_iff.mp rest
    cases same
    exact ⟨rfl, by simpa using run⟩
  · rintro ⟨rfl, run⟩
    exact ⟨trace, _, [], by simp, run, .done _⟩

end Runs

section Fallible

variable {Query : Type} {Reply : Query → Type}

def invoke (query : Query) :
    Procedure (fallible Query Reply ε) σ ε (Reply query) := do
  match ← ask (I := fallible Query Reply ε) query with
  | .ok reply => pure reply
  | .error error => raise error

variable {query : Query} {state state' : σ}
  {trace : Trace (fallible Query Reply ε)}

theorem runs_invoke_iff {outcome : Outcome ε (Reply query)} :
    Runs ((invoke query : Procedure (fallible Query Reply ε) σ ε _) state) trace
        (outcome, state') ↔
      (∃ reply, trace = [⟨query, .ok reply⟩] ∧ outcome = .value reply ∧
        state' = state) ∨
      (∃ error, trace = [⟨query, .error error⟩] ∧ outcome = .raised error ∧
        state' = state) := by
  rw [invoke, runs_bind_iff]
  constructor
  · rintro (⟨answer, middle, front, back, rfl, first, rest⟩ |
      ⟨error, rfl, first⟩ | ⟨rfl, first⟩)
    · obtain ⟨given, rfl, same, rfl⟩ := runs_ask_iff.mp first
      cases same
      cases answer with
      | ok reply =>
          obtain ⟨rfl, rfl, rfl⟩ := runs_pure_iff.mp rest
          exact .inl ⟨reply, rfl, rfl, rfl⟩
      | error error =>
          obtain ⟨rfl, rfl, rfl⟩ := runs_raise_iff.mp rest
          exact .inr ⟨error, rfl, rfl, rfl⟩
    · obtain ⟨given, _, absurdity, _⟩ := runs_ask_iff.mp first
      cases absurdity
    · obtain ⟨given, _, absurdity, _⟩ := runs_ask_iff.mp first
      cases absurdity
  · rintro (⟨reply, rfl, rfl, rfl⟩ | ⟨error, rfl, rfl, rfl⟩)
    · exact .inl ⟨.ok reply, _, [⟨query, .ok reply⟩], [], rfl,
        runs_ask_iff.mpr ⟨_, rfl, rfl, rfl⟩, .done _⟩
    · exact .inl ⟨.error error, _, [⟨query, .error error⟩], [], rfl,
        runs_ask_iff.mpr ⟨_, rfl, rfl, rfl⟩, .done _⟩

theorem runs_invoke_bind_iff {outcome : Outcome ε α}
    {next : Reply query → Procedure (fallible Query Reply ε) σ ε α} :
    Runs ((invoke query >>= next) state) trace (outcome, state') ↔
      (∃ reply rest, trace = ⟨query, .ok reply⟩ :: rest ∧
        Runs (next reply state) rest (outcome, state')) ∨
      (∃ error, trace = [⟨query, .error error⟩] ∧ outcome = .raised error ∧
        state' = state) := by
  rw [runs_bind_iff]
  constructor
  · rintro (⟨reply, middle, front, back, rfl, first, rest⟩ |
      ⟨error, rfl, first⟩ | ⟨rfl, first⟩)
    · rcases runs_invoke_iff.mp first with
        ⟨given, rfl, same, rfl⟩ | ⟨given, _, same, _⟩
      · cases same
        exact .inl ⟨reply, back, rfl, rest⟩
      · cases same
    · rcases runs_invoke_iff.mp first with
        ⟨given, _, same, _⟩ | ⟨given, rfl, same, rfl⟩
      · cases same
      · cases same
        exact .inr ⟨error, rfl, rfl, rfl⟩
    · rcases runs_invoke_iff.mp first with
        ⟨given, _, same, _⟩ | ⟨given, _, same, _⟩ <;> cases same
  · rintro (⟨reply, rest, rfl, continued⟩ | ⟨error, rfl, rfl, rfl⟩)
    · exact .inl ⟨reply, state, [⟨query, .ok reply⟩], rest, rfl,
        runs_invoke_iff.mpr (.inl ⟨reply, rfl, rfl, rfl⟩), continued⟩
    · exact .inr (.inl ⟨error, rfl,
        runs_invoke_iff.mpr (.inr ⟨error, rfl, rfl, rfl⟩)⟩)

theorem runs_invoke_bind_value {result : α}
    {next : Reply query → Procedure (fallible Query Reply ε) σ ε α}
    (run : Runs ((invoke query >>= next) state) trace (.value result, state')) :
    ∃ reply rest, trace = ⟨query, .ok reply⟩ :: rest ∧
      Runs (next reply state) rest (.value result, state') := by
  rcases runs_invoke_bind_iff.mp run with continued | ⟨_, _, absurdity, _⟩
  · exact continued
  · cases absurdity

end Fallible

section Follow

variable [DecidableEq I.Query]

/-- Along the trace the procedure ends, and the test accepts how. -/
def ends (body : Procedure I σ ε α) (state : σ) (trace : Trace I)
    (test : Outcome ε α → σ → Bool) : Bool :=
  ((body state).follow trace).any fun ended => test ended.1 ended.2

theorem runs_of_ends {body : Procedure I σ ε α} {state : σ} {trace : Trace I}
    {test : Outcome ε α → σ → Bool} (ended : body.ends state trace test = true) :
    ∃ outcome state', Runs (body state) trace (outcome, state') ∧
      test outcome state' = true := by
  obtain ⟨⟨outcome, state'⟩, found, tested⟩ := (Option.any_eq_true _ _).mp ended
  exact ⟨outcome, state', runs_of_follow found, tested⟩

/-- Along the trace the procedure returns, and the test accepts the result. -/
def returns (body : Procedure I σ ε α) (state : σ) (trace : Trace I)
    (test : α → σ → Bool) : Bool :=
  body.ends state trace fun outcome state' =>
    match outcome with
    | .value result => test result state'
    | _ => false

theorem runs_of_returns {body : Procedure I σ ε α} {state : σ} {trace : Trace I}
    {test : α → σ → Bool} (returned : body.returns state trace test = true) :
    ∃ result state', Runs (body state) trace (.value result, state') ∧
      test result state' = true := by
  obtain ⟨outcome, state', run, tested⟩ := runs_of_ends returned
  cases outcome with
  | value result => exact ⟨result, state', run, tested⟩
  | raised error => cases tested
  | running => cases tested

end Follow

end Procedure

end Interaction
