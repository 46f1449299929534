import SkaleAdmin.Library.Interleaving
import SkaleAdmin.Library.Raising

/-! Programs alone in a world that answers all their calls, and what their
outlines say of such a run. -/

namespace Interaction

variable {I : Interface} {W M J ρ σ ε α : Type}

def Outcome.value? : Outcome ε α → Option α
  | .value result => some result
  | _ => none

def Outcome.isValue : Outcome ε α → Bool
  | .value _ => true
  | _ => false

theorem Outcome.eq_value_of_isValue {outcome : Outcome ε Unit}
    (ended : outcome.isValue = true) : outcome = .value () := by
  cases outcome with
  | value result => rfl
  | raised error => cases ended
  | running => cases ended

def Program.served (serve : (query : I.Query) → W → I.Answer query × W) :
    Program I ρ → W → ρ × W
  | .done result, world => (result, world)
  | .call query next, world =>
      (next (serve query world).1).served serve (serve query world).2

def Procedure.served (serve : (query : I.Query) → W → I.Answer query × W)
    (body : Procedure I Unit ε α) (world : W) : Outcome ε α × W :=
  let ended := (body ()).served serve world
  (ended.1.1, ended.2)

def aloneHost (serve : (query : I.Query) → W → I.Answer query × W) :
    Host I W Empty Empty ρ where
  move _ move := move.elim
  serve query _ world := some (serve query world)
  job job := job.elim

variable {serve : (query : I.Query) → W → I.Answer query × W} {invariant : W → Prop}

theorem Program.served_of_outline {program : Program I σ} {before : W → Prop}
    {after : σ → W → Prop}
    (outline : Host.Outline (aloneHost serve : Host I W Empty Empty ρ) {} invariant
      before program after)
    {world : W} (kept : invariant world) (holds : before world) :
    invariant (program.served serve world).2 ∧
      after (program.served serve world).1 (program.served serve world).2 := by
  induction outline generalizing world with
  | done _ ends => exact ⟨kept, ends world kept holds⟩
  | @call before query next after between _ calls _ ih =>
      have called : invariant (serve query world).2 ∧
          between (serve query world).1 (serve query world).2 :=
        @calls world _ (serve query world).1 _ kept holds trivial rfl
      exact ih _ called.1 called.2

theorem Program.served_bind {program : Program I ρ} {next : ρ → Program I σ}
    {world : W} :
    (program.bind next).served serve world =
      (next (program.served serve world).1).served serve
        (program.served serve world).2 := by
  induction program generalizing world with
  | done result => rfl
  | call query rest ih => exact ih (serve query world).1

namespace Procedure

variable {β : Type} {world : W}

theorem served_bind {first : Procedure I Unit ε β} {next : β → Procedure I Unit ε α} :
    (first >>= next).served serve world =
      match first.served serve world with
      | (.value result, after) => (next result).served serve after
      | (.raised error, after) => (.raised error, after)
      | (.running, after) => (.running, after) := by
  have split : ((first >>= next) ()).served serve world = _ := Program.served_bind
  unfold served
  rw [split]
  obtain ⟨⟨outcome, ⟨⟩⟩, after⟩ := (first ()).served serve world
  cases outcome <;> rfl

theorem served_bind_value {first : Procedure I Unit ε β}
    {next : β → Procedure I Unit ε α} {result : β} {after : W}
    (ended : first.served serve world = (.value result, after)) :
    (first >>= next).served serve world = (next result).served serve after := by
  rw [served_bind, ended]

def Returns (serve : (query : I.Query) → W → I.Answer query × W)
    (body : Procedure I Unit ε α) (world : W) : Prop :=
  ∃ result last, body.served serve world = (.value result, last)

theorem returns_pure (result : α) :
    Returns serve (pure result : Procedure I Unit ε α) world :=
  ⟨result, world, rfl⟩

theorem returns_bind_of_value {first : Procedure I Unit ε β}
    {next : β → Procedure I Unit ε α} {result : β} {after : W}
    (ended : first.served serve world = (.value result, after)) :
    Returns serve (first >>= next) world ↔ Returns serve (next result) after := by
  unfold Returns
  rw [served_bind_value ended]

theorem returns_bind_congr {first other : Procedure I Unit ε β}
    {next : β → Procedure I Unit ε α}
    (same : first.served serve world = other.served serve world) :
    Returns serve (first >>= next) world ↔ Returns serve (other >>= next) world := by
  unfold Returns
  rw [served_bind, served_bind, same]

theorem not_returns_bind {first : Procedure I Unit ε β}
    {next : β → Procedure I Unit ε α} (raises : ¬ Returns serve first world) :
    ¬ Returns serve (first >>= next) world := by
  rintro ⟨result, last, ended⟩
  rw [served_bind] at ended
  cases split : first.served serve world with
  | mk outcome after =>
      rw [split] at ended
      cases outcome with
      | value given => exact raises ⟨given, after, split⟩
      | raised error => cases ended
      | running => cases ended

theorem served_attempt {body : Procedure I Unit ε α}
    {handler : ε → Option (Procedure I Unit ε α)} :
    (attempt body handler).served serve world =
      match body.served serve world with
      | (.raised error, after) =>
          match handler error with
          | some clause => clause.served serve after
          | none => (.raised error, after)
      | ended => ended := by
  have split : (attempt body handler ()).served serve world = _ :=
    Program.served_bind
  unfold served
  rw [split]
  obtain ⟨⟨outcome, ⟨⟩⟩, after⟩ := (body ()).served serve world
  cases outcome with
  | value result => rfl
  | running => rfl
  | raised error =>
      cases clauseOf : handler error with
      | none => simp [clauseOf, Program.served]
      | some clause => simp [clauseOf]

end Procedure

section Fallible

variable {Query : Type} {Reply : Query → Type} {allowed : ε → Prop}
  {serve : (query : Query) → W → Except ε (Reply query) × W}

/-- How the answer to its only call ends a procedure. -/
def Outcome.ofAnswer : Except ε α → Outcome ε α
  | .ok result => .value result
  | .error error => .raised error

theorem Procedure.served_invoke {query : Query} {world : W} :
    (Procedure.invoke query : Procedure (fallible Query Reply ε) Unit ε _).served
        serve world =
      (.ofAnswer (serve query world).1, (serve query world).2) := by
  have asked : (Procedure.ask (I := fallible Query Reply ε) query :
      Procedure (fallible Query Reply ε) Unit ε _).served serve world =
        (.value (serve query world).1, (serve query world).2) := rfl
  rw [Procedure.invoke, served_bind, asked]
  cases (serve query world).1 with
  | ok reply => rfl
  | error error => rfl

theorem Procedure.served_invoke_ok {query : Query} {reply : Reply query} {world after : W}
    (answered : serve query world = (.ok reply, after)) :
    (Procedure.invoke query : Procedure (fallible Query Reply ε) Unit ε _).served
        serve world = (.value reply, after) := by
  rw [served_invoke, answered]
  rfl

theorem Program.Raises.served {program : Program (fallible Query Reply ε)
      (Outcome ε α × Unit)} (raises : program.Raises allowed)
    (calls : ∀ query world error, (serve query world).1 = .error error → allowed error)
    {world : W} {error : ε} (ended : (program.served serve world).1.1 = .raised error) :
    allowed error := by
  induction raises generalizing world with
  | done known => exact known error ended
  | call _ ih =>
      exact ih _ (fun error same => calls _ world error same) ended

theorem Procedure.Raises.served {body : Procedure (fallible Query Reply ε) Unit ε α}
    (raises : body.Raises allowed)
    (calls : ∀ query world error, (serve query world).1 = .error error → allowed error)
    {world : W} {error : ε}
    (ended : (body.served serve world).1 = .raised error) : allowed error :=
  (raises ()).served calls ended

end Fallible

end Interaction
