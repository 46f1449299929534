import SkaleAdmin.Library.Ledger
import SkaleAdmin.Library.Serving

/-! Single runs of programs in a world that nothing else moves. -/

namespace Interaction

open Program

variable {I : Interface} {W M J ρ τ ε α β : Type}

/-- The world can answer the calls of the trace one after the other. -/
inductive Host.Serves (host : Host I W M J ρ) : W → Trace I → W → Prop
  | nil (world : W) : Serves host world [] world
  | cons {first middle last : W} {query : I.Query} {proposed answer : I.Answer query}
      {trace : Trace I} (served : host.serve query proposed first = some (answer, middle))
      (rest : Serves host middle trace last) :
      Serves host first (⟨query, answer⟩ :: trace) last

variable {host : Host I W M J ρ}

theorem Host.Serves.append {first middle last : W} {front back : Trace I}
    (serves : host.Serves first front middle) (rest : host.Serves middle back last) :
    host.Serves first (front ++ back) last := by
  induction serves with
  | nil world => exact rest
  | cons served _ ih => exact .cons served (ih rest)

theorem Host.serves_of_served {answer : (query : I.Query) → W → I.Answer query × W}
    (answers : ∀ query world, ∃ proposed,
      host.serve query proposed world = some (answer query world))
    (program : Program I τ) (world : W) :
    ∃ trace, Runs program trace (program.served answer world).1 ∧
      host.Serves world trace (program.served answer world).2 := by
  induction program generalizing world with
  | done result => exact ⟨[], runs_done_iff.mpr ⟨rfl, rfl⟩, .nil world⟩
  | call query next ih =>
      obtain ⟨proposed, served⟩ := answers query world
      obtain ⟨trace, run, serves⟩ := ih (answer query world).1 (answer query world).2
      exact ⟨_, runs_call_iff.mpr ⟨_, trace, rfl, run⟩, .cons served serves⟩

theorem Host.Outline.ends {discipline : Host.Discipline I W M J}
    {invariant before : W → Prop} {program : Program I τ} {after : τ → W → Prop}
    (outline : host.Outline discipline invariant before program after)
    (unassuming : ∀ query answer world, discipline.call query answer world)
    {world last : W} {trace : Trace I} {result : τ} (kept : invariant world)
    (holds : before world) (run : Runs program trace result)
    (serves : host.Serves world trace last) :
    invariant last ∧ after result last := by
  induction outline generalizing world trace with
  | done _ ends =>
      obtain ⟨rfl, rfl⟩ := runs_done_iff.mp run
      cases serves
      exact ⟨kept, ends _ kept holds⟩
  | call between _ served _ ih =>
      obtain ⟨answer, rest, rfl, later⟩ := runs_call_iff.mp run
      cases serves with
      | cons here serves =>
          obtain ⟨kept', holds'⟩ := served kept holds (unassuming _ _ _) here
          exact ih answer kept' holds' later serves

namespace Procedure

/-- The body can run like this in the world. -/
def Takes (host : Host I W M J ρ) (world : W) (body : Procedure I Unit ε α)
    (outcome : Outcome ε α) (last : W) : Prop :=
  ∃ trace, Runs (body ()) trace (outcome, ()) ∧ host.Serves world trace last

theorem takes_of_served {answer : (query : I.Query) → W → I.Answer query × W}
    (answers : ∀ query world, ∃ proposed,
      host.serve query proposed world = some (answer query world))
    {body : Procedure I Unit ε α} {outcome : Outcome ε α} {world last : W}
    (ended : body.served answer world = (outcome, last)) :
    Takes host world body outcome last := by
  obtain ⟨trace, run, serves⟩ := Host.serves_of_served answers (body ()) world
  cases ended
  exact ⟨trace, run, serves⟩

theorem takes_of_isValue {answer : (query : I.Query) → W → I.Answer query × W}
    (answers : ∀ query world, ∃ proposed,
      host.serve query proposed world = some (answer query world))
    {body : Procedure I Unit ε Unit} {world : W}
    (ended : (body.served answer world).1.isValue = true) :
    Takes host world body (.value ()) (body.served answer world).2 :=
  takes_of_served answers (Prod.ext (Outcome.eq_value_of_isValue ended) rfl)

section Rules

variable {world middle last : W} {outcome : Outcome ε α}

theorem takes_pure (result : α) :
    Takes host world (pure result : Procedure I Unit ε α) (.value result) world :=
  ⟨[], runs_pure_iff.mpr ⟨rfl, rfl, rfl⟩, .nil world⟩

theorem takes_bind {first : Procedure I Unit ε β} {next : β → Procedure I Unit ε α}
    {result : β} (takes : Takes host world first (.value result) middle)
    (rest : Takes host middle (next result) outcome last) :
    Takes host world (first >>= next) outcome last := by
  obtain ⟨front, firstRun, firstServes⟩ := takes
  obtain ⟨back, restRun, restServes⟩ := rest
  refine ⟨front ++ back, ?_, firstServes.append restServes⟩
  exact runs_bind_iff.mpr (.inl ⟨result, (), front, back, rfl, firstRun, restRun⟩)

theorem takes_bind_raised {first : Procedure I Unit ε β}
    {next : β → Procedure I Unit ε α} {error : ε}
    (takes : Takes host world first (.raised error) last) :
    Takes host world (first >>= next) (.raised error) last := by
  obtain ⟨trace, run, serves⟩ := takes
  exact ⟨trace, runs_bind_iff.mpr (.inr (.inl ⟨error, rfl, run⟩)), serves⟩

theorem takes_swallowed {body : Procedure I Unit ε Unit} {error : ε}
    (takes : Takes host world body (.raised error) last) :
    Takes host world (attempt body fun _ => some (pure ())) (.value ()) last := by
  obtain ⟨trace, run, serves⟩ := takes
  refine ⟨trace, runs_attempt_iff.mpr (.inr (.inl ?_)), serves⟩
  exact ⟨error, pure (), (), trace, [], by simp, rfl, run,
    runs_pure_iff.mpr ⟨rfl, rfl, rfl⟩⟩

theorem Takes.ends {discipline : Host.Discipline I W M J}
    {invariant before : W → Prop} {body : Procedure I Unit ε α}
    {value : α → W → Prop} {raised : ε → W → Prop}
    (takes : Takes host world body outcome last)
    (sketch : Sketch host discipline invariant before body value raised)
    (unassuming : ∀ query answer world, discipline.call query answer world)
    (kept : invariant world) (holds : before world) :
    invariant last ∧ Ends value raised (outcome, ()) last := by
  obtain ⟨trace, run, serves⟩ := takes
  exact Host.Outline.ends sketch unassuming kept holds run serves

theorem Takes.yields {host : Host I W Empty J ρ} {before : W → Prop}
    {body : Procedure I Unit ε α} {after : α → W → Prop} {result : α}
    (takes : Takes host world body (.value result) last)
    (yields : (Ledger.ofHost host).Yields before body after) (holds : before world) :
    after result last :=
  (takes.ends yields (fun _ _ _ => trivial) trivial holds).2

end Rules

section Fallible

variable {Query : Type} {Reply : Query → Type}
  {host : Host (fallible Query Reply ε) W M J ρ} {query : Query} {world last : W}
  {proposed : Except ε (Reply query)}

theorem takes_invoke {reply : Reply query}
    (served : host.serve query proposed world = some (.ok reply, last)) :
    Takes host world (invoke query) (.value reply) last :=
  ⟨[⟨query, .ok reply⟩], runs_invoke_iff.mpr (.inl ⟨reply, rfl, rfl, rfl⟩),
    .cons served (.nil last)⟩

theorem takes_invoke_raised {error : ε}
    (served : host.serve query proposed world = some (.error error, last)) :
    Takes host world (invoke query) (.raised error) last :=
  ⟨[⟨query, .error error⟩], runs_invoke_iff.mpr (.inr ⟨error, rfl, rfl, rfl⟩),
    .cons served (.nil last)⟩

end Fallible

end Procedure

end Interaction
