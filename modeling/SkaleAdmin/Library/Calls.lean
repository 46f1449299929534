import SkaleAdmin.Library.Interleaving

/-! Which calls a program can make, and the outline that follows where none of
them disturbs an assertion. -/

namespace Interaction

variable {I : Interface} {W M J ρ σ τ ε α β : Type}

/-- Every call of the program is allowed, whatever the earlier ones answer. -/
inductive Program.Calls (allowed : I.Query → Prop) : Program I τ → Prop
  | done (result : τ) : Calls allowed (.done result)
  | call {query : I.Query} {next : I.Answer query → Program I τ}
      (here : allowed query) (rest : ∀ answer, Calls allowed (next answer)) :
      Calls allowed (.call query next)

namespace Program.Calls

variable {allowed allowed' : I.Query → Prop} {program : Program I τ}

theorem of_all (all : ∀ query, allowed query) : program.Calls allowed := by
  induction program with
  | done result => exact .done result
  | call query next ih => exact .call (all query) ih

theorem mono (calls : program.Calls allowed)
    (wider : ∀ query, allowed query → allowed' query) :
    program.Calls allowed' := by
  induction calls with
  | done result => exact .done result
  | call here _ ih => exact .call (wider _ here) ih

theorem bind {next : τ → Program I ρ} (calls : program.Calls allowed)
    (nextCalls : ∀ result, (next result).Calls allowed) :
    (program.bind next).Calls allowed := by
  induction calls with
  | done result => exact nextCalls result
  | call here _ ih => exact .call here ih

theorem outline {host : Host I W M J ρ} {discipline : Host.Discipline I W M J}
    {invariant assertion : W → Prop} (calls : program.Calls allowed)
    (stable : host.Stable discipline invariant assertion)
    (served : ∀ ⦃query world world'⦄ ⦃proposed answer : I.Answer query⦄,
      allowed query → invariant world → assertion world →
      discipline.call query proposed world →
      host.serve query proposed world = some (answer, world') →
      invariant world' ∧ assertion world') :
    host.Outline discipline invariant assertion program fun _ => assertion := by
  induction calls with
  | done result => exact .done stable fun _ _ holds => holds
  | call here _ ih =>
      refine .call (fun _ => assertion) stable ?_ ih
      intro world world' proposed answer
      exact served here

end Program.Calls

namespace Procedure

variable {allowed allowed' : I.Query → Prop}

def Calls (allowed : I.Query → Prop) (body : Procedure I σ ε α) : Prop :=
  ∀ state, (body state).Calls allowed

section Rules

variable {body : Procedure I σ ε α}

theorem Calls.mono (calls : body.Calls allowed)
    (wider : ∀ query, allowed query → allowed' query) : body.Calls allowed' :=
  fun state => (calls state).mono wider

theorem calls_pure (result : α) :
    (pure result : Procedure I σ ε α).Calls allowed :=
  fun _ => .done _

theorem calls_raise (error : ε) :
    (raise error : Procedure I σ ε α).Calls allowed :=
  fun _ => .done _

theorem calls_bind {first : Procedure I σ ε β}
    {next : β → Procedure I σ ε α} (firstCalls : first.Calls allowed)
    (nextCalls : ∀ result, (next result).Calls allowed) :
    (first >>= next).Calls allowed := by
  intro state
  apply (firstCalls state).bind
  rintro ⟨outcome, middle⟩
  cases outcome with
  | value result => exact nextCalls result middle
  | raised error => exact .done _
  | running => exact .done _

theorem calls_attempt {handler : ε → Option (Procedure I σ ε α)}
    (calls : body.Calls allowed)
    (clauses : ∀ error clause, handler error = some clause →
      clause.Calls allowed) :
    (attempt body handler).Calls allowed := by
  intro state
  apply (calls state).bind
  rintro ⟨outcome, middle⟩
  cases outcome with
  | value result => exact .done _
  | raised error =>
      cases clauseOf : handler error with
      | some clause =>
          simp only [clauseOf]
          exact clauses error clause clauseOf middle
      | none =>
          simp only [clauseOf]
          exact .done _
  | running => exact .done _

theorem calls_invoke {Query : Type} {Reply : Query → Type} {query : Query}
    {allowed : Query → Prop} (here : allowed query) :
    (invoke query : Procedure (fallible Query Reply ε) σ ε _).Calls allowed := by
  intro state
  refine .call here ?_
  rintro (error | reply)
  · exact .done _
  · exact .done _

end Rules

theorem Calls.sketch {host : Host I W M J ρ}
    {discipline : Host.Discipline I W M J} {invariant assertion : W → Prop}
    {body : Procedure I Unit ε α} (calls : body.Calls allowed)
    (stable : host.Stable discipline invariant assertion)
    (served : ∀ ⦃query world world'⦄ ⦃proposed answer : I.Answer query⦄,
      allowed query → invariant world → assertion world →
      discipline.call query proposed world →
      host.serve query proposed world = some (answer, world') →
      invariant world' ∧ assertion world') :
    Sketch host discipline invariant assertion body (fun _ => assertion)
      fun _ => assertion := by
  apply ((calls ()).outline stable served).weaken
  rintro ⟨outcome, ⟨⟩⟩ world _ holds
  cases outcome with
  | value result => exact holds
  | raised error => exact holds
  | running => trivial

end Procedure

end Interaction
