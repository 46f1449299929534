import SkaleAdmin.Library.Calls

/-! Programs in which a call that incurs a debt is followed by one that pays it, and
what that says of a host where the debt cannot be escaped by an error or a stop. -/

namespace Interaction

variable {Query : Type} {Reply : Query → Type} {σ ε ρ τ α β : Type}

namespace Program

/-- However its calls are answered, the program comes to one that pays, unless an
error is answered before. -/
inductive Owes (pays : Query → Prop) : Program (fallible Query Reply ε) τ → Prop
  | pays {query : Query}
      {next : Except ε (Reply query) → Program (fallible Query Reply ε) τ}
      (here : pays query) : Owes pays (.call query next)
  | later {query : Query}
      {next : Except ε (Reply query) → Program (fallible Query Reply ε) τ}
      (rest : ∀ reply, Owes pays (next (.ok reply))) : Owes pays (.call query next)

/-- After each answer to a call that incurs a debt the program owes. -/
inductive Honours (incurs pays : Query → Prop) :
    Program (fallible Query Reply ε) τ → Prop
  | done (result : τ) : Honours incurs pays (.done result)
  | call {query : Query}
      {next : Except ε (Reply query) → Program (fallible Query Reply ε) τ}
      (owes : incurs query → ∀ reply, Owes pays (next (.ok reply)))
      (rest : ∀ answer, Honours incurs pays (next answer)) :
      Honours incurs pays (.call query next)

variable {incurs pays : Query → Prop} {program : Program (fallible Query Reply ε) τ}
  {next : τ → Program (fallible Query Reply ε) ρ}

theorem Owes.bind (owes : program.Owes pays) : (program.bind next).Owes pays := by
  induction owes with
  | pays here => exact .pays here
  | later _ ih => exact .later ih

theorem Honours.bind (honours : program.Honours incurs pays)
    (rest : ∀ result, (next result).Honours incurs pays) :
    (program.bind next).Honours incurs pays := by
  induction honours with
  | done result => exact rest result
  | call owes _ ih => exact .call (fun here reply => (owes here reply).bind) ih

theorem Calls.honours (calls : program.Calls fun query => ¬ incurs query) :
    program.Honours incurs pays := by
  induction calls with
  | done result => exact .done result
  | call here _ ih => exact .call (fun incurred => absurd incurred here) ih

end Program

namespace Procedure

def Owes (pays : Query → Prop) (body : Procedure (fallible Query Reply ε) σ ε α) : Prop :=
  ∀ state, (body state).Owes pays

def Honours (incurs pays : Query → Prop)
    (body : Procedure (fallible Query Reply ε) σ ε α) : Prop :=
  ∀ state, (body state).Honours incurs pays

section Rules

variable {incurs pays : Query → Prop} {body : Procedure (fallible Query Reply ε) σ ε α}
  {first : Procedure (fallible Query Reply ε) σ ε β}
  {next : β → Procedure (fallible Query Reply ε) σ ε α} {query : Query}

theorem owes_invoke (here : pays query) :
    (invoke query : Procedure (fallible Query Reply ε) σ ε _).Owes pays :=
  fun _ => .pays here

theorem owes_bind (owes : first.Owes pays) : (first >>= next).Owes pays :=
  fun state => (owes state).bind

theorem owes_invoke_bind {next : Reply query → Procedure (fallible Query Reply ε) σ ε α}
    (rest : ∀ reply, (next reply).Owes pays) : (invoke query >>= next).Owes pays :=
  fun state => .later fun reply => rest reply state

theorem honours_of_calls (calls : body.Calls fun query => ¬ incurs query) :
    body.Honours incurs pays :=
  fun state => (calls state).honours

theorem honours_pure (result : α) :
    (pure result : Procedure (fallible Query Reply ε) σ ε α).Honours incurs pays :=
  fun _ => .done _

theorem honours_bind (honours : first.Honours incurs pays)
    (rest : ∀ result, (next result).Honours incurs pays) :
    (first >>= next).Honours incurs pays := by
  intro state
  apply (honours state).bind
  rintro ⟨outcome, middle⟩
  cases outcome with
  | value result => exact rest result middle
  | raised error => exact .done _
  | running => exact .done _

theorem honours_invoke_bind
    {next : Reply query → Procedure (fallible Query Reply ε) σ ε α}
    (owes : ∀ reply, (next reply).Owes pays)
    (rest : ∀ reply, (next reply).Honours incurs pays) :
    (invoke query >>= next).Honours incurs pays := by
  intro state
  refine .call (fun _ reply => owes reply state) ?_
  rintro (error | reply)
  · exact .done _
  · exact rest reply state

theorem honours_attempt {handler : ε → Option (Procedure (fallible Query Reply ε) σ ε α)}
    (honours : body.Honours incurs pays)
    (clauses : ∀ error clause, handler error = some clause →
      clause.Honours incurs pays) :
    (attempt body handler).Honours incurs pays := by
  intro state
  apply (honours state).bind
  rintro ⟨outcome, middle⟩
  cases outcome with
  | value result => exact .done _
  | running => exact .done _
  | raised error =>
      cases clauseOf : handler error with
      | some clause =>
          simp only [clauseOf]
          exact clauses error clause clauseOf middle
      | none =>
          simp only [clauseOf]
          exact .done _

end Rules

end Procedure

structure Debt {W M J : Type} (host : Host (fallible Query Reply ε) W M J ρ) where
  incurs : Query → Prop
  pays : Query → Prop
  isOpen : W → Bool
  moved : ∀ ⦃world moved move⦄, host.move world move = some moved →
    isOpen moved = isOpen world
  begun : ∀ world job, isOpen (host.begin job world) = isOpen world
  finished : ∀ world, isOpen (host.finish world) = isOpen world
  served : ∀ ⦃query world world'⦄ ⦃proposed answer : Except ε (Reply query)⦄,
    host.serve query proposed world = some (answer, world') → isOpen world' = true →
    isOpen world = true ∨ incurs query ∧ ∃ reply, answer = .ok reply
  paid : ∀ ⦃query world world'⦄ ⦃proposed : Except ε (Reply query)⦄ ⦃reply⦄, pays query →
    host.serve query proposed world = some (.ok reply, world') → isOpen world' = false
  erred : ∀ ⦃query world world'⦄ ⦃proposed : Except ε (Reply query)⦄ ⦃error⦄,
    host.serve query proposed world = some (.error error, world') →
    ∃ error, proposed = .error error

namespace Debt

variable {W M J : Type} {host : Host (fallible Query Reply ε) W M J ρ} (debt : Debt host)

/-- No error and no stop while a debt is open. -/
def discipline : Host.Discipline (fallible Query Reply ε) W M J where
  call _ answer world := (∃ error, answer = .error error) → debt.isOpen world = false
  stop world := debt.isOpen world = false

/-- An open debt is going to be paid by the program that runs. -/
structure Kept (config : Configuration (fallible Query Reply ε) W ρ) : Prop where
  owed : debt.isOpen config.world = true →
    ∃ program, config.running = some program ∧ program.Owes debt.pays
  honoured : ∀ program, config.running = some program →
    program.Honours debt.incurs debt.pays

variable {debt} {config config' : Configuration (fallible Query Reply ε) W ρ}

/-- Between the jobs no debt is open. -/
theorem Kept.closed (kept : debt.Kept config) (idle : config.running = none) :
    debt.isOpen config.world = false := by
  cases isOpen : debt.isOpen config.world with
  | false => rfl
  | true =>
      obtain ⟨program, running, _⟩ := kept.owed isOpen
      rw [idle] at running
      cases running

theorem kept_of_closed (closed : debt.isOpen config.world = false)
    (honoured : ∀ program, config.running = some program →
      program.Honours debt.incurs debt.pays) : debt.Kept config := by
  refine ⟨fun isOpen => ?_, honoured⟩
  rw [closed] at isOpen
  cases isOpen

theorem kept_settle {world : W} {program : Program (fallible Query Reply ε) ρ}
    (owed : debt.isOpen world = true → program.Owes debt.pays)
    (honoured : program.Honours debt.incurs debt.pays) :
    debt.Kept (host.settle world program) := by
  cases program with
  | done result =>
      refine kept_of_closed ?_ nofun
      cases isOpen : debt.isOpen world with
      | false => exact (debt.finished world).trans isOpen
      | true => cases owed isOpen
  | call query next =>
      refine ⟨fun isOpen => ⟨_, rfl, owed isOpen⟩, ?_⟩
      rintro program ⟨⟩
      exact honoured

theorem step_kept {label : Label (fallible Query Reply ε) M J}
    (honours : ∀ job, (host.job job).Honours debt.incurs debt.pays)
    (kept : debt.Kept config) (meets : debt.discipline.Meets config label)
    (taken : host.step config label = some config') : debt.Kept config' := by
  obtain ⟨world, running⟩ := config
  cases label with
  | move move =>
      obtain ⟨moved, served, rfl⟩ := Option.map_eq_some_iff.mp taken
      refine ⟨fun isOpen => kept.owed ?_, kept.honoured⟩
      rw [← debt.moved served]
      exact isOpen
  | start job =>
      cases running with
      | some program => cases taken
      | none =>
          obtain rfl := Option.some.inj taken
          refine kept_settle (fun isOpen => ?_) (honours job)
          rw [debt.begun, kept.closed rfl] at isOpen
          cases isOpen
  | stop =>
      cases running with
      | none => cases taken
      | some program =>
          obtain rfl := Option.some.inj taken
          refine kept_of_closed ((debt.finished world).trans ?_) nofun
          cases program <;> exact meets
  | call proposed =>
      cases running with
      | none => cases taken
      | some program =>
          cases program with
          | done result => cases taken
          | call query next =>
              obtain ⟨⟨answer, world'⟩, served, rfl⟩ := Option.map_eq_some_iff.mp taken
              have honoured := kept.honoured _ rfl
              cases honoured with
              | call owes rest =>
                  refine kept_settle (fun isOpen => ?_) (rest answer)
                  rcases debt.served served isOpen with before | ⟨incurs, reply, rfl⟩
                  · obtain ⟨_, running, owed⟩ := kept.owed before
                    cases running
                    cases answer with
                    | error error =>
                        have closed := meets (debt.erred served)
                        rw [before] at closed
                        cases closed
                    | ok reply =>
                        cases owed with
                        | pays here =>
                            rw [debt.paid here served] at isOpen
                            cases isOpen
                        | later later => exact later reply
                  · exact owes incurs reply

end Debt

end Interaction
