import SkaleAdmin.Library.Interaction

/-! Which errors a procedure adds to those that its calls raise. -/

namespace Interaction

variable {Query : Type} {Reply : Query → Type} {ε σ α β : Type}

/-- As long as the calls raise only errors in `allowed`, so does the program. -/
inductive Program.Raises (allowed : ε → Prop) :
    Program (fallible Query Reply ε) (Outcome ε α × σ) → Prop
  | done {outcome : Outcome ε α} {state : σ}
      (known : ∀ error, outcome = .raised error → allowed error) :
      Raises allowed (.done (outcome, state))
  | call {query : Query}
      {next : Except ε (Reply query) →
        Program (fallible Query Reply ε) (Outcome ε α × σ)}
      (rest : ∀ answer, (∀ error, answer = .error error → allowed error) →
        Raises allowed (next answer)) :
      Raises allowed (.call query next)

theorem Program.Raises.bind {allowed : ε → Prop}
    {program : Program (fallible Query Reply ε) (Outcome ε β × σ)}
    {next : Outcome ε β × σ → Program (fallible Query Reply ε) (Outcome ε α × σ)}
    (raises : program.Raises allowed)
    (rest : ∀ ended, (∀ error, ended.1 = .raised error → allowed error) →
      (next ended).Raises allowed) :
    (program.bind next).Raises allowed := by
  induction raises with
  | done known => exact rest _ known
  | call _ ih => exact .call ih

namespace Procedure

def Raises (allowed : ε → Prop) (body : Procedure (fallible Query Reply ε) σ ε α) :
    Prop :=
  ∀ state, (body state).Raises allowed

variable {allowed : ε → Prop}

theorem raises_pure (result : α) :
    (pure result : Procedure (fallible Query Reply ε) σ ε α).Raises allowed := by
  intro state
  apply Program.Raises.done
  intro error same
  cases same

theorem raises_raise {error : ε} (known : allowed error) :
    (raise error : Procedure (fallible Query Reply ε) σ ε α).Raises allowed := by
  intro state
  apply Program.Raises.done
  intro other same
  cases same
  exact known

theorem raises_bind {first : Procedure (fallible Query Reply ε) σ ε β}
    {next : β → Procedure (fallible Query Reply ε) σ ε α}
    (raises : first.Raises allowed) (rest : ∀ result, (next result).Raises allowed) :
    (first >>= next).Raises allowed := by
  intro state
  apply (raises state).bind
  intro ended known
  obtain ⟨outcome, middle⟩ := ended
  cases outcome with
  | value result => exact rest result middle
  | raised error =>
      apply Program.Raises.done
      intro other same
      cases same
      exact known error rfl
  | running =>
      apply Program.Raises.done
      intro other same
      cases same

theorem raises_invoke (query : Query) :
    (invoke query : Procedure (fallible Query Reply ε) σ ε _).Raises allowed := by
  intro state
  apply Program.Raises.call
  intro answer known
  cases answer with
  | ok reply => exact raises_pure reply state
  | error error => exact raises_raise (known error rfl) state

theorem raises_ite {condition : Procedure (fallible Query Reply ε) σ ε Bool}
    {positive negative : Procedure (fallible Query Reply ε) σ ε α}
    (evaluates : condition.Raises allowed) (whenTrue : positive.Raises allowed)
    (whenFalse : negative.Raises allowed) :
    (condition >>= fun holds =>
      if holds = true then positive else negative).Raises allowed := by
  refine raises_bind evaluates fun holds => ?_
  cases holds with
  | true => exact whenTrue
  | false => exact whenFalse

end Procedure

end Interaction
