import SkaleAdmin.Library.InteractionRules

/-! Procedures that an error of some kind breaks off as soon as a call raises it, and runs
whose calls are answered always in the same way. -/

namespace Interaction

open Program

variable {Query : Type} {Reply : Query → Type} {ε : Type}

def Event.fails (fatal : ε → Bool) (event : Event (fallible Query Reply ε)) : Bool :=
  match event.answer with
  | .ok _ => false
  | .error error => fatal error

def Trace.IsSound (fatal : ε → Bool) (trace : Trace (fallible Query Reply ε)) : Prop :=
  ∀ event ∈ trace, event.fails fatal = false

def Trace.AnsweredBy (answer : (query : Query) → Except ε (Reply query))
    (trace : Trace (fallible Query Reply ε)) : Prop :=
  ∀ event ∈ trace, event.answer = answer event.query

theorem Trace.isSound_nil {fatal : ε → Bool} :
    Trace.IsSound fatal ([] : Trace (fallible Query Reply ε)) :=
  nofun

theorem Trace.IsSound.append {fatal : ε → Bool} {front back : Trace (fallible Query Reply ε)}
    (frontSound : Trace.IsSound fatal front) (backSound : Trace.IsSound fatal back) :
    Trace.IsSound fatal (front ++ back) := by
  intro event member
  rcases List.mem_append.mp member with member | member
  · exact frontSound event member
  · exact backSound event member

theorem runs_of_answers {ρ : Type} {answer : (query : Query) → Except ε (Reply query)}
    {program : Program (fallible Query Reply ε) ρ}
    {trace other : Trace (fallible Query Reply ε)} {result result' : ρ}
    (run : Runs program trace result) (answered : Trace.AnsweredBy answer trace)
    (otherRun : Runs program other result') (otherAnswered : Trace.AnsweredBy answer other) :
    result' = result := by
  induction run generalizing other with
  | done result => exact (runs_done_iff.mp otherRun).2
  | @call query next trace result given rest ih =>
      obtain ⟨taken, back, rfl, otherRest⟩ := runs_call_iff.mp otherRun
      have first : given = answer query := answered ⟨query, given⟩ List.mem_cons_self
      have second : taken = answer query := otherAnswered ⟨query, taken⟩ List.mem_cons_self
      rw [second, ← first] at otherRest
      exact ih (fun event member => answered event (List.mem_cons_of_mem _ member)) otherRest
        fun event member => otherAnswered event (List.mem_cons_of_mem _ member)

namespace Procedure

variable {σ κ α β : Type}

/-- A run without an error of the kind raises none, or it ends with the first such error and
leaves `view` of the state as it was. -/
def BrokenOff (fatal : ε → Bool) (view : σ → κ) (state : σ)
    (trace : Trace (fallible Query Reply ε)) (outcome : Outcome ε α) (state' : σ) : Prop :=
  Trace.IsSound fatal trace ∧ (∀ error, outcome = .raised error → fatal error = false) ∨
    ∃ front query error, trace = front ++ [⟨query, .error error⟩] ∧
      Trace.IsSound fatal front ∧ fatal error = true ∧ outcome = .raised error ∧
      view state' = view state

/-- Every run of the body is like this. -/
def BreaksOff (fatal : ε → Bool) (view : σ → κ)
    (body : Procedure (fallible Query Reply ε) σ ε α) : Prop :=
  ∀ ⦃state state' : σ⦄ ⦃trace : Trace (fallible Query Reply ε)⦄ ⦃outcome : Outcome ε α⦄,
    Runs (body state) trace (outcome, state') →
    BrokenOff fatal view state trace outcome state'

def Silent (fatal : ε → Bool) (body : Procedure (fallible Query Reply ε) σ ε α) : Prop :=
  ∀ ⦃state state' : σ⦄ ⦃trace : Trace (fallible Query Reply ε)⦄ ⦃outcome : Outcome ε α⦄,
    Runs (body state) trace (outcome, state') →
    trace = [] ∧ ∀ error, outcome = .raised error → fatal error = false

section Rules

variable {fatal : ε → Bool} {view : σ → κ}

theorem silent_pure (result : α) :
    Silent fatal (pure result : Procedure (fallible Query Reply ε) σ ε α) := by
  intro state state' trace outcome run
  obtain ⟨rfl, rfl, rfl⟩ := runs_pure_iff.mp run
  exact ⟨rfl, nofun⟩

theorem silent_raise {error : ε} (harmless : fatal error = false) :
    Silent fatal (raise error : Procedure (fallible Query Reply ε) σ ε α) := by
  intro state state' trace outcome run
  obtain ⟨rfl, rfl, rfl⟩ := runs_raise_iff.mp run
  refine ⟨rfl, ?_⟩
  intro other same
  cases same
  exact harmless

theorem silent_modify (change : σ → σ) :
    Silent fatal (modify change : Procedure (fallible Query Reply ε) σ ε Unit) := by
  intro state state' trace outcome run
  obtain ⟨rfl, rfl, rfl⟩ := runs_modify_iff.mp run
  exact ⟨rfl, nofun⟩

theorem silent_bind {first : Procedure (fallible Query Reply ε) σ ε β}
    {next : β → Procedure (fallible Query Reply ε) σ ε α} (silent : Silent fatal first)
    (rest : ∀ result, Silent fatal (next result)) : Silent fatal (first >>= next) := by
  intro state state' trace outcome run
  rcases runs_bind_iff.mp run with
    ⟨result, middle, front, back, rfl, firstRun, nextRun⟩ | ⟨error, rfl, firstRun⟩ |
    ⟨rfl, firstRun⟩
  · obtain ⟨rfl, _⟩ := silent firstRun
    exact rest result nextRun
  · obtain ⟨rfl, harmless⟩ := silent firstRun
    refine ⟨rfl, ?_⟩
    intro other same
    cases same
    exact harmless error rfl
  · exact ⟨(silent firstRun).1, nofun⟩

theorem Silent.breaksOff {body : Procedure (fallible Query Reply ε) σ ε α}
    (silent : Silent fatal body) : BreaksOff fatal view body := by
  intro state state' trace outcome run
  obtain ⟨rfl, harmless⟩ := silent run
  exact .inl ⟨Trace.isSound_nil, harmless⟩

section Single

variable {query : Query} {state state' : σ}

theorem brokenOff_reply {reply : Reply query} {result : α} :
    BrokenOff fatal view state
      ([⟨query, .ok reply⟩] : Trace (fallible Query Reply ε)) (.value result) state' := by
  refine .inl ⟨?_, nofun⟩
  intro event member
  rw [List.mem_singleton.mp member]
  rfl

theorem brokenOff_error {error : ε} (kept : view state' = view state) :
    BrokenOff fatal view state ([⟨query, .error error⟩] : Trace (fallible Query Reply ε))
      (.raised error : Outcome ε α) state' := by
  cases known : fatal error with
  | true => exact .inr ⟨[], query, error, rfl, Trace.isSound_nil, known, rfl, kept⟩
  | false =>
      refine .inl ⟨?_, ?_⟩
      · intro event member
        rw [List.mem_singleton.mp member]
        exact known
      · intro other same
        cases same
        exact known

end Single

theorem breaksOff_invoke (query : Query) :
    BreaksOff fatal view (invoke query : Procedure (fallible Query Reply ε) σ ε _) := by
  intro state state' trace outcome run
  rcases runs_invoke_iff.mp run with ⟨reply, rfl, rfl, rfl⟩ | ⟨error, rfl, rfl, rfl⟩
  · exact brokenOff_reply
  · exact brokenOff_error rfl

theorem breaksOff_bind_of {first : Procedure (fallible Query Reply ε) σ ε β}
    {next : β → Procedure (fallible Query Reply ε) σ ε α} (breaks : BreaksOff fatal view first)
    (rest : ∀ ⦃state middle state' : σ⦄ ⦃front back : Trace (fallible Query Reply ε)⦄
      ⦃result : β⦄ ⦃outcome : Outcome ε α⦄, Runs (first state) front (.value result, middle) →
      Trace.IsSound fatal front → Runs (next result middle) back (outcome, state') →
      BrokenOff fatal view state (front ++ back) outcome state') :
    BreaksOff fatal view (first >>= next) := by
  intro state state' trace outcome run
  rcases runs_bind_iff.mp run with
    ⟨result, middle, front, back, rfl, firstRun, nextRun⟩ | ⟨error, rfl, firstRun⟩ |
    ⟨rfl, firstRun⟩
  · rcases breaks firstRun with ⟨sound, _⟩ | ⟨_, _, _, _, _, _, absurd, _⟩
    · exact rest firstRun sound nextRun
    · cases absurd
  · rcases breaks firstRun with
      ⟨sound, harmless⟩ | ⟨front', query, error', rfl, sound, known, same, keeps⟩
    · refine .inl ⟨sound, ?_⟩
      intro other same
      cases same
      exact harmless error rfl
    · cases same
      exact .inr ⟨front', query, error, rfl, sound, known, rfl, keeps⟩
  · rcases breaks firstRun with ⟨sound, _⟩ | ⟨_, _, _, _, _, _, absurd, _⟩
    · exact .inl ⟨sound, nofun⟩
    · cases absurd

theorem breaksOff_bind {first : Procedure (fallible Query Reply ε) σ ε β}
    {next : β → Procedure (fallible Query Reply ε) σ ε α} (breaks : BreaksOff fatal view first)
    (kept : first.Within (.confined (fun _ => True) view))
    (rest : ∀ result, BreaksOff fatal view (next result)) :
    BreaksOff fatal view (first >>= next) := by
  apply breaksOff_bind_of breaks
  intro state middle state' front back result outcome firstRun sound nextRun
  rcases rest result nextRun with
    ⟨soundRest, harmless⟩ | ⟨front', query, error, rfl, soundRest, known, rfl, keeps⟩
  · exact .inl ⟨sound.append soundRest, harmless⟩
  · refine .inr ⟨front ++ front', query, error, (List.append_assoc ..).symm, ?_, known, rfl,
      keeps.trans (kept firstRun).2⟩
    exact sound.append soundRest

theorem breaksOff_bind_silent {first : Procedure (fallible Query Reply ε) σ ε β}
    {next : β → Procedure (fallible Query Reply ε) σ ε α} (breaks : BreaksOff fatal view first)
    (rest : ∀ result, Silent fatal (next result)) :
    BreaksOff fatal view (first >>= next) := by
  apply breaksOff_bind_of breaks
  intro state middle state' front back result outcome firstRun sound nextRun
  obtain ⟨rfl, harmless⟩ := rest result nextRun
  rw [List.append_nil]
  exact .inl ⟨sound, harmless⟩

theorem breaksOff_attempt {body : Procedure (fallible Query Reply ε) σ ε α}
    {handler : ε → Option (Procedure (fallible Query Reply ε) σ ε α)}
    (breaks : BreaksOff fatal view body)
    (passes : ∀ error, fatal error = true → handler error = none)
    (clauses : ∀ error clause, handler error = some clause → Silent fatal clause) :
    BreaksOff fatal view (attempt body handler) := by
  intro state state' trace outcome run
  rcases runs_attempt_iff.mp run with
    ⟨result, rfl, bodyRun⟩ |
    ⟨error, clause, middle, front, back, rfl, clauseOf, bodyRun, clauseRun⟩ |
    ⟨error, rfl, _, bodyRun⟩ | ⟨rfl, bodyRun⟩
  · exact breaks bodyRun
  · obtain ⟨rfl, harmless⟩ := clauses error clause clauseOf clauseRun
    rw [List.append_nil]
    rcases breaks bodyRun with ⟨sound, _⟩ | ⟨_, _, other, _, _, known, same, _⟩
    · exact .inl ⟨sound, harmless⟩
    · cases same
      rw [passes error known] at clauseOf
      cases clauseOf
  · exact breaks bodyRun
  · exact breaks bodyRun

end Rules

end Procedure

end Interaction
