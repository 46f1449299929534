import SkaleAdmin.Library.InteractionRules

/-! What a procedure poses, raises and keeps in the runs that are answered as expected. -/

namespace Interaction

open Program

/-- The runs that are looked at, the calls that they may pose, the errors that they may end
with and what they keep of the state. -/
structure Conduct (I : Interface) (σ ε : Type) where
  expected : Trace I → Prop
  allowed : I.Query → Prop
  known : ε → Prop
  keeps : σ → Prop
  parts : ∀ {front back : Trace I},
    expected (front ++ back) → expected front ∧ expected back

namespace Conduct

variable {I : Interface} {σ τ ε α : Type} (conduct : Conduct I σ ε)

/-- How a run may end: with a result and a state in `after`, or with a known error. -/
def Ends (after : α → σ → Prop) : Outcome ε α → σ → Prop
  | .value result, state => after result state
  | .raised error, state => conduct.known error ∧ conduct.keeps state
  | .running, state => conduct.keeps state

/-- The same conduct with something beside the state that stays in `held`. -/
def beside (held : τ → Prop) : Conduct I (σ × τ) ε where
  expected := conduct.expected
  allowed := conduct.allowed
  known := conduct.known
  keeps state := conduct.keeps state.1 ∧ held state.2
  parts := conduct.parts

def on (held : τ → Prop) : Conduct I τ ε where
  expected := conduct.expected
  allowed := conduct.allowed
  known := conduct.known
  keeps := held
  parts := conduct.parts

end Conduct

namespace Procedure

variable {I : Interface} {σ τ ε α β : Type}

/-- From a state in `before`, a run that is answered as expected ends in `after`. -/
def Obeys (conduct : Conduct I σ ε) (before : σ → Prop) (body : Procedure I σ ε α)
    (after : α → σ → Prop) : Prop :=
  ∀ ⦃state state' : σ⦄ ⦃trace : Trace I⦄ ⦃outcome : Outcome ε α⦄,
    before state → conduct.expected trace → Runs (body state) trace (outcome, state') →
    (∀ event ∈ trace, conduct.allowed event.query) ∧ conduct.Ends after outcome state'

/-- The body keeps what is kept. -/
abbrev Follows (conduct : Conduct I σ ε) (body : Procedure I σ ε α) : Prop :=
  body.Obeys conduct conduct.keeps fun _ => conduct.keeps

variable {conduct : Conduct I σ ε} {before before' : σ → Prop} {after after' : α → σ → Prop}

section Consequence

variable {body : Procedure I σ ε α}

theorem Obeys.strengthen (obeys : body.Obeys conduct before after)
    (stronger : ∀ state, before' state → before state) : body.Obeys conduct before' after :=
  fun _ _ _ _ holds => obeys (stronger _ holds)

theorem Obeys.weaken (obeys : body.Obeys conduct before after)
    (weaker : ∀ result state, after result state → after' result state) :
    body.Obeys conduct before after' := by
  intro state state' trace outcome holds expected run
  obtain ⟨allowed, ends⟩ := obeys holds expected run
  refine ⟨allowed, ?_⟩
  cases outcome with
  | value result => exact weaker result state' ends
  | raised error => exact ends
  | running => exact ends

theorem obeys_of_fact {fact : Prop} (obeys : fact → body.Obeys conduct before after) :
    body.Obeys conduct (fun state => before state ∧ fact) after :=
  fun _ _ _ _ holds => obeys holds.2 holds.1

end Consequence

section Rules

theorem obeys_pure {result : α} (ends : ∀ state, before state → after result state) :
    (pure result : Procedure I σ ε α).Obeys conduct before after := by
  intro state state' trace outcome holds _ run
  obtain ⟨rfl, rfl, rfl⟩ := runs_pure_iff.mp run
  exact ⟨nofun, ends state' holds⟩

theorem obeys_raise {error : ε} (known : conduct.known error)
    (kept : ∀ state, before state → conduct.keeps state) :
    (raise error : Procedure I σ ε α).Obeys conduct before after := by
  intro state state' trace outcome holds _ run
  obtain ⟨rfl, rfl, rfl⟩ := runs_raise_iff.mp run
  exact ⟨nofun, known, kept state' holds⟩

theorem obeys_cutOff (kept : ∀ state, before state → conduct.keeps state) :
    (cutOff : Procedure I σ ε α).Obeys conduct before after := by
  intro state state' trace outcome holds _ run
  obtain ⟨rfl, rfl, rfl⟩ := runs_cutOff_iff.mp run
  exact ⟨nofun, kept state' holds⟩

theorem obeys_read_bind {view : σ → β} {next : β → Procedure I σ ε α}
    (rest : ∀ state, before state → (next (view state)).Obeys conduct before after) :
    (read view >>= next).Obeys conduct before after := by
  intro state state' trace outcome holds expected run
  rw [read_bind_apply] at run
  exact rest state holds holds expected run

theorem obeys_modify {change : σ → σ} {after : Unit → σ → Prop}
    (ends : ∀ state, before state → after () (change state)) :
    (modify change : Procedure I σ ε Unit).Obeys conduct before after := by
  intro state state' trace outcome holds _ run
  obtain ⟨rfl, rfl, rfl⟩ := runs_modify_iff.mp run
  exact ⟨nofun, ends state holds⟩

theorem obeys_ask {query : I.Query} (allowed : conduct.allowed query)
    {after : I.Answer query → σ → Prop}
    (ends : ∀ answer state, before state → after answer state) :
    (ask query : Procedure I σ ε _).Obeys conduct before after := by
  intro state state' trace outcome holds _ run
  obtain ⟨answer, rfl, rfl, rfl⟩ := runs_ask_iff.mp run
  refine ⟨?_, ends answer state' holds⟩
  intro event member
  rw [List.mem_singleton.mp member]
  exact allowed

theorem obeys_bind {first : Procedure I σ ε β} {next : β → Procedure I σ ε α}
    (middle : β → σ → Prop) (obeys : first.Obeys conduct before middle)
    (rest : ∀ result, (next result).Obeys conduct (middle result) after) :
    (first >>= next).Obeys conduct before after := by
  intro state state' trace outcome holds expected run
  rcases runs_bind_iff.mp run with
    ⟨result, reached, front, back, rfl, firstRun, nextRun⟩ | ⟨error, rfl, firstRun⟩ |
    ⟨rfl, firstRun⟩
  · obtain ⟨frontExpected, backExpected⟩ := conduct.parts expected
    obtain ⟨frontAllowed, between⟩ := obeys holds frontExpected firstRun
    obtain ⟨backAllowed, ends⟩ := rest result between backExpected nextRun
    refine ⟨?_, ends⟩
    intro event member
    rcases List.mem_append.mp member with member | member
    · exact frontAllowed event member
    · exact backAllowed event member
  · exact obeys holds expected firstRun
  · exact obeys holds expected firstRun

theorem obeys_attempt {body : Procedure I σ ε α}
    {handler : ε → Option (Procedure I σ ε α)} (obeys : body.Obeys conduct before after)
    (clauses : ∀ error clause, conduct.known error → handler error = some clause →
      clause.Obeys conduct conduct.keeps after) :
    (attempt body handler).Obeys conduct before after := by
  intro state state' trace outcome holds expected run
  rcases runs_attempt_iff.mp run with
    ⟨result, rfl, bodyRun⟩ |
    ⟨error, clause, reached, front, back, rfl, clauseOf, bodyRun, clauseRun⟩ |
    ⟨error, rfl, _, bodyRun⟩ | ⟨rfl, bodyRun⟩
  · exact obeys holds expected bodyRun
  · obtain ⟨frontExpected, backExpected⟩ := conduct.parts expected
    obtain ⟨frontAllowed, known, kept⟩ := obeys holds frontExpected bodyRun
    obtain ⟨backAllowed, ends⟩ :=
      clauses error clause known clauseOf kept backExpected clauseRun
    refine ⟨?_, ends⟩
    intro event member
    rcases List.mem_append.mp member with member | member
    · exact frontAllowed event member
    · exact backAllowed event member
  · exact obeys holds expected bodyRun
  · exact obeys holds expected bodyRun

/-- Where a round ends: before the next round, or with the result of the loop. -/
def AfterRound (invariant : β → σ → Prop) (after : α → σ → Prop) : β ⊕ α → σ → Prop
  | .inl following => invariant following
  | .inr result => after result

theorem obeys_iterate {step : β → Procedure I σ ε (β ⊕ α)} (invariant : β → σ → Prop)
    (kept : ∀ current state, invariant current state → conduct.keeps state)
    (obeys : ∀ current, (step current).Obeys conduct (invariant current)
      (AfterRound invariant after)) (fuel : Nat) (current : β) :
    (iterate step fuel current).Obeys conduct (invariant current) after := by
  induction fuel generalizing current with
  | zero => exact obeys_cutOff (kept current)
  | succ fuel ih =>
      apply obeys_bind _ (obeys current)
      intro result
      cases result with
      | inl following => exact ih following
      | inr result => exact obeys_pure fun _ holds => holds

theorem follows_iterate {step : β → Procedure I σ ε (β ⊕ α)}
    (follows : ∀ current, (step current).Follows conduct) (fuel : Nat) (current : β) :
    (iterate step fuel current).Follows conduct := by
  apply obeys_iterate (fun _ => conduct.keeps) fun _ _ kept => kept
  intro current
  apply (follows current).weaken
  intro result state kept
  cases result with
  | inl following => exact kept
  | inr result => exact kept

section Fallible

variable {Query : Type} {Reply : Query → Type} {conduct : Conduct (fallible Query Reply ε) σ ε}
  {query : Query}

theorem obeys_invoke_bind {next : Reply query → Procedure (fallible Query Reply ε) σ ε α}
    (allowed : conduct.allowed query)
    (fails : ∀ state error, before state → conduct.expected [⟨query, .error error⟩] →
      conduct.known error ∧ conduct.keeps state)
    (rest : ∀ reply, conduct.expected [⟨query, .ok reply⟩] →
      (next reply).Obeys conduct before after) :
    (invoke query >>= next).Obeys conduct before after := by
  intro state state' trace outcome holds expected run
  rcases runs_invoke_bind_iff.mp run with ⟨reply, back, rfl, nextRun⟩ | ⟨error, rfl, rfl, rfl⟩
  · have split : conduct.expected ([⟨query, .ok reply⟩] ++ back) := expected
    obtain ⟨here, backExpected⟩ := conduct.parts split
    obtain ⟨backAllowed, ends⟩ := rest reply here holds backExpected nextRun
    refine ⟨?_, ends⟩
    intro event member
    rcases List.mem_cons.mp member with rfl | member
    · exact allowed
    · exact backAllowed event member
  · refine ⟨?_, fails _ error holds expected⟩
    intro event member
    rw [List.mem_singleton.mp member]
    exact allowed

theorem obeys_invoke {after : Reply query → σ → Prop} (allowed : conduct.allowed query)
    (fails : ∀ state error, before state → conduct.expected [⟨query, .error error⟩] →
      conduct.known error ∧ conduct.keeps state)
    (ends : ∀ reply state, conduct.expected [⟨query, .ok reply⟩] → before state →
      after reply state) :
    (invoke query : Procedure (fallible Query Reply ε) σ ε _).Obeys conduct before after := by
  intro state state' trace outcome holds expected run
  rcases runs_invoke_iff.mp run with ⟨reply, rfl, rfl, rfl⟩ | ⟨error, rfl, rfl, rfl⟩
  · refine ⟨?_, ends reply state' expected holds⟩
    intro event member
    rw [List.mem_singleton.mp member]
    exact allowed
  · refine ⟨?_, fails state' error holds expected⟩
    intro event member
    rw [List.mem_singleton.mp member]
    exact allowed

end Fallible

section Locals

variable (held : τ → Prop)

theorem obeys_onFirst {body : Procedure I σ ε α} (obeys : body.Obeys conduct before after) :
    (onFirst body : Procedure I (σ × τ) ε α).Obeys (conduct.beside held)
      (fun state => before state.1 ∧ held state.2)
      fun result state => after result state.1 ∧ held state.2 := by
  intro state state' trace outcome holds expected run
  obtain ⟨same, bodyRun⟩ := runs_onFirst_iff.mp run
  obtain ⟨allowed, ends⟩ := obeys holds.1 expected bodyRun
  refine ⟨allowed, ?_⟩
  have stays : held state'.2 := by
    rw [same]
    exact holds.2
  cases outcome with
  | value result => exact ⟨ends, stays⟩
  | raised error => exact ⟨ends.1, ends.2, stays⟩
  | running => exact ⟨ends, stays⟩

variable {held} in
theorem obeys_onSecond {body : Procedure I τ ε α} {good : α → Prop}
    (obeys : body.Obeys (conduct.on held) held fun result state => held state ∧ good result) :
    (onSecond body : Procedure I (σ × τ) ε α).Obeys (conduct.beside held)
      (conduct.beside held).keeps
      fun result state => (conduct.beside held).keeps state ∧ good result := by
  intro state state' trace outcome holds expected run
  obtain ⟨same, bodyRun⟩ := runs_onSecond_iff.mp run
  obtain ⟨allowed, ends⟩ := obeys holds.2 expected bodyRun
  refine ⟨allowed, ?_⟩
  have stays : conduct.keeps state'.1 := by
    rw [same]
    exact holds.1
  cases outcome with
  | value result => exact ⟨⟨stays, ends.1⟩, ends.2⟩
  | raised error => exact ⟨ends.1, stays, ends.2⟩
  | running => exact ⟨stays, ends⟩

theorem obeys_withLocal {initial : τ} {body : Procedure I (σ × τ) ε α}
    {after : α × τ → σ → Prop}
    (obeys : body.Obeys (conduct.beside held) (fun state => before state.1 ∧ state.2 = initial)
      fun result state => after (result, state.2) state.1) :
    (withLocal initial body).Obeys conduct before after := by
  intro state state' trace outcome holds expected run
  obtain ⟨ended, last, bodyRun, rfl⟩ := runs_withLocal_iff.mp run
  obtain ⟨allowed, ends⟩ := obeys ⟨holds, rfl⟩ expected bodyRun
  refine ⟨allowed, ?_⟩
  cases ended with
  | value result => exact ends
  | raised error => exact ⟨ends.1, ends.2.1⟩
  | running => exact ends.1

end Locals

end Rules

end Procedure

end Interaction
