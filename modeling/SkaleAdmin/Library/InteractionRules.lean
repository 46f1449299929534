import SkaleAdmin.Library.Interaction

/-! Two kinds of judgement about procedures, with the rules that derive them
along the way a procedure is written: frames, which bound what a procedure may
ask and change, and triples, which speak of the whole history of a run. -/

namespace Interaction

open Program

/-- A relation between the trace of a run and the states at its two ends that
composes along sequences. -/
structure Frame (I : Interface) (σ : Type) where
  holds : Trace I → σ → σ → Prop
  refl : ∀ state, holds [] state state
  trans : ∀ {front back : Trace I} {first middle last : σ},
    holds front first middle → holds back middle last →
      holds (front ++ back) first last

namespace Frame

variable {I : Interface} {σ κ : Type}

/-- Only calls in `allowed` are posed and `view` of the state keeps its value. -/
def confined (allowed : I.Query → Prop) (view : σ → κ) : Frame I σ where
  holds trace first last :=
    (∀ event ∈ trace, allowed event.query) ∧ view last = view first
  refl _ := ⟨fun _ member => absurd member List.not_mem_nil, rfl⟩
  trans := by
    rintro front back first middle last ⟨frontAllowed, frontKept⟩
      ⟨backAllowed, backKept⟩
    refine ⟨fun event member => ?_, backKept.trans frontKept⟩
    rcases List.mem_append.mp member with frontMember | backMember
    · exact frontAllowed event frontMember
    · exact backAllowed event backMember

end Frame

namespace Procedure

variable {I : Interface} {σ τ ε α β : Type}

/-- Every run of the procedure, however it ends, lies in the frame. -/
def Within (body : Procedure I σ ε α) (frame : Frame I σ) : Prop :=
  ∀ ⦃state state' : σ⦄ ⦃trace : Trace I⦄ ⦃outcome : Outcome ε α⦄,
    Runs (body state) trace (outcome, state') → frame.holds trace state state'

section Within

variable {frame : Frame I σ}

theorem within_pure (result : α) :
    (pure result : Procedure I σ ε α).Within frame := by
  intro state state' trace outcome run
  obtain ⟨rfl, rfl, rfl⟩ := runs_pure_iff.mp run
  exact frame.refl _

theorem within_raise (error : ε) :
    (raise error : Procedure I σ ε α).Within frame := by
  intro state state' trace outcome run
  obtain ⟨rfl, rfl, rfl⟩ := runs_raise_iff.mp run
  exact frame.refl _

theorem within_cutOff : (cutOff : Procedure I σ ε α).Within frame := by
  intro state state' trace outcome run
  obtain ⟨rfl, rfl, rfl⟩ := runs_cutOff_iff.mp run
  exact frame.refl _

theorem within_read (view : σ → α) :
    (read view : Procedure I σ ε α).Within frame := by
  intro state state' trace outcome run
  obtain ⟨rfl, rfl, rfl⟩ := runs_read_iff.mp run
  exact frame.refl _

theorem within_modify {change : σ → σ}
    (kept : ∀ state, frame.holds [] state (change state)) :
    (modify change : Procedure I σ ε Unit).Within frame := by
  intro state state' trace outcome run
  obtain ⟨rfl, rfl, rfl⟩ := runs_modify_iff.mp run
  exact kept _

theorem within_ask {query : I.Query}
    (kept : ∀ answer state, frame.holds [⟨query, answer⟩] state state) :
    (ask query : Procedure I σ ε _).Within frame := by
  intro state state' trace outcome run
  obtain ⟨answer, rfl, rfl, rfl⟩ := runs_ask_iff.mp run
  exact kept answer _

theorem within_invoke {Query : Type} {Reply : Query → Type} {query : Query}
    {frame : Frame (fallible Query Reply ε) σ}
    (kept : ∀ answer state, frame.holds [⟨query, answer⟩] state state) :
    (invoke query : Procedure (fallible Query Reply ε) σ ε _).Within frame := by
  intro state state' trace outcome run
  rcases runs_invoke_iff.mp run with ⟨reply, rfl, _, rfl⟩ | ⟨error, rfl, _, rfl⟩
  · exact kept _ _
  · exact kept _ _

theorem within_bind {first : Procedure I σ ε β}
    {next : β → Procedure I σ ε α} (firstWithin : first.Within frame)
    (nextWithin : ∀ result, (next result).Within frame) :
    (first >>= next).Within frame := by
  intro state state' trace outcome run
  rcases runs_bind_iff.mp run with
    ⟨result, middle, front, back, rfl, firstRun, nextRun⟩ |
    ⟨error, rfl, firstRun⟩ | ⟨rfl, firstRun⟩
  · exact frame.trans (firstWithin firstRun) (nextWithin result nextRun)
  · exact firstWithin firstRun
  · exact firstWithin firstRun

theorem within_attempt {body : Procedure I σ ε α}
    {handler : ε → Option (Procedure I σ ε α)} (bodyWithin : body.Within frame)
    (clauseWithin : ∀ error clause, handler error = some clause →
      clause.Within frame) :
    (attempt body handler).Within frame := by
  intro state state' trace outcome run
  rcases runs_attempt_iff.mp run with
    ⟨result, rfl, bodyRun⟩ |
    ⟨error, clause, middle, front, back, rfl, clauseOf, bodyRun, clauseRun⟩ |
    ⟨error, rfl, clauseOf, bodyRun⟩ | ⟨rfl, bodyRun⟩
  · exact bodyWithin bodyRun
  · exact frame.trans (bodyWithin bodyRun)
      (clauseWithin error clause clauseOf clauseRun)
  · exact bodyWithin bodyRun
  · exact bodyWithin bodyRun

theorem within_iterate {step : β → Procedure I σ ε (β ⊕ α)}
    (stepWithin : ∀ current, (step current).Within frame) (fuel : Nat)
    (current : β) : (iterate step fuel current).Within frame := by
  induction fuel generalizing current with
  | zero => exact within_cutOff
  | succ fuel ih =>
      refine within_bind (stepWithin current) fun result => ?_
      cases result with
      | inl following => exact ih following
      | inr result => exact within_pure result

variable {κ κ' : Type} {allowed allowed' : I.Query → Prop} {view : σ → κ}

theorem Within.not_poses {asked : I.Query → Bool} {body : Procedure I σ ε α}
    (within : body.Within (.confined allowed view))
    (apart : ∀ query, allowed query → asked query = false)
    {state state' : σ} {trace : Trace I} {outcome : Outcome ε α}
    (run : Runs (body state) trace (outcome, state')) :
    ¬ Poses asked trace :=
  not_poses_of_forall (within run).1 apart

theorem within_confined_mono {view' : σ → κ'} (coarsen : κ → κ')
    {body : Procedure I σ ε α} (within : body.Within (.confined allowed view))
    (wider : ∀ query, allowed query → allowed' query)
    (coarser : ∀ state, view' state = coarsen (view state)) :
    body.Within (.confined allowed' view') := by
  intro state state' trace outcome run
  obtain ⟨calls, kept⟩ := within run
  refine ⟨fun event member => wider _ (calls event member), ?_⟩
  rw [coarser, coarser, kept]

theorem within_onFirst {body : Procedure I σ ε α}
    (within : body.Within (.confined allowed view)) :
    (onFirst body : Procedure I (σ × τ) ε α).Within
      (.confined allowed fun state => view state.1) := by
  intro state state' trace outcome run
  exact within (runs_onFirst_iff.mp run).2

theorem within_onSecond {body : Procedure I τ ε α} {unseen : τ → Unit}
    (within : body.Within (.confined allowed unseen)) :
    (onSecond body : Procedure I (σ × τ) ε α).Within
      (.confined allowed fun state => view state.1) := by
  intro state state' trace outcome run
  obtain ⟨same, bodyRun⟩ := runs_onSecond_iff.mp run
  exact ⟨(within bodyRun).1, congrArg view same⟩

theorem within_withLocal {initial : τ} {body : Procedure I (σ × τ) ε α}
    (within : body.Within (.confined allowed fun state => view state.1)) :
    (withLocal initial body).Within (.confined allowed view) := by
  intro state state' trace outcome run
  obtain ⟨ended, held, bodyRun, _⟩ := runs_withLocal_iff.mp run
  exact within bodyRun

end Within

/-- A run that continues a history in `before` ends in `after`. -/
def Triple (before : Trace I → σ → Prop) (body : Procedure I σ ε α)
    (after : Outcome ε α → Trace I → σ → Prop) : Prop :=
  ∀ ⦃past : Trace I⦄ ⦃state state' : σ⦄ ⦃trace : Trace I⦄
    ⦃outcome : Outcome ε α⦄, before past state →
    Runs (body state) trace (outcome, state') →
    after outcome (past ++ trace) state'

section Triple

variable {before : Trace I → σ → Prop}
  {after : Outcome ε α → Trace I → σ → Prop}

theorem triple_pure {result : α}
    (ends : ∀ past state, before past state → after (.value result) past state) :
    Triple before (pure result : Procedure I σ ε α) after := by
  intro past state state' trace outcome holds run
  obtain ⟨rfl, rfl, rfl⟩ := runs_pure_iff.mp run
  simpa using ends past state' holds

theorem triple_raise {error : ε}
    (ends : ∀ past state, before past state → after (.raised error) past state) :
    Triple before (raise error : Procedure I σ ε α) after := by
  intro past state state' trace outcome holds run
  obtain ⟨rfl, rfl, rfl⟩ := runs_raise_iff.mp run
  simpa using ends past state' holds

theorem triple_cutOff
    (ends : ∀ past state, before past state → after .running past state) :
    Triple before (cutOff : Procedure I σ ε α) after := by
  intro past state state' trace outcome holds run
  obtain ⟨rfl, rfl, rfl⟩ := runs_cutOff_iff.mp run
  simpa using ends past state' holds

/-- The post-condition `between` of the first part must carry over to the
sequence wherever that part does not end in a value. -/
theorem triple_bind {first : Procedure I σ ε β} {next : β → Procedure I σ ε α}
    {between : Outcome ε β → Trace I → σ → Prop}
    (firstTriple : Triple before first between)
    (nextTriple : ∀ result, Triple (between (.value result)) (next result) after)
    (raised : ∀ error past state, between (.raised error) past state →
      after (.raised error) past state)
    (running : ∀ past state, between .running past state →
      after .running past state) :
    Triple before (first >>= next) after := by
  intro past state state' trace outcome holds run
  rcases runs_bind_iff.mp run with
    ⟨result, middle, front, back, rfl, firstRun, nextRun⟩ |
    ⟨error, rfl, firstRun⟩ | ⟨rfl, firstRun⟩
  · rw [← List.append_assoc]
    exact nextTriple result (firstTriple holds firstRun) nextRun
  · exact raised error _ _ (firstTriple holds firstRun)
  · exact running _ _ (firstTriple holds firstRun)

theorem triple_attempt {body : Procedure I σ ε α}
    {handler : ε → Option (Procedure I σ ε α)}
    {between : Outcome ε α → Trace I → σ → Prop}
    (bodyTriple : Triple before body between)
    (clauseTriple : ∀ error clause, handler error = some clause →
      Triple (between (.raised error)) clause after)
    (value : ∀ result past state, between (.value result) past state →
      after (.value result) past state)
    (raised : ∀ error past state, handler error = none →
      between (.raised error) past state → after (.raised error) past state)
    (running : ∀ past state, between .running past state →
      after .running past state) :
    Triple before (attempt body handler) after := by
  intro past state state' trace outcome holds run
  rcases runs_attempt_iff.mp run with
    ⟨result, rfl, bodyRun⟩ |
    ⟨error, clause, middle, front, back, rfl, clauseOf, bodyRun, clauseRun⟩ |
    ⟨error, rfl, clauseOf, bodyRun⟩ | ⟨rfl, bodyRun⟩
  · exact value result _ _ (bodyTriple holds bodyRun)
  · rw [← List.append_assoc]
    exact clauseTriple error clause clauseOf (bodyTriple holds bodyRun) clauseRun
  · exact raised error _ _ clauseOf (bodyTriple holds bodyRun)
  · exact running _ _ (bodyTriple holds bodyRun)

/-- What a round of a loop has to establish: the invariant for the next round,
or what holds after the loop. -/
def RoundEnds (invariant : β → Trace I → σ → Prop)
    (after : Outcome ε α → Trace I → σ → Prop) :
    Outcome ε (β ⊕ α) → Trace I → σ → Prop
  | .value (.inl following) => invariant following
  | .value (.inr result) => after (.value result)
  | .raised error => after (.raised error)
  | .running => after .running

/-- The loop rule: an invariant that every round keeps. -/
theorem triple_iterate {step : β → Procedure I σ ε (β ⊕ α)}
    (invariant : β → Trace I → σ → Prop)
    (stepTriple : ∀ current, Triple (invariant current) (step current)
      (RoundEnds invariant after))
    (cut : ∀ current past state, invariant current past state →
      after .running past state) (fuel : Nat) (current : β) :
    Triple (invariant current) (iterate step fuel current) after := by
  induction fuel generalizing current with
  | zero => exact triple_cutOff (cut current)
  | succ fuel ih =>
      refine triple_bind (stepTriple current) (fun result => ?_)
        (fun _ _ _ holds => holds) (fun _ _ holds => holds)
      cases result with
      | inl following => exact ih following
      | inr result => exact triple_pure fun _ _ holds => holds

theorem Triple.consequence {body : Procedure I σ ε α}
    {before' : Trace I → σ → Prop}
    {after' : Outcome ε α → Trace I → σ → Prop}
    (triple : Triple before body after)
    (weaken : ∀ past state, before' past state → before past state)
    (strengthen : ∀ outcome past state, after outcome past state →
      after' outcome past state) :
    Triple before' body after' := by
  intro past state state' trace outcome holds run
  exact strengthen _ _ _ (triple (weaken _ _ holds) run)

end Triple

end Procedure

end Interaction
