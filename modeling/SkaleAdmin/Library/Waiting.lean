import SkaleAdmin.Library.InteractionRules
import Mathlib.Algebra.Group.PUnit
import Mathlib.Tactic.Linarith
import Mathlib.Algebra.Ring.BooleanRing

/-! Runs on a clock that some of the calls advance, and what a procedure spends of it. -/

namespace Interaction

open Program

variable {I : Interface}

/-! ### Totals of a trace -/

def total (weight : Event I → Nat) (trace : Trace I) : Nat :=
  (trace.map weight).sum

section Total

variable {weight : Event I → Nat}

@[simp] theorem total_nil : total weight [] = 0 := rfl

@[simp] theorem total_cons {event : Event I} {rest : Trace I} :
    total weight (event :: rest) = weight event + total weight rest := by
  simp [total]

@[simp] theorem total_append {front back : Trace I} :
    total weight (front ++ back) = total weight front + total weight back := by
  simp [total]

end Total

/-! ### Timing -/

/-- How long a call takes, and the answers that fit the time at which it is posed. -/
structure Timing (I : Interface) where
  takes : Event I → Nat
  fits : Int → Event I → Prop

namespace Timing

variable (timing : Timing I)

def Timely : Int → Trace I → Prop
  | _, [] => True
  | now, event :: rest => timing.fits now event ∧ Timely (now + timing.takes event) rest

variable {timing} {now : Int}

theorem timely_append {front back : Trace I} :
    timing.Timely now (front ++ back) ↔
      timing.Timely now front ∧ timing.Timely (now + total timing.takes front) back := by
  induction front generalizing now with
  | nil => simp [Timely]
  | cons event front ih => simp [Timely, ih, and_assoc, add_assoc]

end Timing

/-! ### A world that answers by the clock -/

namespace Program

variable {ρ : Type}

/-- The run against a world whose answers depend on the time only. -/
def clocked (takes : Event I → Nat) (answers : Int → (query : I.Query) → I.Answer query) :
    Program I ρ → Int → Trace I × ρ
  | .done result, _ => ([], result)
  | .call query next, now =>
      let event : Event I := ⟨query, answers now query⟩
      let rest := (next event.answer).clocked takes answers (now + takes event)
      (event :: rest.1, rest.2)

variable {answers : Int → (query : I.Query) → I.Answer query}

theorem runs_clocked (takes : Event I → Nat) (program : Program I ρ) (now : Int) :
    Runs program (program.clocked takes answers now).1
      (program.clocked takes answers now).2 := by
  induction program generalizing now with
  | done result => exact .done result
  | call query next ih => exact .call _ (ih _ _)

theorem mem_clocked {takes : Event I → Nat} {program : Program I ρ} {now : Int}
    {event : Event I} (member : event ∈ (program.clocked takes answers now).1) :
    ∃ time, event.answer = answers time event.query := by
  induction program generalizing now with
  | done result => cases member
  | call query next ih =>
      rcases List.mem_cons.mp member with rfl | member
      · exact ⟨now, rfl⟩
      · exact ih _ member

theorem timely_clocked {timing : Timing I} {origin : Int}
    (fits : ∀ now query, origin ≤ now → timing.fits now ⟨query, answers now query⟩)
    (program : Program I ρ) {now : Int} (late : origin ≤ now) :
    timing.Timely now (program.clocked timing.takes answers now).1 := by
  induction program generalizing now with
  | done result => trivial
  | call query next ih => exact ⟨fits now query late, ih _ (by omega)⟩

end Program

/-! ### What a run spends -/

/-- What is paid for by an index; longer traces need the sum of the indices. -/
structure Grade (I : Interface) (ι : Type) [AddMonoid ι] where
  holds : ι → Trace I → Prop
  nil : holds 0 []
  append : ∀ {i j : ι} {front back : Trace I},
    holds i front → holds j back → holds (i + j) (front ++ back)
  weaken : ∀ {i j : ι} {trace : Trace I}, holds i trace → holds (i + j) trace

def Grade.untouched (weight mark : Event I → Nat) : Grade I Unit where
  holds _ trace := total weight trace = 0 ∧ total mark trace = 0
  nil := ⟨rfl, rfl⟩
  append front back := by
    rw [total_append, total_append, front.1, back.1, front.2, back.2]
    exact ⟨rfl, rfl⟩
  weaken held := held

namespace Procedure

variable {σ τ ε α β ι : Type} [AddMonoid ι]

/-- In a timely run that does not begin before `origin`, `after` holds of the outcome and
of the calls. -/
def Spends (timing : Timing I) (keeps : σ → Prop) (origin : Int)
    (after : Outcome ε α → Trace I → Prop) (body : Procedure I σ ε α) : Prop :=
  ∀ ⦃now : Int⦄ ⦃state state' : σ⦄ ⦃trace : Trace I⦄ ⦃outcome : Outcome ε α⦄,
    origin ≤ now → keeps state → timing.Timely now trace →
      Runs (body state) trace (outcome, state') → keeps state' ∧ after outcome trace

/-- Every timely run ends by itself within the index. -/
def Pays (timing : Timing I) (grade : Grade I ι) (keeps : σ → Prop) (origin : Int) (i : ι)
    (body : Procedure I σ ε α) : Prop :=
  body.Spends timing keeps origin fun outcome trace =>
    outcome ≠ .running ∧ grade.holds i trace

variable {timing : Timing I} {grade : Grade I ι} {keeps : σ → Prop} {origin : Int} {i j : ι}

theorem Pays.weaken {body : Procedure I σ ε α} (pays : body.Pays timing grade keeps origin i) :
    body.Pays timing grade keeps origin (i + j) := by
  intro now state state' trace outcome late kept timely run
  obtain ⟨kept', ends, held⟩ := pays late kept timely run
  exact ⟨kept', ends, grade.weaken held⟩

theorem Pays.late {body : Procedure I σ ε α} {later : Int}
    (pays : body.Pays timing grade keeps origin i) (late : origin ≤ later) :
    body.Pays timing grade keeps later i := by
  intro now state state' trace outcome since kept timely run
  exact pays (late.trans since) kept timely run

theorem pays_pure (result : α) :
    (pure result : Procedure I σ ε α).Pays timing grade keeps origin 0 := by
  intro now state state' trace outcome _ kept _ run
  obtain ⟨rfl, rfl, rfl⟩ := runs_pure_iff.mp run
  exact ⟨kept, nofun, grade.nil⟩

theorem pays_raise (error : ε) :
    (raise error : Procedure I σ ε α).Pays timing grade keeps origin 0 := by
  intro now state state' trace outcome _ kept _ run
  obtain ⟨rfl, rfl, rfl⟩ := runs_raise_iff.mp run
  exact ⟨kept, nofun, grade.nil⟩

theorem pays_read (view : σ → α) :
    (read view : Procedure I σ ε α).Pays timing grade keeps origin 0 := by
  intro now state state' trace outcome _ kept _ run
  obtain ⟨rfl, rfl, rfl⟩ := runs_read_iff.mp run
  exact ⟨kept, nofun, grade.nil⟩

theorem pays_modify {change : σ → σ} (stays : ∀ state, keeps state → keeps (change state)) :
    (modify change : Procedure I σ ε Unit).Pays timing grade keeps origin 0 := by
  intro now state state' trace outcome _ kept _ run
  obtain ⟨rfl, rfl, rfl⟩ := runs_modify_iff.mp run
  exact ⟨stays _ kept, nofun, grade.nil⟩

theorem pays_ask {query : I.Query} (paid : ∀ answer, grade.holds i [⟨query, answer⟩]) :
    (ask query : Procedure I σ ε _).Pays timing grade keeps origin i := by
  intro now state state' trace outcome _ kept _ run
  obtain ⟨answer, rfl, rfl, rfl⟩ := runs_ask_iff.mp run
  exact ⟨kept, nofun, paid answer⟩

theorem pays_invoke {Query : Type} {Reply : Query → Type} {query : Query}
    {timing : Timing (fallible Query Reply ε)} {grade : Grade (fallible Query Reply ε) ι}
    (paid : ∀ answer, grade.holds i [⟨query, answer⟩]) :
    (invoke query : Procedure (fallible Query Reply ε) σ ε _).Pays timing grade keeps
      origin i := by
  intro now state state' trace outcome _ kept _ run
  rcases runs_invoke_iff.mp run with ⟨reply, rfl, rfl, rfl⟩ | ⟨error, rfl, rfl, rfl⟩
  · exact ⟨kept, nofun, paid _⟩
  · exact ⟨kept, nofun, paid _⟩

theorem pays_bind {first : Procedure I σ ε β} {next : β → Procedure I σ ε α}
    (firstPays : first.Pays timing grade keeps origin i)
    (nextPays : ∀ result, (next result).Pays timing grade keeps origin j) :
    (first >>= next).Pays timing grade keeps origin (i + j) := by
  intro now state state' trace outcome late kept timely run
  rcases runs_bind_iff.mp run with
    ⟨result, middle, front, back, rfl, firstRun, nextRun⟩ |
    ⟨error, rfl, firstRun⟩ | ⟨rfl, firstRun⟩
  · obtain ⟨before, after⟩ := Timing.timely_append.mp timely
    obtain ⟨kept, _, paid⟩ := firstPays late kept before firstRun
    obtain ⟨kept, ends, rest⟩ := nextPays result (by omega) kept after nextRun
    exact ⟨kept, ends, grade.append paid rest⟩
  · obtain ⟨kept, _, paid⟩ := firstPays late kept timely firstRun
    exact ⟨kept, nofun, grade.weaken paid⟩
  · exact absurd rfl (firstPays late kept timely firstRun).2.1

theorem pays_bind_of_idle {first : Procedure I σ ε β} {next : β → Procedure I σ ε α}
    (firstPays : first.Pays timing grade keeps origin 0)
    (nextPays : ∀ result, (next result).Pays timing grade keeps origin i) :
    (first >>= next).Pays timing grade keeps origin i := by
  have both := pays_bind firstPays nextPays
  rwa [zero_add] at both

theorem pays_invoke_bind {Query : Type} {Reply : Query → Type} {query : Query}
    {timing : Timing (fallible Query Reply ε)} {grade : Grade (fallible Query Reply ε) ι}
    {next : Reply query → Procedure (fallible Query Reply ε) σ ε α}
    (paid : ∀ answer back, grade.holds j back → grade.holds i (⟨query, answer⟩ :: back))
    (rest : ∀ now reply, origin ≤ now → timing.fits now ⟨query, .ok reply⟩ →
      (next reply).Pays timing grade keeps now j) :
    (invoke query >>= next).Pays timing grade keeps origin i := by
  intro now state state' trace outcome late kept timely run
  rcases runs_invoke_bind_iff.mp run with
    ⟨reply, back, rfl, nextRun⟩ | ⟨error, rfl, rfl, rfl⟩
  · obtain ⟨fits, timely⟩ := timely
    obtain ⟨kept, ends, held⟩ := rest now reply late fits (by omega) kept timely nextRun
    exact ⟨kept, ends, paid _ _ held⟩
  · have held : grade.holds (0 + j) [] := grade.weaken grade.nil
    rw [zero_add] at held
    exact ⟨kept, nofun, paid _ _ held⟩

theorem pays_attempt {body : Procedure I σ ε α} {handler : ε → Option (Procedure I σ ε α)}
    (bodyPays : body.Pays timing grade keeps origin i)
    (clausePays : ∀ error clause, handler error = some clause →
      clause.Pays timing grade keeps origin j) :
    (attempt body handler).Pays timing grade keeps origin (i + j) := by
  intro now state state' trace outcome late kept timely run
  rcases runs_attempt_iff.mp run with
    ⟨result, rfl, bodyRun⟩ |
    ⟨error, clause, middle, front, back, rfl, clauseOf, bodyRun, clauseRun⟩ |
    ⟨error, rfl, clauseOf, bodyRun⟩ | ⟨rfl, bodyRun⟩
  · obtain ⟨kept, ends, paid⟩ := bodyPays late kept timely bodyRun
    exact ⟨kept, ends, grade.weaken paid⟩
  · obtain ⟨before, after⟩ := Timing.timely_append.mp timely
    obtain ⟨kept, _, paid⟩ := bodyPays late kept before bodyRun
    obtain ⟨kept, ends, rest⟩ := clausePays error clause clauseOf (by omega) kept after clauseRun
    exact ⟨kept, ends, grade.append paid rest⟩
  · obtain ⟨kept, ends, paid⟩ := bodyPays late kept timely bodyRun
    exact ⟨kept, ends, grade.weaken paid⟩
  · exact absurd rfl (bodyPays late kept timely bodyRun).2.1

def OfFirst (keeps : σ → Prop) (state : σ × τ) : Prop := keeps state.1

theorem pays_onFirst {body : Procedure I σ ε α}
    (pays : body.Pays timing grade keeps origin i) :
    (onFirst body : Procedure I (σ × τ) ε α).Pays timing grade (OfFirst keeps) origin i := by
  intro now state state' trace outcome late kept timely run
  exact pays late kept timely (runs_onFirst_iff.mp run).2

theorem pays_onSecond {body : Procedure I τ ε α}
    (pays : body.Pays timing grade (fun _ => True) origin i) :
    (onSecond body : Procedure I (σ × τ) ε α).Pays timing grade (OfFirst keeps) origin i := by
  intro now state state' trace outcome late kept timely run
  obtain ⟨same, bodyRun⟩ := runs_onSecond_iff.mp run
  refine ⟨?_, (pays late trivial timely bodyRun).2⟩
  unfold OfFirst
  rw [same]
  exact kept

theorem pays_withLocal {initial : τ} {body : Procedure I (σ × τ) ε α}
    (pays : body.Pays timing grade (OfFirst keeps) origin i) :
    (withLocal initial body).Pays timing grade keeps origin i := by
  intro now state state' trace outcome late kept timely run
  obtain ⟨ended, held, bodyRun, rfl⟩ := runs_withLocal_iff.mp run
  have keptBoth : OfFirst keeps (state, initial) := kept
  obtain ⟨kept, ends, paid⟩ := pays late keptBoth timely bodyRun
  refine ⟨kept, ?_, paid⟩
  cases ended with
  | value result => nofun
  | raised error => nofun
  | running => exact absurd rfl ends

/-! ### Loops that look at the clock -/

def Idles (timing : Timing I) (keeps : σ → Prop) (weight mark : Event I → Nat)
    (body : Procedure I σ ε α) : Prop :=
  ∀ origin, body.Pays timing (Grade.untouched weight mark) keeps origin ()

/-- A round that goes on did not begin after `deadline`, and takes a pause. -/
def Paced (timing : Timing I) (keeps : σ → Prop) (weight mark : Event I → Nat) (pause : Nat)
    (deadline origin : Int) (body : Procedure I σ ε (β ⊕ α)) : Prop :=
  body.Spends timing keeps origin fun outcome trace =>
    outcome ≠ .running ∧ total mark trace = 0 ∧
      match outcome with
      | .value (.inl _) => origin ≤ deadline ∧ pause ≤ total timing.takes trace ∧
          total weight trace = pause
      | _ => total weight trace = 0

variable {weight mark : Event I → Nat} {pause : Nat} {deadline : Int}

theorem paced_bind {first : Procedure I σ ε τ} {next : τ → Procedure I σ ε (β ⊕ α)}
    (idles : first.Idles timing keeps weight mark)
    (paced : ∀ result, (next result).Paced timing keeps weight mark pause deadline origin) :
    (first >>= next).Paced timing keeps weight mark pause deadline origin := by
  intro now state state' trace outcome late kept timely run
  rcases runs_bind_iff.mp run with
    ⟨result, middle, front, back, rfl, firstRun, nextRun⟩ |
    ⟨error, rfl, firstRun⟩ | ⟨rfl, firstRun⟩
  · obtain ⟨before, after⟩ := Timing.timely_append.mp timely
    obtain ⟨kept, _, light, unmarked⟩ := idles origin late kept before firstRun
    obtain ⟨kept, ends, unmarkedToo, rest⟩ := paced result (by omega) kept after nextRun
    refine ⟨kept, ends, by rw [total_append, unmarked, unmarkedToo], ?_⟩
    rw [total_append, total_append, light, Nat.zero_add]
    match outcome, rest with
    | .value (.inl following), ⟨early, slept, weighed⟩ => exact ⟨early, by omega, weighed⟩
    | .value (.inr result), weighed => exact weighed
    | .raised error, weighed => exact weighed
    | .running, weighed => exact weighed
  · obtain ⟨kept, _, light, unmarked⟩ := idles origin late kept timely firstRun
    exact ⟨kept, nofun, unmarked, light⟩
  · exact absurd rfl (idles origin late kept timely firstRun).2.1

theorem paced_read {view : σ → τ} {next : τ → Procedure I σ ε (β ⊕ α)}
    (paced : ∀ state, keeps state →
      (next (view state)).Paced timing keeps weight mark pause deadline origin) :
    (read view >>= next).Paced timing keeps weight mark pause deadline origin := by
  intro now state state' trace outcome late kept timely run
  rw [read_bind_apply] at run
  exact paced state kept late kept timely run

theorem paced_invoke_bind {Query : Type} {Reply : Query → Type} {query : Query}
    {timing : Timing (fallible Query Reply ε)}
    {weight mark : Event (fallible Query Reply ε) → Nat}
    {next : Reply query → Procedure (fallible Query Reply ε) σ ε (β ⊕ α)}
    (light : ∀ answer, weight ⟨query, answer⟩ = 0 ∧ mark ⟨query, answer⟩ = 0)
    (paced : ∀ now reply, origin ≤ now → timing.fits now ⟨query, .ok reply⟩ →
      (next reply).Paced timing keeps weight mark pause deadline origin) :
    (invoke query >>= next).Paced timing keeps weight mark pause deadline origin := by
  intro now state state' trace outcome late kept timely run
  rcases runs_invoke_bind_iff.mp run with
    ⟨reply, back, rfl, nextRun⟩ | ⟨error, rfl, rfl, rfl⟩
  · obtain ⟨fits, timely⟩ := timely
    obtain ⟨kept, ends, unmarked, rest⟩ :=
      paced now reply late fits (by omega) kept timely nextRun
    refine ⟨kept, ends, by rw [total_cons, (light _).2, unmarked], ?_⟩
    rw [total_cons, total_cons, (light _).1, Nat.zero_add]
    match outcome, rest with
    | .value (.inl following), ⟨early, slept, weighed⟩ => exact ⟨early, by omega, weighed⟩
    | .value (.inr result), weighed => exact weighed
    | .raised error, weighed => exact weighed
    | .running, weighed => exact weighed
  · have light := light (.error error)
    exact ⟨kept, nofun, by simp [light.2], by simp [light.1]⟩

theorem paced_inr (result : α) :
    (pure (.inr result) : Procedure I σ ε (β ⊕ α)).Paced timing keeps weight mark pause
      deadline origin := by
  intro now state state' trace outcome _ kept _ run
  obtain ⟨rfl, rfl, rfl⟩ := runs_pure_iff.mp run
  exact ⟨kept, nofun, rfl, rfl⟩

theorem paced_raise (error : ε) :
    (raise error : Procedure I σ ε (β ⊕ α)).Paced timing keeps weight mark pause
      deadline origin := by
  intro now state state' trace outcome _ kept _ run
  obtain ⟨rfl, rfl, rfl⟩ := runs_raise_iff.mp run
  exact ⟨kept, nofun, rfl, rfl⟩

theorem runs_iterate_paced {step : β → Procedure I σ ε (β ⊕ α)} {current : β} {fuel : Nat}
    {now : Int} {state state' : σ} {trace : Trace I} {outcome : Outcome ε α}
    (paced : (step current).Paced timing keeps weight mark pause deadline now)
    (kept : keeps state) (timely : timing.Timely now trace)
    (run : Runs (iterate step (fuel + 1) current state) trace (outcome, state')) :
    (keeps state' ∧ outcome ≠ .running ∧ total mark trace = 0 ∧ total weight trace = 0) ∨
      ∃ following middle front back, trace = front ++ back ∧
        (now ≤ deadline ∧ pause ≤ total timing.takes front ∧ total weight front = pause ∧
          total mark front = 0) ∧
        keeps middle ∧ timing.Timely (now + total timing.takes front) back ∧
        Runs (iterate step fuel following middle) back (outcome, state') := by
  rcases runs_bind_iff.mp run with
    ⟨ended, middle, front, back, rfl, round, rest⟩ | ⟨error, rfl, round⟩ | ⟨rfl, round⟩
  · obtain ⟨before, after⟩ := Timing.timely_append.mp timely
    obtain ⟨kept, _, unmarked, ends⟩ := paced le_rfl kept before round
    cases ended with
    | inl following =>
        exact .inr ⟨following, middle, front, back, rfl,
          ⟨ends.1, ends.2.1, ends.2.2, unmarked⟩, kept, after, rest⟩
    | inr result =>
        obtain ⟨rfl, rfl, rfl⟩ := runs_pure_iff.mp rest
        rw [List.append_nil]
        exact .inl ⟨kept, nofun, unmarked, ends⟩
  · obtain ⟨kept, _, unmarked, light⟩ := paced le_rfl kept timely round
    exact .inl ⟨kept, nofun, unmarked, light⟩
  · exact absurd rfl (paced le_rfl kept timely round).2.1

/-- Each round that goes on takes a pause, so that their number is bounded by the time up
to the deadline. -/
theorem spends_iterate {step : β → Procedure I σ ε (β ⊕ α)}
    (paced : ∀ origin current,
      (step current).Paced timing keeps weight mark pause deadline origin)
    (fuel : Nat) (current : β) (enough : deadline < origin + pause * fuel) :
    (iterate step (fuel + 1) current).Spends timing keeps origin fun outcome trace =>
      outcome ≠ .running ∧ total mark trace = 0 ∧
        (total weight trace : Int) ≤ max 0 (deadline + pause - origin) := by
  induction fuel generalizing current origin with
  | zero =>
      intro now state state' trace outcome late kept timely run
      rcases runs_iterate_paced (paced now current) kept timely run with
        ⟨kept, ends, unmarked, light⟩ | ⟨_, _, _, _, _, ⟨early, _⟩, _⟩
      · exact ⟨kept, ends, unmarked, by omega⟩
      · omega
  | succ fuel ih =>
      intro now state state' trace outcome late kept timely run
      rcases runs_iterate_paced (paced now current) kept timely run with
        ⟨kept, ends, unmarked, light⟩ |
        ⟨following, middle, front, back, rfl, ⟨early, slept, weighed, unmarked⟩, kept,
          after, rest⟩
      · exact ⟨kept, ends, unmarked, by omega⟩
      · have enoughThen : deadline < now + pause + pause * fuel := by
          push_cast at enough
          linarith
        obtain ⟨kept, ends, unmarkedToo, weighedToo⟩ :=
          ih following enoughThen (by omega) kept after rest
        refine ⟨kept, ends, by rw [total_append, unmarked, unmarkedToo], ?_⟩
        rw [total_append]
        omega

end Procedure

end Interaction
