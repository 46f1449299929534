import SkaleAdmin.Library.Calls

/-! Outlines whose assertions are about a part of the world that no move
changes; of what a procedure raises nothing is said. -/

namespace Interaction

/-- A host, what is assumed of its steps and what is kept, with the part of the
world that assertions are about. -/
structure Ledger (I : Interface) (W M J ρ κ : Type) where
  host : Host I W M J ρ
  discipline : Host.Discipline I W M J
  invariant : W → Prop
  view : W → κ
  unmoved : ∀ world move moved, host.move world move = some moved →
    view moved = view world

namespace Ledger

open Procedure

variable {I : Interface} {W M J ρ κ ε α β : Type} (ledger : Ledger I W M J ρ κ)

/-- The body, started where `before` holds, keeps the invariant and returns
where `after` holds. -/
def Yields (before : κ → Prop) (body : Procedure I Unit ε α)
    (after : α → κ → Prop) : Prop :=
  Sketch ledger.host ledger.discipline ledger.invariant
    (fun world => before (ledger.view world)) body
    (fun result world => after result (ledger.view world)) fun _ _ => True

variable {ledger} {before before' : κ → Prop} {after after' : α → κ → Prop}

theorem stable (assertion : κ → Prop) :
    ledger.host.Stable ledger.discipline ledger.invariant
      fun world => assertion (ledger.view world) :=
  Host.stable_of_view ledger.view assertion ledger.unmoved

theorem yields_pure {result : α}
    (ends : ∀ seen, before seen → after result seen) :
    ledger.Yields before (pure result : Procedure I Unit ε α) after :=
  sketch_pure (stable before) fun _ _ holds => ends _ holds

theorem yields_raise {error : ε} :
    ledger.Yields before (raise error : Procedure I Unit ε α) after :=
  sketch_raise (stable before) fun _ _ _ => trivial

theorem yields_bind {first : Procedure I Unit ε β}
    {next : β → Procedure I Unit ε α} (middle : β → κ → Prop)
    (yields : ledger.Yields before first middle)
    (rest : ∀ result, ledger.Yields (middle result) (next result) after) :
    ledger.Yields before (first >>= next) after :=
  sketch_bind yields rest fun _ => Host.stable_true

section Consequence

variable {body : Procedure I Unit ε α}

theorem Yields.strengthen (yields : ledger.Yields before body after)
    (stronger : ∀ seen, before' seen → before seen) :
    ledger.Yields before' body after :=
  Sketch.strengthen yields (stable before') fun _ _ holds => stronger _ holds

theorem Yields.weaken (yields : ledger.Yields before body after)
    (weaker : ∀ result seen, after result seen → after' result seen) :
    ledger.Yields before body after' := by
  apply Sketch.weaken yields
  · intro result world holds
    exact weaker result _ holds
  · intro _ _ holds
    exact holds

theorem yields_of_fact {fact : Prop} (known : ∀ seen, before seen → fact)
    (yields : fact → ledger.Yields before body after) :
    ledger.Yields before body after :=
  Host.Outline.of_fact (fun _ holds => known _ holds) yields

/-- Calls that keep the invariant and every assertion. -/
theorem yields_of_calls {allowed : I.Query → Prop} {assertion : κ → Prop}
    (calls : body.Calls allowed)
    (served : ∀ ⦃query world world'⦄ ⦃proposed answer : I.Answer query⦄,
      allowed query → ledger.invariant world → assertion (ledger.view world) →
      ledger.discipline.call query proposed world →
      ledger.host.serve query proposed world = some (answer, world') →
      ledger.invariant world' ∧ assertion (ledger.view world')) :
    ledger.Yields assertion body fun _ => assertion := by
  have sketch := calls.sketch (stable assertion) served
  exact sketch.weaken (fun _ _ holds => holds) fun _ _ _ => trivial

theorem yields_swallowed {body : Procedure I Unit ε Unit}
    (yields : ledger.Yields before body fun _ _ => True) :
    ledger.Yields before (attempt body fun _ => some (pure ())) fun _ _ =>
      True := by
  apply sketch_attempt _ yields
  · rintro error clause ⟨⟩
    exact sketch_pure Host.stable_true fun _ _ _ => trivial
  · rintro error ⟨⟩
  · intro _
    exact Host.stable_true
  · intro _
    exact Host.stable_true

end Consequence

theorem yields_invoke {Query : Type} {Reply : Query → Type}
    {ledger : Ledger (fallible Query Reply ε) W M J ρ κ} {query : Query}
    {before : κ → Prop} {after : Reply query → κ → Prop}
    (served : ∀ ⦃world world' : W⦄ ⦃proposed answer : Except ε (Reply query)⦄,
      ledger.invariant world → before (ledger.view world) →
      ledger.discipline.call query proposed world →
      ledger.host.serve query proposed world = some (answer, world') →
      ledger.invariant world' ∧
        ∀ reply, answer = .ok reply → after reply (ledger.view world')) :
    ledger.Yields before (invoke query) after := by
  apply sketch_invoke (stable before)
  · intro world world' proposed answer kept holds allowed taken
    obtain ⟨kept', holds'⟩ := served kept holds allowed taken
    cases answer with
    | ok reply => exact ⟨kept', holds' reply rfl⟩
    | error error => exact ⟨kept', trivial⟩
  · intro reply
    exact stable (after reply)
  · intro error
    exact Host.stable_true

section Unmoved

def ofHost (host : Host I W Empty J ρ) : Ledger I W Empty J ρ W where
  host := host
  discipline := {}
  invariant _ := True
  view := id
  unmoved _ move := move.elim

theorem yields_keeping {host : Host I W Empty J ρ} {allowed : I.Query → Prop}
    {assertion : W → Prop} {body : Procedure I Unit ε α} (calls : body.Calls allowed)
    (kept : ∀ ⦃query world last⦄ ⦃proposed answer : I.Answer query⦄, allowed query →
      host.serve query proposed world = some (answer, last) → last = world) :
    (ofHost host).Yields assertion body fun _ => assertion := by
  apply yields_of_calls calls
  intro query world last proposed answer allows _ holds _ served
  rw [kept allows served]
  exact ⟨trivial, holds⟩

theorem yields_serve {Query : Type} {Reply : Query → Type}
    {host : Host (fallible Query Reply ε) W Empty J ρ} {query : Query}
    {before : W → Prop} {after : Reply query → W → Prop}
    (served : ∀ ⦃world last : W⦄ ⦃proposed : Except ε (Reply query)⦄ ⦃reply⦄,
      before world → host.serve query proposed world = some (.ok reply, last) →
      after reply last) :
    (ofHost host).Yields before (invoke query) after := by
  apply yields_invoke
  intro world last proposed answer _ holds _ taken
  refine ⟨trivial, ?_⟩
  rintro reply rfl
  exact served holds taken

end Unmoved

end Ledger

end Interaction
