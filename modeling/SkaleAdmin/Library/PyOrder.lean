import SkaleAdmin.Library.PyText
import Mathlib.Data.Char
import Mathlib.Data.Int.Order.Basic
import Mathlib.Data.List.Lex
import Mathlib.Data.Prod.Lex
import Mathlib.Order.WithBot

/-! The order operators of Python's classes, and sorting by them. -/

namespace PyOrder

open PyText

inductive Operator where
  | lt
  | le
  | gt
  | ge

inductive TypeError where
  | notSupported

/-- The answers of `<`, `<=`, `>` and `>=`. -/
abbrev Answer := Except TypeError Bool

def Operator.holds {α : Type} [LinearOrder α] (operator : Operator) (first second : α) : Bool :=
  match operator with
  | .lt => first < second
  | .le => first ≤ second
  | .gt => second < first
  | .ge => second ≤ first

section Holds

variable {α β : Type} [LinearOrder α] [LinearOrder β] (operator : Operator)

theorem Operator.holds_of_ne {first second : α} (apart : first ≠ second) (rest rest' : β) :
    operator.holds (toLex (first, rest)) (toLex (second, rest')) =
      operator.holds first second := by
  cases operator <;>
    simp [Operator.holds, Prod.Lex.toLex_lt_toLex, apart, apart.symm, le_iff_lt_or_eq]

theorem Operator.holds_of_eq (first : α) (rest rest' : β) :
    operator.holds (toLex (first, rest)) (toLex (first, rest')) = operator.holds rest rest' := by
  cases operator <;>
    simp [Operator.holds, Prod.Lex.toLex_lt_toLex, Prod.Lex.toLex_le_toLex]

@[simp] theorem Operator.holds_coe (first second : α) :
    operator.holds (first : WithBot α) (second : WithBot α) = operator.holds first second := by
  cases operator <;> simp [Operator.holds]

end Holds

/-! ### Tuples -/

/-- The items that stand in a tuple. -/
inductive Item where
  | none
  | int (value : Int)
  | text (value : Text)
  deriving DecidableEq

def Item.ofText? : Option Text → Item
  | .none => .none
  | some value => .text value

theorem Item.ofText?_injective : Function.Injective Item.ofText? := by
  intro first second same
  cases first <;> cases second <;> cases same <;> rfl

def Item.compare (operator : Operator) : Item → Item → Answer
  | .int first, .int second => .ok (operator.holds first second)
  | .text first, .text second => .ok (operator.holds first second)
  | _, _ => .error .notSupported

/-- The first items that differ decide, or else the lengths. -/
def compareTuple (operator : Operator) : List Item → List Item → Answer
  | first :: firsts, second :: seconds =>
      if first = second then compareTuple operator firsts seconds
      else first.compare operator second
  | firsts, seconds => .ok (operator.holds firsts.length seconds.length)

/-! ### Classes -/

/-- The methods of a class that defines `__lt__`, with those that it has from a base other than
`object`. -/
structure Methods (α : Type) where
  lt : α → α → Answer
  le : Option (α → α → Answer)
  gt : Option (α → α → Answer)
  ge : Option (α → α → Answer)

structure Operators (α : Type) where
  lt : α → α → Answer
  le : α → α → Answer
  gt : α → α → Answer
  ge : α → α → Answer

/-- `functools.total_ordering`: only methods that are missing are filled in. -/
def totalOrdering {α : Type} (eq : α → α → Bool) (methods : Methods α) : Operators α where
  lt := methods.lt
  le := methods.le.getD fun first second => do
    return (← methods.lt first second) || eq first second
  gt := methods.gt.getD fun first second => do
    return !(← methods.lt first second) && !eq first second
  ge := methods.ge.getD fun first second => do
    return !(← methods.lt first second)

def Answers (answer : Answer) (fact : Prop) : Prop :=
  ∃ holds, answer = .ok holds ∧ (holds = true ↔ fact)

structure Agrees {α : Type} (operators : Operators α) (eq : α → α → Bool) (order : α → α → Prop)
    (first second : α) : Prop where
  lt : Answers (operators.lt first second) (order first second)
  le : Answers (operators.le first second) (order first second ∨ first = second)
  gt : Answers (operators.gt first second) (order second first)
  ge : Answers (operators.ge first second) (order second first ∨ first = second)
  eq : eq first second = true ↔ first = second

/-- `<` and `==` are those of a strict total order. -/
structure StrictlyOrders {α : Type} (lt eq : α → α → Bool) : Prop where
  irrefl : ∀ value, lt value value = false
  trans : ∀ first second third, lt first second = true → lt second third = true →
    lt first third = true
  trichotomy : ∀ first second,
    lt first second = true ∧ eq first second = false ∧ lt second first = false ∨
      lt first second = false ∧ eq first second = true ∧ lt second first = false ∨
      lt first second = false ∧ eq first second = false ∧ lt second first = true

theorem strictlyOrders_of_key {α κ : Type} [LinearOrder κ] {lt eq : α → α → Bool} (key : α → κ)
    (less : ∀ first second, lt first second = true ↔ key first < key second)
    (same : ∀ first second, eq first second = true ↔ key first = key second) :
    StrictlyOrders lt eq where
  irrefl value := by
    rw [Bool.eq_false_iff, Ne, less]
    exact lt_irrefl _
  trans first second third := by
    rw [less, less, less]
    exact lt_trans
  trichotomy first second := by
    simp only [Bool.eq_false_iff, Ne, less, same]
    rcases lt_trichotomy (key first) (key second) with below | equal | above
    · exact .inl ⟨below, below.ne, below.not_gt⟩
    · exact .inr (.inl ⟨equal.not_lt, equal, equal.not_gt⟩)
    · exact .inr (.inr ⟨above.not_gt, above.ne', above⟩)

/-! ### Sorting -/

section Sorting

variable {α : Type} {le : α → α → Bool} {order : α → α → Prop} {inside : α → Prop}

structure Sound (le : α → α → Bool) (order : α → α → Prop) (inside : α → Prop) : Prop where
  trans : ∀ first second third, order first second → order second third → order first third
  yes : ∀ first second, inside first → inside second → le first second = true →
    order first second
  no : ∀ first second, inside first → inside second → le first second = false →
    order second first

variable (sound : Sound le order inside)

include sound

theorem pairwise_merge {firsts seconds : List α} (firstsInside : ∀ item ∈ firsts, inside item)
    (secondsInside : ∀ item ∈ seconds, inside item) (firstsOrdered : firsts.Pairwise order)
    (secondsOrdered : seconds.Pairwise order) :
    (firsts.merge seconds le).Pairwise order := by
  induction firsts generalizing seconds with
  | nil => simpa only [List.merge] using secondsOrdered
  | cons first firsts ih =>
      induction seconds with
      | nil => simpa only [List.merge] using firstsOrdered
      | cons second seconds ih' =>
          obtain ⟨firstInside, firstsInside'⟩ := List.forall_mem_cons.mp firstsInside
          obtain ⟨secondInside, secondsInside'⟩ := List.forall_mem_cons.mp secondsInside
          obtain ⟨firstBelow, firstsOrdered'⟩ := List.pairwise_cons.mp firstsOrdered
          obtain ⟨secondBelow, secondsOrdered'⟩ := List.pairwise_cons.mp secondsOrdered
          rw [List.cons_merge_cons]
          split
          · next taken =>
            have below := sound.yes first second firstInside secondInside taken
            refine List.pairwise_cons.mpr ⟨?_, ih firstsInside' secondsInside firstsOrdered'
              secondsOrdered⟩
            intro item member
            rcases List.mem_merge.mp member with behind | behind
            · exact firstBelow item behind
            · rcases List.mem_cons.mp behind with rfl | behind
              · exact below
              · exact sound.trans _ _ _ below (secondBelow item behind)
          · next left =>
            have below := sound.no first second firstInside secondInside
              (Bool.eq_false_iff.mpr left)
            refine List.pairwise_cons.mpr ⟨?_, ih' secondsInside' secondsOrdered'⟩
            intro item member
            rcases List.mem_merge.mp member with behind | behind
            · rcases List.mem_cons.mp behind with rfl | behind
              · exact below
              · exact sound.trans _ _ _ below (firstBelow item behind)
            · exact secondBelow item behind

theorem pairwise_mergeSort {items : List α} (areInside : ∀ item ∈ items, inside item) :
    (items.mergeSort le).Pairwise order := by
  induction items, le using List.mergeSort.induct with
  | case1 le => simp
  | case2 le item => simp
  | case3 first second items le halves _ _ ih ih' =>
      have whole := List.MergeSort.Internal.splitInTwo_fst_append_splitInTwo_snd
        ⟨first :: second :: items, rfl⟩
      simp only at whole
      have part (item : α) (member : item ∈ halves.1.1 ∨ item ∈ halves.2.1) : inside item := by
        apply areInside
        rw [← whole]
        exact List.mem_append.mpr member
      rw [List.mergeSort]
      have left : ∀ item ∈ halves.1.1.mergeSort le, inside item :=
        fun item member => part item (.inl (List.mem_mergeSort.mp member))
      have right : ∀ item ∈ halves.2.1.mergeSort le, inside item :=
        fun item member => part item (.inr (List.mem_mergeSort.mp member))
      exact pairwise_merge sound left right (ih sound fun item member => part item (.inl member))
        (ih' sound fun item member => part item (.inr member))

/-- A sorted list depends on its items only. -/
theorem mergeSort_eq_of_perm (antisymm : ∀ first second, order first second →
    order second first → first = second) {items items' : List α}
    (areInside : ∀ item ∈ items, inside item) (same : items.Perm items') :
    items.mergeSort le = items'.mergeSort le := by
  have areInside' : ∀ item ∈ items', inside item :=
    fun item member => areInside item (same.mem_iff.mpr member)
  have sorted := pairwise_mergeSort sound areInside
  have sorted' := pairwise_mergeSort sound areInside'
  apply List.Perm.eq_of_pairwise _ sorted sorted'
  · exact (List.mergeSort_perm items le).trans
      (same.trans (List.mergeSort_perm items' le).symm)
  · intro first second _ _ below above
    exact antisymm first second below above

end Sorting

end PyOrder
