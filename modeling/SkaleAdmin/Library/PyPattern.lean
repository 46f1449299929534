import SkaleAdmin.Library.PyText
import Mathlib.Data.List.Infix

/-! Regular expressions that are sequences of characters, of dots and of `\d+`, and
`pattern.search` for them. -/

namespace PyPattern

open PyText

inductive Item where
  | literal (symbol : Char)
  /-- `.`, which does not match a newline. -/
  | any
  /-- `\d+`. -/
  | digits

abbrev Pattern := List Item

def literals (text : Text) : Pattern :=
  text.map .literal

def matchesPrefix : Pattern → Text → Bool
  | [], _ => true
  | _ :: _, [] => false
  | .literal expected :: pattern, symbol :: text =>
      expected == symbol && matchesPrefix pattern text
  | .any :: pattern, symbol :: text => symbol != '\n' && matchesPrefix pattern text
  | .digits :: pattern, symbol :: text =>
      isDecimal symbol && (matchesPrefix pattern text || matchesPrefix (.digits :: pattern) text)

/-- `pattern.search(text)`. -/
def search (pattern : Pattern) (text : Text) : Bool :=
  text.tails.any (matchesPrefix pattern)

def specialCharacters : List Char :=
  "\\.^$*+?\x7b\x7d[]|()".toList

/-- `re.compile`, as long as the text has nothing but characters, dots and `\d+`. -/
def compile : Text → Option Pattern
  | [] => some []
  | '\\' :: 'd' :: '+' :: text => (compile text).map (.digits :: ·)
  | '.' :: text => (compile text).map (.any :: ·)
  | symbol :: text =>
      if symbol ∈ specialCharacters then none else (compile text).map (.literal symbol :: ·)

variable {pattern : Pattern} {text : Text}

theorem compile_cons {symbol : Char} (ordinary : symbol ∉ specialCharacters) :
    compile (symbol :: text) = (compile text).map (.literal symbol :: ·) := by
  rw [compile, if_neg ordinary]
  · rintro rest rfl
    exact absurd ordinary (by decide)
  · rintro rfl
    exact absurd ordinary (by decide)

theorem compile_literals {expected : Text}
    (ordinary : ∀ symbol ∈ expected, symbol ∉ specialCharacters)
    (compiled : compile text = some pattern) :
    compile (expected ++ text) = some (literals expected ++ pattern) := by
  induction expected with
  | nil => exact compiled
  | cons symbol expected ih =>
      rw [List.cons_append, compile_cons (ordinary symbol List.mem_cons_self),
        ih fun other member => ordinary other (List.mem_cons_of_mem _ member)]
      rfl

theorem matchesPrefix_literals (expected : Text)
    (rest : matchesPrefix pattern text = true) :
    matchesPrefix (literals expected ++ pattern) (expected ++ text) = true := by
  induction expected with
  | nil => exact rest
  | cons symbol expected ih =>
      simp only [literals, List.map_cons, List.cons_append, matchesPrefix, beq_self_eq_true,
        Bool.true_and]
      exact ih

theorem matchesPrefix_digits {digits : Text} (some : digits ≠ [])
    (all : ∀ symbol ∈ digits, isDecimal symbol = true)
    (rest : matchesPrefix pattern text = true) :
    matchesPrefix (.digits :: pattern) (digits ++ text) = true := by
  induction digits with
  | nil => exact absurd rfl some
  | cons symbol digits ih =>
      simp only [List.cons_append, matchesPrefix, all symbol List.mem_cons_self,
        Bool.true_and, Bool.or_eq_true]
      by_cases ends : digits = []
      · subst ends
        exact .inl rest
      · exact .inr (ih ends fun other member => all other (List.mem_cons_of_mem _ member))

theorem literals_iff {expected : Text} :
    matchesPrefix (literals expected ++ pattern) text = true ↔
      ∃ rest, text = expected ++ rest ∧ matchesPrefix pattern rest = true := by
  constructor
  · intro found
    induction expected generalizing text with
    | nil => exact ⟨text, rfl, found⟩
    | cons symbol expected ih =>
        cases text with
        | nil => cases found
        | cons head text =>
            simp only [literals, List.map_cons, List.cons_append, matchesPrefix,
              Bool.and_eq_true, beq_iff_eq] at found
            obtain ⟨rest, rfl, later⟩ := ih found.2
            exact ⟨rest, by rw [found.1]; rfl, later⟩
  · rintro ⟨rest, rfl, later⟩
    exact matchesPrefix_literals expected later

theorem literal_iff {expected : Char} : matchesPrefix (.literal expected :: pattern) text = true ↔
    ∃ rest, text = expected :: rest ∧ matchesPrefix pattern rest = true := by
  have single : matchesPrefix (literals [expected] ++ pattern) text = true ↔
      ∃ rest, text = [expected] ++ rest ∧ matchesPrefix pattern rest = true := literals_iff
  exact single

theorem ends_iff {expected : Text} : matchesPrefix (literals expected) text = true ↔
    ∃ rest, text = expected ++ rest := by
  have whole : matchesPrefix (literals expected ++ []) text = true ↔
      ∃ rest, text = expected ++ rest ∧ matchesPrefix [] rest = true := literals_iff
  simpa [matchesPrefix] using whole

theorem digits_iff : matchesPrefix (.digits :: pattern) text = true ↔
    ∃ digits rest, digits ≠ [] ∧ (∀ symbol ∈ digits, isDecimal symbol = true) ∧
      text = digits ++ rest ∧ matchesPrefix pattern rest = true := by
  constructor
  · intro found
    induction text with
    | nil => cases found
    | cons symbol text ih =>
        simp only [matchesPrefix, Bool.and_eq_true, Bool.or_eq_true] at found
        rcases found.2 with ends | more
        · exact ⟨[symbol], text, List.cons_ne_nil _ _, by simpa using found.1, rfl, ends⟩
        · obtain ⟨digits, rest, _, all, rfl, later⟩ := ih more
          exact ⟨symbol :: digits, rest, List.cons_ne_nil _ _,
            List.forall_mem_cons.mpr ⟨found.1, all⟩, rfl, later⟩
  · rintro ⟨digits, rest, some, all, rfl, later⟩
    exact matchesPrefix_digits some all later

theorem any_iff : matchesPrefix (.any :: pattern) text = true ↔
    ∃ symbol rest, symbol ≠ '\n' ∧ text = symbol :: rest ∧ matchesPrefix pattern rest = true := by
  cases text with
  | nil => simp [matchesPrefix]
  | cons symbol text => simp [matchesPrefix]

theorem search_iff : search pattern text = true ↔
    ∃ front rest, text = front ++ rest ∧ matchesPrefix pattern rest = true := by
  unfold search
  rw [List.any_eq_true]
  constructor
  · rintro ⟨rest, suffix, found⟩
    obtain ⟨front, whole⟩ := (List.mem_tails _ _).mp suffix
    exact ⟨front, rest, whole.symm, found⟩
  · rintro ⟨front, rest, rfl, found⟩
    exact ⟨rest, (List.mem_tails _ _).mpr (List.suffix_append front rest), found⟩

theorem search_of_suffix {front : Text} (here : matchesPrefix pattern text = true) :
    search pattern (front ++ text) = true := by
  unfold search
  rw [List.any_eq_true]
  exact ⟨text, (List.mem_tails _ _).mpr (List.suffix_append front text), here⟩

end PyPattern
