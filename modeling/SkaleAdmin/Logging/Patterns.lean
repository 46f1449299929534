import SkaleAdmin.Logging.HidingFormatter
import SkaleAdmin.Library.TextRewriting
import Mathlib.Data.List.TakeWhile

/-! Where the patterns of hosts and of keys match. -/

namespace SkaleAdmin.Logging

open PyText PySubstitution

/-! ### The patterns of hosts and of keys -/

def hostItems (host : Text) : PyPattern.Pattern :=
  host.map fun symbol => if symbol = '.' then .any else .literal symbol

def fits (host text : Text) : Bool :=
  PyPattern.matchesPrefix (hostItems host) text

def hostMatcher (host : Text) : Matcher :=
  fun text => if fits host text then some host.length else none

def wordOf (isWord : Char → Bool) (text : Text) : Text :=
  text.takeWhile isWord

/-- `NEK\:\w+`. -/
def keyMatcher (isWord : Char → Bool) : Matcher :=
  fun text =>
    if "NEK:".toList.isPrefixOf text ∧ wordOf isWord (text.drop 4) ≠ [] then
      some (4 + (wordOf isWord (text.drop 4)).length)
    else none

def FitsAt (expected symbol : Char) : Prop :=
  if expected = '.' then symbol ≠ '\n' else expected = symbol

theorem fits_iff {host text : Text} : fits host text = true ↔
    ∀ (index : Nat) (expected : Char), host[index]? = some expected →
      ∃ symbol, text[index]? = some symbol ∧ FitsAt expected symbol := by
  unfold fits hostItems
  induction host generalizing text with
  | nil => simp [PyPattern.matchesPrefix]
  | cons first host ih =>
      have first_iff : ∀ symbol, FitsAt first symbol ↔
          (if first = '.' then symbol != '\n' else first == symbol) = true := by
        intro symbol
        unfold FitsAt
        split <;> simp
      cases text with
      | nil =>
          rw [List.map_cons, PyPattern.matchesPrefix]
          constructor
          · intro found
            cases found
          · intro all
            obtain ⟨symbol, found, _⟩ := all 0 first rfl
            cases found
      | cons symbol text =>
          have step : PyPattern.matchesPrefix (((first :: host).map fun symbol =>
              if symbol = '.' then PyPattern.Item.any else .literal symbol)) (symbol :: text) =
              true ↔ FitsAt first symbol ∧ PyPattern.matchesPrefix (host.map fun symbol =>
                if symbol = '.' then PyPattern.Item.any else .literal symbol) text = true := by
            rw [first_iff, List.map_cons]
            split <;> simp [PyPattern.matchesPrefix]
          rw [step, ih]
          constructor
          · rintro ⟨here, later⟩ index expected found
            cases index with
            | zero =>
                obtain rfl := Option.some.inj found
                exact ⟨symbol, rfl, here⟩
            | succ index => exact later index expected found
          · intro all
            refine ⟨?_, fun index expected found => all (index + 1) expected found⟩
            obtain ⟨other, found, here⟩ := all 0 first rfl
            obtain rfl := Option.some.inj found
            exact here

theorem fitsAt_of_fits {host ahead rest : Text} {symbol : Char}
    (found : fits host (ahead ++ symbol :: rest) = true) (inside : ahead.length < host.length) :
    ∃ expected, host[ahead.length]? = some expected ∧ FitsAt expected symbol := by
  have reached := List.getElem?_eq_getElem inside
  obtain ⟨other, here, fit⟩ := fits_iff.mp found _ _ reached
  rw [List.getElem?_append_right (Nat.le_refl _), Nat.sub_self] at here
  obtain rfl := Option.some.inj here
  exact ⟨_, reached, fit⟩

theorem length_le_of_fits {host text : Text} (found : fits host text = true) :
    host.length ≤ text.length := by
  by_contra short
  have inside : text.length < host.length := by omega
  obtain ⟨symbol, reached, _⟩ :=
    fits_iff.mp found text.length _ (List.getElem?_eq_getElem inside)
  rw [List.getElem?_eq_none (Nat.le_refl _)] at reached
  cases reached

theorem fits_append {host text : Text} (rest : Text) (long : host.length ≤ text.length) :
    fits host (text ++ rest) = fits host text := by
  rw [Bool.eq_iff_iff, fits_iff, fits_iff]
  have same : ∀ (index : Nat) (expected : Char), host[index]? = some expected →
      (text ++ rest)[index]? = text[index]? := by
    intro index expected found
    obtain ⟨inside, _⟩ := List.getElem?_eq_some_iff.mp found
    exact List.getElem?_append_left (by omega)
  constructor
  · intro all index expected found
    rw [← same index expected found]
    exact all index expected found
  · intro all index expected found
    rw [same index expected found]
    exact all index expected found

theorem fits_append_of_fits {host text : Text} (rest : Text) (found : fits host text = true) :
    fits host (text ++ rest) = true := by
  rw [fits_append rest (length_le_of_fits found)]
  exact found

theorem matchesAt_host {host text : Text} (filled : host ≠ []) :
    MatchesAt (hostMatcher host) text ↔ fits host text = true := by
  unfold MatchesAt hostMatcher
  have positive := List.length_pos_iff.mpr filled
  split
  · rename_i found
    exact iff_of_true ⟨host.length - 1, by rw [Nat.sub_add_cancel positive]⟩ found
  · rename_i none
    exact iff_of_false (by simp) none

theorem fits_self (host : Text) : fits host host = true := by
  rw [fits_iff]
  intro index expected found
  refine ⟨expected, found, ?_⟩
  unfold FitsAt
  split
  · rename_i dot
    rw [dot]
    decide
  · rfl

def Label (replacement : Text) : Prop :=
  ∃ first middle last, replacement = '[' :: first :: (middle ++ [last, ']']) ∧
    first.isUpper = true ∧ last.isUpper = true

theorem Label.ne_nil {label : Text} (labelled : Label label) : label ≠ [] := by
  obtain ⟨_, _, _, rfl, _⟩ := labelled
  exact List.cons_ne_nil _ _

theorem label_of_mem {label : Text} (listed : label ∈ [SGX_IP, ETH_IP, SGX_KEY]) :
    Label label := by
  simp only [List.mem_cons, List.not_mem_nil, or_false] at listed
  rcases listed with rfl | rfl | rfl
  · exact ⟨'S', "GX_I".toList, 'P', by decide, by decide, by decide⟩
  · exact ⟨'E', "TH_I".toList, 'P', by decide, by decide, by decide⟩
  · exact ⟨'S', "GX_KE".toList, 'Y', by decide, by decide, by decide⟩

/-! ### Keys -/

/-- `NEK:` with all the characters of a word behind it. -/
def IsKey (isWord : Char → Bool) (key back : Text) : Prop :=
  ∃ word, word ≠ [] ∧ (∀ symbol ∈ word, isWord symbol = true) ∧
    key = "NEK:".toList ++ word ∧ ∀ symbol, back.head? = some symbol → isWord symbol = false

def EndsInKey (isWord : Char → Bool) (front : Text) : Prop :=
  ∃ before word, front = before ++ ("NEK:".toList ++ word) ∧ ∀ symbol ∈ word, isWord symbol = true

/-- `\w` among the characters of ASCII. -/
def AsciiWords (isWord : Char → Bool) : Prop :=
  ∀ symbol : Char, symbol.toNat < 128 → isWord symbol = (symbol.isAlphanum || symbol == '_')

section Keys

variable {isWord : Char → Bool} {front frontAfter key back backAfter text replacement : Text}

theorem keyMatcher_eq_some {length : Nat} : keyMatcher isWord text = some length ↔
    ∃ key back, text = key ++ back ∧ IsKey isWord key back ∧ length = key.length := by
  unfold keyMatcher wordOf
  constructor
  · intro found
    split at found
    · rename_i key
      obtain ⟨rest, rfl⟩ := List.isPrefixOf_iff_prefix.mp key.1
      have dropped : ("NEK:".toList ++ rest).drop 4 = rest := rfl
      rw [dropped] at found key
      refine ⟨"NEK:".toList ++ rest.takeWhile isWord, rest.dropWhile isWord, ?_,
        ⟨rest.takeWhile isWord, key.2, ?_, rfl, ?_⟩, ?_⟩
      · rw [List.append_assoc, List.takeWhile_append_dropWhile]
      · exact fun symbol member => List.mem_takeWhile_imp member
      · intro symbol ahead
        have stops := List.head?_dropWhile_not isWord rest
        rw [ahead] at stops
        simpa using stops
      · rw [List.length_append]
        exact (Option.some.inj found).symm
    · cases found
  · rintro ⟨key, back, rfl, ⟨word, filled, all, rfl, stops⟩, rfl⟩
    have dropped : ("NEK:".toList ++ word ++ back).drop 4 = word ++ back := rfl
    have taken : (word ++ back).takeWhile isWord = word := by
      rw [List.takeWhile_append_of_pos all]
      cases back with
      | nil => simp
      | cons symbol back => simp [List.takeWhile, stops symbol rfl]
    have starts : "NEK:".toList <+: "NEK:".toList ++ word ++ back := by
      rw [List.append_assoc]
      exact List.prefix_append _ _
    rw [dropped, taken, if_pos ⟨List.isPrefixOf_iff_prefix.mpr starts, filled⟩, List.length_append]
    rfl

theorem IsKey.ne_nil (isKey : IsKey isWord key back) : key ≠ [] := by
  obtain ⟨word, _, _, rfl, _⟩ := isKey
  exact List.append_ne_nil_of_left_ne_nil (by decide) _

theorem isKey_append_iff {tail : Text} (filled : back ≠ []) :
    IsKey isWord key (back ++ tail) ↔ IsKey isWord key back := by
  unfold IsKey
  rw [List.head?_append_of_ne_nil _ filled]

theorem AsciiWords.signs (ascii : AsciiWords isWord) : ∀ symbol ∈ [':', '[', ']', '\n'],
    isWord symbol = false := by
  have tested : ([':', '[', ']', '\n'].all fun symbol : Char =>
      decide (symbol.toNat < 128) && !(symbol.isAlphanum || symbol == '_')) = true := by decide
  intro symbol member
  have known := List.all_eq_true.mp tested symbol member
  rw [Bool.and_eq_true, decide_eq_true_eq, Bool.not_eq_true'] at known
  rw [ascii symbol known.1]
  exact known.2

theorem isKey_of_overlap {rest other tail : Text}
    (isKey : IsKey isWord key back) (apart : ¬EndsInKey isWord rest) (filled : rest ≠ [])
    (before : IsKey isWord other tail) (same : rest ++ (key ++ back) = other ++ tail) :
    ∃ between, rest = other ++ between ∧ IsKey isWord other between := by
  obtain ⟨word, some, all, rfl, stops⟩ := id before
  rcases List.append_eq_append_iff.mp same with ⟨ahead, parted, next⟩ | ⟨between, rfl, rfl⟩
  · cases ahead with
    | nil =>
        rw [List.append_nil] at parted
        exact absurd ⟨[], word, parted.symm, all⟩ apart
    | cons symbol ahead =>
        obtain ⟨_, _, _, rfl, _⟩ := isKey
        have letter : symbol = 'N' := (List.cons.inj next).1.symm
        subst letter
        rcases List.append_eq_append_iff.mp parted with ⟨begun, rfl, rfl⟩ | ⟨left, start, later⟩
        · exact absurd ⟨[], begun, rfl, fun symbol member => all symbol (by simp [member])⟩ apart
        · cases left with
          | nil =>
              rw [List.append_nil] at start
              exact absurd ⟨[], [], by rw [← start]; rfl, by simp⟩ apart
          | cons first left =>
              obtain rfl := (List.cons.inj later).1
              cases rest with
              | nil => exact absurd rfl filled
              | cons head rest =>
                  have tail : ['E', 'K', ':'] = rest ++ 'N' :: left := (List.cons.inj start).2
                  have member : 'N' ∈ ['E', 'K', ':'] := by
                    rw [tail]
                    simp
                  exact absurd member (by decide)
  · have filled : between ≠ [] := by
      rintro rfl
      exact apart ⟨[], word, by rw [List.append_nil]; rfl, all⟩
    exact ⟨between, rfl, (isKey_append_iff filled).mp before⟩

theorem separated_key (isKey : IsKey isWord key back)
    (apart : ¬EndsInKey isWord front) :
    Separated (keyMatcher isWord) front (key ++ back) := by
  intro rest suffix filled length
  have restApart : ¬EndsInKey isWord rest := by
    rintro ⟨before, word, same, all⟩
    obtain ⟨others, rfl⟩ := suffix
    exact apart ⟨others ++ before, word, by rw [same, List.append_assoc], all⟩
  constructor
  · rw [keyMatcher_eq_some, keyMatcher_eq_some]
    constructor
    · rintro ⟨other, tail, same, before, long⟩
      obtain ⟨between, rfl, inside⟩ := isKey_of_overlap isKey restApart filled before same
      exact ⟨other, between, rfl, inside, long⟩
    · rintro ⟨other, between, rfl, inside, long⟩
      have some : between ≠ [] := by
        rintro rfl
        obtain ⟨word, _, all, rfl, _⟩ := inside
        exact restApart ⟨[], word, by rw [List.append_nil]; rfl, all⟩
      exact ⟨other, between ++ (key ++ back), by rw [List.append_assoc],
        (isKey_append_iff some).mpr inside, long⟩
  · intro found
    obtain ⟨other, between, rfl, _, long⟩ := keyMatcher_eq_some.mp found
    rw [long, List.length_append]
    omega

theorem EndsInKey.of_part (ascii : AsciiWords isWord) (label : Label replacement)
    (part : Text) (ends : EndsInKey isWord (front ++ (replacement ++ back))) :
    EndsInKey isWord (front ++ (part ++ back)) := by
  obtain ⟨before, word, same, all⟩ := ends
  have suffix : "NEK:".toList ++ word <:+ front ++ (replacement ++ back) :=
    ⟨before, same.symm⟩
  rw [← List.append_assoc] at suffix
  rcases List.suffix_or_suffix_of_suffix suffix (List.suffix_append _ back) with
    ⟨inner, rfl⟩ | ⟨more, whole⟩
  · exact ⟨front ++ (part ++ inner), word, by simp only [List.append_assoc], all⟩
  · cases parted : more.getLast? with
    | none =>
        obtain rfl := List.getLast?_eq_none_iff.mp parted
        exact ⟨front ++ part, word, by rw [← whole, List.nil_append, List.append_assoc], all⟩
    | some last =>
        obtain ⟨first, middle, inner, rfl, _⟩ := label
        have reached : more <:+ front ++ '[' :: first :: (middle ++ [inner, ']']) := by
          rw [← whole] at suffix
          obtain ⟨start, joined⟩ := suffix
          rw [← List.append_assoc] at joined
          exact ⟨start, List.append_cancel_right joined⟩
        have closing : (front ++ '[' :: first :: (middle ++ [inner, ']'])).getLast? =
            some ']' := by
          have spelled : front ++ '[' :: first :: (middle ++ [inner, ']']) =
              front ++ '[' :: first :: (middle ++ [inner]) ++ [']'] := by simp
          rw [spelled, List.getLast?_concat]
        obtain ⟨start, joined⟩ := reached
        rw [← joined, List.getLast?_append, parted] at closing
        have bracket : ']' ∈ "NEK:".toList ++ word := by
          rw [← whole]
          obtain rfl := Option.some.inj closing
          exact List.mem_append_left _ (List.mem_of_getLast? parted)
        rcases List.mem_append.mp bracket with letter | symbol
        · exact absurd letter (by decide)
        · exact absurd (all ']' symbol) (by rw [ascii.signs ']' (by simp)]; decide)

theorem IsKey.of_part (ascii : AsciiWords isWord) (label : Label replacement) {part : Text}
    (isKey : IsKey isWord key (front ++ (part ++ back))) :
    IsKey isWord key (front ++ (replacement ++ back)) := by
  cases front with
  | nil =>
      obtain ⟨word, some, all, same, _⟩ := isKey
      obtain ⟨first, middle, last, rfl, _⟩ := label
      refine ⟨word, some, all, same, ?_⟩
      intro symbol ahead
      obtain rfl := Option.some.inj ahead
      exact ascii.signs '[' (by simp)
  | cons symbol front =>
      rw [isKey_append_iff (List.cons_ne_nil _ _)] at isKey ⊢
      exact isKey

variable {labels : List Text}

theorem EndsInKey.of_rewrites (ascii : AsciiWords isWord)
    (labelled : ∀ label ∈ labels, Label label) (rewrites : Rewrites labels front frontAfter)
    (ends : EndsInKey isWord frontAfter) : EndsInKey isWord front := by
  induction rewrites with
  | refl => exact ends
  | tail _ rewrite ih =>
      cases rewrite with
      | part _ part _ listed => exact ih (ends.of_part ascii (labelled _ listed) part)

theorem IsKey.of_rewrites (ascii : AsciiWords isWord)
    (labelled : ∀ label ∈ labels, Label label) (rewrites : Rewrites labels back backAfter)
    (isKey : IsKey isWord key back) : IsKey isWord key backAfter := by
  induction rewrites with
  | refl => exact isKey
  | tail _ rewrite ih =>
      cases rewrite with
      | part _ part _ listed => exact ih.of_part ascii (labelled _ listed)

theorem IsKey.oneLine (ascii : AsciiWords isWord)
    (isKey : IsKey isWord key back) : '\n' ∉ key := by
  obtain ⟨word, _, all, rfl, _⟩ := isKey
  intro member
  rcases List.mem_append.mp member with letter | symbol
  · exact absurd letter (by decide)
  · exact absurd (all _ symbol) (by rw [ascii.signs '\n' (by simp)]; decide)

/-- A key is replaced as a whole. -/
theorem sub_key {α : Type} {symbol : α → Char} {label front key back : List α}
    (isKey : IsKey isWord (key.map symbol) (back.map symbol))
    (apart : ¬EndsInKey isWord (front.map symbol)) :
    sub symbol (keyMatcher isWord) label 0 (front ++ (key ++ back)) =
      sub symbol (keyMatcher isWord) label 0 front ++
        (label ++ sub symbol (keyMatcher isWord) label 0 back) := by
  have separated : Separated (keyMatcher isWord) (front.map symbol) ((key ++ back).map symbol) := by
    rw [List.map_append]
    exact separated_key isKey apart
  rw [sub_append separated (Nat.zero_le _)]
  cases key with
  | nil => exact absurd rfl isKey.ne_nil
  | cons cell key =>
      have found : keyMatcher isWord ((cell :: (key ++ back)).map symbol) =
          some (key.length + 1) := by
        rw [← List.cons_append, List.map_append]
        exact keyMatcher_eq_some.mpr ⟨_, _, rfl, isKey, by simp⟩
      have skipped : sub symbol (keyMatcher isWord) label key.length (key ++ back) =
          sub symbol (keyMatcher isWord) label 0 back := by
        rw [sub_eq_drop, List.drop_left]
      rw [List.cons_append, sub_of_match found, skipped]

end Keys

end SkaleAdmin.Logging
