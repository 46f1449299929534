import SkaleAdmin.Library.PyText
import Mathlib.Data.List.Induction
import Mathlib.Algebra.Group.Nat.Defs

/-! Numerals of a fixed width, and `int` as the inverse of `str` and `hex`. -/

namespace PyText

/-- The last `width` digits of `value`, with leading zeros. -/
def digits (base : Nat) : Nat → Nat → Text
  | 0, _ => []
  | width + 1, value =>
      digits base width (value / base) ++ [hexDigit (value % base)]

@[simp] theorem length_digits (base width value : Nat) :
    (digits base width value).length = width := by
  induction width generalizing value with
  | zero => rfl
  | succ width ih => simp [digits, ih]

@[simp] theorem digits_zero (base width : Nat) :
    digits base width 0 = List.replicate width '0' := by
  induction width with
  | zero => rfl
  | succ width ih =>
      simp only [digits, Nat.zero_div, Nat.zero_mod, ih, List.replicate_succ']
      rfl

theorem digitChar_eq_hexDigit :
    ∀ value < 16, Nat.digitChar value = hexDigit value := by
  decide

theorem digitValue_hexDigit : ∀ value < 16, digitValue (hexDigit value) = some value := by
  decide

theorem hexDigit_ne_signs :
    ∀ value < 16, hexDigit value ≠ '-' ∧ hexDigit value ≠ '+' ∧
      hexDigit value ≠ '_' ∧ hexDigit value ≠ 'x' ∧ hexDigit value ≠ 'X' := by
  decide

theorem digitInBase_digit {base value : Nat} (small : base ≤ 16)
    (bound : value < base) : digitInBase base (hexDigit value) = some value := by
  unfold digitInBase
  rw [digitValue_hexDigit value (by omega)]
  simp [bound]

theorem replicate_append_toDigits {base width value : Nat} (large : 1 < base)
    (small : base ≤ 16) (bound : value < base ^ (width + 1)) :
    List.replicate (width + 1 - (Nat.toDigits base value).length) '0' ++
      Nat.toDigits base value = digits base (width + 1) value := by
  induction width generalizing value with
  | zero =>
      have single : value < base := by simpa using bound
      rw [Nat.toDigits_of_lt_base single]
      simp [digits, Nat.mod_eq_of_lt single,
        digitChar_eq_hexDigit value (by omega)]
  | succ width ih =>
      by_cases single : value < base
      · rw [Nat.toDigits_of_lt_base single, digits, Nat.div_eq_of_lt single,
          Nat.mod_eq_of_lt single, digits_zero,
          digitChar_eq_hexDigit value (by omega)]
        rfl
      · have quotient : value / base < base ^ (width + 1) := by
          apply Nat.div_lt_of_lt_mul
          rwa [Nat.mul_comm, ← Nat.pow_succ]
        have last : value % base < base := Nat.mod_lt value (by omega)
        rw [Nat.toDigits_of_base_le large (by omega), digits, ← ih quotient,
          digitChar_eq_hexDigit _ (by omega), List.length_append,
          List.length_singleton, ← List.append_assoc, Nat.add_sub_add_right]

theorem toDigits_eq_digits {base value : Nat} (large : 1 < base)
    (small : base ≤ 16) :
    ∃ width, value < base ^ (width + 1) ∧
      Nat.toDigits base value = digits base (width + 1) value := by
  have positive := Nat.length_toDigits_pos (b := base) (n := value)
  obtain ⟨width, length⟩ : ∃ width,
      (Nat.toDigits base value).length = width + 1 :=
    ⟨(Nat.toDigits base value).length - 1, by omega⟩
  have bound : value < base ^ (width + 1) := by
    rw [← Nat.length_toDigits_le_iff large (by omega)]
    omega
  refine ⟨width, bound, ?_⟩
  rw [← replicate_append_toDigits large small bound, length, Nat.sub_self]
  rfl

theorem exists_digit_of_mem_digits {base width value : Nat} (large : 0 < base)
    {symbol : Char} (member : symbol ∈ digits base width value) :
    ∃ digit < base, symbol = hexDigit digit := by
  induction width generalizing value with
  | zero => cases member
  | succ width ih =>
      rcases List.mem_append.mp member with front | last
      · exact ih front
      · exact ⟨value % base, Nat.mod_lt value large, List.mem_singleton.mp last⟩

theorem exists_digits {base : Nat} {text : Text}
    (spelled : ∀ symbol ∈ text, ∃ digit < base, symbol = hexDigit digit) :
    ∃ value < base ^ text.length, text = digits base text.length value := by
  induction text using List.reverseRecOn with
  | nil => exact ⟨0, by simp, rfl⟩
  | append_singleton front last ih =>
      obtain ⟨value, bound, same⟩ :=
        ih fun symbol member => spelled symbol (by simp [member])
      obtain ⟨digit, small, rfl⟩ := spelled last (by simp)
      refine ⟨value * base + digit, ?_, ?_⟩
      · rw [List.length_append, List.length_singleton, Nat.pow_succ]
        calc value * base + digit
            < value * base + base := by omega
          _ = (value + 1) * base := by rw [Nat.add_mul, Nat.one_mul]
          _ ≤ base ^ front.length * base := Nat.mul_le_mul_right base bound
      · have quotient : (value * base + digit) / base = value := by
          rw [Nat.mul_comm, Nat.mul_add_div (by omega), Nat.div_eq_of_lt small,
            Nat.add_zero]
        have remainder : (value * base + digit) % base = digit := by
          rw [Nat.mul_comm, Nat.mul_add_mod, Nat.mod_eq_of_lt small]
        rw [List.length_append, List.length_singleton, digits, quotient,
          remainder, ← same]

theorem parseDigits_cons {base value : Nat} {digit : Char} {rest : Text}
    (plain : digit ≠ '_') :
    parseDigits base value (digit :: rest) =
      (digitInBase base digit).bind fun next =>
        parseDigits base (value * base + next) rest := by
  rw [parseDigits]
  intro _ _ same
  exact absurd same plain

theorem parseDigits_append {base start : Nat} (small : base ≤ 16)
    {front back : Text}
    (spelled : ∀ symbol ∈ front, ∃ digit < base, symbol = hexDigit digit) :
    parseDigits base start (front ++ back) =
      (parseDigits base start front).bind fun value =>
        parseDigits base value back := by
  induction front generalizing start with
  | nil => rfl
  | cons head rest ih =>
      obtain ⟨digit, bound, rfl⟩ := spelled head (by simp)
      have plain := (hexDigit_ne_signs digit (by omega)).2.2.1
      rw [List.cons_append, parseDigits_cons plain, parseDigits_cons plain,
        digitInBase_digit small bound]
      exact ih fun symbol member => spelled symbol (by simp [member])

theorem parseDigits_digits {base width value start : Nat} (large : 0 < base)
    (small : base ≤ 16) (bound : value < base ^ width) :
    parseDigits base start (digits base width value) =
      some (start * base ^ width + value) := by
  induction width generalizing value with
  | zero =>
      have zero : value = 0 := by simpa using bound
      simp [digits, parseDigits, zero]
  | succ width ih =>
      have quotient : value / base < base ^ width := by
        apply Nat.div_lt_of_lt_mul
        rwa [Nat.mul_comm, ← Nat.pow_succ]
      have last : value % base < base := Nat.mod_lt value large
      rw [digits, parseDigits_append small fun symbol member =>
          exists_digit_of_mem_digits large member,
        ih quotient, Option.bind_some,
        parseDigits_cons (hexDigit_ne_signs _ (by omega)).2.2.1,
        digitInBase_digit small last, Option.bind_some, parseDigits,
        Nat.add_mul, Nat.mul_assoc, ← Nat.pow_succ, Nat.add_assoc,
        Nat.mul_comm (value / base), Nat.div_add_mod]

theorem strip_of_plain {text : Text}
    (plain : ∀ symbol ∈ text, isSpace symbol = false) : strip text = text := by
  have kept : ∀ {other : Text}, (∀ symbol ∈ other, isSpace symbol = false) →
      other.dropWhile isSpace = other := by
    intro other plain
    cases other with
    | nil => rfl
    | cons head rest => simp [List.dropWhile, plain head (by simp)]
  unfold strip
  rw [kept plain, kept, List.reverse_reverse]
  intro symbol member
  exact plain symbol (List.mem_reverse.mp member)

theorem parseNat_eq_parseDigits {base digit : Nat} {rest : Text}
    (small : base ≤ 16) (bound : digit < base)
    (plain : ∀ symbol ∈ rest, symbol ≠ 'x' ∧ symbol ≠ 'X') :
    parseNat base (hexDigit digit :: rest) = parseDigits base digit rest := by
  unfold parseNat
  split <;> rename_i same
  · exact absurd rfl (plain 'x' (by rw [(List.cons.inj same).2]; simp)).1
  · exact absurd rfl (plain 'x' (by rw [(List.cons.inj same).2]; simp)).1
  · exact absurd rfl (plain 'X' (by rw [(List.cons.inj same).2]; simp)).2
  · exact absurd rfl (plain 'X' (by rw [(List.cons.inj same).2]; simp)).2
  · simp [digitInBase_digit small bound]

theorem exists_digits_cons {base : Nat} (width value : Nat) (large : 0 < base) :
    ∃ digit rest, digit < base ∧
      digits base (width + 1) value = hexDigit digit :: rest ∧
      ∀ symbol ∈ hexDigit digit :: rest, ∃ other < base, symbol = hexDigit other := by
  have spelled : ∀ symbol ∈ digits base (width + 1) value,
      ∃ digit < base, symbol = hexDigit digit :=
    fun symbol member => exists_digit_of_mem_digits large member
  have long := length_digits base (width + 1) value
  generalize digits base (width + 1) value = text at *
  cases text with
  | nil => cases long
  | cons head rest =>
      obtain ⟨digit, inside, rfl⟩ := spelled head (by simp)
      exact ⟨digit, rest, inside, rfl, spelled⟩

theorem strip_digits {base width value : Nat} (large : 0 < base) (small : base ≤ 16) :
    strip (digits base width value) = digits base width value := by
  apply strip_of_plain
  intro symbol member
  obtain ⟨digit, inside, rfl⟩ := exists_digit_of_mem_digits large member
  exact isSpace_hexDigit digit (by omega)

theorem parseNat_digits {base width value : Nat} (large : 0 < base)
    (small : base ≤ 16) (bound : value < base ^ (width + 1)) :
    parseNat base (digits base (width + 1) value) = some value := by
  have parsed : parseDigits base 0 (digits base (width + 1) value) =
      some (0 * base ^ (width + 1) + value) := parseDigits_digits large small bound
  obtain ⟨digit, rest, inside, same, spelled⟩ := exists_digits_cons width value large
  rw [same] at parsed ⊢
  have signs := hexDigit_ne_signs digit (by omega)
  rw [parseNat_eq_parseDigits small inside]
  · rw [parseDigits_cons signs.2.2.1, digitInBase_digit small inside,
      Option.bind_some, Nat.zero_mul, Nat.zero_add, Nat.zero_mul,
      Nat.zero_add] at parsed
    exact parsed
  · intro symbol member
    obtain ⟨other, otherInside, rfl⟩ := spelled symbol (by simp [member])
    exact (hexDigit_ne_signs other (by omega)).2.2.2

theorem parseInt_digits {base width value : Nat} (large : 0 < base)
    (small : base ≤ 16) (bound : value < base ^ (width + 1)) :
    parseInt base (digits base (width + 1) value) = some (value : Int) := by
  have whole := parseNat_digits large small bound
  have narrow : ∀ symbol ∈ digits base (width + 1) value, symbol.toNat < 128 := by
    intro symbol member
    obtain ⟨digit, inside, rfl⟩ := exists_digit_of_mem_digits large member
    exact hexDigit_lt digit (by omega)
  unfold parseInt
  rw [map_toAscii narrow, strip_digits large small]
  obtain ⟨digit, rest, inside, same, spelled⟩ := exists_digits_cons width value large
  rw [same] at whole ⊢
  have signs := hexDigit_ne_signs digit (by omega)
  split
  · rename_i same
    exact absurd (List.cons.inj same).1 signs.1
  · rename_i same
    exact absurd (List.cons.inj same).1 signs.2.1
  · rw [whole]
    rfl

theorem parseInt_toDigits {base value : Nat} (large : 1 < base)
    (small : base ≤ 16) :
    parseInt base (Nat.toDigits base value) = some (value : Int) := by
  obtain ⟨width, bound, same⟩ := toDigits_eq_digits large small
  rw [same]
  exact parseInt_digits (by omega) small bound

theorem str_natCast (value : Nat) : str value = Nat.toDigits 10 value := by
  simp [str]

theorem hex_natCast (value : Nat) :
    hex value = '0' :: 'x' :: Nat.toDigits 16 value := by
  unfold hex
  rw [if_neg (by omega)]
  rfl

theorem str_negSucc (value : Nat) :
    str (Int.negSucc value) = '-' :: Nat.toDigits 10 (value + 1) := by
  simp [str]

theorem parseInt_str (value : Int) : parseInt 10 (str value) = some value := by
  cases value with
  | ofNat value =>
      change parseInt 10 (str (value : Int)) = some (value : Int)
      rw [str_natCast]
      exact parseInt_toDigits (by omega) (by omega)
  | negSucc value =>
      have spelled : ∃ width, value + 1 < 10 ^ (width + 1) ∧
          Nat.toDigits 10 (value + 1) = digits 10 (width + 1) (value + 1) :=
        toDigits_eq_digits (by omega) (by omega)
      obtain ⟨width, bound, same⟩ := spelled
      have stripped : strip ('-' :: digits 10 (width + 1) (value + 1)) =
          '-' :: digits 10 (width + 1) (value + 1) := by
        apply strip_of_plain
        intro symbol member
        cases member with
        | head => rfl
        | tail _ member =>
            obtain ⟨digit, inside, rfl⟩ :=
              exists_digit_of_mem_digits (by omega) member
            exact isSpace_hexDigit digit (by omega)
      have narrow : ∀ symbol ∈ '-' :: digits 10 (width + 1) (value + 1),
          symbol.toNat < 128 := by
        intro symbol member
        cases member with
        | head => decide
        | tail _ member =>
            obtain ⟨digit, inside, rfl⟩ :=
              exists_digit_of_mem_digits (by omega) member
            exact hexDigit_lt digit (by omega)
      rw [str_negSucc, same]
      unfold parseInt
      rw [map_toAscii narrow, stripped]
      simp only
      rw [parseNat_digits (by omega) (by omega) bound]
      rfl

theorem str_injective : Function.Injective str := by
  intro first second same
  have read := parseInt_str first
  rw [same, parseInt_str] at read
  exact (Option.some.inj read).symm

def decimalNumber (text : Text) : Nat :=
  text.foldl (fun value symbol => value * 10 + (decimalValue symbol).getD 0) 0

theorem decimalValue_eq {symbol : Char} (decimal : isDecimal symbol = true) :
    ∃ digit < 10, decimalValue symbol = some digit ∧ toAscii symbol = hexDigit digit := by
  obtain ⟨digit, valued⟩ := Option.isSome_iff_exists.mp decimal
  obtain ⟨first, found, same⟩ := Option.map_eq_some_iff.mp valued
  have within := List.find?_some found
  have listed := List.mem_of_find?_eq_some found
  simp only [Bool.and_eq_true, decide_eq_true_eq] at within
  have small : digit < 10 := by omega
  refine ⟨digit, small, valued, ?_⟩
  unfold toAscii hexDigit
  rw [if_pos small]
  by_cases narrow : symbol.toNat < 128
  · have latin : ∀ first ∈ decimalZeros, first < 128 → first = '0'.toNat := by decide
    have zeroed := latin first listed (by omega)
    rw [if_pos narrow, ← same, ← zeroed, Nat.sub_add_cancel within.1, Char.ofNat_toNat]
  · rw [if_neg narrow, valued]

theorem toAscii_hexDigit {digit : Nat} (small : digit < 16) :
    toAscii (hexDigit digit) = hexDigit digit :=
  toAscii_of_lt (hexDigit_lt digit small)

theorem parseDigits_decimals {text : Text} (decimal : ∀ symbol ∈ text, isDecimal symbol = true)
    (start : Nat) : parseDigits 10 start (text.map toAscii) =
      some (text.foldl (fun value symbol => value * 10 + (decimalValue symbol).getD 0) start) := by
  induction text generalizing start with
  | nil => rfl
  | cons symbol rest ih =>
      obtain ⟨digit, small, valued, ascii⟩ := decimalValue_eq (decimal symbol (by simp))
      rw [List.map_cons, ascii, parseDigits_cons (hexDigit_ne_signs digit (by omega)).2.2.1,
        digitInBase_digit (by omega) small, Option.bind_some, List.foldl_cons, valued]
      exact ih (fun symbol member => decimal symbol (by simp [member])) _

/-- `int` reads decimal digits of any script. -/
theorem parseInt_decimals {text : Text} (filled : text ≠ [])
    (decimal : ∀ symbol ∈ text, isDecimal symbol = true) :
    parseInt 10 text = some (decimalNumber text : Int) := by
  have spelled : ∀ symbol ∈ text.map toAscii, ∃ digit < 10, symbol = hexDigit digit := by
    intro symbol member
    obtain ⟨source, listed, rfl⟩ := List.mem_map.mp member
    obtain ⟨digit, small, _, ascii⟩ := decimalValue_eq (decimal source listed)
    exact ⟨digit, small, ascii⟩
  obtain ⟨value, bound, same⟩ := exists_digits spelled
  have number : value = decimalNumber text := by
    have parsed := parseDigits_decimals decimal 0
    rw [same, parseDigits_digits (by omega) (by omega) bound, Nat.zero_mul, Nat.zero_add] at parsed
    exact Option.some.inj parsed
  have again : parseInt 10 text = parseInt 10 (text.map toAscii) := by
    unfold parseInt
    rw [List.map_map]
    congr 2
    apply List.map_congr_left
    intro symbol member
    obtain ⟨digit, small, _, ascii⟩ := decimalValue_eq (decimal symbol member)
    rw [Function.comp_apply, ascii, toAscii_hexDigit (by omega)]
  obtain ⟨width, length⟩ : ∃ width, (text.map toAscii).length = width + 1 :=
    Nat.exists_eq_succ_of_ne_zero (by simpa using filled)
  rw [again, same, ← number]
  rw [length] at bound ⊢
  exact parseInt_digits (by omega) (by omega) bound

theorem isDigit_of_mem_str_natCast {value : Nat} {symbol : Char}
    (member : symbol ∈ str (value : Int)) : symbol.isDigit = true := by
  rw [str_natCast] at member
  exact Nat.isDigit_of_mem_toDigits (by decide) (by decide) member

theorem mem_str {value : Int} {symbol : Char} (member : symbol ∈ str value) :
    symbol = '-' ∨ symbol.isDigit = true := by
  unfold str at member
  split at member
  · rcases List.mem_cons.mp member with sign | digit
    · exact .inl sign
    · exact .inr (Nat.isDigit_of_mem_toDigits (by decide) (by decide) digit)
  · exact .inr (Nat.isDigit_of_mem_toDigits (by decide) (by decide) member)

theorem str_ne_nil (value : Int) : str value ≠ [] := by
  unfold str
  split
  · exact List.cons_ne_nil _ _
  · exact Nat.toDigits_ne_nil

theorem exists_digitChar {symbol : Char} (isDigit : symbol.isDigit = true) :
    ∃ digit < 10, symbol = Nat.digitChar digit := by
  simp only [Char.isDigit, Bool.and_eq_true, decide_eq_true_eq, UInt32.le_iff_toNat_le]
    at isDigit
  have low : 48 ≤ symbol.toNat := isDigit.1
  have high : symbol.toNat ≤ 57 := isDigit.2
  have whole : ∀ digit < 10, Nat.digitChar digit = Char.ofNat (digit + 48) := by decide
  refine ⟨symbol.toNat - 48, by omega, ?_⟩
  rw [whole _ (by omega), Nat.sub_add_cancel low, Char.ofNat_toNat]

theorem ofDigitChars_pos {text : Text} (digits : text.all Char.isDigit)
    (filled : text ≠ []) (plain : text.head? ≠ some '0') :
    0 < Nat.ofDigitChars 10 text 0 := by
  cases text with
  | nil => exact absurd rfl filled
  | cons symbol rest =>
      obtain ⟨digit, small, rfl⟩ :=
        exists_digitChar (List.all_eq_true.mp digits symbol (by simp))
      have positive : digit ≠ 0 := by
        intro zero
        subst zero
        exact plain rfl
      rw [Nat.ofDigitChars_cons_digitChar_of_lt_ten small,
        Nat.ofDigitChars_eq_ofDigitChars_zero]
      have power : 0 < 10 ^ rest.length * (10 * 0 + digit) :=
        Nat.mul_pos (Nat.pow_pos (by decide)) (by omega)
      omega

theorem toDigits_ofDigitChars {text : Text} (digits : text.all Char.isDigit)
    (filled : text ≠ []) (plain : text = ['0'] ∨ text.head? ≠ some '0') :
    Nat.toDigits 10 (Nat.ofDigitChars 10 text 0) = text := by
  induction text using List.reverseRecOn with
  | nil => exact absurd rfl filled
  | append_singleton front symbol ih =>
      simp only [List.all_append, Bool.and_eq_true] at digits
      obtain ⟨digit, small, rfl⟩ :=
        exists_digitChar (List.all_eq_true.mp digits.2 symbol (by simp))
      rw [Nat.ofDigitChars_append, Nat.ofDigitChars_cons_digitChar_of_lt_ten small,
        Nat.ofDigitChars_nil]
      cases front with
      | nil => simpa using Nat.toDigits_of_lt_base small
      | cons first rest =>
          have headPlain : (first :: rest).head? ≠ some '0' := by
            rcases plain with same | plain
            · simp at same
            · simpa using plain
          have positive := ofDigitChars_pos digits.1 (List.cons_ne_nil _ _) headPlain
          have spelled := ih digits.1 (List.cons_ne_nil _ _) (.inr headPlain)
          rw [Nat.toDigits_of_base_le (by decide) (by omega),
            Nat.mul_add_div (by decide), Nat.div_eq_of_lt small, Nat.add_zero, spelled,
            Nat.mul_add_mod, Nat.mod_eq_of_lt small]

end PyText
