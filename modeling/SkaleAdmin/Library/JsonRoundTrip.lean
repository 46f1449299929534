import SkaleAdmin.Library.Json

/-! Reading back what was written. -/

namespace Json

open PyText

/-! ### Characters and strings -/

theorem readHex4_hex4 {value : Nat} (bound : value < 65536) (rest : Text) :
    readHex4 (hex4 value ++ rest) = some (value, rest) := by
  have digit : ∀ quotient, digitInBase 16 (hexDigit (quotient % 16)) =
      some (quotient % 16) := fun quotient =>
    digitInBase_hexDigit _ (Nat.mod_lt _ (by decide))
  have sum : ((value / 4096 % 16 * 16 + value / 256 % 16) * 16 +
      value / 16 % 16) * 16 + value % 16 = value := by omega
  simp [hex4, readHex4, digit, sum]

theorem scalar_bounds (symbol : Char) :
    symbol.toNat < 55296 ∨ 57343 < symbol.toNat ∧ symbol.toNat < 1114112 :=
  symbol.valid

theorem readUnicode_scalar {symbol : Char} (bound : symbol.toNat < 65536)
    (rest : Text) :
    readUnicode (hex4 symbol.toNat ++ rest) = some (symbol, rest) := by
  have scalar := scalar_bounds symbol
  have notHigh : ¬ (55296 ≤ symbol.toNat ∧ symbol.toNat < 56320) := by omega
  have notLow : ¬ (56320 ≤ symbol.toNat ∧ symbol.toNat < 57344) := by omega
  simp [readUnicode, readHex4_hex4 bound, notHigh, notLow]

theorem readUnicode_pair {high low : Nat} (highFrom : 55296 ≤ high)
    (highBelow : high < 56320) (lowFrom : 56320 ≤ low) (lowBelow : low < 57344)
    (rest : Text) :
    readUnicode (hex4 high ++ '\\' :: 'u' :: hex4 low ++ rest) =
      some (Char.ofNat (65536 + (high - 55296) * 1024 + (low - 56320)), rest) := by
  have highRead := readHex4_hex4 (show high < 65536 by omega)
  have lowRead := readHex4_hex4 (show low < 65536 by omega)
  simp [readUnicode, highRead, lowRead, highFrom, highBelow, lowFrom, lowBelow]

theorem readUnicode_surrogates {symbol : Char} (bound : 65536 ≤ symbol.toNat)
    (rest : Text) :
    readUnicode (hex4 (55296 + (symbol.toNat - 65536) / 1024) ++
      '\\' :: 'u' :: hex4 (56320 + (symbol.toNat - 65536) % 1024) ++ rest) =
      some (symbol, rest) := by
  have scalar := scalar_bounds symbol
  have value : 65536 + (55296 + (symbol.toNat - 65536) / 1024 - 55296) * 1024 +
      (56320 + (symbol.toNat - 65536) % 1024 - 56320) = symbol.toNat := by omega
  rw [readUnicode_pair (by omega) (by omega) (by omega) (by omega), value,
    Char.ofNat_toNat]

theorem readSymbol_escape (symbol : Char) (rest : Text) :
    readSymbol (escape symbol ++ rest) = some (symbol, rest) := by
  unfold escape
  split
  · subst symbol; rfl
  split
  · subst symbol; rfl
  split
  · subst symbol; rfl
  split
  · subst symbol; rfl
  split
  · subst symbol; rfl
  split
  · subst symbol; rfl
  split
  · subst symbol; rfl
  split
  case isTrue notQuote notBackslash _ _ _ _ _ printable =>
    have visible : ¬ symbol.toNat < 32 := by omega
    unfold readSymbol
    simp [notBackslash, visible]
  split
  case isTrue bound => exact readUnicode_scalar bound rest
  case isFalse bound =>
    have split := readUnicode_surrogates (Nat.le_of_not_lt bound) rest
    simpa [readSymbol] using split

theorem escape_cons (symbol : Char) :
    ∃ head tail, escape symbol = head :: tail ∧ head ≠ '"' := by
  unfold escape
  split
  · exact ⟨_, _, rfl, by decide⟩
  case isFalse notQuote =>
    repeat' split
    all_goals
      first
        | exact ⟨'\\', _, rfl, by decide⟩
        | exact ⟨symbol, _, rfl, notQuote⟩

theorem readString_succ {fuel : Nat} {head : Char} (tail : Text)
    (notQuote : head ≠ '"') :
    readString (fuel + 1) (head :: tail) =
      (readSymbol (head :: tail)).bind fun (symbol, rest) =>
        (readString fuel rest).map fun (symbols, rest) =>
          (symbol :: symbols, rest) := by
  rw [readString]
  · cases readSymbol (head :: tail) with
    | none => rfl
    | some read =>
        obtain ⟨symbol, rest⟩ := read
        change (readString fuel rest).bind _ = (readString fuel rest).map _
        cases readString fuel rest <;> rfl
  · intro rest same
    exact notQuote (List.cons.inj same).1

theorem readString_escaped (text : Text) (fuel : Nat) (rest : Text)
    (enough : (text.flatMap escape).length < fuel) :
    readString fuel (text.flatMap escape ++ '"' :: rest) =
      some (text, rest) := by
  induction text generalizing fuel with
  | nil =>
      obtain ⟨fuel, rfl⟩ := Nat.exists_eq_succ_of_ne_zero (Nat.ne_of_gt enough)
      rfl
  | cons symbol text ih =>
      obtain ⟨head, tail, escaped, notQuote⟩ := escape_cons symbol
      obtain ⟨fuel, rfl⟩ :=
        Nat.exists_eq_succ_of_ne_zero (Nat.ne_of_gt (Nat.zero_lt_of_lt enough))
      have symbolRead := readSymbol_escape symbol
        (text.flatMap escape ++ '"' :: rest)
      have textRead := ih fuel (by
        simp only [List.flatMap_cons, List.length_append, escaped,
          List.length_cons] at enough
        omega)
      rw [escaped] at symbolRead
      simp only [List.flatMap_cons, escaped, List.cons_append,
        List.append_assoc] at symbolRead ⊢
      rw [readString_succ _ notQuote, symbolRead]
      simp [textRead]

theorem length_writeString (text : Text) :
    (writeString text).length = (text.flatMap escape).length + 2 := by
  simp [writeString]

/-! ### Numbers -/

def NoDigit (rest : Text) : Prop :=
  ∀ head tail, rest = head :: tail → head.isDigit = false

theorem noDigit_cons {head : Char} {tail : Text}
    (notDigit : head.isDigit = false) : NoDigit (head :: tail) := by
  intro other rest same
  cases same
  exact notDigit

theorem takeWhile_append_noDigit {digits rest : Text}
    (all : ∀ digit ∈ digits, digit.isDigit = true) (ends : NoDigit rest) :
    (digits ++ rest).takeWhile Char.isDigit = digits ∧
      (digits ++ rest).dropWhile Char.isDigit = rest := by
  have stops : rest.takeWhile Char.isDigit = [] ∧
      rest.dropWhile Char.isDigit = rest := by
    cases rest with
    | nil => exact ⟨rfl, rfl⟩
    | cons head tail => simp [ends head tail rfl]
  rw [List.takeWhile_append_of_pos all, List.dropWhile_append_of_pos all,
    stops.1, stops.2, List.append_nil]
  exact ⟨rfl, rfl⟩

theorem digitChar_ne_zero :
    ∀ value < 10, 0 < value → Nat.digitChar value ≠ '0' := by
  decide

theorem toDigits_cons (value : Nat) (positive : 0 < value) :
    ∃ head tail, Nat.toDigits 10 value = head :: tail ∧ head ≠ '0' := by
  induction value using Nat.strongRecOn with
  | ind value ih =>
      rw [Nat.toDigits_eq_if (by decide)]
      split
      case isTrue small =>
        exact ⟨_, [], rfl, digitChar_ne_zero value small positive⟩
      case isFalse large =>
        obtain ⟨head, tail, digits, notZero⟩ :=
          ih (value / 10) (by omega) (by omega)
        rw [digits]
        exact ⟨head, _, rfl, notZero⟩

theorem readNat_toDigits (value : Nat) {rest : Text} (ends : NoDigit rest) :
    readNat (Nat.toDigits 10 value ++ rest) = some (value, rest) := by
  have all : ∀ digit ∈ Nat.toDigits 10 value, digit.isDigit = true :=
    fun digit => Nat.isDigit_of_mem_toDigits (by decide) (by decide)
  have sum : Nat.ofDigitChars 10 (Nat.toDigits 10 value) 0 = value :=
    Nat.ofDigitChars_ten_toDigits
  cases value with
  | zero => rfl
  | succ value =>
      obtain ⟨head, tail, digits, notZero⟩ :=
        toDigits_cons (value + 1) (Nat.succ_pos value)
      rw [digits] at all sum ⊢
      have tailDigits := takeWhile_append_noDigit
        (fun digit member => all digit (List.mem_cons_of_mem head member)) ends
      rw [List.cons_append, readNat]
      · rw [if_pos (all head List.mem_cons_self), tailDigits.1, tailDigits.2, sum]
      · exact notZero

theorem ne_of_isDigit {symbol other : Char} (digit : symbol.isDigit = true)
    (notDigit : other.isDigit = false) : symbol ≠ other := by
  intro same
  rw [same, notDigit] at digit
  cases digit

theorem toDigits_head (value : Nat) :
    ∃ head tail, Nat.toDigits 10 value = head :: tail ∧ head.isDigit = true := by
  cases digits : Nat.toDigits 10 value with
  | nil => exact absurd digits Nat.toDigits_ne_nil
  | cons head tail =>
      refine ⟨head, tail, rfl, ?_⟩
      apply Nat.isDigit_of_mem_toDigits (by decide) (Nat.le_refl 10) (n := value)
      rw [digits]
      exact List.mem_cons_self

theorem readInt_str (value : Int) {rest : Text} (ends : NoDigit rest) :
    readInt (str value ++ rest) = some (value, rest) := by
  unfold str
  split
  case isTrue negative =>
    have magnitude := readNat_toDigits value.natAbs ends
    have sign : -(value.natAbs : Int) = value := by omega
    rw [List.cons_append, readInt, magnitude]
    exact congrArg (fun read => some (read, rest)) sign
  case isFalse notNegative =>
    have magnitude := readNat_toDigits value.natAbs ends
    obtain ⟨head, tail, digits, digit⟩ := toDigits_head value.natAbs
    have sign : (value.natAbs : Int) = value := by omega
    rw [digits, List.cons_append] at magnitude ⊢
    rw [readInt, magnitude]
    · simp [sign]
    · intro rest same
      exact ne_of_isDigit digit (show '-'.isDigit = false from rfl)
        (List.cons.inj same).1

/-! ### Values -/

theorem assign_of_notMem {name : Text} {value : Value}
    {fields : List (Text × Value)} (new : name ∉ fields.map Prod.fst) :
    assign name value fields = fields ++ [(name, value)] := by
  induction fields with
  | nil => rfl
  | cons field fields ih =>
      simp only [List.map_cons, List.mem_cons, not_or] at new
      rw [assign, if_neg (Ne.symm new.1), ih new.2]
      rfl

theorem dictOf_of_nodup {fields : List (Text × Value)}
    (distinct : (fields.map Prod.fst).Nodup) : dictOf fields = fields := by
  have general : ∀ front back : List (Text × Value),
      ((front ++ back).map Prod.fst).Nodup →
      back.foldl (fun fields pair => assign pair.1 pair.2 fields) front =
        front ++ back := by
    intro front back
    induction back generalizing front with
    | nil => simp
    | cons pair back ih =>
        intro distinct
        have new : pair.1 ∉ front.map Prod.fst := by
          rw [List.map_append, List.nodup_append] at distinct
          intro member
          exact distinct.2.2 pair.1 member pair.1 (by simp) rfl
        rw [List.foldl_cons, assign_of_notMem new, ih]
        · simp
        · simpa using distinct
  exact general [] fields distinct

def StartsValue (symbol : Char) : Prop :=
  isWhitespace symbol = false ∧ symbol ≠ ']' ∧ symbol ≠ '}'

instance (symbol : Char) : Decidable (StartsValue symbol) :=
  inferInstanceAs (Decidable (_ ∧ _ ∧ _))

theorem startsValue_of_isDigit {symbol : Char} (digit : symbol.isDigit = true) :
    StartsValue symbol := by
  have apart : ∀ other : Char, other.isDigit = false → symbol ≠ other :=
    fun other notDigit => ne_of_isDigit digit notDigit
  refine ⟨?_, apart ']' rfl, apart '}' rfl⟩
  simp [isWhitespace, apart ' ' rfl, apart '\t' rfl, apart '\n' rfl,
    apart '\r' rfl]

theorem write_cons (value : Value) (level : Nat) :
    ∃ head tail, write value level = head :: tail ∧ StartsValue head := by
  cases value with
  | null => exact ⟨'n', _, rfl, by decide⟩
  | bool value =>
      cases value with
      | true => exact ⟨'t', _, rfl, by decide⟩
      | false => exact ⟨'f', _, rfl, by decide⟩
  | num value =>
      obtain ⟨head, tail, digits, digit⟩ := toDigits_head value.natAbs
      rw [write, str]
      split
      · exact ⟨'-', _, rfl, by decide⟩
      · exact ⟨head, tail, digits, startsValue_of_isDigit digit⟩
  | str text => exact ⟨'"', _, by rw [write]; rfl, by decide⟩
  | arr items =>
      cases items with
      | nil => exact ⟨'[', _, rfl, by decide⟩
      | cons item items => exact ⟨'[', _, by rw [write]; rfl, by decide⟩
  | obj fields =>
      cases fields with
      | nil => exact ⟨'\x7b', _, rfl, by decide⟩
      | cons field fields => exact ⟨'\x7b', _, by rw [write]; rfl, by decide⟩

theorem skipWhitespace_newline (level : Nat) (text : Text) :
    skipWhitespace (newline level ++ text) = skipWhitespace text := by
  have blanks : ∀ count, skipWhitespace (List.replicate count ' ' ++ text) =
      skipWhitespace text := by
    intro count
    induction count with
    | zero => rfl
    | succ count ih => exact ih
  exact blanks (4 * level)

theorem skipWhitespace_cons {head : Char} {tail : Text}
    (visible : isWhitespace head = false) :
    skipWhitespace (head :: tail) = head :: tail := by
  simp [skipWhitespace, visible]

def ReadsBack (value : Value) : Prop :=
  ∀ level fuel rest, 3 * (write value level).length ≤ fuel → NoDigit rest →
    readValue fuel (write value level ++ rest) = some (value, rest)

theorem readValue_number {head : Char} (tail : Text) (fuel : Nat)
    (number : head = '-' ∨ head.isDigit = true) :
    readValue (fuel + 1) (head :: tail) =
      (readInt (head :: tail)).map fun (value, rest) => (.num value, rest) := by
  have apart : ∀ other : Char, other ≠ '-' → other.isDigit = false →
      head ≠ other := by
    intro other notMinus notDigit same
    subst same
    rcases number with minus | digit
    · exact notMinus minus
    · rw [notDigit] at digit
      cases digit
  rw [readValue]
  · exact fun rest same => apart 'n' (by decide) rfl (List.cons.inj same).1
  · exact fun rest same => apart 't' (by decide) rfl (List.cons.inj same).1
  · exact fun rest same => apart 'f' (by decide) rfl (List.cons.inj same).1
  · exact fun rest same => apart '"' (by decide) rfl (List.cons.inj same).1
  · exact fun rest same => apart '[' (by decide) rfl (List.cons.inj same).1
  · exact fun rest same => apart '\x7b' (by decide) rfl (List.cons.inj same).1

theorem str_cons (value : Int) :
    ∃ head tail, str value = head :: tail ∧
      (head = '-' ∨ head.isDigit = true) := by
  unfold str
  split
  · exact ⟨'-', _, rfl, .inl rfl⟩
  · obtain ⟨head, tail, digits, digit⟩ := toDigits_head value.natAbs
    exact ⟨head, tail, digits, .inr digit⟩

theorem readsBack_num (value : Int) : ReadsBack (.num value) := by
  intro level fuel rest enough ends
  have int := readInt_str value ends
  obtain ⟨head, tail, written, number⟩ := str_cons value
  rw [write, written] at enough ⊢
  rw [written] at int
  rw [List.length_cons] at enough
  obtain ⟨fuel, rfl⟩ : ∃ less, fuel = less + 1 := ⟨fuel - 1, by omega⟩
  rw [List.cons_append, readValue_number _ _ number, ← List.cons_append, int]
  rfl

theorem readsBack_str (text : Text) : ReadsBack (.str text) := by
  intro level fuel rest enough ends
  rw [write, length_writeString] at enough
  obtain ⟨fuel, rfl⟩ : ∃ less, fuel = less + 1 := ⟨fuel - 1, by omega⟩
  have read := readString_escaped text fuel rest (by omega)
  rw [write, writeString, List.append_assoc, List.cons_append, readValue]
  simp [read]

theorem skipWhitespace_write (value : Value) (level : Nat) (rest : Text) :
    skipWhitespace (write value level ++ rest) = write value level ++ rest := by
  obtain ⟨head, tail, written, starts⟩ := write_cons value level
  rw [written, List.cons_append, skipWhitespace_cons starts.1]

theorem readItems_write {item : Value} {items : List Value}
    (first : ReadsBack item) (others : ∀ item ∈ items, ReadsBack item)
    (level close fuel : Nat) (rest : Text)
    (enough : 3 * (write item level ++ writeItems items level).length + 1 ≤ fuel) :
    readItems fuel (write item level ++ (writeItems items level ++
        (newline close ++ ']' :: rest))) =
      some (item :: items, rest) := by
  induction items generalizing item fuel with
  | nil =>
      rw [writeItems, List.append_nil] at enough
      obtain ⟨fuel, rfl⟩ : ∃ less, fuel = less + 1 := ⟨fuel - 1, by omega⟩
      have read := first level fuel (newline close ++ ']' :: rest) (by omega)
        (noDigit_cons rfl)
      have bracket : skipWhitespace (newline close ++ ']' :: rest) =
          ']' :: rest := by
        rw [skipWhitespace_newline, skipWhitespace_cons rfl]
      rw [writeItems, List.nil_append, readItems]
      simp [read, bracket]
  | cons next items ih =>
      obtain ⟨fuel, rfl⟩ : ∃ less, fuel = less + 1 := ⟨fuel - 1, by omega⟩
      simp only [writeItems, List.cons_append, List.append_assoc,
        List.length_append, List.length_cons] at enough
      have read := first level fuel
        (writeItems (next :: items) level ++ (newline close ++ ']' :: rest))
        (by omega) (noDigit_cons rfl)
      have tail := ih (others next List.mem_cons_self)
        (fun item member => others item (List.mem_cons_of_mem next member)) fuel
        (by rw [List.length_append]; omega)
      rw [readItems]
      simp only [writeItems, List.cons_append, List.append_assoc] at read ⊢
      simp only [read, Option.bind_eq_bind, Option.bind_some,
        skipWhitespace_cons (show isWhitespace ',' = false from rfl),
        skipWhitespace_newline, skipWhitespace_write, tail]
      rfl

theorem readField_write {value : Value} (reads : ReadsBack value) (name : Text)
    (level fuel : Nat) {rest : Text} (ends : NoDigit rest)
    (enough : 3 * (writeString name ++ write value level).length + 1 ≤ fuel) :
    readField fuel (writeString name ++ ':' :: ' ' :: (write value level ++ rest)) =
      some (name, value, rest) := by
  obtain ⟨fuel, rfl⟩ : ∃ less, fuel = less + 1 := ⟨fuel - 1, by omega⟩
  simp only [List.length_append, length_writeString] at enough
  have nameRead := readString_escaped name fuel
    (':' :: ' ' :: (write value level ++ rest)) (by omega)
  have valueRead := reads level fuel rest (by omega) ends
  have blank : skipWhitespace (' ' :: (write value level ++ rest)) =
      write value level ++ rest := skipWhitespace_write value level rest
  rw [writeString, List.append_assoc, List.cons_append, readField]
  simp only [List.cons_append, List.nil_append, nameRead, Option.bind_eq_bind,
    Option.bind_some, skipWhitespace_cons (show isWhitespace ':' = false from rfl),
    blank, valueRead]
  rfl

theorem readFields_write (name : Text) {value : Value}
    {fields : List (Text × Value)} (first : ReadsBack value)
    (others : ∀ field ∈ fields, ReadsBack field.2)
    (level close fuel : Nat) (rest : Text)
    (enough : 3 * (writeString name ++ write value level ++
      writeFields fields level).length + 2 ≤ fuel) :
    readFields fuel (writeString name ++ ':' :: ' ' :: (write value level ++
        (writeFields fields level ++ (newline close ++ '\x7d' :: rest)))) =
      some ((name, value) :: fields, rest) := by
  induction fields generalizing name value fuel with
  | nil =>
      rw [writeFields, List.append_nil] at enough
      obtain ⟨fuel, rfl⟩ : ∃ less, fuel = less + 1 := ⟨fuel - 1, by omega⟩
      have ends : NoDigit (newline close ++ '\x7d' :: rest) := noDigit_cons rfl
      have read := readField_write first name level fuel ends (by omega)
      have brace : skipWhitespace (newline close ++ '\x7d' :: rest) =
          '\x7d' :: rest := by
        rw [skipWhitespace_newline, skipWhitespace_cons rfl]
      rw [writeFields, List.nil_append, readFields]
      simp [read, brace]
  | cons field fields ih =>
      obtain ⟨fuel, rfl⟩ : ∃ less, fuel = less + 1 := ⟨fuel - 1, by omega⟩
      obtain ⟨nextName, next⟩ := field
      simp only [writeFields, List.cons_append, List.append_assoc,
        List.length_append, List.length_cons] at enough
      have ends : NoDigit (writeFields ((nextName, next) :: fields) level ++
          (newline close ++ '\x7d' :: rest)) := noDigit_cons rfl
      have read := readField_write first name level fuel ends
        (by rw [List.length_append]; omega)
      have tail := ih nextName (others (nextName, next) List.mem_cons_self)
        (fun field member => others field (List.mem_cons_of_mem _ member)) fuel
        (by simp only [List.length_append]; omega)
      have quote : ∀ text, skipWhitespace (writeString nextName ++ text) =
          writeString nextName ++ text := by
        intro text
        exact skipWhitespace_cons rfl
      rw [readFields]
      simp only [writeFields, List.cons_append, List.append_assoc,
        List.nil_append] at read ⊢
      simp only [read, Option.bind_eq_bind, Option.bind_some,
        skipWhitespace_cons (show isWhitespace ',' = false from rfl),
        skipWhitespace_newline, quote, tail]
      rfl

theorem readsBack_arr {items : List Value}
    (each : ∀ item ∈ items, ReadsBack item) : ReadsBack (.arr items) := by
  intro level fuel rest enough _
  cases items with
  | nil =>
      obtain ⟨fuel, rfl⟩ : ∃ less, fuel = less + 1 := ⟨fuel - 1, by
        simp [write] at enough; omega⟩
      rfl
  | cons item items =>
      rw [write] at enough ⊢
      simp only [List.cons_append, List.append_assoc, List.length_append,
        List.length_cons, List.nil_append] at enough ⊢
      obtain ⟨fuel, rfl⟩ : ∃ less, fuel = less + 1 := ⟨fuel - 1, by omega⟩
      have read := readItems_write (each item List.mem_cons_self)
        (fun item member => each item (List.mem_cons_of_mem _ member))
        (level + 1) level fuel rest (by rw [List.length_append]; omega)
      obtain ⟨head, tail, written, starts⟩ := write_cons item (level + 1)
      rw [readValue, skipWhitespace_newline, skipWhitespace_write]
      rw [written, List.cons_append] at read ⊢
      split
      · rename_i same
        exact absurd (List.cons.inj same).1 starts.2.1
      · rw [read]
        rfl

theorem readsBack_obj {fields : List (Text × Value)}
    (distinct : (fields.map Prod.fst).Nodup)
    (each : ∀ field ∈ fields, ReadsBack field.2) : ReadsBack (.obj fields) := by
  intro level fuel rest enough _
  cases fields with
  | nil =>
      obtain ⟨fuel, rfl⟩ : ∃ less, fuel = less + 1 := ⟨fuel - 1, by
        simp [write] at enough; omega⟩
      rfl
  | cons field fields =>
      obtain ⟨name, value⟩ := field
      rw [write] at enough ⊢
      simp only [List.cons_append, List.append_assoc, List.length_append,
        List.length_cons, List.nil_append] at enough ⊢
      obtain ⟨fuel, rfl⟩ : ∃ less, fuel = less + 1 := ⟨fuel - 1, by omega⟩
      have read := readFields_write name (each (name, value) List.mem_cons_self)
        (fun field member => each field (List.mem_cons_of_mem _ member))
        (level + 1) level fuel rest (by simp only [List.length_append]; omega)
      have quote : ∀ text, skipWhitespace (writeString name ++ text) =
          writeString name ++ text := by
        intro text
        exact skipWhitespace_cons rfl
      rw [readValue, skipWhitespace_newline, quote]
      split
      · rename_i same
        exact absurd (List.cons.inj same).1 (by decide)
      · have kept := dictOf_of_nodup distinct
        rw [read, Option.map_some]
        simp [kept]

theorem readsBack {value : Value} (wellFormed : value.WellFormed) :
    ReadsBack value := by
  induction wellFormed with
  | null =>
      intro level fuel rest enough _
      obtain ⟨fuel, rfl⟩ : ∃ less, fuel = less + 1 := ⟨fuel - 1, by
        simp [write] at enough; omega⟩
      rfl
  | bool value =>
      intro level fuel rest enough _
      obtain ⟨fuel, rfl⟩ : ∃ less, fuel = less + 1 := ⟨fuel - 1, by
        cases value <;> simp [write] at enough <;> omega⟩
      cases value <;> rfl
  | num value => exact readsBack_num value
  | str text => exact readsBack_str text
  | arr items _ each => exact readsBack_arr each
  | obj fields distinct _ each => exact readsBack_obj distinct each

/-- The round trip of a document. -/
theorem loads_dumps {value : Value} (wellFormed : value.WellFormed) :
    loads (dumps value) = some value := by
  have read := readsBack wellFormed 0 (3 * (dumps value).length + 1) []
    (by rw [dumps]; omega) (by intro head tail same; cases same)
  have start := skipWhitespace_write value 0 []
  rw [List.append_nil] at read start
  unfold loads
  rw [← dumps] at read start
  rw [start, read]
  rfl

/-! ### Equality -/

theorem lookup_of_mem {fields : List (Text × Value)} {name : Text} {value : Value}
    (distinct : (fields.map Prod.fst).Nodup) (member : (name, value) ∈ fields) :
    fields.lookup name = some value := by
  induction fields with
  | nil => cases member
  | cons field fields ih =>
      obtain ⟨other, content⟩ := field
      rw [List.map_cons, List.nodup_cons] at distinct
      rcases List.mem_cons.mp member with same | later
      · cases same
        simp
      · have apart : name ≠ other := by
          rintro rfl
          exact distinct.1 (List.mem_map.mpr ⟨_, later, rfl⟩)
        rw [List.lookup_cons, beq_false_of_ne apart]
        exact ih distinct.2 later

theorem equalItems_self {items : List Value}
    (each : ∀ item ∈ items, equal item item = true) :
    equalItems items items = true := by
  induction items with
  | nil => rfl
  | cons item items ih =>
      rw [equalItems, each item List.mem_cons_self,
        ih fun other member => each other (List.mem_cons_of_mem item member)]
      rfl

theorem equalFields_of_subset {fields all : List (Text × Value)}
    (distinct : (all.map Prod.fst).Nodup) (subset : ∀ field ∈ fields, field ∈ all)
    (each : ∀ field ∈ fields, equal field.2 field.2 = true) :
    equalFields fields all = true := by
  induction fields with
  | nil => rfl
  | cons field fields ih =>
      obtain ⟨name, value⟩ := field
      have found := lookup_of_mem distinct (subset _ List.mem_cons_self)
      have same : equal value value = true := each _ List.mem_cons_self
      rw [equalFields, found]
      simp only [same, Bool.true_and]
      exact ih (fun other member => subset other (List.mem_cons_of_mem _ member))
        (fun other member => each other (List.mem_cons_of_mem _ member))

theorem equal_self {value : Value} (wellFormed : value.WellFormed) :
    equal value value = true := by
  induction wellFormed with
  | null => rfl
  | bool value => simp [equal]
  | num value => simp [equal]
  | str text => simp [equal]
  | arr items _ each => exact equalItems_self each
  | obj fields distinct _ each =>
      rw [equal, equalFields_of_subset distinct (fun _ member => member) each]
      simp

end Json
