import SkaleAdmin.Library.JsonRoundTrip

/-! What a reader accepts does not depend on the text behind it, so a document
cut short is not a document. -/

namespace Json

open PyText

theorem readHex4_append {text rest : Text} {value : Nat} (more : Text)
    (read : readHex4 text = some (value, rest)) :
    readHex4 (text ++ more) = some (value, rest ++ more) := by
  match text, read with
  | a :: b :: c :: d :: text, read =>
      cases first : digitInBase 16 a <;> cases second : digitInBase 16 b <;>
        cases third : digitInBase 16 c <;> cases fourth : digitInBase 16 d <;>
        simp [readHex4, first, second, third, fourth] at read ⊢
      obtain ⟨rfl, rfl⟩ := read
      exact ⟨rfl, rfl⟩

theorem readUnicode_append {text rest : Text} {symbol : Char} (more : Text)
    (read : readUnicode text = some (symbol, rest)) :
    readUnicode (text ++ more) = some (symbol, rest ++ more) := by
  cases first : readHex4 text with
  | none => simp [readUnicode, first] at read
  | some high =>
      obtain ⟨high, tail⟩ := high
      have firstMore := readHex4_append more first
      simp only [readUnicode, first, firstMore, Option.bind_eq_bind,
        Option.bind_some] at read ⊢
      split at read
      case isTrue surrogate =>
        rw [if_pos surrogate]
        split at read
        · rename_i low
          cases second : readHex4 low with
          | none => simp [second] at read
          | some paired =>
              have secondMore := readHex4_append more second
              simp only [List.cons_append, second, secondMore,
                Option.bind_some] at read ⊢
              split at read
              case isTrue bounds =>
                obtain ⟨rfl, rfl⟩ := Prod.mk.inj (Option.some.inj read)
                rw [if_pos bounds]
                rfl
              case isFalse => cases read
        · cases read
      case isFalse notHigh =>
        rw [if_neg notHigh]
        split at read
        · cases read
        case isFalse notLow =>
          cases read
          rw [if_neg notLow]
          rfl

theorem readSymbol_append {text rest : Text} {symbol : Char} (more : Text)
    (read : readSymbol text = some (symbol, rest)) :
    readSymbol (text ++ more) = some (symbol, rest ++ more) := by
  cases text with
  | nil => cases read
  | cons head tail =>
      by_cases backslash : head = '\\'
      · subst backslash
        cases tail with
        | nil => cases read
        | cons letter tail =>
            by_cases unicode : letter = 'u'
            · subst unicode
              exact readUnicode_append more read
            · have unfolded : ∀ tail, readSymbol ('\\' :: letter :: tail) =
                  (unescape letter).map fun symbol => (symbol, tail) := by
                intro tail
                rw [readSymbol]
                exact unicode
              rw [unfolded] at read
              rw [List.cons_append, List.cons_append, unfolded]
              cases letters : unescape letter with
              | none => simp [letters] at read
              | some found =>
                  simp only [letters, Option.map_some] at read
                  obtain ⟨rfl, rfl⟩ := Prod.mk.inj (Option.some.inj read)
                  rfl
      · have unfolded : ∀ tail, readSymbol (head :: tail) =
            if head = '\\' ∨ head.toNat < 32 then none
            else some (head, tail) := by
          intro tail
          rw [readSymbol]
          · exact fun _ same _ => backslash same
          · exact fun _ _ same _ => backslash same
        rw [unfolded] at read
        rw [List.cons_append, unfolded]
        split at read
        · cases read
        case isFalse printable =>
          cases read
          rw [if_neg printable]

theorem readString_append {text rest symbols : Text} {fuel larger : Nat}
    (more : Text) (bound : fuel ≤ larger)
    (read : readString fuel text = some (symbols, rest)) :
    readString larger (text ++ more) = some (symbols, rest ++ more) := by
  induction fuel generalizing text symbols larger with
  | zero => cases read
  | succ fuel ih =>
      obtain ⟨larger, rfl⟩ : ∃ less, larger = less + 1 := ⟨larger - 1, by omega⟩
      cases text with
      | nil => cases read
      | cons head tail =>
          by_cases quote : head = '"'
          · subst quote
            cases read
            rfl
          · rw [readString_succ tail quote] at read
            rw [List.cons_append, readString_succ _ quote, ← List.cons_append]
            cases first : readSymbol (head :: tail) with
            | none => simp [first] at read
            | some found =>
                obtain ⟨symbol, behind⟩ := found
                rw [readSymbol_append more first]
                simp only [first, Option.bind_some] at read ⊢
                cases second : readString fuel behind with
                | none => simp [second] at read
                | some others =>
                    obtain ⟨others, last⟩ := others
                    simp only [second, Option.map_some] at read
                    obtain ⟨rfl, rfl⟩ := Prod.mk.inj (Option.some.inj read)
                    simp [ih (by omega : fuel ≤ larger) second]

theorem digits_append {digits : Text} (more : Text)
    (followed : digits.dropWhile Char.isDigit ≠ []) :
    (digits ++ more).takeWhile Char.isDigit = digits.takeWhile Char.isDigit ∧
      (digits ++ more).dropWhile Char.isDigit =
        digits.dropWhile Char.isDigit ++ more := by
  induction digits with
  | nil => exact absurd rfl followed
  | cons digit digits ih =>
      cases isDigit : digit.isDigit with
      | true =>
          simp only [List.dropWhile_cons, isDigit, if_true] at followed
          simp [isDigit, ih followed]
      | false => simp [isDigit]

theorem readNat_append {text rest : Text} {value : Nat} (more : Text)
    (followed : rest ≠ []) (read : readNat text = some (value, rest)) :
    readNat (text ++ more) = some (value, rest ++ more) := by
  cases text with
  | nil => cases read
  | cons head tail =>
      by_cases zero : head = '0'
      · subst zero
        cases read
        rfl
      · have unfolded : ∀ tail, readNat (head :: tail) = if head.isDigit then
            some (Nat.ofDigitChars 10 (head :: tail.takeWhile Char.isDigit) 0,
              tail.dropWhile Char.isDigit) else none := by
          intro tail
          rw [readNat]
          exact zero
        rw [unfolded] at read
        rw [List.cons_append, unfolded]
        split at read
        case isTrue digit =>
          obtain ⟨rfl, rfl⟩ := Prod.mk.inj (Option.some.inj read)
          have parted := digits_append more followed
          rw [if_pos digit, parted.1, parted.2]
        case isFalse => cases read

theorem readInt_append {text rest : Text} {value : Int} (more : Text)
    (followed : rest ≠ []) (read : readInt text = some (value, rest)) :
    readInt (text ++ more) = some (value, rest ++ more) := by
  cases text with
  | nil => cases read
  | cons head tail =>
      by_cases minus : head = '-'
      · subst minus
        cases first : readNat tail with
        | none => simp [readInt, first] at read
        | some found =>
            obtain ⟨magnitude, behind⟩ := found
            simp only [readInt, first, Option.map_some] at read
            obtain ⟨rfl, rfl⟩ := Prod.mk.inj (Option.some.inj read)
            rw [List.cons_append, readInt, readNat_append more followed first]
            rfl
      · have unfolded : ∀ tail, readInt (head :: tail) =
            (readNat (head :: tail)).map
              fun read => ((read.1 : Int), read.2) := by
          intro tail
          rw [readInt]
          exact fun rest same => minus (List.cons.inj same).1
        rw [unfolded] at read
        rw [List.cons_append, unfolded, ← List.cons_append]
        cases first : readNat (head :: tail) with
        | none => simp [first] at read
        | some found =>
            obtain ⟨magnitude, behind⟩ := found
            simp only [first, Option.map_some] at read
            obtain ⟨rfl, rfl⟩ := Prod.mk.inj (Option.some.inj read)
            rw [readNat_append more followed first]
            rfl

theorem skipWhitespace_append {text : Text} (more : Text)
    (visible : skipWhitespace text ≠ []) :
    skipWhitespace (text ++ more) = skipWhitespace text ++ more := by
  unfold skipWhitespace at visible ⊢
  rw [List.dropWhile_append, if_neg (by simpa using visible)]

theorem skipWhitespace_append_cons {text rest : Text} {head : Char} (more : Text)
    (found : skipWhitespace text = head :: rest) :
    skipWhitespace (text ++ more) = head :: (rest ++ more) := by
  rw [skipWhitespace_append more (by rw [found]; exact List.cons_ne_nil _ _),
    found, List.cons_append]

/-- A number ends where its digits do; every other value ends by itself. -/
def Ended (value : Value) (rest : Text) : Prop :=
  rest ≠ [] ∨ ∀ number, value ≠ .num number

/-- What the readers accept with some depth of recursion they accept with any
larger one, whatever stands behind. -/
structure Extends (fuel : Nat) : Prop where
  value : ∀ {larger text value rest} more, fuel ≤ larger →
    readValue fuel text = some (value, rest) → Ended value rest →
    readValue larger (text ++ more) = some (value, rest ++ more)
  items : ∀ {larger text items rest} more, fuel ≤ larger →
    readItems fuel text = some (items, rest) →
    readItems larger (text ++ more) = some (items, rest ++ more)
  fields : ∀ {larger text fields rest} more, fuel ≤ larger →
    readFields fuel text = some (fields, rest) →
    readFields larger (text ++ more) = some (fields, rest ++ more)
  field : ∀ {larger text name value rest} more, fuel ≤ larger →
    readField fuel text = some (name, value, rest) → Ended value rest →
    readField larger (text ++ more) = some (name, value, rest ++ more)

theorem readValue_nil (fuel : Nat) : readValue fuel [] = none := by
  cases fuel <;> rfl

theorem readItems_nil (fuel : Nat) : readItems fuel [] = none := by
  cases fuel with
  | zero => rfl
  | succ fuel => rw [readItems, readValue_nil]; rfl

theorem readFields_nil (fuel : Nat) : readFields fuel [] = none := by
  cases fuel with
  | zero => rfl
  | succ fuel => rw [readFields]; cases fuel <;> rfl

theorem ended_of_followed {value : Value} {behind tail : Text} {head : Char}
    (found : skipWhitespace behind = head :: tail) : Ended value behind := by
  refine .inl ?_
  rintro rfl
  cases found

theorem readItems_extends {fuel larger : Nat} {text rest : Text}
    {items : List Value} (deeper : Extends fuel) (more : Text)
    (bound : fuel ≤ larger)
    (read : readItems (fuel + 1) text = some (items, rest)) :
    readItems (larger + 1) (text ++ more) = some (items, rest ++ more) := by
  cases first : readValue fuel text with
  | none => simp [readItems, first] at read
  | some found =>
      obtain ⟨item, behind⟩ := found
      simp only [readItems, first, Option.bind_eq_bind, Option.bind_some] at read
      split at read
      case h_1 tail comma =>
        have firstMore := deeper.value more bound first (ended_of_followed comma)
        cases second : readItems fuel (skipWhitespace tail) with
        | none => simp [second] at read
        | some others =>
            obtain ⟨others, last⟩ := others
            have visible : skipWhitespace tail ≠ [] := by
              intro blank
              rw [blank, readItems_nil] at second
              cases second
            have secondMore := deeper.items more bound second
            simp only [second, Option.bind_some] at read
            obtain ⟨rfl, rfl⟩ := Prod.mk.inj (Option.some.inj read)
            simp [readItems, firstMore, skipWhitespace_append_cons more comma,
              skipWhitespace_append more visible, secondMore]
      case h_2 tail bracket =>
        have firstMore := deeper.value more bound first (ended_of_followed bracket)
        cases read
        simp [readItems, firstMore, skipWhitespace_append_cons more bracket]
      case h_3 => cases read

theorem readFields_extends {fuel larger : Nat} {text rest : Text}
    {fields : List (Text × Value)} (deeper : Extends fuel) (more : Text)
    (bound : fuel ≤ larger)
    (read : readFields (fuel + 1) text = some (fields, rest)) :
    readFields (larger + 1) (text ++ more) = some (fields, rest ++ more) := by
  cases first : readField fuel text with
  | none => simp [readFields, first] at read
  | some found =>
      obtain ⟨name, value, behind⟩ := found
      simp only [readFields, first, Option.bind_eq_bind, Option.bind_some] at read
      split at read
      case h_1 tail comma =>
        have firstMore := deeper.field more bound first (ended_of_followed comma)
        cases second : readFields fuel (skipWhitespace tail) with
        | none => simp [second] at read
        | some others =>
            obtain ⟨others, last⟩ := others
            have visible : skipWhitespace tail ≠ [] := by
              intro blank
              rw [blank, readFields_nil] at second
              cases second
            have secondMore := deeper.fields more bound second
            simp only [second, Option.bind_some] at read
            obtain ⟨rfl, rfl⟩ := Prod.mk.inj (Option.some.inj read)
            simp [readFields, firstMore, skipWhitespace_append_cons more comma,
              skipWhitespace_append more visible, secondMore]
      case h_2 tail brace =>
        have firstMore := deeper.field more bound first (ended_of_followed brace)
        cases read
        simp [readFields, firstMore, skipWhitespace_append_cons more brace]
      case h_3 => cases read

theorem readField_extends {fuel larger : Nat} {text rest name : Text}
    {value : Value} (deeper : Extends fuel) (more : Text) (bound : fuel ≤ larger)
    (read : readField (fuel + 1) text = some (name, value, rest))
    (ended : Ended value rest) :
    readField (larger + 1) (text ++ more) = some (name, value, rest ++ more) := by
  unfold readField at read
  split at read
  case h_2 => cases read
  case h_1 tail =>
    cases first : readString fuel tail with
    | none => simp [first] at read
    | some found =>
        obtain ⟨label, behind⟩ := found
        have firstMore := readString_append more bound first
        simp only [first, Option.bind_eq_bind, Option.bind_some] at read
        split at read
        case h_2 => cases read
        case h_1 tail colon =>
          cases second : readValue fuel (skipWhitespace tail) with
          | none => simp [second] at read
          | some others =>
              obtain ⟨content, last⟩ := others
              have visible : skipWhitespace tail ≠ [] := by
                intro blank
                rw [blank, readValue_nil] at second
                cases second
              simp only [second, Option.bind_some] at read
              cases read
              have secondMore := deeper.value more bound second ended
              simp [readField, firstMore, skipWhitespace_append_cons more colon,
                skipWhitespace_append more visible, secondMore]

theorem readInt_head {text rest : Text} {value : Int}
    (read : readInt text = some (value, rest)) :
    ∃ head tail, text = head :: tail ∧ (head = '-' ∨ head.isDigit = true) := by
  cases text with
  | nil => cases read
  | cons head tail =>
      refine ⟨head, tail, rfl, ?_⟩
      by_cases minus : head = '-'
      · exact .inl minus
      · right
        by_contra notDigit
        have notZero : head ≠ '0' := by
          rintro rfl
          exact notDigit rfl
        rw [readInt, readNat, if_neg notDigit] at read
        · cases read
        · exact notZero
        · exact fun rest same => minus (List.cons.inj same).1

theorem readValue_extends {fuel larger : Nat} {text rest : Text}
    {value : Value} (deeper : Extends fuel) (more : Text) (bound : fuel ≤ larger)
    (read : readValue (fuel + 1) text = some (value, rest))
    (ended : Ended value rest) :
    readValue (larger + 1) (text ++ more) = some (value, rest ++ more) := by
  unfold readValue at read
  split at read
  case h_1 => cases read; rfl
  case h_2 => cases read; rfl
  case h_3 => cases read; rfl
  case h_4 tail =>
    cases first : readString fuel tail with
    | none => simp [first] at read
    | some found =>
        simp only [first, Option.map_some] at read
        cases read
        rw [List.cons_append, readValue, readString_append more bound first]
        rfl
  case h_5 tail =>
    rw [List.cons_append, readValue]
    split at read
    case h_1 behind bracket =>
      cases read
      rw [skipWhitespace_append_cons more bracket]
      rfl
    case h_2 notBracket =>
      cases first : readItems fuel (skipWhitespace tail) with
      | none => simp [first] at read
      | some found =>
          have visible : skipWhitespace tail ≠ [] := by
            intro blank
            rw [blank, readItems_nil] at first
            cases first
          have firstMore := deeper.items more bound first
          simp only [first, Option.map_some] at read
          cases read
          rw [skipWhitespace_append more visible]
          split
          case h_1 same =>
            obtain ⟨head, behind, text⟩ := List.exists_cons_of_ne_nil visible
            rw [text, List.cons_append] at same
            refine absurd text ?_
            rw [(List.cons.inj same).1]
            exact notBracket behind
          case h_2 =>
            rw [firstMore]
            rfl
  case h_6 tail =>
    rw [List.cons_append, readValue]
    split at read
    case h_1 behind brace =>
      cases read
      rw [skipWhitespace_append_cons more brace]
      rfl
    case h_2 notBrace =>
      cases first : readFields fuel (skipWhitespace tail) with
      | none => simp [first] at read
      | some found =>
          have visible : skipWhitespace tail ≠ [] := by
            intro blank
            rw [blank, readFields_nil] at first
            cases first
          have firstMore := deeper.fields more bound first
          simp only [first, Option.map_some] at read
          cases read
          rw [skipWhitespace_append more visible]
          split
          case h_1 same =>
            obtain ⟨head, behind, text⟩ := List.exists_cons_of_ne_nil visible
            rw [text, List.cons_append] at same
            refine absurd text ?_
            rw [(List.cons.inj same).1]
            exact notBrace behind
          case h_2 =>
            rw [firstMore]
            rfl
  case h_7 =>
    cases first : readInt text with
    | none => simp [first] at read
    | some found =>
        obtain ⟨number, last⟩ := found
        simp only [first, Option.map_some] at read
        cases read
        have followed : rest ≠ [] := by
          rcases ended with followed | notNumber
          · exact followed
          · exact absurd rfl (notNumber number)
        have firstMore := readInt_append more followed first
        obtain ⟨head, tail, rfl, numeral⟩ := readInt_head first
        rw [List.cons_append, readValue_number _ _ numeral, ← List.cons_append,
          firstMore]
        rfl

theorem extends_all (fuel : Nat) : Extends fuel := by
  induction fuel with
  | zero =>
      refine ⟨?_, ?_, ?_, ?_⟩
      · intro _ _ _ _ _ _ read; cases read
      · intro _ _ _ _ _ _ read; cases read
      · intro _ _ _ _ _ _ read; cases read
      · intro _ _ _ _ _ _ _ read; cases read
  | succ fuel ih =>
      have predecessor : ∀ {larger : Nat}, fuel + 1 ≤ larger →
          ∃ less, larger = less + 1 ∧ fuel ≤ less := by
        intro larger bound
        exact ⟨larger - 1, by omega, by omega⟩
      refine ⟨?_, ?_, ?_, ?_⟩
      · intro larger text value rest more bound
        obtain ⟨less, rfl, below⟩ := predecessor bound
        exact readValue_extends ih more below
      · intro larger text items rest more bound
        obtain ⟨less, rfl, below⟩ := predecessor bound
        exact readItems_extends ih more below
      · intro larger text fields rest more bound
        obtain ⟨less, rfl, below⟩ := predecessor bound
        exact readFields_extends ih more below
      · intro larger text name value rest more bound
        obtain ⟨less, rfl, below⟩ := predecessor bound
        exact readField_extends ih more below

theorem readValue_brace {fuel : Nat} {tail rest : Text} {value : Value}
    (read : readValue fuel ('\x7b' :: tail) = some (value, rest)) :
    ∃ fields, value = .obj fields := by
  cases fuel with
  | zero => cases read
  | succ fuel =>
      rw [readValue] at read
      split at read
      · cases read
        exact ⟨[], rfl⟩
      · cases first : readFields fuel (skipWhitespace tail) with
        | none => simp [first] at read
        | some found =>
            simp only [first, Option.map_some] at read
            cases read
            exact ⟨_, rfl⟩

theorem dumps_obj_cons (fields : List (Text × Value)) :
    ∃ tail, dumps (.obj fields) = '\x7b' :: tail := by
  cases fields with
  | nil => exact ⟨_, rfl⟩
  | cons field fields => exact ⟨_, by rw [dumps, write]; rfl⟩

theorem loads_cut {fields : List (Text × Value)}
    (wellFormed : (Value.obj fields).WellFormed) {cut missing : Text}
    (whole : dumps (.obj fields) = cut ++ missing) (short : missing ≠ []) :
    loads cut = none := by
  obtain ⟨tail, opened⟩ := dumps_obj_cons fields
  cases cut with
  | nil => simp [loads, skipWhitespace, readValue_nil]
  | cons head cut =>
      have brace : head = '\x7b' := by
        rw [opened, List.cons_append] at whole
        exact (List.cons.inj whole).1.symm
      subst brace
      have start : skipWhitespace ('\x7b' :: cut) = '\x7b' :: cut :=
        skipWhitespace_cons rfl
      rw [loads, start]
      cases read : readValue (3 * ('\x7b' :: cut).length + 1) ('\x7b' :: cut) with
      | none => rfl
      | some found =>
          obtain ⟨value, rest⟩ := found
          obtain ⟨accepted, rfl⟩ := readValue_brace read
          have ended : Ended (.obj accepted) rest := by
            refine .inr ?_
            rintro number ⟨⟩
          have deep : 3 * ('\x7b' :: cut).length + 1 ≤
              3 * (dumps (.obj fields)).length + 1 := by
            rw [whole, List.length_append]
            omega
          have longer := (extends_all _).value missing deep read ended
          have all := readsBack wellFormed 0
            (3 * (dumps (.obj fields)).length + 1) []
            (by rw [dumps]; omega) (by intro head tail same; cases same)
          rw [List.append_nil, ← dumps] at all
          rw [← whole, all] at longer
          have nothing := (Prod.mk.inj (Option.some.inj longer)).2
          exact absurd (List.append_eq_nil_iff.mp nothing.symm).2 short

end Json
