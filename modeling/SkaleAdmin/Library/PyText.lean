import Mathlib.Data.List.Forall2

/-! Texts and integers as Python's built-ins treat them, on lists of
characters and for ASCII digits. -/

namespace PyText

abbrev Text := List Char

/-- `sequence[first:last]` for indices that are not negative. -/
def slice (sequence : List α) (first last : Nat) : List α :=
  (sequence.take last).drop first

theorem slice_append_left {front back : List α} {first last : Nat}
    (within : last ≤ front.length) :
    slice (front ++ back) first last = slice front first last := by
  unfold slice
  rw [List.take_append_of_le_length within]

theorem slice_append_right (front back : List α) (first last : Nat) :
    slice (front ++ back) (front.length + first) (front.length + last) =
      slice back first last := by
  unfold slice
  rw [List.take_append, List.drop_append]
  simp

theorem length_slice {sequence : List α} {first last : Nat}
    (within : last ≤ sequence.length) :
    (slice sequence first last).length = last - first := by
  simp [slice, Nat.min_eq_left within]

theorem mem_of_mem_slice {sequence : List α} {first last : Nat} {item : α}
    (member : item ∈ slice sequence first last) : item ∈ sequence :=
  List.mem_of_mem_take (List.mem_of_mem_drop member)

theorem slice_all (sequence : List α) :
    slice sequence 0 sequence.length = sequence := by
  simp [slice]

theorem slice_append_slice {sequence : List α} {first middle last : Nat}
    (lower : first ≤ middle) (upper : middle ≤ last) :
    slice sequence first middle ++ slice sequence middle last =
      slice sequence first last := by
  have taken : sequence.take middle = (sequence.take last).take middle := by
    rw [List.take_take, Nat.min_eq_left upper]
  unfold slice
  rw [taken]
  conv_rhs => rw [← List.take_append_drop middle (sequence.take last)]
  rw [List.drop_append]
  congr 1
  by_cases long : middle ≤ (sequence.take last).length
  · rw [List.length_take, Nat.min_eq_left long, Nat.sub_eq_zero_of_le lower,
      List.drop_zero]
  · rw [List.drop_eq_nil_of_le (by omega), List.drop_nil]

theorem slice_flatten {blocks : List (List α)} {width index : Nat}
    {block : List α} (uniform : ∀ block ∈ blocks, block.length = width)
    (found : blocks[index]? = some block) :
    slice blocks.flatten (width * index) (width * (index + 1)) = block := by
  induction blocks generalizing index with
  | nil => simp at found
  | cons head rest ih =>
      have headWidth : head.length = width := uniform head (by simp)
      cases index with
      | zero =>
          obtain rfl : head = block := by simpa using found
          rw [List.flatten_cons, slice_append_left (by omega), Nat.mul_zero,
            Nat.zero_add, Nat.mul_one, ← headWidth, slice_all]
      | succ index =>
          have tail := ih (fun other member => uniform other (by simp [member]))
            (by simpa using found)
          have lower : width * (index + 1) = head.length + width * index := by
            rw [headWidth, Nat.mul_add]
            omega
          have upper : width * (index + 1 + 1) =
              head.length + width * (index + 1) := by
            rw [headWidth, Nat.mul_add]
            omega
          rw [List.flatten_cons, lower, upper, slice_append_right, tail]

theorem forall₂_of_mapM {convert : α → Option β} {inputs : List α}
    {outputs : List β} (converted : inputs.mapM convert = some outputs) :
    List.Forall₂ (fun input output => convert input = some output)
      inputs outputs := by
  induction inputs generalizing outputs with
  | nil =>
      rw [List.mapM_nil] at converted
      cases converted
      exact .nil
  | cons input rest ih =>
      rw [List.mapM_cons] at converted
      obtain ⟨output, first, converted⟩ := Option.bind_eq_some_iff.mp converted
      obtain ⟨others, tail, converted⟩ := Option.bind_eq_some_iff.mp converted
      cases converted
      exact .cons first (ih tail)

def digitValue (digit : Char) : Option Nat :=
  if '0' ≤ digit ∧ digit ≤ '9' then some (digit.toNat - '0'.toNat)
  else if 'a' ≤ digit ∧ digit ≤ 'z' then some (digit.toNat - 'a'.toNat + 10)
  else if 'A' ≤ digit ∧ digit ≤ 'Z' then some (digit.toNat - 'A'.toNat + 10)
  else none

def digitInBase (base : Nat) (digit : Char) : Option Nat :=
  (digitValue digit).filter (· < base)

/-- Digits of a literal after its first one; an underscore may stand between
two digits. -/
def parseDigits (base : Nat) : Nat → Text → Option Nat
  | value, [] => some value
  | value, '_' :: digit :: rest =>
      (digitInBase base digit).bind fun next =>
        parseDigits base (value * base + next) rest
  | value, digit :: rest =>
      (digitInBase base digit).bind fun next =>
        parseDigits base (value * base + next) rest

def isSpace (symbol : Char) : Bool :=
  symbol == ' ' || ('\t' ≤ symbol && symbol ≤ '\r')

def strip (text : Text) : Text :=
  ((text.dropWhile isSpace).reverse.dropWhile isSpace).reverse

/-- The digits of a literal, with its optional `0x` in base 16. -/
def parseNat (base : Nat) (text : Text) : Option Nat :=
  let digits :=
    match base, text with
    | 16, '0' :: 'x' :: '_' :: rest => rest
    | 16, '0' :: 'x' :: rest => rest
    | 16, '0' :: 'X' :: '_' :: rest => rest
    | 16, '0' :: 'X' :: rest => rest
    | _, plain => plain
  match digits with
  | [] => none
  | digit :: rest =>
      (digitInBase base digit).bind fun first => parseDigits base first rest

def decimalZeros : List Nat :=
  [0x0030, 0x0660, 0x06F0, 0x07C0, 0x0966, 0x09E6, 0x0A66, 0x0AE6, 0x0B66, 0x0BE6, 0x0C66,
   0x0CE6, 0x0D66, 0x0DE6, 0x0E50, 0x0ED0, 0x0F20, 0x1040, 0x1090, 0x17E0, 0x1810, 0x1946,
   0x19D0, 0x1A80, 0x1A90, 0x1B50, 0x1BB0, 0x1C40, 0x1C50, 0xA620, 0xA8D0, 0xA900, 0xA9D0,
   0xA9F0, 0xAA50, 0xABF0, 0xFF10, 0x104A0, 0x10D30, 0x11066, 0x110F0, 0x11136, 0x111D0,
   0x112F0, 0x11450, 0x114D0, 0x11650, 0x116C0, 0x11730, 0x118E0, 0x11950, 0x11C50,
   0x11D50, 0x11DA0, 0x16A60, 0x16AC0, 0x16B50, 0x1D7CE, 0x1D7D8, 0x1D7E2, 0x1D7EC,
   0x1D7F6, 0x1E140, 0x1E2F0, 0x1E950, 0x1FBF0]

/-- `unicodedata.decimal`. -/
def decimalValue (symbol : Char) : Option Nat :=
  (decimalZeros.find? fun first => first ≤ symbol.toNat && symbol.toNat ≤ first + 9).map
    fun first => symbol.toNat - first

def isDecimal (symbol : Char) : Bool :=
  (decimalValue symbol).isSome

def wideSpaces : List Nat :=
  [0x0085, 0x00A0, 0x1680, 0x2000, 0x2001, 0x2002, 0x2003, 0x2004, 0x2005, 0x2006, 0x2007,
   0x2008, 0x2009, 0x200A, 0x2028, 0x2029, 0x202F, 0x205F, 0x3000]

/-- What `int` reads for a character. -/
def toAscii (symbol : Char) : Char :=
  if symbol.toNat < 128 then symbol
  else
    match decimalValue symbol with
    | some value => Char.ofNat (value + '0'.toNat)
    | none => if symbol.toNat ∈ wideSpaces then ' ' else '?'

/-- `int(text, base)`; `none` stands for its `ValueError`. -/
def parseInt (base : Nat) (text : Text) : Option Int :=
  match strip (text.map toAscii) with
  | '-' :: rest => (parseNat base rest).map fun value => -(value : Int)
  | '+' :: rest => (parseNat base rest).map Int.ofNat
  | plain => (parseNat base plain).map Int.ofNat

def hex (value : Int) : Text :=
  if value < 0 then '-' :: '0' :: 'x' :: Nat.toDigits 16 value.natAbs
  else '0' :: 'x' :: Nat.toDigits 16 value.natAbs

def str (value : Int) : Text :=
  if value < 0 then '-' :: Nat.toDigits 10 value.natAbs
  else Nat.toDigits 10 value.natAbs

/-- `bytes.fromhex(text)`, as the list of the bytes; `none` stands for its
`ValueError`. -/
def bytesFromHex : Text → Option (List Nat)
  | [] => some []
  | [symbol] => if isSpace symbol then some [] else none
  | high :: low :: rest =>
      if isSpace high then bytesFromHex (low :: rest)
      else do
        let highValue ← digitInBase 16 high
        let lowValue ← digitInBase 16 low
        let bytes ← bytesFromHex rest
        return (16 * highValue + lowValue) :: bytes

def hexDigit (value : Nat) : Char :=
  if value < 10 then Char.ofNat (value + '0'.toNat)
  else Char.ofNat (value - 10 + 'a'.toNat)

def hexOfBytes : List Nat → Text
  | [] => []
  | byte :: rest => hexDigit (byte / 16) :: hexDigit (byte % 16) :: hexOfBytes rest

/-- A digit as `bytes.hex()` writes it. -/
def IsLowerHex (symbol : Char) : Prop :=
  ∃ value < 16, symbol = hexDigit value

theorem digitInBase_hexDigit :
    ∀ value < 16, digitInBase 16 (hexDigit value) = some value := by
  decide

theorem isSpace_hexDigit : ∀ value < 16, isSpace (hexDigit value) = false := by
  decide

theorem toAscii_of_lt {symbol : Char} (narrow : symbol.toNat < 128) : toAscii symbol = symbol :=
  if_pos narrow

theorem map_toAscii {text : Text} (narrow : ∀ symbol ∈ text, symbol.toNat < 128) :
    text.map toAscii = text := by
  induction text with
  | nil => rfl
  | cons symbol text ih =>
      rw [List.map_cons, toAscii_of_lt (narrow symbol List.mem_cons_self),
        ih fun other member => narrow other (List.mem_cons_of_mem _ member)]

theorem hexDigit_lt : ∀ value < 16, (hexDigit value).toNat < 128 := by
  decide

theorem isDecimal_of_isDigit {symbol : Char} (isDigit : symbol.isDigit = true) :
    isDecimal symbol = true := by
  simp only [Char.isDigit, Bool.and_eq_true, decide_eq_true_eq, UInt32.le_iff_toNat_le] at isDigit
  have first : '0'.toNat ∈ decimalZeros := by decide
  rw [isDecimal, decimalValue, Option.isSome_map, List.find?_isSome]
  exact ⟨'0'.toNat, first, by simpa using isDigit⟩

theorem hexOfBytes_bytesFromHex :
    ∀ {text : Text}, text.length % 2 = 0 →
      (∀ symbol ∈ text, IsLowerHex symbol) →
      ∃ bytes, bytesFromHex text = some bytes ∧ hexOfBytes bytes = text
  | [], _, _ => ⟨[], rfl, rfl⟩
  | [symbol], even, _ => by simp at even
  | high :: low :: rest, even, lower => by
      obtain ⟨highValue, highBound, rfl⟩ := lower high (by simp)
      obtain ⟨lowValue, lowBound, rfl⟩ := lower low (by simp)
      have restEven : rest.length % 2 = 0 := by
        simp only [List.length_cons] at even
        omega
      obtain ⟨bytes, parsed, printed⟩ :=
        hexOfBytes_bytesFromHex restEven
          (fun symbol member => lower symbol (by simp [member]))
      refine ⟨(16 * highValue + lowValue) :: bytes, ?_, ?_⟩
      · simp [bytesFromHex, isSpace_hexDigit highValue highBound,
          digitInBase_hexDigit highValue highBound,
          digitInBase_hexDigit lowValue lowBound, parsed]
      · have quotient : (16 * highValue + lowValue) / 16 = highValue := by omega
        have remainder : (16 * highValue + lowValue) % 16 = lowValue := by omega
        simp [hexOfBytes, quotient, remainder, printed]

theorem before_separator {separator : α} {first second front back : List α}
    (firstPlain : separator ∉ first) (secondPlain : separator ∉ second)
    (same : first ++ separator :: front = second ++ separator :: back) :
    first = second ∧ front = back := by
  induction first generalizing second with
  | nil =>
      cases second with
      | nil => exact ⟨rfl, (List.cons.inj same).2⟩
      | cons symbol rest =>
          exact absurd (List.cons.inj same).1 (fun equal => secondPlain (by simp [equal]))
  | cons head first ih =>
      cases second with
      | nil =>
          exact absurd (List.cons.inj same).1 (fun equal => firstPlain (by simp [equal]))
      | cons symbol rest =>
          obtain ⟨rfl, tails⟩ := List.cons.inj same
          obtain ⟨rfl, rfl⟩ := ih (fun member => firstPlain (by simp [member]))
            (fun member => secondPlain (by simp [member])) tails
          exact ⟨rfl, rfl⟩

theorem notMem_of_mem_splitOn [DecidableEq α] {separator : α} {sequence piece : List α}
    (member : piece ∈ sequence.splitOn separator) : separator ∉ piece := by
  induction sequence generalizing piece with
  | nil => simp_all
  | cons head rest ih =>
      rw [List.splitOn_cons_eq_if_modifyHead] at member
      split at member
      · rcases List.mem_cons.mp member with rfl | member
        · exact List.not_mem_nil
        · exact ih member
      · rename_i different
        cases pieces : rest.splitOn separator with
        | nil => exact absurd pieces (List.splitOn_ne_nil _ _)
        | cons first others =>
            rw [pieces, List.modifyHead_cons] at member
            rcases List.mem_cons.mp member with rfl | member
            · have firstPlain : separator ∉ first := ih (by rw [pieces]; simp)
              simp only [List.mem_cons, not_or]
              exact ⟨fun same => different (by simp [same]), firstPlain⟩
            · exact ih (by rw [pieces]; simp [member])

theorem splitOn_eq_pair [DecidableEq α] {separator : α} {sequence first last : List α} :
    sequence.splitOn separator = [first, last] ↔
      sequence = first ++ separator :: last ∧ separator ∉ first ∧ separator ∉ last := by
  constructor
  · intro split
    have whole : [separator].intercalate (sequence.splitOn separator) = sequence :=
      List.intercalate_splitOn separator
    have plain : ∀ piece ∈ [first, last], separator ∉ piece := by
      rw [← split]
      exact fun piece => notMem_of_mem_splitOn
    rw [split] at whole
    refine ⟨?_, plain first (by simp), plain last (by simp)⟩
    rw [← whole]
    simp [List.intercalate]
  · rintro ⟨rfl, firstPlain, lastPlain⟩
    rw [List.splitOn_append_cons_self_of_not_mem firstPlain,
      List.splitOn_eq_singleton lastPlain]

end PyText
