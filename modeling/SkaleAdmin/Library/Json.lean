import SkaleAdmin.Library.PyText

/-! JSON documents whose numbers are integers, as Python's `json` module writes
them with an indent of four and reads them. -/

namespace Json

open PyText

/-- An object lists its fields in their order. -/
inductive Value where
  | null
  | bool (value : Bool)
  | num (value : Int)
  | str (text : Text)
  | arr (items : List Value)
  | obj (fields : List (Text × Value))

/-- No object has two fields of one name. -/
inductive Value.WellFormed : Value → Prop
  | null : WellFormed .null
  | bool (value : Bool) : WellFormed (.bool value)
  | num (value : Int) : WellFormed (.num value)
  | str (text : Text) : WellFormed (.str text)
  | arr (items : List Value) (each : ∀ item ∈ items, WellFormed item) :
      WellFormed (.arr items)
  | obj (fields : List (Text × Value)) (distinct : (fields.map Prod.fst).Nodup)
      (each : ∀ field ∈ fields, WellFormed field.2) : WellFormed (.obj fields)

mutual

def Value.isWellFormed : Value → Bool
  | .arr items => areWellFormed items
  | .obj fields => decide (fields.map Prod.fst).Nodup && haveWellFormed fields
  | _ => true

def areWellFormed : List Value → Bool
  | [] => true
  | item :: items => item.isWellFormed && areWellFormed items

def haveWellFormed : List (Text × Value) → Bool
  | [] => true
  | (_, value) :: fields => value.isWellFormed && haveWellFormed fields

end

mutual

theorem wellFormed_of_isWellFormed : ∀ {value : Value},
    value.isWellFormed = true → value.WellFormed
  | .null, _ => .null
  | .bool value, _ => .bool value
  | .num value, _ => .num value
  | .str text, _ => .str text
  | .arr items, holds => .arr items (wellFormed_of_areWellFormed holds)
  | .obj fields, holds => by
      rw [Value.isWellFormed, Bool.and_eq_true] at holds
      exact .obj fields (of_decide_eq_true holds.1) (wellFormed_of_haveWellFormed holds.2)

theorem wellFormed_of_areWellFormed : ∀ {items : List Value},
    areWellFormed items = true → ∀ item ∈ items, item.WellFormed
  | [], _, _, member => nomatch member
  | first :: items, hold, item, member => by
      rw [areWellFormed, Bool.and_eq_true] at hold
      rcases List.mem_cons.mp member with same | later
      · rw [same]
        exact wellFormed_of_isWellFormed hold.1
      · exact wellFormed_of_areWellFormed hold.2 item later

theorem wellFormed_of_haveWellFormed : ∀ {fields : List (Text × Value)},
    haveWellFormed fields = true → ∀ field ∈ fields, field.2.WellFormed
  | [], _, _, member => nomatch member
  | (_, value) :: fields, hold, field, member => by
      rw [haveWellFormed, Bool.and_eq_true] at hold
      rcases List.mem_cons.mp member with same | later
      · rw [same]
        exact wellFormed_of_isWellFormed hold.1
      · exact wellFormed_of_haveWellFormed hold.2 field later

end

mutual

/-- `first == second`, where the order of the fields of an object does not
matter and `True` and `False` are the numbers one and zero. -/
def equal : Value → Value → Bool
  | .null, .null => true
  | .bool first, .bool second => first == second
  | .bool first, .num second => (if first then 1 else 0) == second
  | .num first, .bool second => first == if second then 1 else 0
  | .num first, .num second => first == second
  | .str first, .str second => first == second
  | .arr first, .arr second => equalItems first second
  | .obj first, .obj second =>
      first.length == second.length && equalFields first second
  | _, _ => false

def equalItems : List Value → List Value → Bool
  | [], [] => true
  | first :: firsts, second :: seconds =>
      equal first second && equalItems firsts seconds
  | _, _ => false

def equalFields : List (Text × Value) → List (Text × Value) → Bool
  | [], _ => true
  | (name, value) :: fields, others =>
      (match others.lookup name with
        | some other => equal value other
        | none => false) && equalFields fields others

end

/-! ### Writing -/

def hex4 (value : Nat) : Text :=
  [hexDigit (value / 4096 % 16), hexDigit (value / 256 % 16),
    hexDigit (value / 16 % 16), hexDigit (value % 16)]

/-- One character of a string with `ensure_ascii`; beyond the basic plane it
is written as two surrogates. -/
def escape (symbol : Char) : Text :=
  if symbol = '"' then ['\\', '"']
  else if symbol = '\\' then ['\\', '\\']
  else if symbol = '\n' then ['\\', 'n']
  else if symbol = '\r' then ['\\', 'r']
  else if symbol = '\t' then ['\\', 't']
  else if symbol = Char.ofNat 8 then ['\\', 'b']
  else if symbol = Char.ofNat 12 then ['\\', 'f']
  else if 32 ≤ symbol.toNat ∧ symbol.toNat < 127 then [symbol]
  else if symbol.toNat < 65536 then '\\' :: 'u' :: hex4 symbol.toNat
  else
    '\\' :: 'u' :: hex4 (55296 + (symbol.toNat - 65536) / 1024) ++
      '\\' :: 'u' :: hex4 (56320 + (symbol.toNat - 65536) % 1024)

def writeString (text : Text) : Text :=
  '"' :: text.flatMap escape ++ ['"']

def newline (level : Nat) : Text :=
  '\n' :: List.replicate (4 * level) ' '

mutual

def write : Value → Nat → Text
  | .null, _ => ['n', 'u', 'l', 'l']
  | .bool true, _ => ['t', 'r', 'u', 'e']
  | .bool false, _ => ['f', 'a', 'l', 's', 'e']
  | .num value, _ => str value
  | .str text, _ => writeString text
  | .arr [], _ => ['[', ']']
  | .arr (item :: items), level =>
      '[' :: newline (level + 1) ++ write item (level + 1) ++
        writeItems items (level + 1) ++ newline level ++ [']']
  | .obj [], _ => ['{', '}']
  | .obj ((name, value) :: fields), level =>
      '{' :: newline (level + 1) ++ writeString name ++ [':', ' '] ++
        write value (level + 1) ++ writeFields fields (level + 1) ++
        newline level ++ ['}']

def writeItems : List Value → Nat → Text
  | [], _ => []
  | item :: items, level =>
      ',' :: newline level ++ write item level ++ writeItems items level

def writeFields : List (Text × Value) → Nat → Text
  | [], _ => []
  | (name, value) :: fields, level =>
      ',' :: newline level ++ writeString name ++ [':', ' '] ++
        write value level ++ writeFields fields level

end

/-- `json.dumps(value, indent=4)`. -/
def dumps (value : Value) : Text :=
  write value 0

/-! ### Reading -/

def isWhitespace (symbol : Char) : Bool :=
  symbol == ' ' || symbol == '\t' || symbol == '\n' || symbol == '\r'

def skipWhitespace (text : Text) : Text :=
  text.dropWhile isWhitespace

def readHex4 : Text → Option (Nat × Text)
  | a :: b :: c :: d :: rest => do
      let a ← digitInBase 16 a
      let b ← digitInBase 16 b
      let c ← digitInBase 16 c
      let d ← digitInBase 16 d
      return (((a * 16 + b) * 16 + c) * 16 + d, rest)
  | _ => none

/-- What follows a backslash and a `u`; a surrogate must stand in a pair. -/
def readUnicode (text : Text) : Option (Char × Text) := do
  let (high, rest) ← readHex4 text
  if 55296 ≤ high ∧ high < 56320 then
    match rest with
    | '\\' :: 'u' :: rest =>
        let (low, rest) ← readHex4 rest
        if 56320 ≤ low ∧ low < 57344 then
          return (Char.ofNat (65536 + (high - 55296) * 1024 + (low - 56320)), rest)
        else
          none
    | _ => none
  else if 56320 ≤ high ∧ high < 57344 then
    none
  else
    return (Char.ofNat high, rest)

def unescape : Char → Option Char
  | '"' => some '"'
  | '\\' => some '\\'
  | '/' => some '/'
  | 'n' => some '\n'
  | 'r' => some '\r'
  | 't' => some '\t'
  | 'b' => some (Char.ofNat 8)
  | 'f' => some (Char.ofNat 12)
  | _ => none

def readSymbol : Text → Option (Char × Text)
  | '\\' :: 'u' :: rest => readUnicode rest
  | '\\' :: letter :: rest => (unescape letter).map fun symbol => (symbol, rest)
  | symbol :: rest =>
      if symbol = '\\' ∨ symbol.toNat < 32 then none else some (symbol, rest)
  | [] => none

def readString : Nat → Text → Option (Text × Text)
  | 0, _ => none
  | _ + 1, '"' :: rest => some ([], rest)
  | fuel + 1, text => do
      let (symbol, rest) ← readSymbol text
      let (symbols, rest) ← readString fuel rest
      return (symbol :: symbols, rest)

def readNat : Text → Option (Nat × Text)
  | '0' :: rest => some (0, rest)
  | digit :: rest =>
      if digit.isDigit then
        some (Nat.ofDigitChars 10 (digit :: rest.takeWhile Char.isDigit) 0,
          rest.dropWhile Char.isDigit)
      else
        none
  | [] => none

def readInt : Text → Option (Int × Text)
  | '-' :: rest => (readNat rest).map fun (value, rest) => (-(value : Int), rest)
  | text => (readNat text).map fun (value, rest) => ((value : Int), rest)

/-- `d[name] = value` on the fields of a dictionary. -/
def assign (name : Text) (value : Value) :
    List (Text × Value) → List (Text × Value)
  | [] => [(name, value)]
  | field :: fields =>
      if field.1 = name then (name, value) :: fields
      else field :: assign name value fields

def dictOf (pairs : List (Text × Value)) : List (Text × Value) :=
  pairs.foldl (fun fields pair => assign pair.1 pair.2 fields) []

mutual

def readValue : Nat → Text → Option (Value × Text)
  | 0, _ => none
  | fuel + 1, text =>
      match text with
      | 'n' :: 'u' :: 'l' :: 'l' :: rest => some (.null, rest)
      | 't' :: 'r' :: 'u' :: 'e' :: rest => some (.bool true, rest)
      | 'f' :: 'a' :: 'l' :: 's' :: 'e' :: rest => some (.bool false, rest)
      | '"' :: rest =>
          (readString fuel rest).map fun (symbols, rest) => (.str symbols, rest)
      | '[' :: rest =>
          match skipWhitespace rest with
          | ']' :: rest => some (.arr [], rest)
          | rest => (readItems fuel rest).map fun (items, rest) => (.arr items, rest)
      | '{' :: rest =>
          match skipWhitespace rest with
          | '}' :: rest => some (.obj [], rest)
          | rest =>
              (readFields fuel rest).map fun (fields, rest) =>
                (.obj (dictOf fields), rest)
      | text => (readInt text).map fun (value, rest) => (.num value, rest)

def readItems : Nat → Text → Option (List Value × Text)
  | 0, _ => none
  | fuel + 1, text => do
      let (item, rest) ← readValue fuel text
      match skipWhitespace rest with
      | ',' :: rest =>
          let (items, rest) ← readItems fuel (skipWhitespace rest)
          return (item :: items, rest)
      | ']' :: rest => return ([item], rest)
      | _ => none

def readFields : Nat → Text → Option (List (Text × Value) × Text)
  | 0, _ => none
  | fuel + 1, text => do
      let (name, value, rest) ← readField fuel text
      match skipWhitespace rest with
      | ',' :: rest =>
          let (fields, rest) ← readFields fuel (skipWhitespace rest)
          return ((name, value) :: fields, rest)
      | '}' :: rest => return ([(name, value)], rest)
      | _ => none

def readField : Nat → Text → Option (Text × Value × Text)
  | 0, _ => none
  | fuel + 1, text =>
      match text with
      | '"' :: rest => do
          let (name, rest) ← readString fuel rest
          match skipWhitespace rest with
          | ':' :: rest =>
              let (value, rest) ← readValue fuel (skipWhitespace rest)
              return (name, value, rest)
          | _ => none
      | _ => none

end

/-- `json.loads(text)`; `none` stands for its `JSONDecodeError`. -/
def loads (text : Text) : Option Value := do
  let (value, rest) ← readValue (3 * text.length + 1) (skipWhitespace text)
  if skipWhitespace rest = [] then return value else none

end Json
