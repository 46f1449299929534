import SkaleAdmin.Logging.Patterns

/-! When the formatter can hide the hosts and the keys of a record. -/

namespace SkaleAdmin.Logging

open PyText PySubstitution

/-! ### Records with labels in them -/

section Records

variable {α : Type}

/-- The record with labels in place of parts of its exception and of its stack. -/
structure LogRecord.Relabelled (labels : List (List α)) (record other : LogRecord α) : Prop where
  line : other.line = record.line
  excInfo : Option.Rel (Rewrites labels) record.excInfo other.excInfo
  stackInfo : Option.Rel (Rewrites labels) record.stackInfo other.stackInfo

theorem LogRecord.Relabelled.refl (labels : List (List α)) (record : LogRecord α) :
    record.Relabelled labels record := by
  have same : ∀ text : Option (List α), Option.Rel (Rewrites labels) text text := by
    intro text
    cases text with
    | none => exact .none
    | some text => exact .some .refl
  exact ⟨rfl, same _, same _⟩

/-- A text that is filtered, or may come about while it is. -/
inductive Seen (labels : List Text) (record : LogRecord Char) : Text → Prop
  | excInfo {text seen : Text} : record.excInfo = some text → Rewrites labels text seen →
      Seen labels record seen
  | stackInfo {text seen : Text} : record.stackInfo = some text → Rewrites labels text seen →
      Seen labels record seen
  | whole {other : LogRecord Char} {seen : Text} : record.Relabelled labels other →
      Rewrites labels (other.unfiltered id id) seen → Seen labels record seen

theorem Seen.rewrites {labels : List Text} {record : LogRecord Char} (before after : Text)
    (seen : Seen labels record before) (rewrites : Rewrites labels before after) :
    Seen labels record after := by
  cases seen with
  | excInfo here first => exact .excInfo here (first.trans rewrites)
  | stackInfo here first => exact .stackInfo here (first.trans rewrites)
  | whole relabelled first => exact .whole relabelled (first.trans rewrites)

theorem seen_of_part {labels : List Text} {record : LogRecord Char} {text : Text}
    (place : record.excInfo = some text ∨ record.stackInfo = some text) :
    Seen labels record text := by
  rcases place with here | here
  · exact .excInfo here .refl
  · exact .stackInfo here .refl

/-- Where a key may stand when a text is filtered: in the exception, in the stack, or in the
line of the record, with the two behind it. -/
inductive Shown (labels : List Text) (record : LogRecord Char) : (front key back : Text) → Prop
  | excInfo {front key back : Text} : record.excInfo = some (front ++ (key ++ back)) →
      Shown labels record front key back
  | stackInfo {front key back : Text} : record.stackInfo = some (front ++ (key ++ back)) →
      Shown labels record front key back
  | line {other : LogRecord Char} {front key rest back : Text} :
      record.line = front ++ (key ++ rest) → record.Relabelled labels other →
      other.unfiltered id id = front ++ (key ++ back) → Shown labels record front key back

end Records

/-! ### The condition -/

/-- The label cannot show the host, whatever stands around it. -/
def conceals (host label : Text) : Bool :=
  decide (host ≠ [] ∧ '[' ∉ host ∧ ']' ∉ host ∧ '\n' ∉ host ∧ ¬host <:+: label)

def safeLabels (sgxServerUrl endpoint : Text) : List Text :=
  [SGX_IP, ETH_IP, SGX_KEY].filter fun label =>
    conceals (writtenHost sgxServerUrl) label && conceals (writtenHost endpoint) label

structure Ordinary (host : Text) : Prop where
  filled : host ≠ []
  ordinary : ∀ symbol ∈ host, symbol = '.' ∨ symbol ∉ PyPattern.specialCharacters

/-- What the library says of the characters of ASCII and of patterns that have nothing special
in them but dots. -/
structure Documented (python : Python) : Prop where
  ascii : AsciiWords python.isWord
  host : ∀ host : Text, Ordinary host → python.finditer host = some (finditer (hostMatcher host))
  key : python.finditer keyPattern = some (finditer (keyMatcher python.isWord))

section Condition

variable (python : Python) (sgxServerUrl endpoint : Text)

/-- The pattern of the host is the host as it is written, or the text does not have it. -/
def Legible (netloc text : Text) : Prop :=
  Ordinary (python.hostname netloc) ∧ writtenHost netloc = python.hostname netloc ∨
    ¬writtenHost netloc <:+: text

/-- The patterns compile, those with a label that shows a host find nothing, no host is written
in another way than its pattern in the text, and no key runs into another one or is torn by a
match of a host. -/
structure Redactable (record : LogRecord Char) : Prop where
  compiled : ∀ host ∈ hostPatterns (python.hostname sgxServerUrl) (python.hostname endpoint),
    (python.finditer host.1).isSome = true
  unshown : ∀ pattern ∈ python.composeHidingPatterns sgxServerUrl endpoint,
    pattern.2 ∉ safeLabels sgxServerUrl endpoint →
    ∀ found, python.finditer pattern.1 = some found →
    ∀ text, Seen (safeLabels sgxServerUrl endpoint) record text → found text = []
  sgx : Legible python sgxServerUrl (record.unfiltered id id)
  eth : Legible python endpoint (record.unfiltered id id)
  keys : ∀ front key back, Shown (safeLabels sgxServerUrl endpoint) record front key back →
    IsKey python.isWord key back → ¬EndsInKey python.isWord front ∧
    ∀ host ∈ hostPatterns (python.hostname sgxServerUrl) (python.hostname endpoint),
      ∀ found, python.finditer host.1 = some found → ∀ frontAfter backAfter,
        Rewrites (safeLabels sgxServerUrl endpoint) front frontAfter →
        Rewrites (safeLabels sgxServerUrl endpoint) back backAfter →
        Spares frontAfter.length key.length (found (frontAfter ++ (key ++ backAfter)))

end Condition

theorem mem_of_mem_safeLabels {sgxServerUrl endpoint label : Text}
    (listed : label ∈ safeLabels sgxServerUrl endpoint) : label ∈ [SGX_IP, ETH_IP, SGX_KEY] :=
  List.mem_of_mem_filter listed

theorem foreign_of_conceals {host label : Text} (listed : label ∈ [SGX_IP, ETH_IP, SGX_KEY])
    (concealed : conceals host label = true) : Foreign host label := by
  obtain ⟨filled, opened, closed, _, absent⟩ := of_decide_eq_true concealed
  have ends : ∀ label ∈ [SGX_IP, ETH_IP, SGX_KEY],
      label.head? = some '[' ∧ label.getLast? = some ']' := by decide
  exact ⟨filled, ⟨'[', (ends label listed).1, opened⟩, ⟨']', (ends label listed).2, closed⟩, absent⟩

/-! ### The parts of a text -/

section Parts

variable {record : LogRecord Char} {s text : Text}

/-- A line ends where the two texts meet. -/
def Breaks (front back : Text) : Prop :=
  back = [] ∨ back.head? = some '\n' ∨ front.getLast? = some '\n'

theorem appendLine_tail (s text : Text) :
    ∃ tail, appendLine id id s text = s ++ tail ∧ Breaks s tail := by
  unfold appendLine
  split
  · rename_i ended
    rw [Option.map_id] at ended
    exact ⟨text, rfl, .inr (.inr ended)⟩
  · exact ⟨'\n' :: text, rfl, .inr (.inl rfl)⟩

theorem appendLine_ahead (s text : Text) : ∃ ahead, appendLine id id s text = ahead ++ text := by
  unfold appendLine
  split
  · exact ⟨s, rfl⟩
  · exact ⟨s ++ ['\n'], by simp⟩

theorem Breaks.append {first second : Text} (here : Breaks s first)
    (later : Breaks (s ++ first) second) : Breaks s (first ++ second) := by
  cases first with
  | nil =>
      rw [List.append_nil] at later
      exact later
  | cons symbol first => exact here.imp nofun id

theorem Breaks.of_append {front back tail : Text} (breaks : Breaks (front ++ back) tail)
    (filled : back ≠ []) : Breaks back tail := by
  refine breaks.imp id (Or.imp id fun ended => ?_)
  rwa [List.getLast?_append_of_ne_nil _ filled] at ended

theorem unfiltered_cons {α : Type} {symbol : α → Char} {plain : Char → α} (line stack : List α)
    (excInfo : Option (List α)) (cell : α) :
    LogRecord.unfiltered symbol plain ⟨line, excInfo, some (cell :: stack)⟩ = appendLine symbol
      plain (LogRecord.unfiltered symbol plain ⟨line, excInfo, none⟩) (cell :: stack) := by
  cases excInfo with
  | none => rfl
  | some trace => rfl

theorem unfiltered_line (record : LogRecord Char) :
    ∃ tail, record.unfiltered id id = record.line ++ tail ∧ Breaks record.line tail := by
  obtain ⟨line, excInfo, stackInfo⟩ := record
  have begun : ∃ tail, LogRecord.unfiltered id id ⟨line, excInfo, none⟩ = line ++ tail ∧
      Breaks line tail := by
    cases excInfo with
    | none => exact ⟨[], (List.append_nil line).symm, .inl rfl⟩
    | some trace =>
        cases trace with
        | nil => exact ⟨[], (List.append_nil line).symm, .inl rfl⟩
        | cons symbol trace => exact appendLine_tail line (symbol :: trace)
  cases stackInfo with
  | none => exact begun
  | some stack =>
      cases stack with
      | nil => exact begun
      | cons cell stack =>
          obtain ⟨first, whole, here⟩ := begun
          rw [unfiltered_cons, whole]
          obtain ⟨second, appended, later⟩ := appendLine_tail (line ++ first) (cell :: stack)
          exact ⟨first ++ second, by rw [appended, List.append_assoc], here.append later⟩

theorem unfiltered_excInfo (here : record.excInfo = some text) (filled : text ≠ []) :
    ∃ ahead tail, record.unfiltered id id = ahead ++ (text ++ tail) ∧ Breaks text tail := by
  obtain ⟨line, excInfo, stackInfo⟩ := record
  obtain rfl : excInfo = some text := here
  have begun : ∃ ahead, LogRecord.unfiltered id id ⟨line, some text, none⟩ = ahead ++ text := by
    cases text with
    | nil => exact absurd rfl filled
    | cons symbol text => exact appendLine_ahead line (symbol :: text)
  obtain ⟨ahead, whole⟩ := begun
  cases stackInfo with
  | none => exact ⟨ahead, [], by rw [whole, List.append_nil], .inl rfl⟩
  | some stack =>
      cases stack with
      | nil => exact ⟨ahead, [], by rw [List.append_nil]; exact whole, .inl rfl⟩
      | cons cell stack =>
          rw [unfiltered_cons, whole]
          obtain ⟨tail, appended, breaks⟩ := appendLine_tail (ahead ++ text) (cell :: stack)
          exact ⟨ahead, tail, by rw [appended, List.append_assoc], breaks.of_append filled⟩

theorem unfiltered_stackInfo (here : record.stackInfo = some text) (filled : text ≠ []) :
    ∃ ahead, record.unfiltered id id = ahead ++ text := by
  obtain ⟨line, excInfo, stackInfo⟩ := record
  obtain rfl : stackInfo = some text := here
  cases text with
  | nil => exact absurd rfl filled
  | cons cell stack =>
      rw [unfiltered_cons]
      exact appendLine_ahead _ _

end Parts

theorem IsKey.append_tail {isWord : Char → Bool} {key back tail : Text}
    (ascii : AsciiWords isWord) (isKey : IsKey isWord key back)
    (breaks : Breaks (key ++ back) tail) : IsKey isWord key (back ++ tail) := by
  cases back with
  | cons symbol back => exact (isKey_append_iff (List.cons_ne_nil _ _)).mpr isKey
  | nil =>
      rcases breaks with rfl | next | ended
      · exact isKey
      · obtain ⟨word, some, all, same, _⟩ := isKey
        refine ⟨word, some, all, same, ?_⟩
        intro symbol ahead
        obtain rfl := Option.some.inj (ahead.symm.trans next)
        exact ascii.signs '\n' (by simp)
      · rw [List.append_nil] at ended
        exact absurd (List.mem_of_getLast? ended) (isKey.oneLine ascii)

theorem IsKey.of_append {isWord : Char → Bool} {key back tail : Text}
    (isKey : IsKey isWord key (back ++ tail)) : IsKey isWord key back := by
  cases back with
  | cons symbol back => exact (isKey_append_iff (List.cons_ne_nil _ _)).mp isKey
  | nil =>
      obtain ⟨word, some, all, same, _⟩ := isKey
      exact ⟨word, some, all, same, nofun⟩

/-! ### Names and addresses -/

/-- A name or an address: characters that stand for themselves, none of them a capital
letter, and dots between them. -/
structure PlainPattern (host : Text) : Prop extends Ordinary host where
  small : ∀ symbol ∈ host, symbol.isUpper = false
  oneLine : '\n' ∉ host
  first : host[0]? ≠ some '.'
  last : host[host.length - 1]? ≠ some '.'
  dots : host.IsChain fun first second => ¬(first = '.' ∧ second = '.')

theorem PlainPattern.of_all {host : Text} (filled : host ≠ [])
    (symbols : (host.all fun symbol =>
      (symbol == '.' || !PyPattern.specialCharacters.contains symbol) &&
        !symbol.isUpper && symbol != '\n') = true) (first : host[0]? ≠ some '.')
    (last : host[host.length - 1]? ≠ some '.')
    (dots : host.IsChain fun first second => ¬(first = '.' ∧ second = '.')) :
    PlainPattern host where
  filled := filled
  ordinary symbol member := by
    have tested := List.all_eq_true.mp symbols symbol member
    simp only [Bool.and_eq_true, Bool.or_eq_true, beq_iff_eq, Bool.not_eq_true',
      List.contains_eq_mem, decide_eq_false_iff_not] at tested
    exact tested.1.1
  small symbol member := by
    have tested := List.all_eq_true.mp symbols symbol member
    simp only [Bool.and_eq_true, Bool.not_eq_true'] at tested
    exact tested.1.2
  oneLine member := by
    have tested := List.all_eq_true.mp symbols _ member
    simp at tested
  first := first
  last := last
  dots := dots

namespace PlainPattern

variable {host : Text} (plain : PlainPattern host) {index : Nat} {expected symbol : Char}

include plain

theorem not_dots (here : host[index]? = some '.') : host[index + 1]? ≠ some '.' := by
  intro next
  obtain ⟨inside, first⟩ := List.getElem?_eq_some_iff.mp here
  obtain ⟨further, second⟩ := List.getElem?_eq_some_iff.mp next
  exact List.isChain_iff_getElem.mp plain.dots index further ⟨first, second⟩

theorem dot_of_bracket (found : host[index]? = some expected)
    (bracket : symbol ∈ ['[', ']']) (here : FitsAt expected symbol) : expected = '.' := by
  by_contra apart
  unfold FitsAt at here
  rw [if_neg apart] at here
  subst here
  rcases plain.ordinary expected (List.mem_of_getElem? found) with dot | ordinary
  · exact apart dot
  · apply ordinary
    rcases List.mem_cons.mp bracket with rfl | closing
    · decide
    · obtain rfl := List.mem_singleton.mp closing
      decide

theorem dot_of_isUpper (found : host[index]? = some expected)
    (upper : symbol.isUpper = true) (here : FitsAt expected symbol) : expected = '.' := by
  by_contra apart
  unfold FitsAt at here
  rw [if_neg apart] at here
  subst here
  rw [plain.small expected (List.mem_of_getElem? found)] at upper
  cases upper

end PlainPattern

def Untouched (host front key back : Text) : Prop :=
  ∀ rest, rest <:+ front ++ key → rest ≠ [] → fits host (rest ++ back) = true →
    host.length + key.length ≤ rest.length

section Untouched

variable {host replacement front frontAfter key back backAfter rest : Text}

theorem suffix_of_reaching (plain : PlainPattern host) (label : Label replacement) (part : Text)
    (suffix : rest <:+ front ++ (replacement ++ frontAfter) ++ key)
    (found : fits host (rest ++ back) = true)
    (reaching : rest.length < host.length + key.length) :
    rest <:+ front ++ (part ++ frontAfter) ++ key := by
  have spelled : front ++ (replacement ++ frontAfter) ++ key =
      front ++ replacement ++ (frontAfter ++ key) := by simp only [List.append_assoc]
  have kept : front ++ (part ++ frontAfter) ++ key =
      front ++ part ++ (frontAfter ++ key) := by simp only [List.append_assoc]
  rw [spelled] at suffix
  rw [kept]
  rcases List.suffix_or_suffix_of_suffix suffix (List.suffix_append _ _) with inside | ⟨more, rfl⟩
  · exact inside.trans (List.suffix_append _ _)
  have reached : more <:+ front ++ replacement := by
    obtain ⟨ahead, whole⟩ := suffix
    rw [← List.append_assoc] at whole
    exact ⟨ahead, List.append_cancel_right whole⟩
  obtain ⟨first, middle, last, rfl, _, upper⟩ := label
  have closing : front ++ '[' :: first :: (middle ++ [last, ']']) =
      front ++ '[' :: first :: (middle ++ [last]) ++ [']'] := by simp
  rw [closing, List.suffix_concat_iff] at reached
  rcases reached with rfl | ⟨more, rfl, reached⟩
  · exact List.suffix_append _ _
  simp only [List.length_append, List.length_singleton] at reaching
  obtain ⟨expected, bracket, fit⟩ : ∃ expected, host[more.length]? = some expected ∧
      FitsAt expected ']' := by
    refine fitsAt_of_fits
      (?_ : fits host (more ++ ']' :: (frontAfter ++ key ++ back)) = true) (by omega)
    simpa using found
  obtain rfl := plain.dot_of_bracket bracket (by simp) fit
  rw [show front ++ '[' :: first :: (middle ++ [last]) =
    front ++ '[' :: first :: middle ++ [last] by simp, List.suffix_concat_iff] at reached
  rcases reached with rfl | ⟨more, rfl, _⟩
  · exact absurd bracket plain.first
  · rw [List.length_append, List.length_singleton] at bracket reaching
    obtain ⟨expected, capital, fit⟩ : ∃ expected, host[more.length]? = some expected ∧
        FitsAt expected last := by
      refine fitsAt_of_fits
        (?_ : fits host (more ++ last :: ']' :: (frontAfter ++ key ++ back)) = true) (by omega)
      simpa using found
    obtain rfl := plain.dot_of_isUpper capital upper fit
    exact absurd bracket (plain.not_dots capital)

theorem fits_of_reaching (plain : PlainPattern host) (label : Label replacement) (part : Text)
    (found : fits host (rest ++ (back ++ (replacement ++ backAfter))) = true) :
    fits host (rest ++ (back ++ (part ++ backAfter))) = true := by
  by_cases inside : host.length ≤ (rest ++ back).length
  · rw [← List.append_assoc, fits_append _ inside] at found ⊢
    exact found
  obtain ⟨first, middle, last, rfl, upper, _⟩ := label
  obtain ⟨expected, bracket, fit⟩ : ∃ expected, host[(rest ++ back).length]? = some expected ∧
      FitsAt expected '[' := by
    refine fitsAt_of_fits (?_ : fits host (rest ++ back ++ '[' ::
      (first :: (middle ++ [last, ']']) ++ backAfter)) = true) (by omega)
    simpa using found
  obtain rfl := plain.dot_of_bracket bracket (by simp) fit
  have further : (rest ++ back ++ ['[']).length < host.length := by
    rw [List.length_append, List.length_singleton]
    by_contra ends
    have last : host.length - 1 = (rest ++ back).length := by omega
    exact plain.last (by rw [last]; exact bracket)
  obtain ⟨expected, capital, fit⟩ : ∃ expected,
      host[(rest ++ back ++ ['[']).length]? = some expected ∧ FitsAt expected first := by
    refine fitsAt_of_fits (?_ : fits host (rest ++ back ++ ['['] ++
      first :: (middle ++ [last, ']'] ++ backAfter)) = true) further
    simpa using found
  obtain rfl := plain.dot_of_isUpper capital upper fit
  rw [List.length_append, List.length_singleton] at capital
  exact absurd capital (plain.not_dots bracket)

variable {labels : List Text}

theorem Untouched.of_front (plain : PlainPattern host)
    (labelled : ∀ label ∈ labels, Label label) (rewrites : Rewrites labels front frontAfter)
    (untouched : Untouched host front key back) : Untouched host frontAfter key back := by
  induction rewrites with
  | refl => exact untouched
  | tail _ rewrite ih =>
      cases rewrite with
      | part _ part _ listed =>
          intro rest suffix filled found
          by_contra reaching
          exact reaching (ih rest (suffix_of_reaching plain (labelled _ listed) part suffix found
            (by omega)) filled found)

theorem Untouched.of_back (plain : PlainPattern host)
    (labelled : ∀ label ∈ labels, Label label) (rewrites : Rewrites labels back backAfter)
    (untouched : Untouched host front key back) : Untouched host front key backAfter := by
  induction rewrites with
  | refl => exact untouched
  | tail _ rewrite ih =>
      cases rewrite with
      | part _ part _ listed =>
          intro rest suffix filled found
          exact ih rest suffix filled (fits_of_reaching plain (labelled _ listed) part found)

theorem Untouched.of_append {ahead tail : Text}
    (untouched : Untouched host (ahead ++ front) key (back ++ tail)) :
    Untouched host front key back := by
  intro rest suffix filled found
  apply untouched rest _ filled
  · rw [← List.append_assoc]
    exact fits_append_of_fits _ found
  · rw [List.append_assoc]
    exact suffix.trans (List.suffix_append _ _)

theorem length_le_of_fits_line (oneLine : '\n' ∉ host) {tail : Text}
    (found : fits host (rest ++ '\n' :: tail) = true) : host.length ≤ rest.length := by
  by_contra beyond
  obtain ⟨expected, inside, fit⟩ := fitsAt_of_fits found (by omega)
  unfold FitsAt at fit
  split at fit
  · exact fit rfl
  · subst fit
    exact oneLine (List.mem_of_getElem? inside)

theorem Untouched.append_tail (oneLine : '\n' ∉ host) {tail : Text}
    (breaks : Breaks (key ++ back) tail) (unbroken : '\n' ∉ key)
    (untouched : Untouched host front key back) : Untouched host front key (back ++ tail) := by
  intro rest suffix filled found
  apply untouched rest suffix filled
  rcases breaks with rfl | next | ended
  · rwa [List.append_nil] at found
  · cases tail with
    | nil => cases next
    | cons symbol tail =>
        obtain rfl := Option.some.inj next
        rw [← List.append_assoc] at found
        rwa [fits_append _ (length_le_of_fits_line oneLine found)] at found
  · cases last : back.getLast? with
    | none =>
        obtain rfl := List.getLast?_eq_none_iff.mp last
        rw [List.append_nil] at ended
        exact absurd (List.mem_of_getLast? ended) unbroken
    | some symbol =>
        rw [List.getLast?_append, last] at ended
        obtain rfl := Option.some.inj ended
        obtain ⟨begun, rfl⟩ := List.getLast?_eq_some_iff.mp last
        have spelled : rest ++ (begun ++ ['\n'] ++ tail) = rest ++ begun ++ '\n' :: tail := by simp
        rw [spelled] at found
        rw [fits_append _ (length_le_of_fits_line oneLine found)] at found
        rw [← List.append_assoc]
        exact fits_append_of_fits _ found

theorem Untouched.spares (filled : host ≠ []) (untouched : Untouched host front key back) :
    Spares front.length key.length (finditer (hostMatcher host) (front ++ (key ++ back))) := by
  apply spares_finditer
  · intro rest suffix some length found
    have fitting : fits host (rest ++ (key ++ back)) = true ∧ host.length = length + 1 := by
      unfold hostMatcher at found
      split at found
      · rename_i fitting
        exact ⟨fitting, Option.some.inj found⟩
      · cases found
    have within : rest ++ key <:+ front ++ key := by
      obtain ⟨others, whole⟩ := suffix
      exact ⟨others, by rw [← whole, List.append_assoc]⟩
    have short := untouched _ within (List.append_ne_nil_of_left_ne_nil some _)
      (by rw [List.append_assoc]; exact fitting.1)
    rw [List.length_append] at short
    omega
  · intro rest suffix some found
    have short := untouched rest (suffix.trans (List.suffix_append _ _)) some
      ((matchesAt_host filled).mp found)
    have long := suffix.length_le
    have positive := List.length_pos_iff.mpr filled
    omega

end Untouched

/-! ### Records with plain hosts -/

/-- A name or an address in small letters, or one that the text does not have, and that no label
shows. -/
structure PlainHost (python : Python) (netloc text : Text) : Prop where
  plain : PlainPattern (python.hostname netloc)
  concealed : ∀ label ∈ [SGX_IP, ETH_IP, SGX_KEY], conceals (writtenHost netloc) label = true
  small : writtenHost netloc = python.hostname netloc ∨ ¬writtenHost netloc <:+: text

section Plain

variable {python : Python} {sgxServerUrl endpoint : Text} {record : LogRecord Char}

theorem PlainHost.legible {netloc text : Text} (host : PlainHost python netloc text) :
    Legible python netloc text :=
  host.small.imp_left fun same => ⟨host.plain.toOrdinary, same⟩

theorem forall_hostPatterns {sgxIp ethIp : Text} (property : Text → Prop) (sgx : property sgxIp)
    (eth : property ethIp) : ∀ host ∈ hostPatterns sgxIp ethIp, property host.1 := by
  unfold hostPatterns
  split <;> simp [sgx, eth]

theorem labels_composed {pattern : Text × Text}
    (member : pattern ∈ python.composeHidingPatterns sgxServerUrl endpoint) :
    pattern.2 ∈ [SGX_IP, ETH_IP, SGX_KEY] := by
  unfold Python.composeHidingPatterns hostPatterns at member
  split at member
  all_goals
    simp only [List.cons_append, List.nil_append, List.mem_cons, List.not_mem_nil,
      or_false] at member
    rcases member with rfl | rfl | rfl <;> simp

theorem Shown.untouched {labels : List Text} {front key back sgxIp ethIp : Text}
    (ascii : AsciiWords python.isWord)
    (keys : ∀ front key back, record.unfiltered id id = front ++ (key ++ back) →
      IsKey python.isWord key back → ¬EndsInKey python.isWord front ∧
      Untouched sgxIp front key back ∧ Untouched ethIp front key back)
    (shown : Shown labels record front key back) (isKey : IsKey python.isWord key back)
    (sgx : '\n' ∉ sgxIp) (eth : '\n' ∉ ethIp) :
    ¬EndsInKey python.isWord front ∧
      Untouched sgxIp front key back ∧ Untouched ethIp front key back := by
  have within : ∀ ahead back tail,
      record.unfiltered id id = ahead ++ (front ++ (key ++ back) ++ tail) →
      Breaks (front ++ (key ++ back)) tail → IsKey python.isWord key back →
      ¬EndsInKey python.isWord front ∧
        Untouched sgxIp front key back ∧ Untouched ethIp front key back := by
    intro ahead back tail whole breaks isKey
    have spelled : ahead ++ (front ++ (key ++ back) ++ tail) =
        ahead ++ front ++ (key ++ (back ++ tail)) := by simp only [List.append_assoc]
    have behind := breaks.of_append (List.append_ne_nil_of_left_ne_nil isKey.ne_nil back)
    obtain ⟨apart, first, second⟩ :=
      keys _ _ _ (whole.trans spelled) (isKey.append_tail ascii behind)
    refine ⟨fun ends => apart ?_, first.of_append, second.of_append⟩
    obtain ⟨before, word, rfl, all⟩ := ends
    exact ⟨ahead ++ before, word, by rw [List.append_assoc], all⟩
  have filled : ∀ back, front ++ (key ++ back) ≠ [] := fun back =>
    List.append_ne_nil_of_right_ne_nil _ (List.append_ne_nil_of_left_ne_nil isKey.ne_nil back)
  cases shown with
  | excInfo here =>
      obtain ⟨ahead, tail, whole, breaks⟩ := unfiltered_excInfo here (filled back)
      exact within ahead back tail whole breaks isKey
  | stackInfo here =>
      obtain ⟨ahead, whole⟩ := unfiltered_stackInfo here (filled back)
      exact within ahead back [] (by rw [List.append_nil]; exact whole) (.inl rfl) isKey
  | line here relabelled whole =>
      rename_i other rest
      obtain ⟨tail, unlabelled, breaks⟩ := unfiltered_line record
      obtain ⟨tailAfter, labelled, breaksAfter⟩ := unfiltered_line other
      rw [relabelled.line, here] at labelled breaksAfter
      rw [here] at unlabelled breaks
      obtain rfl : back = rest ++ tailAfter := by
        rw [whole, List.append_assoc, List.append_assoc] at labelled
        exact List.append_cancel_left (List.append_cancel_left labelled)
      have keyHere : IsKey python.isWord key rest := isKey.of_append
      obtain ⟨apart, first, second⟩ := within [] rest tail unlabelled breaks keyHere
      have behind := breaksAfter.of_append (List.append_ne_nil_of_left_ne_nil isKey.ne_nil rest)
      have unbroken := isKey.oneLine ascii
      exact ⟨apart, first.append_tail sgx behind unbroken, second.append_tail eth behind unbroken⟩

/-- For plain hosts the text of the record says whether its keys are left alone. -/
theorem redactable_of_plain (documented : Documented python)
    (sgx : PlainHost python sgxServerUrl (record.unfiltered id id))
    (eth : PlainHost python endpoint (record.unfiltered id id))
    (keys : ∀ front key back, record.unfiltered id id = front ++ (key ++ back) →
      IsKey python.isWord key back → ¬EndsInKey python.isWord front ∧
      Untouched (python.hostname sgxServerUrl) front key back ∧
      Untouched (python.hostname endpoint) front key back) :
    Redactable python sgxServerUrl endpoint record where
  compiled := by
    apply forall_hostPatterns fun host => (python.finditer host).isSome = true
    · rw [documented.host _ sgx.plain.toOrdinary]
      rfl
    · rw [documented.host _ eth.plain.toOrdinary]
      rfl
  unshown := by
    intro pattern member shown
    have listed : pattern.2 ∈ [SGX_IP, ETH_IP, SGX_KEY] := labels_composed member
    exact absurd (List.mem_filter.mpr ⟨listed, by
      rw [sgx.concealed _ listed, eth.concealed _ listed]; rfl⟩) shown
  sgx := sgx.legible
  eth := eth.legible
  keys := by
    intro front key back shown isKey
    have labelled : ∀ label ∈ safeLabels sgxServerUrl endpoint, Label label :=
      fun _ listed => label_of_mem (mem_of_mem_safeLabels listed)
    obtain ⟨apart, first, second⟩ := shown.untouched documented.ascii keys isKey
      sgx.plain.oneLine eth.plain.oneLine
    refine ⟨apart, ?_⟩
    have plains : ∀ host ∈ hostPatterns (python.hostname sgxServerUrl) (python.hostname endpoint),
        PlainPattern host.1 ∧ Untouched host.1 front key back :=
      forall_hostPatterns (fun host => PlainPattern host ∧ Untouched host front key back)
        ⟨sgx.plain, first⟩ ⟨eth.plain, second⟩
    intro host member found compiled frontAfter backAfter fronts backs
    obtain ⟨plain, untouched⟩ := plains host member
    rw [documented.host _ plain.toOrdinary] at compiled
    obtain rfl := Option.some.inj compiled
    exact ((untouched.of_front plain labelled fronts).of_back plain labelled backs).spares
      plain.filled

end Plain

end SkaleAdmin.Logging
