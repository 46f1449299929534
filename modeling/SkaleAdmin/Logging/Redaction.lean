import SkaleAdmin.Logging.Redactable

/-! The formatter hides the hosts and the keys. -/

namespace SkaleAdmin.Logging

open PyText PySubstitution

/-! ### The filter -/

section Filter

variable {α : Type} {symbol : α → Char} {plain : Char → α} {python : Python}
  {labels : List Text} {seen : Text → Prop} {patterns : List (Text × Text)} {msg : List α}

theorem filterSensitive_cons {text label : Text} {found : Text → Matches}
    (compiled : python.finditer text = some found) :
    python.filterSensitive symbol plain ((text, label) :: patterns) msg =
      python.filterSensitive symbol plain patterns
        (splice (label.map plain) (found (msg.map symbol)) msg) := by
  rw [Python.filterSensitive, compiled]
  rfl

theorem filterSensitive_append (others : List (Text × Text)) :
    python.filterSensitive symbol plain (patterns ++ others) msg =
      (python.filterSensitive symbol plain patterns msg).bind
        (python.filterSensitive symbol plain others) := by
  induction patterns generalizing msg with
  | nil => rfl
  | cons pattern patterns ih =>
      obtain ⟨text, label⟩ := pattern
      cases compiled : python.finditer text with
      | none =>
          rw [List.cons_append, Python.filterSensitive, Python.filterSensitive, compiled]
          rfl
      | some found =>
          rw [List.cons_append, filterSensitive_cons compiled, filterSensitive_cons compiled]
          exact ih

/-- The patterns compile, and those whose label is not listed find nothing. -/
def Compiled (python : Python) (labels : List Text) (seen : Text → Prop)
    (patterns : List (Text × Text)) : Prop :=
  ∀ pattern ∈ patterns, ∃ found, python.finditer pattern.1 = some found ∧
    (pattern.2 ∈ labels ∨ ∀ text, seen text → found text = [])

variable (read : ∀ letter, symbol (plain letter) = letter)
  (closed : ∀ before after, seen before → Rewrites labels before after → seen after)

include read

theorem map_labels : (labels.map (List.map plain)).map (List.map symbol) = labels := by
  rw [List.map_map]
  apply List.map_id''
  intro label
  rw [Function.comp, List.map_map]
  exact List.map_id'' read label

include closed

/-- One pattern after the other only puts in labels. -/
theorem filterSensitive_rewrites (compiled : Compiled python labels seen patterns)
    (here : seen (msg.map symbol)) :
    ∃ result, python.filterSensitive symbol plain patterns msg = some result ∧
      Rewrites (labels.map (List.map plain)) msg result := by
  induction patterns generalizing msg with
  | nil => exact ⟨msg, rfl, .refl⟩
  | cons pattern patterns ih =>
      obtain ⟨text, label⟩ := pattern
      obtain ⟨found, compiles, spliced⟩ := compiled _ List.mem_cons_self
      have step : Rewrites (labels.map (List.map plain)) msg
          (splice (label.map plain) (found (msg.map symbol)) msg) := by
        rcases spliced with listed | none
        · exact rewrites_splice (List.mem_map_of_mem listed) _ msg
        · rw [none _ here]
          exact .refl
      have next := closed _ _ here (map_labels read ▸ step.map symbol)
      obtain ⟨result, filtered, rewrites⟩ :=
        ih (fun pattern member => compiled pattern (List.mem_cons_of_mem _ member)) next
      rw [filterSensitive_cons compiles]
      exact ⟨result, filtered, step.trans rewrites⟩

end Filter

/-! ### A host in the text -/

section Hosts

variable {python : Python} {labels : List Text} {seen : Text → Prop}
  {patterns : List (Text × Text)} {netloc msg : Text}

theorem not_infix_of_finds_nothing {host : Text} (filled : host ≠ [])
    (none : finditer (hostMatcher host) msg = []) : ¬host <:+: msg := by
  rintro ⟨front, back, rfl⟩
  rw [List.append_assoc] at none
  refine not_matchesAt_of_scan none (host ++ back) (List.suffix_append _ _)
    (List.append_ne_nil_of_left_ne_nil filled back) ?_
  exact (matchesAt_host filled).mpr (fits_append_of_fits back (fits_self host))

/-- A host that its own pattern matches does not stay, and the other patterns do not bring it
back. -/
theorem filterSensitive_hides (documented : Documented python)
    (closed : ∀ before after, seen before → Rewrites labels before after → seen after)
    (compiled : Compiled python labels seen patterns) (here : seen msg)
    (foreign : ∀ label ∈ labels, Foreign (writtenHost netloc) label)
    (legible : Ordinary (python.hostname netloc) ∧ writtenHost netloc = python.hostname netloc ∨
      ¬writtenHost netloc <:+: msg)
    (own : ∃ label, (python.hostname netloc, label) ∈ patterns) :
    ∃ result, python.filterSensitive id id patterns msg = some result ∧
      ¬writtenHost netloc <:+: result := by
  have read : ∀ letter : Char, id (id letter) = letter := fun _ => rfl
  have plain : ∀ labels : List Text, labels.map (List.map id) = labels := by simp
  have absent : ∀ {patterns : List (Text × Text)} {msg : Text},
      Compiled python labels seen patterns → seen msg → ¬writtenHost netloc <:+: msg →
      ∃ result, python.filterSensitive id id patterns msg = some result ∧
        ¬writtenHost netloc <:+: result := by
    intro patterns msg compiled here absent
    obtain ⟨result, filtered, rewrites⟩ := filterSensitive_rewrites read closed compiled
      (by rwa [List.map_id] : seen (msg.map id))
    rw [plain] at rewrites
    exact ⟨result, filtered, rewrites.absent foreign absent⟩
  rcases legible with ⟨ordinary, same⟩ | missing
  · obtain ⟨label, member⟩ := own
    obtain ⟨before, after, rfl⟩ := List.append_of_mem member
    obtain ⟨mid, filtered, rewrites⟩ := filterSensitive_rewrites read closed
      (fun pattern listed => compiled pattern (List.mem_append_left _ listed))
      (by rwa [List.map_id] : seen (msg.map id))
    rw [plain] at rewrites
    have seenMid := closed _ _ here rewrites
    obtain ⟨found, compiles, spliced⟩ := compiled _ member
    rw [documented.host _ ordinary] at compiles
    obtain rfl := Option.some.inj compiles
    have later : Compiled python labels seen after := fun pattern listed =>
      compiled pattern (List.mem_append_right _ (List.mem_cons_of_mem _ listed))
    rw [filterSensitive_append, filtered, Option.bind_some,
      filterSensitive_cons (documented.host _ ordinary)]
    rw [same] at foreign absent ⊢
    simp only [List.map_id]
    rcases spliced with listed | none
    · apply absent later (closed _ _ seenMid (rewrites_splice listed _ mid))
      exact (foreign _ listed).hidden_splice fun rest => (matchesAt_host ordinary.filled).mpr
        (fits_append_of_fits rest (fits_self _))
    · have kept := none mid seenMid
      rw [kept]
      exact absent later seenMid (not_infix_of_finds_nothing ordinary.filled kept)
  · exact absent compiled here missing

end Hosts

/-! ### Records that are put together -/

section Formatted

variable {α : Type} {symbol : α → Char} {plain : Char → α}

theorem formatted_cons {filter : List α → Option (List α)} {line stack s result : List α}
    {excInfo : Option (List α)} {cell : α}
    (front : LogRecord.formatted symbol plain ⟨line, excInfo, none⟩ filter = some s)
    (filtered : filter (cell :: stack) = some result) :
    LogRecord.formatted symbol plain ⟨line, excInfo, some (cell :: stack)⟩ filter =
      some (appendLine symbol plain s result) := by
  cases excInfo with
  | none =>
      obtain rfl : line = s := Option.some.inj front
      unfold LogRecord.formatted
      simp only [filtered]
      rfl
  | some trace =>
      unfold LogRecord.formatted at front ⊢
      cases traced : filter trace with
      | none =>
          simp only [traced] at front
          cases front
      | some excText =>
          simp only [traced] at front ⊢
          obtain rfl := Option.some.inj front
          simp only [filtered]
          rfl

theorem exists_formatted {filter : List α → Option (List α)} {left : List α → List α → Prop}
    (record : LogRecord α) (empty : left [] [])
    (filters : ∀ text, record.excInfo = some text ∨ record.stackInfo = some text →
      ∃ result, filter text = some result ∧ left text result)
    (filled : ∀ text result, left text result → text ≠ [] → result ≠ []) :
    ∃ other : LogRecord α, other.line = record.line ∧
      Option.Rel left record.excInfo other.excInfo ∧
      Option.Rel left record.stackInfo other.stackInfo ∧
      record.formatted symbol plain filter = some (other.unfiltered symbol plain) := by
  obtain ⟨line, excInfo, stackInfo⟩ := record
  have front : ∃ excLeft, Option.Rel left excInfo excLeft ∧
      LogRecord.formatted symbol plain ⟨line, excInfo, none⟩ filter =
        some (LogRecord.unfiltered symbol plain ⟨line, excLeft, none⟩) := by
    cases excInfo with
    | none => exact ⟨none, .none, rfl⟩
    | some trace =>
        obtain ⟨result, filtered, here⟩ := filters trace (.inl rfl)
        refine ⟨some result, .some here, ?_⟩
        unfold LogRecord.formatted
        simp only [filtered]
        rfl
  obtain ⟨excLeft, excInfo_left, formatted⟩ := front
  cases stackInfo with
  | none => exact ⟨⟨line, excLeft, none⟩, rfl, excInfo_left, .none, formatted⟩
  | some stack =>
      cases stack with
      | nil => exact ⟨⟨line, excLeft, some []⟩, rfl, excInfo_left, .some empty, formatted⟩
      | cons cell stack =>
          obtain ⟨result, filtered, here⟩ := filters (cell :: stack) (.inr rfl)
          refine ⟨⟨line, excLeft, some result⟩, rfl, excInfo_left, .some here, ?_⟩
          rw [formatted_cons formatted filtered]
          cases result with
          | nil => exact absurd rfl (filled _ _ here (List.cons_ne_nil cell stack))
          | cons head result => rw [unfiltered_cons]

theorem unfiltered_all {property : α → Prop} (new : property (plain '\n'))
    (record : LogRecord α) (parts : ∀ text, record.excInfo = some text ∨
      record.stackInfo = some text → ∀ cell ∈ text, property cell) :
    ∃ tail, record.unfiltered symbol plain = record.line ++ tail ∧
      ∀ cell ∈ tail, property cell := by
  have append : ∀ s text : List α, (∀ cell ∈ text, property cell) →
      ∃ tail, appendLine symbol plain s text = s ++ tail ∧ ∀ cell ∈ tail, property cell := by
    intro s text all
    unfold appendLine
    split
    · exact ⟨text, rfl, all⟩
    · exact ⟨plain '\n' :: text, rfl, List.forall_mem_cons.mpr ⟨new, all⟩⟩
  obtain ⟨line, excInfo, stackInfo⟩ := record
  have front : ∃ tail, LogRecord.unfiltered symbol plain ⟨line, excInfo, none⟩ = line ++ tail ∧
      ∀ cell ∈ tail, property cell := by
    cases excInfo with
    | none => exact ⟨[], (List.append_nil line).symm, nofun⟩
    | some trace =>
        cases trace with
        | nil => exact ⟨[], (List.append_nil line).symm, nofun⟩
        | cons cell trace => exact append line (cell :: trace) (parts _ (.inl rfl))
  cases stackInfo with
  | none => exact front
  | some stack =>
      cases stack with
      | nil => exact front
      | cons cell stack =>
          obtain ⟨first, whole, here⟩ := front
          obtain ⟨second, appended, later⟩ :=
            append (line ++ first) (cell :: stack) (parts _ (.inr rfl))
          rw [unfiltered_cons, whole, appended, List.append_assoc]
          exact ⟨first ++ second, rfl, List.forall_mem_append.mpr ⟨here, later⟩⟩

theorem parts_of_unfiltered (property : List α → Prop) {record : LogRecord α}
    (empty : property [])
    (parts : ∀ s text, property (appendLine symbol plain s text) → property s ∧ property text)
    (whole : property (record.unfiltered symbol plain)) :
    property record.line ∧ ∀ text, record.excInfo = some text ∨ record.stackInfo = some text →
      property text := by
  obtain ⟨first, excInfo, stackInfo⟩ := record
  have front : property (LogRecord.unfiltered symbol plain ⟨first, excInfo, none⟩) ∧
      ∀ stack, stackInfo = some stack → property stack := by
    cases stackInfo with
    | none => exact ⟨whole, nofun⟩
    | some stack =>
        cases stack with
        | nil =>
            refine ⟨whole, fun stack same => ?_⟩
            rw [← Option.some.inj same]
            exact empty
        | cons cell stack =>
            have shown : LogRecord.unfiltered symbol plain ⟨first, excInfo, some (cell :: stack)⟩ =
                appendLine symbol plain (LogRecord.unfiltered symbol plain ⟨first, excInfo, none⟩)
                  (cell :: stack) := unfiltered_cons first stack excInfo cell
            rw [shown] at whole
            obtain ⟨before, after⟩ := parts _ (cell :: stack) whole
            refine ⟨before, fun stack same => ?_⟩
            rw [← Option.some.inj same]
            exact after
  obtain ⟨front, stack⟩ := front
  have back : property first ∧ ∀ trace, excInfo = some trace → property trace := by
    cases excInfo with
    | none => exact ⟨front, nofun⟩
    | some trace =>
        have shown : property (if trace.isEmpty then first
            else appendLine symbol plain first trace) := front
        split at shown
        · rename_i nothing
          refine ⟨shown, fun trace same => ?_⟩
          rw [← Option.some.inj same, List.isEmpty_iff.mp nothing]
          exact empty
        · obtain ⟨before, after⟩ := parts first trace shown
          refine ⟨before, fun trace same => ?_⟩
          rw [← Option.some.inj same]
          exact after
  refine ⟨back.1, fun text same => ?_⟩
  rcases same with trace | found
  · exact back.2 text trace
  · exact stack text found

theorem unfiltered_map {β : Type} {symbol' : β → Char} {plain' : Char → β} {change : α → β}
    (reads : ∀ cell, symbol' (change cell) = symbol cell)
    (puts : ∀ letter, change (plain letter) = plain' letter) (record : LogRecord α) :
    (record.map change).unfiltered symbol' plain' =
      (record.unfiltered symbol plain).map change := by
  have append : ∀ s text : List α,
      appendLine symbol' plain' (s.map change) (text.map change) =
        (appendLine symbol plain s text).map change := by
    intro s text
    have last : (s.map change).getLast?.map symbol' = s.getLast?.map symbol := by
      rw [List.getLast?_map, Option.map_map]
      exact congrArg (fun read => s.getLast?.map read) (funext reads)
    unfold appendLine
    rw [last]
    split
    · rw [List.map_append]
    · rw [List.map_append, List.map_cons, puts]
  obtain ⟨line, excInfo, stackInfo⟩ := record
  have front : (LogRecord.map change ⟨line, excInfo, none⟩).unfiltered symbol' plain' =
      (LogRecord.unfiltered symbol plain ⟨line, excInfo, none⟩).map change := by
    cases excInfo with
    | none => rfl
    | some trace =>
        change (if (trace.map change).isEmpty then line.map change
          else appendLine symbol' plain' (line.map change) (trace.map change)) =
            (if trace.isEmpty then line else appendLine symbol plain line trace).map change
        rw [append, List.isEmpty_map]
        split <;> rfl
  cases stackInfo with
  | none => exact front
  | some stack =>
      cases stack with
      | nil => exact front
      | cons cell stack =>
          have shown : LogRecord.unfiltered symbol plain ⟨line, excInfo, some (cell :: stack)⟩ =
              appendLine symbol plain (LogRecord.unfiltered symbol plain ⟨line, excInfo, none⟩)
                (cell :: stack) := unfiltered_cons line stack excInfo cell
          rw [shown, ← append, ← front]
          exact unfiltered_cons _ _ _ _

/-- What holds of the line, and of every text with one of the others behind it, holds of the
whole. -/
theorem unfiltered_of_parts (property : List α → Prop) (record : LogRecord α)
    (line : property record.line) (parts : ∀ s text, property s →
      record.excInfo = some text ∨ record.stackInfo = some text →
      property (appendLine symbol plain s text)) : property (record.unfiltered symbol plain) := by
  obtain ⟨first, excInfo, stackInfo⟩ := record
  have begun : property (LogRecord.unfiltered symbol plain ⟨first, excInfo, none⟩) := by
    cases excInfo with
    | none => exact line
    | some trace =>
        cases trace with
        | nil => exact line
        | cons cell trace => exact parts first (cell :: trace) line (.inl rfl)
  cases stackInfo with
  | none => exact begun
  | some stack =>
      cases stack with
      | nil => exact begun
      | cons cell stack =>
          rw [unfiltered_cons]
          exact parts _ (cell :: stack) begun (.inr rfl)

end Formatted

section Absent

variable {labels : List Text} {host text : Text} {record other : LogRecord Char}

theorem appendLine_eq {α : Type} {symbol : α → Char} {plain : Char → α}
    (read : ∀ letter, symbol (plain letter) = letter) (s text : List α) :
    ∃ line newline, symbol newline = '\n' ∧
      appendLine symbol plain s text = line ++ newline :: text ∧
      (s = line ∧ newline = plain '\n' ∨ s = line ++ [newline]) := by
  unfold appendLine
  split
  · rename_i ended
    obtain ⟨newline, last, same⟩ := Option.map_eq_some_iff.mp ended
    obtain ⟨line, rfl⟩ := List.getLast?_eq_some_iff.mp last
    exact ⟨line, newline, same, by simp, .inr rfl⟩
  · exact ⟨s, plain '\n', read _, rfl, .inl ⟨rfl, rfl⟩⟩

theorem infix_appendLine (oneLine : '\n' ∉ host) {s : Text} :
    host <:+: appendLine id id s text → host <:+: s ∨ host <:+: text := by
  intro occurs
  have parted : ∀ line : Text, host <:+: line ++ '\n' :: text →
      host <:+: line ∨ host <:+: text := by
    intro line inside
    rcases List.infix_append_iff.mp inside with before | after | ⟨front, back, rfl, suffix, start⟩
    · exact .inl before
    · rcases List.infix_cons_iff.mp after with ⟨rest, whole⟩ | later
      · cases host with
        | nil => exact .inl List.nil_infix
        | cons first host => exact absurd (by simp [(List.cons.inj whole).1]) oneLine
      · exact .inr later
    · cases back with
      | nil => exact .inl (by simpa using suffix.isInfix)
      | cons first back =>
          have newline := (List.cons_prefix_cons.mp start).1
          exact absurd (by simp [newline]) oneLine
  have read : ∀ letter : Char, id (id letter) = letter := fun _ => rfl
  obtain ⟨line, newline, same, whole, begun⟩ := appendLine_eq read s text
  obtain rfl : newline = '\n' := same
  rw [whole] at occurs
  rcases parted line occurs with before | after
  · rcases begun with ⟨rfl, _⟩ | rfl
    · exact .inl before
    · exact .inl (before.trans (List.prefix_append _ _).isInfix)
  · exact .inr after

theorem infix_appendLine_of_parts {s : Text} (occurs : host <:+: s ∨ host <:+: text) :
    host <:+: appendLine id id s text := by
  unfold appendLine
  split
  · rcases occurs with before | after
    · exact before.trans (List.prefix_append _ _).isInfix
    · exact after.trans (List.suffix_append _ _).isInfix
  · rcases occurs with before | after
    · exact before.trans (List.prefix_append _ _).isInfix
    · exact (after.trans (List.suffix_cons _ _).isInfix).trans (List.suffix_append _ _).isInfix

theorem exists_of_rel {α β : Type} {left : α → β → Prop} {before : Option α} {after : Option β}
    {result : β} (rel : Option.Rel left before after) (here : after = some result) :
    ∃ text, before = some text ∧ left text result := by
  subst here
  cases rel with
  | some related => exact ⟨_, rfl, related⟩

theorem eq_of_rel_nil {before after : Option Text} (rel : Option.Rel (Rewrites []) before after) :
    after = before := by
  cases rel with
  | none => rfl
  | some rewrites => rw [rewrites.eq_of_nil]

theorem LogRecord.Relabelled.absent (relabelled : record.Relabelled labels other)
    (foreign : ∀ label ∈ labels, Foreign host label) (oneLine : labels ≠ [] → '\n' ∉ host)
    (absent : ¬host <:+: record.unfiltered id id) : ¬host <:+: other.unfiltered id id := by
  by_cases none : labels = []
  · subst none
    have same : other = record := by
      obtain ⟨line, excInfo, stackInfo⟩ := record
      obtain ⟨otherLine, otherExcInfo, otherStackInfo⟩ := other
      obtain ⟨lines, excInfos, stackInfos⟩ := relabelled
      obtain rfl : otherLine = line := lines
      obtain rfl : otherExcInfo = excInfo := eq_of_rel_nil excInfos
      obtain rfl : otherStackInfo = stackInfo := eq_of_rel_nil stackInfos
      rfl
    rwa [same]
  have parts := parts_of_unfiltered (fun text : Text => ¬host <:+: text)
    (fun occurs => absent (occurs.trans List.nil_infix))
    (fun s text apart => ⟨fun here => apart (infix_appendLine_of_parts (.inl here)),
      fun here => apart (infix_appendLine_of_parts (.inr here))⟩) absent
  apply unfiltered_of_parts fun text : Text => ¬host <:+: text
  · rw [relabelled.line]
    exact parts.1
  · intro s text before listed occurs
    have rewritten : ∃ whole, Rewrites labels whole text ∧
        (record.excInfo = some whole ∨ record.stackInfo = some whole) := by
      rcases listed with here | here
      · obtain ⟨whole, same, rewrites⟩ := exists_of_rel relabelled.excInfo here
        exact ⟨whole, rewrites, .inl same⟩
      · obtain ⟨whole, same, rewrites⟩ := exists_of_rel relabelled.stackInfo here
        exact ⟨whole, rewrites, .inr same⟩
    obtain ⟨whole, rewrites, place⟩ := rewritten
    rcases infix_appendLine (oneLine none) occurs with here | there
    · exact before here
    · exact rewrites.absent foreign (parts.2 whole place) there

end Absent

/-! ### A key in the text -/

abbrev Traced := Char × Bool

def trace (traced : Bool) (text : Text) : List Traced :=
  text.map fun symbol => (symbol, traced)

def untraced (symbol : Char) : Traced :=
  (symbol, false)

section Tracing

variable {cells front back : List Traced} {isWord : Char → Bool} {key : Text}

@[simp] theorem trace_fst (traced : Bool) (text : Text) :
    (trace traced text).map Prod.fst = text := by
  rw [trace, List.map_map]
  exact List.map_id'' (fun _ => rfl) text

theorem trace_untraced (text : Text) : ∀ cell ∈ trace false text, cell.2 = false := by
  intro cell member
  obtain ⟨symbol, _, rfl⟩ := List.mem_map.mp member
  rfl

theorem eq_trace (plain : ∀ cell ∈ cells, cell.2 = false) :
    cells = trace false (cells.map Prod.fst) := by
  induction cells with
  | nil => rfl
  | cons cell cells ih =>
      obtain ⟨here, later⟩ := List.forall_mem_cons.mp plain
      have first : cell = (cell.1, false) := by rw [← here]
      rw [List.map_cons, trace, List.map_cons, ← trace, ← ih later, ← first]

/-- Nothing is traced, or a key and nothing else. -/
def Marked (isWord : Char → Bool) (key : Text) (cells : List Traced) : Prop :=
  (∀ cell ∈ cells, cell.2 = false) ∨ ∃ front back,
    cells = trace false front ++ (trace true key ++ trace false back) ∧ IsKey isWord key back

theorem Marked.split (ascii : AsciiWords isWord)
    (ended : front.getLast?.map Prod.fst = some '\n' ∨ back.head?.map Prod.fst = some '\n')
    (marked : Marked isWord key (front ++ back)) :
    Marked isWord key front ∧ Marked isWord key back := by
  rcases marked with plain | ⟨start, rest, same, isKey⟩
  · exact ⟨.inl fun cell member => plain cell (List.mem_append_left _ member),
      .inl fun cell member => plain cell (List.mem_append_right _ member)⟩
  have oneLine := isKey.oneLine ascii
  rcases List.append_eq_append_iff.mp same with ⟨between, before, rfl⟩ | ⟨begun, rfl, next⟩
  · have plain : ∀ cell ∈ front ++ between, cell.2 = false := before ▸ trace_untraced start
    have kept := eq_trace fun cell member => plain cell (List.mem_append_right front member)
    exact ⟨.inl fun cell member => plain cell (List.mem_append_left _ member),
      .inr ⟨between.map Prod.fst, rest, by rw [← kept], isKey⟩⟩
  rcases List.append_eq_append_iff.mp next with ⟨between, rfl, after⟩ | ⟨ahead, whole, rfl⟩
  · have plain : ∀ cell ∈ between ++ back, cell.2 = false := after ▸ trace_untraced rest
    have kept := eq_trace fun cell member => plain cell (List.mem_append_left back member)
    have parted : rest = between.map Prod.fst ++ back.map Prod.fst := by
      rw [← List.map_append, ← after, trace_fst]
    rw [parted] at isKey
    exact ⟨.inr ⟨start, between.map Prod.fst, by rw [← kept], isKey.of_append⟩,
      .inl fun cell member => plain cell (List.mem_append_right _ member)⟩
  cases begun with
  | nil =>
      obtain rfl : trace true key = ahead := whole
      refine ⟨.inl ?_, .inr ⟨[], rest, rfl, isKey⟩⟩
      rw [List.append_nil]
      exact trace_untraced start
  | cons first begun =>
      cases ahead with
      | nil =>
          rw [List.append_nil] at whole
          have alone : IsKey isWord key ([] ++ rest) := isKey
          exact ⟨.inr ⟨start, [], by rw [whole]; simp [trace], alone.of_append⟩,
            .inl (trace_untraced rest)⟩
      | cons last ahead =>
          exfalso
          apply oneLine
          have spelled : key = (first :: begun).map Prod.fst ++ (last :: ahead).map Prod.fst := by
            rw [← List.map_append, ← whole, trace_fst]
          rw [spelled]
          rcases ended with left | right
          · rw [List.getLast?_append_of_ne_nil _ (List.cons_ne_nil _ _)] at left
            obtain ⟨cell, found, newline⟩ := Option.map_eq_some_iff.mp left
            apply List.mem_append_left
            rw [← newline]
            exact List.mem_map_of_mem (List.mem_of_getLast? found)
          · apply List.mem_append_right
            have newline : last.1 = '\n' := by simpa using right
            rw [← newline]
            exact List.mem_map_of_mem List.mem_cons_self

theorem Marked.appendLine (ascii : AsciiWords isWord)
    (marked : Marked isWord key (appendLine Prod.fst untraced front back)) :
    Marked isWord key front ∧ Marked isWord key back := by
  unfold Logging.appendLine at marked
  split at marked
  · rename_i ended
    exact marked.split ascii (.inl ended)
  · obtain ⟨first, second⟩ := marked.split ascii (.inr rfl)
    have single : untraced '\n' :: back = [untraced '\n'] ++ back := rfl
    rw [single] at second
    exact ⟨first, (second.split ascii (.inl rfl)).2⟩

/-- What is left of a text with a key in it: the key with labels around it, or nothing of it. -/
def Held (labels : List Text) (front key back : Text) (cells : List Traced) : Prop :=
  (∀ cell ∈ cells, cell.2 = false) ∨ ∃ frontAfter backAfter,
    cells = trace false frontAfter ++ (trace true key ++ trace false backAfter) ∧
      Rewrites labels front frontAfter ∧ Rewrites labels back backAfter

end Tracing

section Keys

variable {python : Python} {labels : List Text} {seen : Text → Prop}
  {patterns : List (Text × Text)} {front key back label : Text} {cells : List Traced}
  {found : Text → Matches}

theorem untraced_label : ∀ cell ∈ label.map untraced, cell.2 = false := by
  intro cell member
  obtain ⟨symbol, _, rfl⟩ := List.mem_map.mp member
  rfl

theorem Held.splice (listed : label ∈ labels) (held : Held labels front key back cells)
    (spares : ∀ frontAfter backAfter, Rewrites labels front frontAfter →
      Rewrites labels back backAfter →
      Spares frontAfter.length key.length (found (frontAfter ++ (key ++ backAfter)))) :
    Held labels front key back
      (splice (label.map untraced) (found (cells.map Prod.fst)) cells) := by
  have new : ∀ text ∈ [label.map untraced], ∀ cell ∈ text, cell.2 = false := by
    intro text member
    obtain rfl := List.mem_singleton.mp member
    exact untraced_label
  have read : [label.map untraced].map (List.map Prod.fst) = [label] := by
    rw [List.map_singleton, List.map_map]
    exact congrArg (fun text => [text]) (List.map_id'' (fun _ => rfl) label)
  have around : ∀ {text : Text} {after : List Traced},
      Rewrites [label.map untraced] (trace false text) after →
      after = trace false (after.map Prod.fst) ∧ Rewrites labels text (after.map Prod.fst) := by
    intro text after rewrites
    refine ⟨eq_trace (rewrites.all new (trace_untraced text)), ?_⟩
    have shown := rewrites.map Prod.fst
    rw [read, trace_fst] at shown
    exact shown.mono fun other member => by rwa [List.mem_singleton.mp member]
  rcases held with plain | ⟨frontAfter, backAfter, rfl, fronts, backs⟩
  · exact .inl ((rewrites_splice (List.mem_singleton_self _) _ cells).all new plain)
  · have spared := spares _ _ fronts backs
    have long : ∀ (mark : Bool) (text : Text), (trace mark text).length = text.length :=
      fun mark text => List.length_map _
    rw [List.map_append, List.map_append, trace_fst, trace_fst, trace_fst]
    rw [← long false frontAfter, ← long true key] at spared
    rcases splice_spares spared with ⟨first, last, spliced, ahead, behind⟩ | nothing
    · obtain ⟨firstPlain, firstAfter⟩ := around ahead
      obtain ⟨lastPlain, lastAfter⟩ := around behind
      rw [spliced]
      exact .inr ⟨first.map Prod.fst, last.map Prod.fst, by rw [← firstPlain, ← lastPlain],
        fronts.trans firstAfter, backs.trans lastAfter⟩
    · exact .inl (nothing.all new (List.forall_mem_append.mpr
        ⟨trace_untraced frontAfter, trace_untraced backAfter⟩))

theorem filterSensitive_held
    (closed : ∀ before after, seen before → Rewrites labels before after → seen after)
    (compiled : Compiled python labels seen patterns)
    (spares : ∀ pattern ∈ patterns, ∀ found, python.finditer pattern.1 = some found →
      ∀ frontAfter backAfter, Rewrites labels front frontAfter →
      Rewrites labels back backAfter →
      Spares frontAfter.length key.length (found (frontAfter ++ (key ++ backAfter))))
    (here : seen (cells.map Prod.fst)) (held : Held labels front key back cells) :
    ∃ result, python.filterSensitive Prod.fst untraced patterns cells = some result ∧
      Held labels front key back result := by
  induction patterns generalizing cells with
  | nil => exact ⟨cells, rfl, held⟩
  | cons pattern patterns ih =>
      obtain ⟨text, label⟩ := pattern
      obtain ⟨found, compiles, spliced⟩ := compiled _ List.mem_cons_self
      rw [filterSensitive_cons compiles]
      have others : Compiled python labels seen patterns :=
        fun pattern member => compiled pattern (List.mem_cons_of_mem _ member)
      have later := fun pattern member => spares pattern (List.mem_cons_of_mem (text, label) member)
      rcases spliced with listed | none
      · have step := rewrites_splice (List.mem_map_of_mem (f := List.map untraced) listed)
          (found (cells.map Prod.fst)) cells
        have read : ∀ letter, (untraced letter).1 = letter := fun _ => rfl
        have shown := step.map Prod.fst
        rw [map_labels read] at shown
        exact ih others later (closed _ _ here shown)
          (held.splice listed (spares _ List.mem_cons_self found compiles))
      · rw [none _ here]
        exact ih others later here held

theorem untraced_of_held (documented : Documented python)
    (labelled : ∀ label ∈ labels, Label label) (held : Held labels front key back cells)
    (isKey : IsKey python.isWord key back) (apart : ¬EndsInKey python.isWord front) :
    ∃ result, python.filterSensitive Prod.fst untraced [(keyPattern, SGX_KEY)] cells =
      some result ∧ ∀ cell ∈ result, cell.2 = false := by
  rw [filterSensitive_cons documented.key, splice_finditer]
  refine ⟨_, rfl, ?_⟩
  have kept : ∀ cells : List Traced, (∀ cell ∈ cells, cell.2 = false) → ∀ cell ∈ sub Prod.fst
      (keyMatcher python.isWord) (SGX_KEY.map untraced) 0 cells, cell.2 = false := by
    intro cells plain cell member
    rcases mem_sub member with added | old
    · exact untraced_label cell added
    · exact plain cell old
  rcases held with plain | ⟨frontAfter, backAfter, rfl, fronts, backs⟩
  · exact kept cells plain
  · rw [sub_key (by simpa using isKey.of_rewrites documented.ascii labelled backs)
      (by simpa using fun ends => apart (ends.of_rewrites documented.ascii labelled fronts))]
    exact List.forall_mem_append.mpr ⟨kept _ (trace_untraced frontAfter),
      List.forall_mem_append.mpr ⟨untraced_label, kept _ (trace_untraced backAfter)⟩⟩

end Keys

/-! ### Redacted records -/

section Result

variable (python : Python) (sgxServerUrl endpoint : Text)

/-- The output shows no host as it is written in its url, and nothing of a key is left in it. -/
structure Redacted (record : LogRecord Char) : Prop where
  hidden : ∃ output,
    python.format id id (python.composeHidingPatterns sgxServerUrl endpoint) record = some output ∧
    ¬writtenHost sgxServerUrl <:+: output ∧ ¬writtenHost endpoint <:+: output
  keys : ∀ (traced : LogRecord Traced) (front key back : Text), traced.map Prod.fst = record →
    traced.unfiltered Prod.fst untraced =
      trace false front ++ (trace true key ++ trace false back) →
    IsKey python.isWord key back →
    ∃ output, python.format Prod.fst untraced
      (python.composeHidingPatterns sgxServerUrl endpoint) traced = some output ∧
      ∀ cell ∈ output, cell.2 = false

variable {python sgxServerUrl endpoint} {record : LogRecord Char}

theorem own_hostPatterns :
    (∃ other ∈ hostPatterns sgxIp ethIp, other.1 = sgxIp) ∧
      ∃ other ∈ hostPatterns sgxIp ethIp, other.1 = ethIp := by
  unfold hostPatterns
  split <;> simp_all

theorem Redactable.all (documented : Documented python)
    (redactable : Redactable python sgxServerUrl endpoint record) :
    Compiled python (safeLabels sgxServerUrl endpoint)
      (Seen (safeLabels sgxServerUrl endpoint) record)
      (python.composeHidingPatterns sgxServerUrl endpoint) := by
  intro pattern member
  have compiles : ∃ found, python.finditer pattern.1 = some found := by
    rcases List.mem_append.mp member with host | key
    · exact Option.isSome_iff_exists.mp (redactable.compiled pattern host)
    · obtain rfl := List.mem_singleton.mp key
      exact ⟨_, documented.key⟩
  obtain ⟨found, compiles⟩ := compiles
  refine ⟨found, compiles, ?_⟩
  by_cases listed : pattern.2 ∈ safeLabels sgxServerUrl endpoint
  · exact .inl listed
  · exact .inr (redactable.unshown pattern member listed found compiles)

theorem filterSensitive_untraced (documented : Documented python)
    (redactable : Redactable python sgxServerUrl endpoint record) {cells : List Traced}
    {key : Text} (here : Seen (safeLabels sgxServerUrl endpoint) record (cells.map Prod.fst))
    (marked : (∀ cell ∈ cells, cell.2 = false) ∨ ∃ front back,
      cells = trace false front ++ (trace true key ++ trace false back) ∧
      IsKey python.isWord key back ∧
      Shown (safeLabels sgxServerUrl endpoint) record front key back) :
    ∃ result, python.filterSensitive Prod.fst untraced
      (python.composeHidingPatterns sgxServerUrl endpoint) cells = some result ∧
      Rewrites ((safeLabels sgxServerUrl endpoint).map (List.map untraced)) cells result ∧
      ∀ cell ∈ result, cell.2 = false := by
  have read : ∀ letter, (untraced letter).1 = letter := fun _ => rfl
  have compiled := redactable.all documented
  obtain ⟨result, filtered, rewrites⟩ :=
    filterSensitive_rewrites read Seen.rewrites compiled here
  refine ⟨result, filtered, rewrites, ?_⟩
  rcases marked with plain | ⟨front, back, whole, isKey, shown⟩
  · refine rewrites.all ?_ plain
    intro label member
    obtain ⟨text, _, rfl⟩ := List.mem_map.mp member
    exact untraced_label
  · obtain ⟨apart, spares⟩ := redactable.keys front key back shown isKey
    obtain ⟨mid, hosts, held⟩ := filterSensitive_held Seen.rewrites
      (fun pattern member => compiled pattern (List.mem_append_left _ member)) spares here
      (.inr ⟨front, back, whole, .refl, .refl⟩)
    obtain ⟨last, keys, plain⟩ := untraced_of_held documented
      (fun label listed => label_of_mem (mem_of_mem_safeLabels listed)) held isKey apart
    rw [Python.composeHidingPatterns, filterSensitive_append, hosts, Option.bind_some,
      keys] at filtered
    obtain rfl := Option.some.inj filtered
    exact plain

def Cleared (labels : List Text) (text result : List Traced) : Prop :=
  Rewrites (labels.map (List.map untraced)) text result ∧ ∀ cell ∈ result, cell.2 = false

theorem rel_map_fst {labels : List Text} {before after : Option (List Traced)}
    (rel : Option.Rel (Cleared labels) before after) :
    Option.Rel (Rewrites labels) (before.map (List.map Prod.fst))
      (after.map (List.map Prod.fst)) := by
  cases rel with
  | none => exact .none
  | some cleared =>
      have read : ∀ letter, (untraced letter).1 = letter := fun _ => rfl
      have shown := cleared.1.map Prod.fst
      rw [map_labels read] at shown
      exact .some shown

/-- The record as it is put together before its whole text is filtered. -/
theorem exists_relabelled (documented : Documented python)
    (redactable : Redactable python sgxServerUrl endpoint record) :
    ∃ other : LogRecord Char, record.Relabelled (safeLabels sgxServerUrl endpoint) other ∧
      record.formatted id id (python.filterSensitive id id
        (python.composeHidingPatterns sgxServerUrl endpoint)) = some (other.unfiltered id id) := by
  have read : ∀ letter : Char, id (id letter) = letter := fun _ => rfl
  have plain : ∀ labels : List Text, labels.map (List.map id) = labels := by simp
  have put : ∃ other : LogRecord Char, other.line = record.line ∧
      Option.Rel (Rewrites (safeLabels sgxServerUrl endpoint)) record.excInfo other.excInfo ∧
      Option.Rel (Rewrites (safeLabels sgxServerUrl endpoint)) record.stackInfo other.stackInfo ∧
      record.formatted id id (python.filterSensitive id id
        (python.composeHidingPatterns sgxServerUrl endpoint)) =
          some (other.unfiltered id id) := by
    apply exists_formatted record .refl
    · intro text place
      have seen : Seen (safeLabels sgxServerUrl endpoint) record (text.map id) := by
        rw [List.map_id]
        exact seen_of_part place
      obtain ⟨result, filtered, rewrites⟩ :=
        filterSensitive_rewrites read Seen.rewrites (redactable.all documented) seen
      rw [plain] at rewrites
      exact ⟨result, filtered, rewrites⟩
    · intro text result rewrites
      exact rewrites.ne_nil fun label listed => (label_of_mem (mem_of_mem_safeLabels listed)).ne_nil
  obtain ⟨other, line, excInfo, stackInfo, formatted⟩ := put
  exact ⟨other, ⟨line, excInfo, stackInfo⟩, formatted⟩

theorem filterSensitive_hides_legible (documented : Documented python)
    (redactable : Redactable python sgxServerUrl endpoint record) {other : LogRecord Char}
    {netloc : Text} (relabelled : record.Relabelled (safeLabels sgxServerUrl endpoint) other)
    (concealed : ∀ label ∈ safeLabels sgxServerUrl endpoint,
      conceals (writtenHost netloc) label = true)
    (legible : Legible python netloc (record.unfiltered id id))
    (own : ∃ host ∈ hostPatterns (python.hostname sgxServerUrl) (python.hostname endpoint),
      host.1 = python.hostname netloc) :
    ∃ result, python.filterSensitive id id (python.composeHidingPatterns sgxServerUrl endpoint)
      (other.unfiltered id id) = some result ∧ ¬writtenHost netloc <:+: result := by
  have foreign : ∀ label ∈ safeLabels sgxServerUrl endpoint,
      Foreign (writtenHost netloc) label := fun label listed =>
    foreign_of_conceals (mem_of_mem_safeLabels listed) (concealed label listed)
  have oneLine : safeLabels sgxServerUrl endpoint ≠ [] → '\n' ∉ writtenHost netloc := by
    intro some
    obtain ⟨label, listed⟩ := List.exists_mem_of_ne_nil _ some
    exact (of_decide_eq_true (concealed label listed)).2.2.2.1
  have pattern : ∃ label, (python.hostname netloc, label) ∈
      python.composeHidingPatterns sgxServerUrl endpoint := by
    obtain ⟨⟨text, label⟩, member, rfl⟩ := own
    exact ⟨label, List.mem_append_left _ member⟩
  exact filterSensitive_hides documented Seen.rewrites (redactable.all documented)
    (.whole relabelled .refl) foreign
    (legible.imp_right fun absent => relabelled.absent foreign oneLine absent) pattern

/-- Neither host is left in what is formatted. -/
theorem hidden_of_redactable (documented : Documented python)
    (redactable : Redactable python sgxServerUrl endpoint record) : ∃ output,
    python.format id id (python.composeHidingPatterns sgxServerUrl endpoint) record = some output ∧
      ¬writtenHost sgxServerUrl <:+: output ∧ ¬writtenHost endpoint <:+: output := by
  obtain ⟨other, relabelled, formatted⟩ := exists_relabelled documented redactable
  have concealed : ∀ label ∈ safeLabels sgxServerUrl endpoint,
      conceals (writtenHost sgxServerUrl) label = true ∧
        conceals (writtenHost endpoint) label = true := by
    intro label listed
    exact (Bool.and_eq_true _ _).mp (List.mem_filter.mp listed).2
  obtain ⟨output, filtered, sgx⟩ := filterSensitive_hides_legible documented redactable relabelled
    (fun label listed => (concealed label listed).1) redactable.sgx own_hostPatterns.1
  obtain ⟨same, again, eth⟩ := filterSensitive_hides_legible documented redactable relabelled
    (fun label listed => (concealed label listed).2) redactable.eth own_hostPatterns.2
  rw [filtered] at again
  obtain rfl := Option.some.inj again
  refine ⟨output, ?_, sgx, eth⟩
  unfold Python.format
  rw [formatted]
  exact filtered

section Traces

variable {traced other : LogRecord Traced} {key : Text}

/-- Where a key stands in the exception or the stack, it is gone once these are filtered. -/
theorem exists_cleared (documented : Documented python)
    (redactable : Redactable python sgxServerUrl endpoint record)
    (same : traced.map Prod.fst = record)
    (marked : ∀ text, traced.excInfo = some text ∨ traced.stackInfo = some text →
      Marked python.isWord key text) :
    ∃ other : LogRecord Traced, other.line = traced.line ∧
      Option.Rel (Cleared (safeLabels sgxServerUrl endpoint)) traced.excInfo other.excInfo ∧
      Option.Rel (Cleared (safeLabels sgxServerUrl endpoint)) traced.stackInfo other.stackInfo ∧
      traced.formatted Prod.fst untraced (python.filterSensitive Prod.fst untraced
        (python.composeHidingPatterns sgxServerUrl endpoint)) =
          some (other.unfiltered Prod.fst untraced) := by
  apply exists_formatted traced ⟨.refl, nofun⟩
  · intro text place
    have placed : record.excInfo = some (text.map Prod.fst) ∨
        record.stackInfo = some (text.map Prod.fst) := by
      rw [← same]
      exact place.imp (fun here => by rw [LogRecord.map, here]; rfl)
        fun here => by rw [LogRecord.map, here]; rfl
    apply filterSensitive_untraced documented redactable (seen_of_part placed)
    refine (marked text place).imp_right ?_
    rintro ⟨before, after, rfl, keyHere⟩
    refine ⟨before, after, rfl, keyHere, ?_⟩
    simp only [List.map_append, trace_fst] at placed
    rcases placed with here | here
    · exact .excInfo here
    · exact .stackInfo here
  · intro text result cleared
    apply cleared.1.ne_nil
    intro label member
    obtain ⟨text, listed, rfl⟩ := List.mem_map.mp member
    rw [Ne, List.map_eq_nil_iff]
    exact (label_of_mem (mem_of_mem_safeLabels listed)).ne_nil

theorem plain_of_cleared {labels : List Text}
    (excInfo : Option.Rel (Cleared labels) traced.excInfo other.excInfo)
    (stackInfo : Option.Rel (Cleared labels) traced.stackInfo other.stackInfo) :
    ∃ tail, other.unfiltered Prod.fst untraced = other.line ++ tail ∧
      ∀ cell ∈ tail, cell.2 = false := by
  have new : (untraced '\n').2 = false := rfl
  refine unfiltered_all new other ?_
  rintro text (here | here)
  · obtain ⟨_, _, cleared⟩ := exists_of_rel excInfo here
    exact cleared.2
  · obtain ⟨_, _, cleared⟩ := exists_of_rel stackInfo here
    exact cleared.2

theorem unfiltered_fst (other : LogRecord Traced) :
    (other.map Prod.fst).unfiltered id id =
      (other.unfiltered Prod.fst untraced).map Prod.fst := by
  have reads : ∀ cell : Traced, id cell.1 = cell.1 := fun _ => rfl
  have puts : ∀ letter, (untraced letter).1 = id letter := fun _ => rfl
  exact unfiltered_map reads puts other

/-- A key of the line is one of the whole text still, whatever was put in behind the line. -/
theorem shown_of_line (documented : Documented python) {labels : List Text}
    {before rest : Text} {tail : List Traced}
    (relabelled : (traced.map Prod.fst).Relabelled labels (other.map Prod.fst))
    (line : other.line = traced.line)
    (marked : traced.line = trace false before ++ (trace true key ++ trace false rest))
    (isKey : IsKey python.isWord key rest)
    (appended : other.unfiltered Prod.fst untraced = other.line ++ tail)
    (plain : ∀ cell ∈ tail, cell.2 = false) : ∃ front back,
      other.unfiltered Prod.fst untraced =
        trace false front ++ (trace true key ++ trace false back) ∧
      IsKey python.isWord key back ∧ Shown labels (traced.map Prod.fst) front key back := by
  have lineText : (traced.map Prod.fst).line = before ++ (key ++ rest) := by
    change traced.line.map Prod.fst = _
    rw [marked, List.map_append, List.map_append, trace_fst, trace_fst, trace_fst]
  have text : (other.map Prod.fst).unfiltered id id =
      before ++ (key ++ (rest ++ tail.map Prod.fst)) := by
    rw [unfiltered_fst, appended, line, marked]
    simp only [List.map_append, trace_fst, List.append_assoc]
  obtain ⟨behind, shown, breaks⟩ := unfiltered_line (other.map Prod.fst)
  rw [relabelled.line, lineText] at shown breaks
  obtain rfl : tail.map Prod.fst = behind := by
    rw [text, List.append_assoc, List.append_assoc] at shown
    exact List.append_cancel_left (List.append_cancel_left (List.append_cancel_left shown))
  have filled := List.append_ne_nil_of_left_ne_nil isKey.ne_nil rest
  refine ⟨before, rest ++ tail.map Prod.fst, ?_,
    isKey.append_tail documented.ascii (breaks.of_append filled), .line lineText relabelled text⟩
  have kept := eq_trace plain
  rw [appended, line, marked]
  conv_lhs => rw [kept]
  simp only [trace, List.map_append, List.append_assoc]

end Traces

/-- Nothing of a key is left in what is formatted. -/
theorem keys_of_redactable (documented : Documented python)
    (redactable : Redactable python sgxServerUrl endpoint record) {traced : LogRecord Traced}
    {front key back : Text} (same : traced.map Prod.fst = record)
    (whole : traced.unfiltered Prod.fst untraced =
      trace false front ++ (trace true key ++ trace false back))
    (isKey : IsKey python.isWord key back) : ∃ output, python.format Prod.fst untraced
      (python.composeHidingPatterns sgxServerUrl endpoint) traced = some output ∧
      ∀ cell ∈ output, cell.2 = false := by
  obtain ⟨lineMarked, partsMarked⟩ := parts_of_unfiltered (Marked python.isWord key) (.inl nofun)
    (fun s text marked => marked.appendLine documented.ascii) (.inr ⟨front, back, whole, isKey⟩)
  obtain ⟨other, line, excInfo, stackInfo, formatted⟩ :=
    exists_cleared documented redactable same partsMarked
  subst same
  have relabelled : (traced.map Prod.fst).Relabelled (safeLabels sgxServerUrl endpoint)
      (other.map Prod.fst) :=
    ⟨congrArg (List.map Prod.fst) line, rel_map_fst excInfo, rel_map_fst stackInfo⟩
  have seen : Seen (safeLabels sgxServerUrl endpoint) (traced.map Prod.fst)
      ((other.unfiltered Prod.fst untraced).map Prod.fst) := by
    rw [← unfiltered_fst]
    exact .whole relabelled .refl
  obtain ⟨tail, appended, plain⟩ := plain_of_cleared excInfo stackInfo
  have marked : (∀ cell ∈ other.unfiltered Prod.fst untraced, cell.2 = false) ∨ ∃ front back,
      other.unfiltered Prod.fst untraced =
        trace false front ++ (trace true key ++ trace false back) ∧
      IsKey python.isWord key back ∧
      Shown (safeLabels sgxServerUrl endpoint) (traced.map Prod.fst) front key back := by
    rcases lineMarked with nothing | ⟨before, rest, lineEq, keyHere⟩
    · rw [appended, line]
      exact .inl (List.forall_mem_append.mpr ⟨nothing, plain⟩)
    · exact .inr (shown_of_line documented relabelled line lineEq keyHere appended plain)
  obtain ⟨output, filtered, _, unmarked⟩ :=
    filterSensitive_untraced documented redactable seen marked
  refine ⟨output, ?_, unmarked⟩
  unfold Python.format
  rw [formatted]
  exact filtered

/-- Hosts and keys are hidden in every record in which the patterns miss nothing. -/
theorem redacted_of_redactable (documented : Documented python) (sgxServerUrl endpoint : Text)
    (record : LogRecord Char)
    (redactable : Redactable python sgxServerUrl endpoint record) :
    Redacted python sgxServerUrl endpoint record := by
  refine ⟨hidden_of_redactable documented redactable, ?_⟩
  intro traced front key back same whole isKey
  exact keys_of_redactable documented redactable same whole isKey

end Result

/-! ### Two urls -/

def asciiPython : Python where
  isWord symbol := symbol.isAlphanum || symbol == '_'
  lower text := text.map Char.toLower
  finditer text := some (finditer
    (if text = keyPattern then keyMatcher fun symbol => symbol.isAlphanum || symbol == '_'
      else hostMatcher text))

theorem documented_asciiPython : Documented asciiPython where
  ascii _ _ := rfl
  host host ordinary := by
    have other : host ≠ keyPattern := by
      rintro rfl
      rcases ordinary.ordinary '\\' (by decide) with dot | plain
      · exact absurd dot (by decide)
      · exact plain (by decide)
    unfold asciiPython
    dsimp only
    rw [if_neg other]
  key := by
    unfold asciiPython
    dsimp only
    rw [if_pos rfl]

def sgxUrl : Text :=
  "sgx.example:1026".toList

def nodeUrl : Text :=
  "10.0.0.1:8545".toList

def urlsRecord : LogRecord Char where
  line := "at sgx.example: NEK:ab12".toList
  excInfo := some "down: 10.0.0.1".toList
  stackInfo := none

theorem plainHost_of_test {netloc text : Text}
    (plain : PlainPattern (asciiPython.hostname netloc))
    (same : writtenHost netloc = asciiPython.hostname netloc)
    (concealed : ([SGX_IP, ETH_IP, SGX_KEY].all (conceals (writtenHost netloc))) = true) :
    PlainHost asciiPython netloc text :=
  ⟨plain, List.all_eq_true.mp concealed, .inl same⟩

theorem untouched_of_tails {host front key back : Text}
    (tested : ((front ++ key).tails.all fun rest => rest.isEmpty ||
      !fits host (rest ++ back) || decide (host.length + key.length ≤ rest.length)) = true) :
    Untouched host front key back := by
  intro rest suffix filled found
  have here := List.all_eq_true.mp tested rest ((List.mem_tails _ _).mpr suffix)
  rw [found, Bool.not_true, Bool.or_false, Bool.or_eq_true, List.isEmpty_iff,
    decide_eq_true_eq] at here
  exact here.resolve_left filled

theorem urlsRecord_keys {front key back : Text}
    (same : urlsRecord.unfiltered id id = front ++ (key ++ back))
    (isKey : IsKey asciiPython.isWord key back) :
    front = "at sgx.example: ".toList ∧ key = "NEK:ab12".toList ∧
      back = "\ndown: 10.0.0.1".toList := by
  have length := keyMatcher_eq_some.mpr ⟨key, back, rfl, isKey, rfl⟩
  obtain ⟨word, _, _, rfl, _⟩ := isKey
  have spelled : "at sgx.example: ".toList ++ 'N' :: "EK:ab12\ndown: 10.0.0.1".toList =
      front ++ 'N' :: ("EK:".toList ++ word ++ back) := same
  obtain ⟨rfl, _, rest⟩ := (List.append_cons_inj_of_notMem (by decide) (by decide)).mp spelled
  have whole : "NEK:".toList ++ word ++ back = "NEK:ab12\ndown: 10.0.0.1".toList :=
    congrArg ('N' :: ·) rest.symm
  have found : keyMatcher asciiPython.isWord "NEK:ab12\ndown: 10.0.0.1".toList = some 8 := by
    decide
  rw [whole, found] at length
  have parted := congrArg (List.splitAt 8) whole
  rw [Option.some.inj length, List.splitAt_eq, List.take_left, List.drop_left,
    ← Option.some.inj length] at parted
  exact ⟨rfl, congrArg Prod.fst parted, congrArg Prod.snd parted⟩

/-- Two hosts in small letters, and a key. -/
theorem urls_redacted : Documented asciiPython ∧
    Redactable asciiPython sgxUrl nodeUrl urlsRecord ∧
    Redacted asciiPython sgxUrl nodeUrl urlsRecord := by
  have sgx : PlainPattern (asciiPython.hostname sgxUrl) :=
    .of_all (by decide) (by decide) (by decide) (by decide) (by decide)
  have node : PlainPattern (asciiPython.hostname nodeUrl) :=
    .of_all (by decide) (by decide) (by decide) (by decide) (by decide)
  have redactable : Redactable asciiPython sgxUrl nodeUrl urlsRecord := by
    apply redactable_of_plain documented_asciiPython
      (plainHost_of_test sgx (by decide) (by decide))
      (plainHost_of_test node (by decide) (by decide))
    intro front key back same isKey
    obtain ⟨rfl, rfl, rfl⟩ := urlsRecord_keys same isKey
    have apart : ¬EndsInKey asciiPython.isWord "at sgx.example: ".toList := by
      rintro ⟨before, word, whole, _⟩
      have letter : 'N' ∈ "at sgx.example: ".toList := by
        rw [whole]
        simp
      exact absurd letter (by decide)
    exact ⟨apart, untouched_of_tails (by decide), untouched_of_tails (by decide)⟩
  exact ⟨documented_asciiPython, redactable,
    redacted_of_redactable documented_asciiPython sgxUrl nodeUrl urlsRecord redactable⟩

/-! ### A host in capital letters -/

def capitalUrl : Text :=
  "SGX.example:1026".toList

def lineRecord (line : Text) : LogRecord Char where
  line := line
  excInfo := none
  stackInfo := none

/-- The host is looked for in small letters only. -/
theorem capitals_shown :
    ¬Redacted asciiPython capitalUrl nodeUrl (lineRecord "SGX.example is down".toList) := by
  rintro ⟨⟨output, formatted, hidden, _⟩, _⟩
  have shown : asciiPython.format id id (asciiPython.composeHidingPatterns capitalUrl nodeUrl)
      (lineRecord "SGX.example is down".toList) = some "SGX.example is down".toList := by
    decide
  rw [shown] at formatted
  obtain rfl := Option.some.inj formatted
  apply hidden
  exact (List.isPrefixOf_iff_prefix.mp (by decide)).isInfix

end SkaleAdmin.Logging
