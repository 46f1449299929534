import SkaleAdmin.Dkg.EventLayout

/-! The verification vectors that different nodes hand to SGX for the public
keys of the group. -/

namespace SkaleAdmin.Dkg

open Interaction PyText Program
open Interaction.Procedure (runs_invoke_iff runs_invoke_bind_iff)

section Conversions

/-- `coord` is read as the number `value`. -/
def Spells (coord : Text) (value : Nat) : Prop :=
  parseInt 10 coord = some (value : Int)

/-- The decimal spelling of the number a coordinate is read as. -/
def normalised (coord : Text) : Text :=
  ((parseInt 10 coord).map str).getD coord

theorem normalised_of_spells {coord : Text} {value : Nat}
    (spells : Spells coord value) : normalised coord = decimal value := by
  unfold normalised
  rw [spells]
  rfl

theorem convertG2PointToHex_of_spells {point : List Text} {values : List Nat}
    (spells : List.Forall₂ Spells point values)
    (bound : ∀ value ∈ values, value < 2 ^ 256) :
    convertG2PointToHex point = some (pointWords values) := by
  have words : point.mapM convertCoordToHex = some (values.map word) := by
    induction spells with
    | nil => rfl
    | cons head _ ih =>
        have first := convertCoordToHex_eq_word head (bound _ (by simp))
        have others := ih fun value member => bound value (by simp [member])
        simp [List.mapM_cons, first, others]
  unfold convertG2PointToHex
  rw [words]
  rfl

theorem convertG2ArrayToHex_of_spells {points : List (List Text)}
    {vector : List (List Nat)}
    (spells : List.Forall₂ (List.Forall₂ Spells) points vector)
    (fits : ∀ point ∈ vector, FitsPoint point) :
    convertG2ArrayToHex (.points points) = some (vectorWords vector) := by
  have words : points.mapM convertG2PointToHex = some (vector.map pointWords) := by
    induction spells with
    | nil => rfl
    | cons head _ ih =>
        have first := convertG2PointToHex_of_spells head (fits _ (by simp)).bound
        have others := ih fun point member => fits point (by simp [member])
        simp [List.mapM_cons, first, others]
  unfold convertG2ArrayToHex
  change Option.map List.flatten (points.mapM convertG2PointToHex) = _
  rw [words]
  rfl

theorem spells_decimal (values : List Nat) :
    List.Forall₂ Spells (values.map decimal) values := by
  induction values with
  | nil => exact .nil
  | cons value rest ih => exact .cons (parseInt_str value) ih

theorem exists_points_of_hex {text : Text} {count : Nat}
    (whole : text.length = 256 * count)
    (lower : ∀ symbol ∈ text, IsLowerHex symbol) :
    ∃ points, convertHexToG2Array text = some points ∧
      convertG2ArrayToHex (.points points) = some text := by
  obtain ⟨vector, _, fits, rfl⟩ := exists_vectorWords whole lower
  refine ⟨_, convertHexToG2Array_vectorWords fits, ?_⟩
  apply convertG2ArrayToHex_of_spells _ fits
  rw [List.forall₂_map_left_iff]
  exact List.forall₂_same.mpr fun point _ => spells_decimal point

theorem exists_values {point : List Text}
    (readable : ∀ coord ∈ point, ∃ value < 2 ^ 256, Spells coord value) :
    ∃ values : List Nat, values.length = point.length ∧
      (∀ value ∈ values, value < 2 ^ 256) ∧
      List.Forall₂ Spells point values ∧
      point.map normalised = values.map decimal := by
  induction point with
  | nil => exact ⟨[], rfl, by simp, .nil, rfl⟩
  | cons coord rest ih =>
      obtain ⟨value, bound, spells⟩ := readable coord (by simp)
      obtain ⟨values, length, bounds, others, same⟩ :=
        ih fun other member => readable other (by simp [member])
      refine ⟨value :: values, by simp [length], ?_, .cons spells others, ?_⟩
      · intro other member
        rcases List.mem_cons.mp member with rfl | member
        · exact bound
        · exact bounds other member
      · rw [List.map_cons, List.map_cons, normalised_of_spells spells, same]

theorem exists_hex_of_points {points : List (List Text)}
    (readable : ∀ point ∈ points, point.length = 4 ∧
      ∀ coord ∈ point, ∃ value < 2 ^ 256, Spells coord value) :
    ∃ text, convertG2ArrayToHex (.points points) = some text ∧
      convertHexToG2Array text = some (points.map (List.map normalised)) := by
  have vectorOf : ∃ vector : List (List Nat),
      (∀ point ∈ vector, FitsPoint point) ∧
      List.Forall₂ (List.Forall₂ Spells) points vector ∧
      points.map (List.map normalised) =
        vector.map (List.map decimal) := by
    induction points with
    | nil => exact ⟨[], by simp, .nil, rfl⟩
    | cons point rest ih =>
        obtain ⟨length, coords⟩ := readable point (by simp)
        obtain ⟨values, sameLength, bounds, spells, same⟩ := exists_values coords
        obtain ⟨vector, fits, others, sameRest⟩ :=
          ih fun other member => readable other (by simp [member])
        refine ⟨values :: vector, ?_, .cons spells others, ?_⟩
        · intro other member
          rcases List.mem_cons.mp member with rfl | member
          · exact ⟨sameLength.trans length, bounds⟩
          · exact fits other member
        · rw [List.map_cons, List.map_cons, same, sameRest]
  obtain ⟨vector, fits, spells, same⟩ := vectorOf
  refine ⟨_, convertG2ArrayToHex_of_spells spells fits, ?_⟩
  rw [same]
  exact convertHexToG2Array_vectorWords fits

def IsDecimal (text : Text) : Prop :=
  ∀ symbol ∈ text, ∃ digit < 10, symbol = hexDigit digit

theorem convertG2PointToHex_of_digit {digit : Nat} (decimal : digit < 10) :
    convertG2PointToHex [[hexDigit digit]] = some (word digit) := by
  have spells : Spells [hexDigit digit] digit := by
    have read : parseInt 10 (digits 10 (0 + 1) digit) = some (digit : Int) :=
      parseInt_digits (by omega) (by omega) (by omega)
    rw [digits, digits, Nat.mod_eq_of_lt decimal] at read
    exact read
  have bound : ∀ value ∈ [digit], value < 2 ^ 256 := by
    intro value member
    rw [List.mem_singleton.mp member]
    omega
  rw [convertG2PointToHex_of_spells (.cons spells .nil) bound]
  simp [pointWords]

theorem convertG2ArrayToHex_of_decimal {text : Text} (decimal : IsDecimal text) :
    ∃ again, convertG2ArrayToHex (.hex text) = some again ∧
      again.length = 64 * text.length := by
  have words : ∃ parts : List Text,
      (text.map fun symbol => [[symbol]]).mapM convertG2PointToHex = some parts ∧
        parts.flatten.length = 64 * text.length := by
    induction text with
    | nil => exact ⟨[], rfl, rfl⟩
    | cons symbol rest ih =>
        obtain ⟨digit, bound, rfl⟩ := decimal symbol (by simp)
        obtain ⟨parts, others, length⟩ :=
          ih fun other member => decimal other (by simp [member])
        refine ⟨word digit :: parts, ?_, ?_⟩
        · simp [List.mapM_cons, convertG2PointToHex_of_digit bound, others]
        · rw [List.flatten_cons, List.length_append, length, length_word,
            List.length_cons]
          omega
  obtain ⟨parts, converted, length⟩ := words
  refine ⟨parts.flatten, ?_, length⟩
  change Option.map List.flatten
    ((text.map fun symbol => [[symbol]]).mapM convertG2PointToHex) = _
  rw [converted]
  rfl

theorem convertG2PointToHex_of_letter :
    ∀ digit < 16, 10 ≤ digit → convertG2PointToHex [[hexDigit digit]] = none := by
  decide

theorem convertG2ArrayToHex_of_letter {text : Text}
    (lower : ∀ symbol ∈ text, IsLowerHex symbol) (letter : ¬ IsDecimal text) :
    convertG2ArrayToHex (.hex text) = none := by
  have failed : (text.map fun symbol => [[symbol]]).mapM convertG2PointToHex =
      none := by
    induction text with
    | nil => exact absurd (fun _ member => by cases member) letter
    | cons symbol rest ih =>
        obtain ⟨digit, bound, rfl⟩ := lower symbol (by simp)
        by_cases decimal : digit < 10
        · have others := ih (fun other member => lower other (by simp [member]))
            (by
              intro all
              apply letter
              intro other member
              rcases List.mem_cons.mp member with rfl | member
              · exact ⟨digit, decimal, rfl⟩
              · exact all other member)
          simp [List.mapM_cons, others, convertG2PointToHex_of_digit decimal]
        · simp [List.mapM_cons,
            convertG2PointToHex_of_letter digit bound (by omega)]
  change Option.map List.flatten
    ((text.map fun symbol => [[symbol]]).mapM convertG2PointToHex) = _
  rw [failed]
  rfl

end Conversions

section Agreement

variable {n : Nat}

def passedVectors (trace : Trace dkgInterface) : List (List VerificationVector) :=
  trace.filterMap fun event =>
    match event.query with
    | .calculateAllBlsPublicKeys vectors => some vectors
    | _ => none

def eventVectors (events : Fin n → DKGEvent) : List VerificationVector :=
  (List.finRange n).map fun index => .hex (events index).verificationVector

def FirstUnreachable (trace : Trace dkgInterface) : Prop :=
  ∃ vectors message rest, trace =
    ⟨.calculateAllBlsPublicKeys vectors,
      .error (.sgxUnreachableError message)⟩ :: rest

/-- A node that asks SGX again hands it a vector converted twice. -/
def ConvertsTwice (client : DKGClient n) (events : Fin n → DKGEvent)
    (trace : Trace dkgInterface) : Prop :=
  FirstUnreachable trace ∧ IsDecimal (events client.nodeIdDkg).verificationVector

namespace DKGClient

/-- One attempt of `get_bls_public_keys`. -/
def passVectors : ClientM n (List (List Text)) := do
  let client ← Procedure.read id
  let own ← getOr .valueError
    (convertG2ArrayToHex (client.incomingVerificationVector client.nodeIdDkg))
  Procedure.modify (storeVerificationVector client.nodeIdDkg (.hex own))
  let client ← Procedure.read id
  invoke (.calculateAllBlsPublicKeys
    ((List.finRange n).map client.incomingVerificationVector))

theorem getBlsPublicKeys_eq :
    (getBlsPublicKeys : ClientM n (List (List Text))) =
      retryUnreachable passVectors (12 + 1) := rfl

theorem passVectors_passes {client client' : DKGClient n} {own : Text}
    {trace : Trace dkgInterface} {outcome : Outcome PyError (List (List Text))}
    (converted : convertG2ArrayToHex
      (client.incomingVerificationVector client.nodeIdDkg) = some own)
    (run : Runs (passVectors client) trace (outcome, client')) :
    client' = storeVerificationVector client.nodeIdDkg (.hex own) client ∧
      ((∃ keys, outcome = .value keys ∧
          trace = [⟨.calculateAllBlsPublicKeys
            ((List.finRange n).map client'.incomingVerificationVector),
            .ok keys⟩]) ∨
        ∃ error, outcome = .raised error ∧
          trace = [⟨.calculateAllBlsPublicKeys
            ((List.finRange n).map client'.incomingVerificationVector),
            .error error⟩]) := by
  unfold passVectors at run
  rw [Procedure.read_bind_apply] at run
  simp only [id, converted, getOr_some, Procedure.pure_bind_apply,
    Procedure.modify_bind_apply, Procedure.read_bind_apply] at run
  rcases runs_invoke_iff.mp run with ⟨keys, rfl, rfl, rfl⟩ | ⟨error, rfl, rfl, rfl⟩
  · exact ⟨rfl, .inl ⟨keys, rfl, rfl⟩⟩
  · exact ⟨rfl, .inr ⟨error, rfl, rfl⟩⟩

theorem passVectors_fails {client client' : DKGClient n}
    {trace : Trace dkgInterface} {outcome : Outcome PyError (List (List Text))}
    (unreadable : convertG2ArrayToHex
      (client.incomingVerificationVector client.nodeIdDkg) = none)
    (run : Runs (passVectors client) trace (outcome, client')) :
    trace = [] ∧ outcome = .raised .valueError := by
  unfold passVectors at run
  rw [Procedure.read_bind_apply] at run
  simp only [id, unreadable, getOr_none, Procedure.raise_bind_apply] at run
  obtain ⟨rfl, rfl, _⟩ := Procedure.runs_raise_iff.mp run
  exact ⟨rfl, rfl⟩

/-- A retried operation starts with an attempt; what follows it is a run of the
attempts left, from the state the first one has left. -/
theorem runs_retryUnreachable_succ {σ α : Type} {func : DkgM σ α} {retries : Nat}
    {state state' : σ} {trace : Trace dkgInterface} {outcome : Outcome PyError α}
    (run : Runs (retryUnreachable func (retries + 1) state) trace
      (outcome, state')) :
    (Runs (func state) trace (outcome, state') ∧
        ∀ message, outcome ≠ .raised (.sgxUnreachableError message)) ∨
      ∃ message answer middle front back,
        trace = front ++ ⟨.sleep (retryTimeout (retries + 1)), answer⟩ :: back ∧
        Runs (func state) front (.raised (.sgxUnreachableError message), middle) ∧
        Runs (retryUnreachable func retries middle) back (outcome, state') := by
  rcases Procedure.runs_attempt_iff.mp run with
    ⟨result, rfl, body⟩ |
    ⟨error, clause, middle, front, back, rfl, handled, body, later⟩ |
    ⟨error, rfl, unhandled, body⟩ | ⟨rfl, body⟩
  · exact .inl ⟨body, fun _ same => by cases same⟩
  · cases error <;> cases handled
    rcases Procedure.runs_bind_iff.mp later with
      ⟨_, _, pause, rest, rfl, slept, resumed⟩ | ⟨_, _, slept⟩ | ⟨_, slept⟩
    · obtain ⟨answer, rfl, _, rfl⟩ := runs_sleep_iff.mp slept
      exact .inr ⟨_, answer, _, front, rest, rfl, body, resumed⟩
    · obtain ⟨_, _, same, _⟩ := runs_sleep_iff.mp slept
      cases same
    · obtain ⟨_, _, same, _⟩ := runs_sleep_iff.mp slept
      cases same
  · refine .inl ⟨body, ?_⟩
    intro message same
    cases same
    cases unhandled
  · exact .inl ⟨body, fun _ same => by cases same⟩

theorem runs_retryUnreachable_answered {σ α : Type} {func : DkgM σ α} {retries : Nat}
    {state state' : σ} {trace : Trace dkgInterface} {result : α}
    (answered : Runs (func state) trace (.value result, state')) :
    Runs (retryUnreachable func retries state) trace (.value result, state') := by
  cases retries with
  | zero => exact Procedure.runs_attempt_iff.mpr (.inl ⟨result, rfl, answered⟩)
  | succ retries => exact Procedure.runs_attempt_iff.mpr (.inl ⟨result, rfl, answered⟩)

theorem runs_retryUnreachable_again {σ α : Type} {func : DkgM σ α} {retries : Nat}
    {state middle state' : σ} {front back : Trace dkgInterface}
    {outcome : Outcome PyError α} {message : String}
    (failed : Runs (func state) front
      (.raised (.sgxUnreachableError message), middle))
    (later : Runs (retryUnreachable func retries middle) back (outcome, state')) :
    Runs (retryUnreachable func (retries + 1) state)
      (front ++ (⟨.sleep (retryTimeout (retries + 1)), .ok ()⟩ :: back))
      (outcome, state') := by
  have slept : Runs (sleep (retryTimeout (retries + 1)) middle)
      [⟨.sleep (retryTimeout (retries + 1)), .ok ()⟩] (.value (), middle) :=
    runs_sleep_iff.mpr ⟨_, rfl, rfl, rfl⟩
  exact Procedure.runs_attempt_iff.mpr (.inr (.inl ⟨_, _, _, _, _, rfl, rfl, failed,
    Procedure.runs_bind_iff.mpr (.inl ⟨_, _, _, _, rfl, slept, later⟩)⟩))

theorem holds_own {client : DKGClient n} {event : DKGEvent}
    (whole : event.verificationVector.length = 256 * client.t)
    (lower : ∀ symbol ∈ event.verificationVector, IsLowerHex symbol)
    (holds : client.Holds client.nodeIdDkg event) :
    convertG2ArrayToHex (client.incomingVerificationVector client.nodeIdDkg) =
      some event.verificationVector := by
  obtain ⟨points, read, held⟩ := (if_pos rfl).mp holds.2
  obtain ⟨other, readOther, printed⟩ := exists_points_of_hex whole lower
  rw [read] at readOther
  cases readOther
  rw [held]
  exact printed

/-- With the own vector converted, a node that holds every event holds the
vectors as they came. -/
theorem vectors_of_holds {client : DKGClient n} {events : Fin n → DKGEvent}
    (holds : ∀ index, client.Holds index (events index)) :
    (List.finRange n).map (storeVerificationVector client.nodeIdDkg
      (.hex (events client.nodeIdDkg).verificationVector)
      client).incomingVerificationVector = eventVectors events := by
  apply List.map_congr_left
  intro index _
  by_cases own : index = client.nodeIdDkg
  · subst own
    exact Function.update_self ..
  · have held := (if_neg own).mp (holds index).2
    exact (Function.update_of_ne own ..).trans held

end DKGClient

theorem t_pos (client : DKGClient n) : 0 < client.t := by
  have inside := client.nodeIdDkg.isLt
  unfold DKGClient.t
  omega

/-- An attempt on a vector that was converted already either fails before it
reaches SGX or hands it a longer vector. -/
theorem attempt_on_converted {client client' : DKGClient n} {text : Text}
    {retries : Nat} {trace : Trace dkgInterface}
    {outcome : Outcome PyError (List (List Text))}
    (held : client.incomingVerificationVector client.nodeIdDkg = .hex text)
    (lower : ∀ symbol ∈ text, IsLowerHex symbol)
    (run : Runs (retryUnreachable DKGClient.passVectors (retries + 1) client)
      trace (outcome, client')) :
    (¬ IsDecimal text ∧ trace = []) ∨
      (IsDecimal text ∧ ∃ garbled : Text, garbled.length = 64 * text.length ∧
        (List.finRange n).map (DKGClient.storeVerificationVector client.nodeIdDkg
          (.hex garbled) client).incomingVerificationVector ∈
            passedVectors trace) := by
  by_cases decimal : IsDecimal text
  · obtain ⟨garbled, converted, longer⟩ := convertG2ArrayToHex_of_decimal decimal
    rw [← held] at converted
    refine .inr ⟨decimal, garbled, longer, ?_⟩
    rcases DKGClient.runs_retryUnreachable_succ run with
      ⟨attempt, _⟩ | ⟨_, _, _, _, _, rfl, attempt, _⟩
    · obtain ⟨rfl, ⟨_, _, rfl⟩ | ⟨_, _, rfl⟩⟩ :=
        DKGClient.passVectors_passes converted attempt
      · simp [passedVectors]
      · simp [passedVectors]
    · obtain ⟨rfl, ⟨_, _, rfl⟩ | ⟨_, _, rfl⟩⟩ :=
        DKGClient.passVectors_passes converted attempt
      · simp [passedVectors]
      · simp [passedVectors]
  · have unreadable := convertG2ArrayToHex_of_letter lower decimal
    rw [← held] at unreadable
    refine .inl ⟨decimal, ?_⟩
    rcases DKGClient.runs_retryUnreachable_succ run with
      ⟨attempt, _⟩ | ⟨_, _, _, _, _, _, attempt, _⟩
    · exact (DKGClient.passVectors_fails unreadable attempt).1
    · cases (DKGClient.passVectors_fails unreadable attempt).2

/-- Every run hands the vectors of the events to SGX; it hands it another list
exactly when it converts the own vector twice. -/
theorem getBlsPublicKeys_passes {client client' : DKGClient n}
    {events : Fin n → DKGEvent} {trace : Trace dkgInterface}
    {outcome : Outcome PyError (List (List Text))}
    (holds : ∀ index, client.Holds index (events index))
    (whole : (events client.nodeIdDkg).verificationVector.length =
      256 * client.t)
    (lower : ∀ symbol ∈ (events client.nodeIdDkg).verificationVector,
      IsLowerHex symbol)
    (run : Runs (DKGClient.getBlsPublicKeys client) trace (outcome, client')) :
    eventVectors events ∈ passedVectors trace ∧
      ((∃ passed ∈ passedVectors trace, passed ≠ eventVectors events) ↔
        ConvertsTwice client events trace) := by
  rw [DKGClient.getBlsPublicKeys_eq] at run
  have converted := DKGClient.holds_own whole lower (holds client.nodeIdDkg)
  rcases DKGClient.runs_retryUnreachable_succ run with
    ⟨attempt, reached⟩ | ⟨message, answer, middle, front, back, rfl, first, later⟩
  · obtain ⟨rfl, ends⟩ := DKGClient.passVectors_passes converted attempt
    rw [DKGClient.vectors_of_holds holds] at ends
    have single : passedVectors trace = [eventVectors events] ∧
        ¬ FirstUnreachable trace := by
      rcases ends with ⟨keys, rfl, rfl⟩ | ⟨error, rfl, rfl⟩
      · refine ⟨by simp [passedVectors], ?_⟩
        rintro ⟨_, _, _, same⟩
        cases same
      · refine ⟨by simp [passedVectors], ?_⟩
        rintro ⟨_, message, _, same⟩
        cases same
        exact reached message rfl
    obtain ⟨single, answered⟩ := single
    rw [single]
    refine ⟨List.mem_singleton_self _, ?_, ?_⟩
    · rintro ⟨passed, member, differs⟩
      exact absurd (List.mem_singleton.mp member) differs
    · intro twice
      exact absurd twice.1 answered
  · obtain ⟨rfl, ends⟩ := DKGClient.passVectors_passes converted first
    rw [DKGClient.vectors_of_holds holds] at ends
    rcases ends with ⟨_, same, _⟩ | ⟨error, same, rfl⟩
    · cases same
    cases same
    -- the own entry now holds the text, which a further attempt converts again
    have held : (DKGClient.storeVerificationVector client.nodeIdDkg
        (.hex (events client.nodeIdDkg).verificationVector)
        client).incomingVerificationVector client.nodeIdDkg =
          .hex (events client.nodeIdDkg).verificationVector :=
      Function.update_self ..
    refine ⟨by simp [passedVectors], ?_⟩
    rcases attempt_on_converted held lower later with
      ⟨letter, rfl⟩ | ⟨decimal, garbled, longer, passed⟩
    · constructor
      · intro differs
        simp [passedVectors] at differs
      · intro twice
        exact absurd twice.2 letter
    · refine ⟨fun _ => ⟨⟨_, _, _, rfl⟩, decimal⟩, fun _ => ?_⟩
      refine ⟨_, List.mem_cons_of_mem _ passed, ?_⟩
      intro equal
      have entry := List.map_inj_left.mp equal client.nodeIdDkg
        (List.mem_finRange _)
      have last : (.hex garbled : VerificationVector) =
          .hex (events client.nodeIdDkg).verificationVector :=
        (Function.update_self ..).symm.trans entry
      have positive := t_pos client
      cases last
      omega

/-- The vectors handed to SGX in two runs are the same lists. -/
def SameVectors (first second : Trace dkgInterface) : Prop :=
  ∀ passed ∈ passedVectors first, ∀ other ∈ passedVectors second, passed = other

def HasVector (n : Nat) (event : DKGEvent) : Prop :=
  event.verificationVector.length = 256 * ((2 * n + 1) / 3) ∧
    ∀ symbol ∈ event.verificationVector, IsLowerHex symbol

/-- The two conversions undo each other, and two nodes that hold the same events
hand the same vectors to SGX exactly when neither converts its own twice. -/
theorem verification_vectors_agree_iff (n : Nat) (events : Fin n → DKGEvent) :
    (∀ (count : Nat) (text : Text), text.length = 256 * count →
      (∀ symbol ∈ text, IsLowerHex symbol) →
      ∃ points, convertHexToG2Array text = some points ∧
        convertG2ArrayToHex (.points points) = some text) ∧
    (∀ points : List (List Text),
      (∀ point ∈ points, point.length = 4 ∧
        ∀ coord ∈ point, ∃ value < 2 ^ 256, Spells coord value) →
      ∃ text, convertG2ArrayToHex (.points points) = some text ∧
        convertHexToG2Array text = some (points.map (List.map normalised))) ∧
    ((∀ index, HasVector n (events index)) →
      ∀ (first first' second second' : DKGClient n)
        (trace other : Trace dkgInterface)
        (outcome outcome' : Outcome PyError (List (List Text))),
        (∀ index, first.Holds index (events index)) →
        (∀ index, second.Holds index (events index)) →
        Runs (first.getBlsPublicKeys) trace (outcome, first') →
        Runs (second.getBlsPublicKeys) other (outcome', second') →
        (SameVectors trace other ↔
          ¬ ConvertsTwice first events trace ∧
            ¬ ConvertsTwice second events other)) := by
  refine ⟨fun _ _ => exists_points_of_hex, fun _ => exists_hex_of_points, ?_⟩
  intro vectors first first' second second' trace other outcome outcome'
    firstHolds secondHolds firstRun secondRun
  obtain ⟨firstPassed, firstOnly⟩ := getBlsPublicKeys_passes firstHolds
    (vectors first.nodeIdDkg).1 (vectors first.nodeIdDkg).2 firstRun
  obtain ⟨secondPassed, secondOnly⟩ := getBlsPublicKeys_passes secondHolds
    (vectors second.nodeIdDkg).1 (vectors second.nodeIdDkg).2 secondRun
  rw [← firstOnly, ← secondOnly]
  constructor
  · intro same
    constructor
    · rintro ⟨passed, member, differs⟩
      exact differs (same passed member _ secondPassed)
    · rintro ⟨passed, member, differs⟩
      exact differs (same _ firstPassed passed member).symm
  · rintro ⟨firstAgrees, secondAgrees⟩ passed member passed' member'
    have left : passed = eventVectors events := by
      by_contra differs
      exact firstAgrees ⟨passed, member, differs⟩
    have right : passed' = eventVectors events := by
      by_contra differs
      exact secondAgrees ⟨passed', member', differs⟩
    exact left.trans right.symm

end Agreement

section Samples

def zeroVector : Text :=
  vectorWords [[0, 0, 0, 0]]

theorem zeroVector_fits : ∀ point ∈ [[0, 0, 0, 0]], FitsPoint point := by
  intro point member
  rw [List.mem_singleton.mp member]
  exact ⟨rfl, by simp⟩

theorem zeroVector_decimal : IsDecimal zeroVector := by
  intro symbol member
  obtain ⟨text, inside, member⟩ := List.mem_flatten.mp member
  obtain rfl : text = pointWords [0, 0, 0, 0] := by simpa using inside
  obtain ⟨text, inside, member⟩ := List.mem_flatten.mp member
  obtain rfl : text = word 0 := by simpa using inside
  rw [word, digits_zero] at member
  exact ⟨0, by omega, List.eq_of_mem_replicate member⟩

def pairEvents (index : Fin 2) : DKGEvent where
  nodeIndex := 10 + index
  secretKeyContribution := []
  verificationVector := zeroVector

theorem pairEvents_hasVector (index : Fin 2) : HasVector 2 (pairEvents index) := by
  refine ⟨length_vectorWords zeroVector_fits, ?_⟩
  intro symbol member
  exact mem_vectorWords_isLowerHex member

def pairMember (node : Fin 2) : DKGClient 2 where
  group :=
    { nodeIdsDkg := fun index => 10 + index
      distinct := injective_ten }
  nodeIdDkg := node
  schainName := "chain"
  groupIndex := ['g']
  dkgContractAddress := ['d']
  complaintErrorEventHash := ['c']
  publicKeys := []
  ethKeyName := "key"
  polyName := "poly"
  blsName := "bls"
  rotationId := 0
  dkgTimeout := 10
  incomingVerificationVector := fun index =>
    if index = node then .points [[decimal 0, decimal 0, decimal 0, decimal 0]]
    else .hex zeroVector
  incomingSecretKeyContribution := fun _ => []

theorem pairMember_holds (node index : Fin 2) :
    (pairMember node).Holds index (pairEvents index) := by
  refine ⟨by simp [pairMember, pairEvents, slice], ?_⟩
  split
  · rename_i own
    exact ⟨_, convertHexToG2Array_vectorWords zeroVector_fits, if_pos own⟩
  · rename_i foreign
    exact if_neg foreign

theorem runs_passVectors {n : Nat} {client : DKGClient n} {own : Text}
    (converted : convertG2ArrayToHex
      (client.incomingVerificationVector client.nodeIdDkg) = some own) :
    ∃ vectors,
      (∀ keys, Runs (DKGClient.passVectors client)
        [⟨.calculateAllBlsPublicKeys vectors, .ok keys⟩]
        (.value keys, DKGClient.storeVerificationVector client.nodeIdDkg
          (.hex own) client)) ∧
      ∀ error, Runs (DKGClient.passVectors client)
        [⟨.calculateAllBlsPublicKeys vectors, .error error⟩]
        (.raised error, DKGClient.storeVerificationVector client.nodeIdDkg
          (.hex own) client) := by
  refine ⟨(List.finRange n).map (DKGClient.storeVerificationVector
    client.nodeIdDkg (.hex own) client).incomingVerificationVector, ?_⟩
  unfold DKGClient.passVectors
  rw [Procedure.read_bind_apply]
  simp only [id, converted, getOr_some, Procedure.pure_bind_apply,
    Procedure.modify_bind_apply, Procedure.read_bind_apply]
  constructor
  · intro keys
    exact runs_invoke_iff.mpr (.inl ⟨keys, rfl, rfl, rfl⟩)
  · intro error
    exact runs_invoke_iff.mpr (.inr ⟨error, rfl, rfl, rfl⟩)

theorem pairMember_converted (node : Fin 2) :
    convertG2ArrayToHex ((pairMember node).incomingVerificationVector
      (pairMember node).nodeIdDkg) = some zeroVector :=
  DKGClient.holds_own (pairEvents_hasVector node).1 (pairEvents_hasVector node).2
    (pairMember_holds node node)

theorem pairMember_answered (node : Fin 2) :
    ∃ trace outcome client', ¬ FirstUnreachable trace ∧
      Runs ((pairMember node).getBlsPublicKeys) trace (outcome, client') := by
  obtain ⟨vectors, answered, _⟩ := runs_passVectors (pairMember_converted node)
  refine ⟨_, _, _, ?_, DKGClient.runs_retryUnreachable_answered (answered [])⟩
  rintro ⟨_, _, _, same⟩
  cases same

theorem pairMember_unreachable (node : Fin 2) :
    ∃ trace outcome client', FirstUnreachable trace ∧
      Runs ((pairMember node).getBlsPublicKeys) trace (outcome, client') := by
  obtain ⟨vectors, _, failed⟩ := runs_passVectors (pairMember_converted node)
  obtain ⟨garbled, twice, _⟩ := convertG2ArrayToHex_of_decimal zeroVector_decimal
  have held : (DKGClient.storeVerificationVector (pairMember node).nodeIdDkg
      (.hex zeroVector) (pairMember node)).incomingVerificationVector
        (pairMember node).nodeIdDkg = .hex zeroVector := Function.update_self ..
  rw [← held] at twice
  obtain ⟨_, answered, _⟩ := runs_passVectors twice
  exact ⟨_, _, _, ⟨vectors, "timed out", _, rfl⟩,
    DKGClient.runs_retryUnreachable_again (failed (.sgxUnreachableError "timed out"))
      (DKGClient.runs_retryUnreachable_answered (answered []))⟩

theorem retried_vectors_can_differ :
    ¬ ∀ (n : Nat) (events : Fin n → DKGEvent),
      (∀ index, HasVector n (events index)) →
      ∀ (first first' second second' : DKGClient n)
        (trace other : Trace dkgInterface)
        (outcome outcome' : Outcome PyError (List (List Text))),
        (∀ index, first.Holds index (events index)) →
        (∀ index, second.Holds index (events index)) →
        Runs (first.getBlsPublicKeys) trace (outcome, first') →
        Runs (second.getBlsPublicKeys) other (outcome', second') →
        SameVectors trace other := by
  intro claimed
  obtain ⟨trace, outcome, first', unreachable, run⟩ := pairMember_unreachable 0
  obtain ⟨other, outcome', second', _, otherRun⟩ := pairMember_answered 1
  have same := claimed 2 pairEvents pairEvents_hasVector (pairMember 0) first'
    (pairMember 1) second' trace other outcome outcome' (pairMember_holds 0)
    (pairMember_holds 1) run otherRun
  obtain ⟨_, differs⟩ := getBlsPublicKeys_passes (pairMember_holds 0)
    (pairEvents_hasVector 0).1 (pairEvents_hasVector 0).2 run
  obtain ⟨passed, _⟩ := getBlsPublicKeys_passes (pairMember_holds 1)
    (pairEvents_hasVector 1).1 (pairEvents_hasVector 1).2 otherRun
  obtain ⟨garbled, member, apart⟩ := differs.mpr ⟨unreachable, zeroVector_decimal⟩
  exact apart (same garbled member _ passed)

theorem answered_vectors_agree :
    ∃ trace outcome first' other outcome' second',
      Runs ((pairMember 0).getBlsPublicKeys) trace (outcome, first') ∧
      Runs ((pairMember 1).getBlsPublicKeys) other (outcome', second') ∧
      SameVectors trace other := by
  obtain ⟨trace, outcome, first', reached, run⟩ := pairMember_answered 0
  obtain ⟨other, outcome', second', otherReached, otherRun⟩ := pairMember_answered 1
  refine ⟨trace, outcome, first', other, outcome', second', run, otherRun, ?_⟩
  exact ((verification_vectors_agree_iff 2 pairEvents).2.2 pairEvents_hasVector
    (pairMember 0) first' (pairMember 1) second' trace other outcome outcome'
    (pairMember_holds 0) (pairMember_holds 1) run otherRun).mpr
    ⟨fun twice => reached twice.1, fun twice => otherReached twice.1⟩

end Samples

end SkaleAdmin.Dkg
