import SkaleAdmin.Dkg.KeyMaterial

/-! The data of a broadcast event as the contract lays it out in words, and the
conversions between words and decimal coordinates. -/

namespace SkaleAdmin.Dkg

open Interaction PyText Program

section Words

def decimal (value : Nat) : Text :=
  str value

structure FitsPoint (point : List Nat) : Prop where
  length : point.length = 4
  bound : ∀ value ∈ point, value < 2 ^ 256

theorem sixteen_pow_word : 16 ^ (63 + 1) = 2 ^ 256 := by
  rw [show 16 = 2 ^ 4 by rfl, ← Nat.pow_mul]

@[simp] theorem length_word (value : Nat) : (word value).length = 64 :=
  length_digits 16 64 value

theorem word_isLowerHex {value : Nat} {symbol : Char}
    (member : symbol ∈ word value) : IsLowerHex symbol :=
  exists_digit_of_mem_digits (by omega) member

theorem length_words (values : List Nat) :
    (values.map word).flatten.length = 64 * values.length := by
  induction values with
  | nil => rfl
  | cons value rest ih =>
      rw [List.map_cons, List.flatten_cons, List.length_append, ih, length_word,
        List.length_cons]
      omega

theorem FitsPoint.length_words {point : List Nat} (fits : FitsPoint point) :
    (pointWords point).length = 256 := by
  unfold pointWords
  rw [Dkg.length_words, fits.length]

theorem parseInt_word {value : Nat} (bound : value < 2 ^ 256) :
    parseInt 16 (word value) = some (value : Int) := by
  apply parseInt_digits (by omega) (by omega)
  rw [sixteen_pow_word]
  exact bound

theorem convertCoordToHex_eq_word {coord : Text} {value : Nat}
    (parsed : parseInt 10 coord = some (value : Int)) (bound : value < 2 ^ 256) :
    convertCoordToHex coord = some (word value) := by
  have fits : value < 16 ^ (63 + 1) := by
    rw [sixteen_pow_word]
    exact bound
  unfold convertCoordToHex
  rw [parsed, Option.map_some, hex_natCast]
  exact congrArg some (replicate_append_toDigits (by omega) (by omega) fits)

theorem convertHexPoint_pointWords {point : List Nat} (fits : FitsPoint point) :
    convertHexPoint (pointWords point) = some (point.map decimal) := by
  obtain ⟨xa, xb, ya, yb, rfl⟩ := List.length_eq_four.mp fits.length
  have coordinate : ∀ (index : Nat) {value : Nat}, [xa, xb, ya, yb][index]? = some value →
      (parseInt 16 (slice (pointWords [xa, xb, ya, yb]) (64 * index)
        (64 * index + 64))).map str = some (decimal value) := by
    intro index value found
    have block : slice (pointWords [xa, xb, ya, yb]) (64 * index)
        (64 * (index + 1)) = word value := by
      apply slice_flatten
      · intro block member
        obtain ⟨value, _, rfl⟩ := List.mem_map.mp member
        exact length_word value
      · rw [List.getElem?_map, found, Option.map_some]
    rw [Nat.mul_add, Nat.mul_one] at block
    rw [block, parseInt_word (fits.bound value (List.mem_of_getElem? found)),
      Option.map_some]
    rfl
  unfold convertHexPoint
  simp only [List.mapM_cons, List.mapM_nil, coordinate 0 rfl,
    coordinate 1 rfl, coordinate 2 rfl, coordinate 3 rfl]
  rfl

theorem convertHexPoints_vectorWords {vector : List (List Nat)} {rounds : Nat}
    (fits : ∀ point ∈ vector, FitsPoint point) (enough : vector.length ≤ rounds) :
    convertHexPoints rounds (vectorWords vector) =
      some (vector.map (List.map decimal)) := by
  induction vector generalizing rounds with
  | nil => cases rounds <;> rfl
  | cons point rest ih =>
      cases rounds with
      | zero => cases enough
      | succ rounds =>
          have fitsPoint := fits point (by simp)
          have wide := fitsPoint.length_words
          have words : vectorWords (point :: rest) =
              pointWords point ++ vectorWords rest := rfl
          have first : (vectorWords (point :: rest)).take 256 = pointWords point := by
            rw [words, ← wide, List.take_left]
          have others : (vectorWords (point :: rest)).drop 256 = vectorWords rest := by
            rw [words, ← wide, List.drop_left]
          have later := ih (fun other member => fits other (by simp [member]))
            (Nat.le_of_succ_le_succ enough)
          have open' : ∀ {data : Text}, data ≠ [] →
              convertHexPoints (rounds + 1) data =
                (convertHexPoint (data.take 256)).bind fun point =>
                  (convertHexPoints rounds (data.drop 256)).bind fun rest =>
                    some (point :: rest) := by
            intro data present
            cases data with
            | nil => exact absurd rfl present
            | cons head tail => rfl
          rw [open' (by
              intro empty
              rw [words, List.append_eq_nil_iff] at empty
              rw [empty.1] at wide
              cases wide),
            first, others, convertHexPoint_pointWords fitsPoint, later]
          rfl

theorem length_vectorWords {vector : List (List Nat)}
    (fits : ∀ point ∈ vector, FitsPoint point) :
    (vectorWords vector).length = 256 * vector.length := by
  induction vector with
  | nil => rfl
  | cons point rest ih =>
      have words : vectorWords (point :: rest) =
          pointWords point ++ vectorWords rest := rfl
      rw [words, List.length_append, (fits point (by simp)).length_words,
        ih fun other member => fits other (by simp [member]), List.length_cons]
      omega

theorem convertHexToG2Array_vectorWords {vector : List (List Nat)}
    (fits : ∀ point ∈ vector, FitsPoint point) :
    convertHexToG2Array (vectorWords vector) =
      some (vector.map (List.map decimal)) := by
  apply convertHexPoints_vectorWords fits
  rw [length_vectorWords fits]
  omega

theorem exists_words {text : Text} {count : Nat} (whole : text.length = 64 * count)
    (lower : ∀ symbol ∈ text, IsLowerHex symbol) :
    ∃ values : List Nat, values.length = count ∧
      (∀ value ∈ values, value < 2 ^ 256) ∧ text = (values.map word).flatten := by
  induction count generalizing text with
  | zero =>
      have empty : text = [] := List.eq_nil_of_length_eq_zero (by omega)
      exact ⟨[], rfl, by simp, empty⟩
  | succ count ih =>
      have front : (text.take 64).length = 64 := by
        rw [List.length_take]
        omega
      obtain ⟨value, bound, first⟩ := exists_digits fun symbol member =>
        lower symbol (List.mem_of_mem_take (i := 64) member)
      have back : (text.drop 64).length = 64 * count := by
        rw [List.length_drop]
        omega
      obtain ⟨values, length, bounds, rest⟩ := ih back
        fun symbol member => lower symbol (List.mem_of_mem_drop member)
      rw [front] at bound first
      refine ⟨value :: values, by simp [length], ?_, ?_⟩
      · intro other member
        rcases List.mem_cons.mp member with rfl | member
        · rwa [← sixteen_pow_word]
        · exact bounds other member
      · rw [List.map_cons, List.flatten_cons, ← rest]
        conv_lhs => rw [← List.take_append_drop 64 text, first]
        rfl

theorem exists_vectorWords {text : Text} {count : Nat}
    (whole : text.length = 256 * count)
    (lower : ∀ symbol ∈ text, IsLowerHex symbol) :
    ∃ vector : List (List Nat), vector.length = count ∧
      (∀ point ∈ vector, FitsPoint point) ∧ text = vectorWords vector := by
  induction count generalizing text with
  | zero =>
      have empty : text = [] := List.eq_nil_of_length_eq_zero (by omega)
      exact ⟨[], rfl, by simp, empty⟩
  | succ count ih =>
      have front : (text.take 256).length = 64 * 4 := by
        rw [List.length_take]
        omega
      have back : (text.drop 256).length = 256 * count := by
        rw [List.length_drop]
        omega
      obtain ⟨point, length, bounds, first⟩ := exists_words front
        fun symbol member => lower symbol (List.mem_of_mem_take member)
      obtain ⟨vector, count', fits, rest⟩ := ih back
        fun symbol member => lower symbol (List.mem_of_mem_drop member)
      refine ⟨point :: vector, by simp [count'], ?_, ?_⟩
      · intro other member
        rcases List.mem_cons.mp member with rfl | member
        · exact ⟨length, bounds⟩
        · exact fits other member
      · conv_lhs => rw [← List.take_append_drop 256 text, first, rest]
        rfl

end Words

section Shares

variable {n : Nat}

theorem exists_keyShare (sgx : SgxShares n) {index : Nat} (bound : index < n) :
    ∃ share : KeyShare,
      (bytesFromHex (slice sgx.text (index * 192) (index * 192 + 64))).map
        (fun bytes => ({
          publicKey := slice sgx.text (index * 192 + 64) ((index + 1) * 192)
          share := bytes } : KeyShare)) = some share := by
  have inside : index * 192 + 64 ≤ sgx.text.length := by
    rw [sgx.length_text]
    omega
  have even : (slice sgx.text (index * 192) (index * 192 + 64)).length % 2 = 0 := by
    rw [length_slice inside]
    omega
  obtain ⟨bytes, parsed, _⟩ := hexOfBytes_bytesFromHex even
    (fun symbol member => sgx.isLowerHex symbol (mem_of_mem_slice member))
  rw [parsed]
  exact ⟨_, rfl⟩

theorem exists_mapM {convert : α → Option β} {inputs : List α}
    (total : ∀ input ∈ inputs, ∃ output, convert input = some output) :
    ∃ outputs, inputs.mapM convert = some outputs := by
  induction inputs with
  | nil => exact ⟨[], rfl⟩
  | cons input rest ih =>
      obtain ⟨output, first⟩ := total input (by simp)
      obtain ⟨outputs, others⟩ := ih fun other member => total other (by simp [member])
      exact ⟨output :: outputs, by simp [List.mapM_cons, first, others]⟩

theorem exists_keyShares (sgx : SgxShares n) :
    ∃ shares, convertStrToKeyShare sgx.text n = some shares := by
  apply exists_mapM
  intro index member
  exact exists_keyShare sgx (List.mem_range.mp member)

theorem length_broadcastLayout {sgx : SgxShares n} {shares : List KeyShare}
    (converted : convertStrToKeyShare sgx.text n = some shares) :
    (broadcastLayout shares).length = 192 * n := by
  have blocks : ∀ {count : Nat}, count ≤ n →
      (((List.range count).map sgx.block).flatten).length = 192 * count := by
    intro count inside
    induction count with
    | zero => rfl
    | succ count ih =>
        rw [List.range_succ, List.map_append, List.flatten_append,
          List.length_append, ih (by omega), List.map_singleton,
          List.flatten_singleton, length_block sgx (by omega)]
        omega
  rw [broadcastLayout_eq_blocks converted]
  exact blocks (Nat.le_refl n)

/-- The sender gets its own text back from its event. -/
theorem convertKeyShareToStr_broadcastLayout {sgx : SgxShares n}
    {shares : List KeyShare}
    (converted : convertStrToKeyShare sgx.text n = some shares) :
    convertKeyShareToStr (broadcastLayout shares) n = sgx.text := by
  have shareAt : ∀ index ∈ List.range n,
      toVerify (slice (broadcastLayout shares) (index * 192) ((index + 1) * 192)) =
        slice sgx.text (192 * index) (192 * (index + 1)) := by
    intro index member
    have made := toVerify_broadcastLayout converted
      ⟨index, List.mem_range.mp member⟩
    rw [Nat.mul_comm index, Nat.mul_comm (index + 1)]
    exact made
  have whole : ∀ {count : Nat}, count ≤ n →
      ((List.range count).map fun index =>
        slice sgx.text (192 * index) (192 * (index + 1))).flatten =
        sgx.text.take (192 * count) := by
    intro count inside
    induction count with
    | zero => simp
    | succ count ih =>
        rw [List.range_succ, List.map_append, List.flatten_append, ih (by omega),
          List.map_singleton, List.flatten_singleton]
        exact slice_append_slice (Nat.zero_le _) (by omega)
  unfold convertKeyShareToStr
  rw [List.map_congr_left shareAt, whole (Nat.le_refl n), ← sgx.length_text,
    List.take_length]

end Shares

section Event

variable {n : Nat}

theorem length_pointWords_coordinates (point : G2Point) :
    (pointWords point.coordinates).length = 256 := by
  unfold pointWords
  rw [length_words]
  rfl

theorem length_vectorWords_coordinates (vector : List G2Point) :
    (vectorWords (vector.map G2Point.coordinates)).length = 256 * vector.length := by
  induction vector with
  | nil => rfl
  | cons point rest ih =>
      have words : vectorWords ((point :: rest).map G2Point.coordinates) =
          pointWords point.coordinates ++
            vectorWords (rest.map G2Point.coordinates) := rfl
      rw [words, List.length_append, length_pointWords_coordinates, ih,
        List.length_cons]
      omega

theorem mem_vectorWords_isLowerHex {vector : List (List Nat)} {symbol : Char}
    (member : symbol ∈ vectorWords vector) : IsLowerHex symbol := by
  obtain ⟨text, inside, member⟩ := List.mem_flatten.mp member
  obtain ⟨point, _, rfl⟩ := List.mem_map.mp inside
  obtain ⟨text, inside, member⟩ := List.mem_flatten.mp member
  obtain ⟨value, _, rfl⟩ := List.mem_map.mp inside
  exact word_isLowerHex member

/-- The vector of an event can be read back as points, whatever numbers it was
made of. -/
theorem exists_points_of_event (vector : List G2Point) :
    ∃ points, convertHexToG2Array
      (vectorWords (vector.map G2Point.coordinates)) = some points := by
  obtain ⟨values, _, fits, same⟩ := exists_vectorWords
    (length_vectorWords_coordinates vector)
    fun symbol member => mem_vectorWords_isLowerHex member
  rw [same]
  exact ⟨_, convertHexToG2Array_vectorWords fits⟩

theorem parseEvent_single {filter : Filter} {hash group topic data : Text}
    {nodeIndex : Nat} (parsed : parseInt 16 topic = some (nodeIndex : Int)) :
    filter.parseEvent ⟨some [{
      topics := some [hash, group, '0' :: 'x' :: topic]
      data := some data }]⟩ = .ok {
        nodeIndex
        secretKeyContribution := slice (data.drop 2) (192 + 64 + filter.t * 256)
          (192 + 64 + filter.t * 256 + 192 * filter.n)
        verificationVector :=
          slice (data.drop 2) 192 (192 + filter.t * 256) } := by
  simp [Filter.parseEvent, orRaise, Bind.bind, Except.bind, Pure.pure,
    Except.pure, parsed]

theorem parseEvent_broadcastReceipt {filter : Filter} {nodeId : Nat}
    {vector : List G2Point} {shares : List KeyShare}
    (fits : nodeId < 2 ^ 256) (points : vector.length = filter.t)
    (wide : (broadcastLayout shares).length = 192 * filter.n) :
    filter.parseEvent (broadcastReceipt filter nodeId vector shares) = .ok {
      nodeIndex := nodeId
      secretKeyContribution := broadcastLayout shares
      verificationVector := vectorWords (vector.map G2Point.coordinates) } := by
  have vectorWide := length_vectorWords_coordinates vector
  rw [points] at vectorWide
  generalize same : vectorWords (vector.map G2Point.coordinates) = vectorText at *
  have head : (word 64 ++ word (96 + 128 * vector.length) ++
      word vector.length).length = 192 := by
    simp
  generalize sameHead : word 64 ++ word (96 + 128 * vector.length) ++
    word vector.length = header at *
  have front : slice (header ++ vectorText ++ word shares.length ++
      broadcastLayout shares) 192 (192 + filter.t * 256) = vectorText := by
    have moved := slice_append_right header
      (vectorText ++ (word shares.length ++ broadcastLayout shares)) 0
      vectorText.length
    have inner : slice (vectorText ++ (word shares.length ++
        broadcastLayout shares)) 0 vectorText.length = vectorText := by
      rw [slice_append_left (Nat.le_refl _), slice_all]
    rw [inner, head] at moved
    rw [Nat.mul_comm, ← vectorWide, List.append_assoc, List.append_assoc]
    exact moved
  have back : slice (header ++ vectorText ++ word shares.length ++
      broadcastLayout shares) (192 + 64 + filter.t * 256)
      (192 + 64 + filter.t * 256 + 192 * filter.n) = broadcastLayout shares := by
    have moved := slice_append_right (header ++ vectorText ++ word shares.length)
      (broadcastLayout shares) 0 (192 * filter.n)
    rw [← wide, slice_all, List.length_append, List.length_append, head,
      vectorWide, length_word] at moved
    rw [← wide]
    rw [show 192 + 64 + filter.t * 256 = 192 + 256 * filter.t + 64 by omega]
    exact moved
  have data : (broadcastEventData vector shares).drop 2 =
      header ++ vectorText ++ word shares.length ++ broadcastLayout shares := by
    rw [← same, ← sameHead]
    rfl
  unfold broadcastReceipt
  rw [parseEvent_single (parseInt_word fits), data, front, back]

end Event

section ReadBack

variable {n : Nat}

namespace DKGClient

theorem storeBroadcastedData_returns (client : DKGClient n) (sender : Fin n)
    {data : Text × Text} {points : List (List Text)}
    (readable : convertHexToG2Array data.1 = some points) :
    ∃ client', Runs (storeBroadcastedData data sender client) []
      (.value (), client') := by
  unfold storeBroadcastedData
  simp only [Procedure.read_bind_apply, Procedure.modify_bind_apply]
  split
  · simp only [readable, getOr_some, Procedure.pure_bind_apply,
      Procedure.modify_bind_apply]
    exact ⟨_, .done _⟩
  · exact ⟨_, .done _⟩

theorem storeBroadcastedData_sent {data : Text × Text} {sender : Fin n}
    {client client' : DKGClient n} {trace : Trace dkgInterface}
    (run : Runs (storeBroadcastedData data sender client) trace
      (.value (), client')) :
    client'.sentSecretKeyContribution =
      if sender = client.nodeIdDkg then some (convertKeyShareToStr data.2 n)
      else client.sentSecretKeyContribution := by
  unfold storeBroadcastedData at run
  simp only [Procedure.read_bind_apply, Procedure.modify_bind_apply] at run
  split at run
  · have own : sender = client.nodeIdDkg := by assumption
    rw [if_pos own]
    cases converted : convertHexToG2Array data.1 with
    | none =>
        rw [converted] at run
        obtain ⟨_, absurdity, _⟩ := Procedure.runs_raise_iff.mp run
        cases absurdity
    | some points =>
        simp only [converted, getOr_some, Procedure.pure_bind_apply,
          Procedure.modify_bind_apply] at run
        obtain ⟨_, _, rfl⟩ := Procedure.runs_modify_iff.mp run
        rfl
  · have foreign : ¬ sender = client.nodeIdDkg := by assumption
    rw [if_neg foreign]
    obtain ⟨_, _, rfl⟩ := Procedure.runs_modify_iff.mp run
    rfl

end DKGClient

/-- What SGX made for a broadcast comes back out of its event: each receiver
gets its own share, and the sender, reading its own event, the whole text. -/
theorem broadcast_shares_read_back (sgx : SgxShares n) (vector : List G2Point)
    (client : DKGClient n) (sender : Fin n)
    (points : vector.length = (2 * n + 1) / 3)
    (fits : client.group.nodeIdsDkg sender < 2 ^ 256) :
    ∃ shares, convertStrToKeyShare sgx.text n = some shares ∧
      ∃ event, client.newFilter.parseEvent (broadcastReceipt client.newFilter
          (client.group.nodeIdsDkg sender) vector shares) = .ok event ∧
        event.From client.group sender ∧
        ∃ client', Runs (DKGClient.storeBroadcastedData
            (event.verificationVector, event.secretKeyContribution) sender client)
            [] (.value (), client') ∧
          toVerify (client'.incomingSecretKeyContribution sender) =
            slice sgx.text (192 * client.nodeIdDkg) (192 * (client.nodeIdDkg + 1)) ∧
          (sender = client.nodeIdDkg →
            client'.sentSecretKeyContribution = some sgx.text) := by
  obtain ⟨shares, converted⟩ := exists_keyShares sgx
  refine ⟨shares, converted, _, parseEvent_broadcastReceipt fits points
    (length_broadcastLayout converted), rfl, ?_⟩
  obtain ⟨read, readable⟩ := exists_points_of_event vector
  let event : DKGEvent := {
    nodeIndex := client.group.nodeIdsDkg sender
    secretKeyContribution := broadcastLayout shares
    verificationVector := vectorWords (vector.map G2Point.coordinates) }
  have returns : ∃ client', Runs (DKGClient.storeBroadcastedData
      (event.verificationVector, event.secretKeyContribution) sender client) []
      (.value (), client') :=
    DKGClient.storeBroadcastedData_returns client sender readable
  obtain ⟨client', stored⟩ := returns
  refine ⟨client', stored, ?_, ?_⟩
  · have stores : DKGClient.StoresEvent client client' sender event :=
      DKGClient.storeBroadcastedData_stores stored
    have node : client'.nodeIdDkg = client.nodeIdDkg :=
      congrArg Place.nodeIdDkg stores.place
    rw [stores.holds.1, node]
    exact toVerify_broadcastLayout converted client.nodeIdDkg
  · intro own
    rw [DKGClient.storeBroadcastedData_sent stored, if_pos own,
      convertKeyShareToStr_broadcastLayout converted]

/-- Node 0 reads its share out of the broadcast of node 1, and its whole text out
of its own broadcast. -/
theorem pairShares_read_back :
    (∃ shares, convertStrToKeyShare (pairShares 1).text 2 = some shares ∧
      ∃ event, pairClient.newFilter.parseEvent (broadcastReceipt
          pairClient.newFilter 11 (pairVector 1) shares) = .ok event ∧
        ∃ client', Runs (DKGClient.storeBroadcastedData
            (event.verificationVector, event.secretKeyContribution) 1 pairClient)
            [] (.value (), client') ∧
          toVerify (client'.incomingSecretKeyContribution 1) = shareText '5' '6') ∧
    ∃ shares, convertStrToKeyShare (pairShares 0).text 2 = some shares ∧
      ∃ event, pairClient.newFilter.parseEvent (broadcastReceipt
          pairClient.newFilter 10 (pairVector 0) shares) = .ok event ∧
        ∃ client', Runs (DKGClient.storeBroadcastedData
            (event.verificationVector, event.secretKeyContribution) 0 pairClient)
            [] (.value (), client') ∧
          toVerify (client'.incomingSecretKeyContribution 0) = shareText '1' '2' ∧
          client'.sentSecretKeyContribution =
            some (shareText '1' '2' ++ shareText '3' '4') := by
  constructor
  · obtain ⟨shares, converted, event, parsed, _, client', stored, share, _⟩ :=
      broadcast_shares_read_back (pairShares 1) (pairVector 1) pairClient 1 rfl
        (by decide)
    refine ⟨shares, converted, event, parsed, client', stored, ?_⟩
    rw [share]
    decide +kernel
  · obtain ⟨shares, converted, event, parsed, _, client', stored, share, sent⟩ :=
      broadcast_shares_read_back (pairShares 0) (pairVector 0) pairClient 0 rfl
        (by decide)
    refine ⟨shares, converted, event, parsed, client', stored, ?_, sent rfl⟩
    rw [share]
    decide +kernel

end ReadBack

end SkaleAdmin.Dkg
