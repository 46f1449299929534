import SkaleAdmin.Dkg.Conduct
import SkaleAdmin.Dkg.RefetchAgreement
import SkaleAdmin.Dkg.VectorAgreement

/-! Where no call raises and the answers are well formed, the parts of the DKG procedure
raise DKG errors only. -/

namespace SkaleAdmin.Dkg

open Interaction PyText Program
open Interaction.Procedure (runs_invoke_bind_iff Follows Obeys obeys_attempt obeys_bind
  obeys_pure obeys_raise obeys_read_bind)

variable {n : Nat}

/-! ### The answers -/

section Points

def IsPoint (point : List Text) : Prop :=
  ∃ values : List Nat, values.length = 4 ∧ point = values.map decimal

theorem mapM_parseInt_decimal (values : List Nat) :
    (values.map decimal).mapM (parseInt 10) = some (values.map Int.ofNat) := by
  induction values with
  | nil => rfl
  | cons value rest ih =>
      rw [List.map_cons, List.mapM_cons, ih]
      unfold decimal
      rw [parseInt_str]
      rfl

theorem convertG2Point_of_isPoint {point : List Text} (isPoint : IsPoint point) :
    ∃ converted, convertG2Point point = .ok converted := by
  obtain ⟨values, four, rfl⟩ := isPoint
  obtain ⟨xa, xb, ya, yb, rfl⟩ := List.length_eq_four.mp four
  unfold convertG2Point
  rw [mapM_parseInt_decimal]
  exact ⟨_, rfl⟩

theorem convertG2PointsToArray_of_isPoint {points : List (List Text)}
    (arePoints : ∀ point ∈ points, IsPoint point) :
    ∃ converted, convertG2PointsToArray (.points points) = .ok converted := by
  change ∃ converted, points.mapM convertG2Point = .ok converted
  induction points with
  | nil => exact ⟨[], rfl⟩
  | cons point rest ih =>
      obtain ⟨first, converted⟩ := convertG2Point_of_isPoint (arePoints point (by simp))
      obtain ⟨others, convertedRest⟩ :=
        ih fun other member => arePoints other (List.mem_cons_of_mem _ member)
      rw [List.mapM_cons, converted, convertedRest]
      exact ⟨first :: others, rfl⟩

theorem exists_isPoint_of_event (vector : List G2Point) :
    ∃ points, convertHexToG2Array (vectorWords (vector.map G2Point.coordinates)) =
      some points ∧ ∀ point ∈ points, IsPoint point := by
  obtain ⟨values, _, fits, same⟩ := exists_vectorWords
    (length_vectorWords_coordinates vector)
    fun symbol member => mem_vectorWords_isLowerHex member
  refine ⟨values.map (List.map decimal), ?_, ?_⟩
  · rw [same]
    exact convertHexToG2Array_vectorWords fits
  · intro point member
    obtain ⟨coordinates, inside, rfl⟩ := List.mem_map.mp member
    exact ⟨coordinates, (fits coordinates inside).length, rfl⟩

end Points

/-- The answer of SGX to a complaint: four decimal coordinates between colons, a hexadecimal
key and a vector of points. -/
structure ComplaintResponse.Formed (response : ComplaintResponse) : Prop where
  share : ∃ values : List Nat, values.length = 4 ∧
    response.share = [':'].intercalate (values.map decimal)
  dhKey : ∃ key, parseInt 16 response.dhKey = some key
  vector : ∀ point ∈ response.verificationVectorMult, IsPoint point

theorem ComplaintResponse.Formed.exists_share {response : ComplaintResponse}
    (formed : response.Formed) :
    ∃ share, DKGClient.convertShare response.share = .ok share := by
  obtain ⟨values, four, spelled⟩ := formed.share
  have apart : ∀ part ∈ values.map decimal, ':' ∉ part := by
    intro part member colon
    obtain ⟨value, _, rfl⟩ := List.mem_map.mp member
    have isDigit := isDigit_of_mem_str_natCast colon
    revert isDigit
    decide
  obtain ⟨xa, xb, ya, yb, rfl⟩ := List.length_eq_four.mp four
  have parts : response.share.splitOn ':' = [xa, xb, ya, yb].map decimal := by
    rw [spelled]
    exact List.splitOn_intercalate ':' apart (by simp)
  have read := mapM_parseInt_decimal [xa, xb, ya, yb]
  unfold DKGClient.convertShare
  rw [parts]
  simp only [List.map_cons, List.map_nil] at read
  simp [read]

/-- The receipt of a broadcast of a node of the group, as the contract lays it out. -/
def DKGClient.Broadcasted (client : DKGClient n) (receipt : Receipt) : Prop :=
  ∃ (index : Fin n) (vector : List G2Point) (sgx : SgxShares n) (shares : List KeyShare),
    client.group.nodeIdsDkg index < 2 ^ 256 ∧ vector.length = client.t ∧
      convertStrToKeyShare sgx.text n = some shares ∧
      receipt = broadcastReceipt client.newFilter (client.group.nodeIdsDkg index) vector shares

/-- A call that does not raise, and whose answer has the form that the contracts and SGX
document. -/
def DKGClient.Proper (client : DKGClient n) : Event dkgInterface → Prop
  | ⟨.getVerificationVector _, .ok vector⟩ => ∀ point ∈ vector, IsPoint point
  | ⟨.getSecretKeyContributionV2 .., .ok sent⟩ => ∃ sgx : SgxShares n, sgx.text = sent
  | ⟨.complaintResponse .., .ok response⟩ => response.Formed
  | ⟨.complaint .., .ok receipt⟩ | ⟨.complaintBadData .., .ok receipt⟩ => receipt.Shows
  | ⟨.getTransactionReceipt _, .ok receipt⟩ =>
      client.newFilter.checkEvent receipt = true → client.Broadcasted receipt
  | ⟨_, .ok _⟩ => True
  | ⟨_, .error _⟩ => False

theorem not_proper_error {client : DKGClient n} {query : DkgQuery} {error : PyError} :
    ¬ client.Proper ⟨query, .error error⟩ := by
  cases query <;> exact id

/-- The own vector is there, as SGX made it or as it was read from the own event. -/
def DKGClient.HoldsVector (client : DKGClient n) : Prop :=
  ∃ points, client.incomingVerificationVector client.nodeIdDkg = .points points ∧
    ∀ point ∈ points, IsPoint point

structure DKGClient.Equipped (client : DKGClient n) : Prop where
  vector : client.HoldsVector
  shares : ∃ sgx : SgxShares n, client.sentSecretKeyContribution = some sgx.text

/-! ### The conduct -/

/-- `check_response` reads that `data.1` has complained about the node, which may respond. -/
def mayRespond (data : Nat × Nat) (time : Int) (nodeId : Nat) : Trace dkgInterface :=
  [⟨.getComplaintData, .ok data⟩, ⟨.getChannelStartedTime, .ok time⟩,
    ⟨.isPreResponsePossible nodeId, .ok true⟩, ⟨.isChannelOpened, .ok true⟩]

/-- Every answer is proper, and where the node may respond it has been accused by a node of
its group and is equipped. -/
def DKGClient.Answers (client : DKGClient n) (equipped : Prop) (trace : Trace dkgInterface) :
    Prop :=
  (∀ event ∈ trace, client.Proper event) ∧
    ∀ data time nodeId, mayRespond data time nodeId <:+: trace →
      (client.group.nodeIdsContract data.1).isSome = true ∧ equipped

theorem DKGClient.Answers.split {client : DKGClient n} {equipped : Prop}
    {front back : Trace dkgInterface} (answers : client.Answers equipped (front ++ back)) :
    client.Answers equipped front ∧ client.Answers equipped back := by
  obtain ⟨proper, responds⟩ := answers
  refine ⟨⟨?_, ?_⟩, ⟨?_, ?_⟩⟩
  · exact fun event member => proper event (List.mem_append_left _ member)
  · exact fun data time nodeId inside =>
      responds data time nodeId (inside.trans (List.infix_append' [] front back))
  · exact fun event member => proper event (List.mem_append_right _ member)
  · exact fun data time nodeId inside =>
      responds data time nodeId (inside.trans (List.suffix_append front back).isInfix)

/-- A client that started as `origin` poses plain calls and others of `also`, and raises DKG
errors only. It may come to a response where it is `equipped`, and it is `holding` its own
broadcast or need not. -/
def reporting (origin : DKGClient n) (equipped holding : Prop) (also : DkgQuery → Prop) :
    DkgConduct n where
  expected := origin.Answers equipped
  allowed query := query.isPlain = true ∨ also query
  known error := error.isDkgError = true
  keeps client := client.place = origin.place ∧ (holding → client.Equipped)
  parts := DKGClient.Answers.split

section Conduct

variable {origin : DKGClient n} {equipped holding : Prop}
  {also : DkgQuery → Prop}

theorem proper_of_expected {event : Event dkgInterface}
    (expected : origin.Answers equipped [event]) : origin.Proper event :=
  expected.1 event (List.mem_singleton_self event)

theorem runs_invoke_bind_proper {α : Type} {query : DkgQuery} {next : query.Reply → ClientM n α}
    {client client' : DKGClient n} {trace : Trace dkgInterface} {outcome : Outcome PyError α}
    (proper : ∀ event ∈ trace, origin.Proper event)
    (run : Program.Runs ((invoke query >>= next) client) trace (outcome, client')) :
    ∃ reply rest, trace = ⟨query, .ok reply⟩ :: rest ∧
      Program.Runs (next reply client) rest (outcome, client') := by
  rcases runs_invoke_bind_iff.mp run with ⟨reply, rest, rfl, ran⟩ | ⟨error, rfl, _, _⟩
  · exact ⟨reply, rest, rfl, ran⟩
  · exact absurd (proper _ List.mem_cons_self) not_proper_error

theorem reporting_tolerant : Tolerant (reporting origin equipped holding also) origin.place where
  placed _ kept := kept.1
  plain _ plain := .inl plain
  fails _ _ expected := absurd (proper_of_expected expected) not_proper_error
  dkgErrors _ isDkgError := isDkgError
  unreachable _ _ known := by cases known
  steps _ _ kept := ⟨kept.1, fun holds => ⟨(kept.2 holds).vector, (kept.2 holds).shares⟩⟩
  shows := by
    intro fromId toId receipt expected
    rcases expected with expected | expected
    · exact .inl (proper_of_expected expected)
    · exact .inl (proper_of_expected expected)

/-! ### The scan -/

/-- An event of a broadcast of the group. -/
def DKGClient.Sound (client : DKGClient n) (event : DKGEvent) : Prop :=
  ∃ (index : Fin n) (vector : List G2Point) (sgx : SgxShares n) (shares : List KeyShare),
    convertStrToKeyShare sgx.text n = some shares ∧ event = {
      nodeIndex := client.group.nodeIdsDkg index
      secretKeyContribution := broadcastLayout shares
      verificationVector := vectorWords (vector.map G2Point.coordinates) }

theorem parseEvent_of_broadcasted {client : DKGClient n} {receipt : Receipt}
    (broadcasted : client.Broadcasted receipt) :
    ∃ event, client.newFilter.parseEvent receipt = .ok event ∧ client.Sound event := by
  obtain ⟨index, vector, sgx, shares, fits, points, converted, rfl⟩ := broadcasted
  have wide : (broadcastLayout shares).length = 192 * client.newFilter.n :=
    length_broadcastLayout converted
  exact ⟨_, parseEvent_broadcastReceipt fits points wide, index, vector, sgx, shares, converted,
    rfl⟩

theorem sound_of_eventOf {client : DKGClient n} {answered : Event dkgInterface}
    {event : DKGEvent} (proper : client.Proper answered)
    (found : client.newFilter.eventOf answered = some event) : client.Sound event := by
  obtain ⟨query, answer⟩ := answered
  cases query with
  | getTransactionReceipt hash =>
      cases answer with
      | error error => cases found
      | ok receipt =>
          have found : (if client.newFilter.checkEvent receipt = true then
              (client.newFilter.parseEvent receipt).toOption else none) = some event := found
          split at found
          · rename_i accepted
            obtain ⟨parsedEvent, parsed, sound⟩ := parseEvent_of_broadcasted (proper accepted)
            rw [parsed] at found
            cases found
            exact sound
          · cases found
  | _ => cases found

/-- The filter of a client that started as `origin`. -/
def DKGClient.Filters (origin : DKGClient n) (filter : Filter) : Prop :=
  ∃ block, filter = origin.newFilter.movedTo block

abbrev scanning (origin : DKGClient n) (equipped holding : Prop) (also : DkgQuery → Prop) :
    Conduct dkgInterface Filter.Scan PyError :=
  ((reporting origin equipped holding also).on origin.Filters).beside fun _ => True

theorem scanning_invoke_bind {α : Type} {query : DkgQuery}
    {next : query.Reply → DkgM Filter.Scan α} {after : α → Filter.Scan → Prop}
    (allowed : query.isPlain = true ∨ also query)
    (rest : ∀ reply, (scanning origin equipped holding also).expected [⟨query, .ok reply⟩] →
      (next reply).Obeys (scanning origin equipped holding also)
        (scanning origin equipped holding also).keeps after) :
    (invoke query >>= next).Obeys (scanning origin equipped holding also)
      (scanning origin equipped holding also).keeps after := by
  apply Procedure.obeys_invoke_bind allowed
  · intro state error _ expected
    exact absurd (proper_of_expected expected) not_proper_error
  · exact rest

section Scan

variable (receipts : ∀ hash, also (.getTransactionReceipt hash))

include receipts

theorem collectTx_follows (tx : Tx) :
    (Filter.collectTx tx).Follows (scanning origin equipped holding also) := by
  apply obeys_read_bind
  rintro ⟨filter, found⟩ ⟨⟨block, rfl⟩, _⟩
  split
  · exact obeys_pure fun _ kept => kept
  split
  · exact obeys_pure fun _ kept => kept
  · exact obeys_pure fun _ kept => kept
  apply scanning_invoke_bind (.inr (receipts _))
  intro receipt expected
  split
  · exact obeys_pure fun _ kept => kept
  rename_i accepted
  have checked : origin.newFilter.checkEvent receipt = true := by
    simpa [Filter.movedTo, Filter.checkEvent] using accepted
  have broadcasted : origin.Broadcasted receipt := proper_of_expected expected checked
  obtain ⟨event, parsed, _⟩ := parseEvent_of_broadcasted broadcasted
  have parsedHere : (origin.newFilter.movedTo block).parseEvent receipt = .ok event := parsed
  simp only [parsedHere]
  exact Procedure.obeys_modify fun _ kept => kept

theorem collectTxs_follows (txs : List Tx) :
    (Filter.collectTxs txs).Follows (scanning origin equipped holding also) := by
  induction txs with
  | nil => exact obeys_pure fun _ kept => kept
  | cons tx rest ih =>
      apply obeys_bind fun _ => (scanning origin equipped holding also).keeps
      · apply obeys_attempt (collectTx_follows receipts tx)
        intro error clause _ handled
        cases error <;> cases handled
        exact obeys_pure fun _ kept => kept
      · intro _
        exact ih

theorem collectBlocks_follows (blocks : List Nat) :
    (Filter.collectBlocks blocks).Follows (scanning origin equipped holding also) := by
  induction blocks with
  | nil => exact obeys_pure fun _ kept => kept
  | cons blockNumber rest ih =>
      apply scanning_invoke_bind (.inl rfl)
      intro block _
      apply obeys_bind _ (collectTxs_follows receipts block.transactions)
      intro _
      apply obeys_bind fun _ => (scanning origin equipped holding also).keeps
      · apply Procedure.obeys_modify
        rintro ⟨filter, found⟩ ⟨⟨last, rfl⟩, _⟩
        exact ⟨⟨blockNumber + 1, rfl⟩, trivial⟩
      · intro _
        exact ih

theorem collectEvents_follows (fromChannelStartedBlock : Bool) :
    (Filter.collectEvents fromChannelStartedBlock).Follows
      (scanning origin equipped holding also) := by
  apply obeys_read_bind
  intro scan _
  apply obeys_bind fun _ => (scanning origin equipped holding also).keeps
  · unfold Filter.startBlock
    split
    · have allowed : (scanning origin equipped holding also).allowed
          DkgQuery.getChannelStartedBlock := .inl rfl
      apply Procedure.obeys_invoke allowed
      · intro state error _ expected
        exact absurd (proper_of_expected expected) not_proper_error
      · exact fun _ _ _ kept => kept
    · exact obeys_pure fun _ kept => kept
  intro first
  apply scanning_invoke_bind (.inl rfl)
  intro currentBlock _
  exact collectBlocks_follows receipts _

theorem getEvents_obeys (fromChannelStartedBlock : Bool) :
    (Filter.getEvents fromChannelStartedBlock).Obeys
      ((reporting origin equipped holding also).on origin.Filters) origin.Filters
      fun events filter => origin.Filters filter ∧ ∀ event ∈ events, origin.Sound event := by
  have ends : (Filter.getEvents fromChannelStartedBlock).Follows
      ((reporting origin equipped holding also).on origin.Filters) := by
    apply obeys_bind fun _ => origin.Filters
    · apply Procedure.obeys_withLocal fun _ => True
      have collected : (Procedure.attempt (Filter.collectEvents fromChannelStartedBlock)
          Filter.keepCollected).Follows (scanning origin equipped holding also) := by
        apply obeys_attempt (collectEvents_follows receipts fromChannelStartedBlock)
        intro error clause _ handled
        obtain ⟨result, rfl⟩ := Filter.keepCollected_returning handled
        exact obeys_pure fun _ kept => kept
      apply Obeys.strengthen (collected.weaken fun _ _ kept => kept.1)
      exact fun _ holds => ⟨holds.1, trivial⟩
    · intro _
      exact obeys_pure fun _ kept => kept
  intro filter filter' trace outcome filters expected run
  obtain ⟨allowed, ended⟩ := ends filters expected run
  refine ⟨allowed, ?_⟩
  cases outcome with
  | raised error => exact ended
  | running => exact ended
  | value events =>
      refine ⟨ended, ?_⟩
      obtain ⟨_, _, _, answered⟩ := Filter.runs_getEvents run
      obtain ⟨block, rfl⟩ := filters
      rw [answered events rfl, Filter.eventOf_movedTo]
      intro event member
      obtain ⟨answered, inside, found⟩ := List.mem_filterMap.mp member
      exact sound_of_eventOf (expected.1 answered inside) found

end Scan

/-! ### Storing and sending broadcasts -/

theorem equipped_of_same {client client' : DKGClient n} (holds : client.Equipped)
    (node : client'.nodeIdDkg = client.nodeIdDkg)
    (vector : client'.incomingVerificationVector client.nodeIdDkg =
      client.incomingVerificationVector client.nodeIdDkg)
    (sent : client'.sentSecretKeyContribution = client.sentSecretKeyContribution) :
    client'.Equipped where
  vector := by
    unfold DKGClient.HoldsVector
    rw [node, vector]
    exact holds.vector
  shares := by
    rw [sent]
    exact holds.shares

theorem keeps_contribution {client : DKGClient n} {fromNode : Fin n} {contribution : Text}
    (kept : (reporting origin equipped holding also).keeps client) :
    (reporting origin equipped holding also).keeps
      (DKGClient.storeSecretKeyContribution fromNode contribution client) :=
  ⟨kept.1, fun holds => equipped_of_same (kept.2 holds) rfl rfl rfl⟩

theorem keeps_points {client : DKGClient n} {fromNode : Fin n} {points : List (List Text)}
    (arePoints : ∀ point ∈ points, IsPoint point)
    (kept : (reporting origin equipped holding also).keeps client) :
    (reporting origin equipped holding also).keeps
      (DKGClient.storeVerificationVector fromNode (.points points) client) := by
  refine ⟨kept.1, fun holds => ?_⟩
  by_cases own : client.nodeIdDkg = fromNode
  · refine ⟨⟨points, ?_, arePoints⟩, (kept.2 holds).shares⟩
    subst own
    exact Function.update_self ..
  · exact equipped_of_same (kept.2 holds) rfl (Function.update_of_ne own ..) rfl

theorem keeps_foreign {client : DKGClient n} {fromNode : Fin n} {text : Text}
    (foreign : fromNode ≠ client.nodeIdDkg)
    (kept : (reporting origin equipped holding also).keeps client) :
    (reporting origin equipped holding also).keeps
      (DKGClient.storeVerificationVector fromNode (.hex text) client) :=
  ⟨kept.1, fun holds =>
    equipped_of_same (kept.2 holds) rfl (Function.update_of_ne foreign.symm ..) rfl⟩

theorem keeps_sent {client : DKGClient n} (sgx : SgxShares n)
    (kept : (reporting origin equipped holding also).keeps client) :
    (reporting origin equipped holding also).keeps
      { client with sentSecretKeyContribution := some sgx.text } :=
  ⟨kept.1, fun holds => ⟨(kept.2 holds).vector, sgx, rfl⟩⟩

theorem storeBroadcastedData_follows {event : DKGEvent} (sound : origin.Sound event)
    (fromNode : Fin n) :
    (DKGClient.storeBroadcastedData (event.verificationVector, event.secretKeyContribution)
      fromNode).Follows (reporting origin equipped holding also) := by
  obtain ⟨index, vector, sgx, keyShares, converted, rfl⟩ := sound
  obtain ⟨points, read, arePoints⟩ := exists_isPoint_of_event vector
  apply follows_read_bind
  intro client kept
  apply follows_bind (Procedure.obeys_modify fun _ => keeps_contribution)
  intro _
  split
  · apply follows_getOr_bind
    · intro unread
      rw [read] at unread
      cases unread
    intro found same
    rw [read] at same
    cases same
    apply follows_bind (Procedure.obeys_modify fun _ => keeps_points arePoints)
    intro _
    apply Procedure.obeys_modify
    intro client kept
    have resent := convertKeyShareToStr_broadcastLayout converted
    simp only [resent]
    exact keeps_sent sgx kept
  · rename_i foreign
    apply Procedure.obeys_modify
    intro other keptToo
    apply keeps_foreign _ keptToo
    have place : other.place = client.place := keptToo.1.trans kept.1.symm
    have node : other.nodeIdDkg = client.nodeIdDkg := congrArg Place.nodeIdDkg place
    rw [node]
    exact foreign

theorem reporting_receptive (receipts : ∀ hash, also (.getTransactionReceipt hash)) :
    Receptive (reporting origin equipped holding also) origin.place origin.Filters
      origin.Sound where
  starts client kept := ⟨-1, newFilter_of_place kept.1⟩
  scans := getEvents_obeys receipts
  finds := by
    intro event sound missing
    obtain ⟨index, _, _, _, _, rfl⟩ := sound
    have found : origin.group.nodeIdsContract (origin.group.nodeIdsDkg index) = some index :=
      Group.nodeIdsContract_eq_some.mpr rfl
    cases found.symm.trans missing
  stores event fromNode sound _ := storeBroadcastedData_follows sound fromNode

theorem generatePolynomial_follows (polyName : String) :
    (DKGClient.generatePolynomial polyName : ClientM n DkgPolyStatus).Follows
      (reporting origin equipped holding also) := by
  have tolerant : Tolerant (reporting origin equipped holding also) origin.place :=
    reporting_tolerant
  apply tolerant.sgxUnreachableRetry
  apply follows_bind
  · apply Procedure.obeys_modify
    intro client kept
    exact ⟨kept.1, fun holds => equipped_of_same (kept.2 holds) rfl rfl rfl⟩
  intro _
  exact tolerant.invoke (tolerant.plain _ rfl)

theorem verificationVector_obeys :
    (DKGClient.verificationVector : ClientM n (List G2Point)).Obeys
      (reporting origin equipped holding also) (reporting origin equipped holding also).keeps
      fun _ client =>
        (reporting origin equipped holding also).keeps client ∧ client.HoldsVector := by
  have tolerant : Tolerant (reporting origin equipped holding also) origin.place :=
    reporting_tolerant
  apply tolerant.retryUnreachable
  · apply obeys_read_bind
    intro client kept
    apply tolerant.invoke_bind (tolerant.plain _ rfl)
    intro vector expected
    have arePoints : ∀ point ∈ vector, IsPoint point := proper_of_expected expected
    apply obeys_bind fun _ (client : DKGClient n) =>
      (reporting origin equipped holding also).keeps client ∧ client.HoldsVector
    · apply Procedure.obeys_modify
      intro other keptToo
      refine ⟨keeps_points arePoints keptToo, vector, ?_, arePoints⟩
      have place : other.place = client.place := keptToo.1.trans kept.1.symm
      have node : other.nodeIdDkg = client.nodeIdDkg := congrArg Place.nodeIdDkg place
      change Function.update _ client.nodeIdDkg _ other.nodeIdDkg = _
      rw [node]
      exact Function.update_self ..
    · intro _
      obtain ⟨points, converted⟩ := convertG2PointsToArray_of_isPoint arePoints
      rw [converted]
      exact obeys_pure fun _ kept => kept
  · intro message known
    cases known

theorem secretKeyContribution_obeys
    (brings : ∀ polyName keys, also (.getSecretKeyContributionV2 polyName keys)) :
    (DKGClient.secretKeyContribution : ClientM n (List KeyShare)).Obeys
      (reporting origin equipped holding also)
      (fun client => (reporting origin equipped holding also).keeps client ∧ client.HoldsVector)
      fun _ client => (reporting origin equipped holding also).keeps client ∧ client.Equipped := by
  have tolerant : Tolerant (reporting origin equipped holding also) origin.place :=
    reporting_tolerant
  apply tolerant.retryUnreachable
  · apply obeys_read_bind
    intro client _
    have asks : (reporting origin equipped holding also).allowed
        (DkgQuery.getSecretKeyContributionV2 client.polyName client.publicKeys) :=
      .inr (brings _ _)
    apply Procedure.obeys_invoke_bind asks
    · intro state error holds expected
      exact absurd (proper_of_expected expected) not_proper_error
    intro sent expected
    obtain ⟨sgx, rfl⟩ : ∃ sgx : SgxShares n, sgx.text = sent := proper_of_expected expected
    apply obeys_bind fun _ (client : DKGClient n) =>
      (reporting origin equipped holding also).keeps client ∧ client.Equipped
    · apply Procedure.obeys_modify
      intro client holds
      exact ⟨keeps_sent sgx holds.1, holds.2, sgx, rfl⟩
    intro _
    apply obeys_bind fun _ (client : DKGClient n) =>
      (reporting origin equipped holding also).keeps client ∧ client.Equipped
    · apply Procedure.obeys_modify
      intro client holds
      exact ⟨keeps_contribution holds.1, equipped_of_same holds.2 rfl rfl rfl⟩
    intro _
    obtain ⟨keyShares, converted⟩ := exists_keyShares sgx
    rw [converted]
    exact obeys_pure fun _ holds => holds
  · intro message known
    cases known

theorem ensureBroadcast_follows
    (brings : ∀ polyName keys, also (.getSecretKeyContributionV2 polyName keys)) :
    (ensureBroadcast : ClientM n Unit).Follows (reporting origin equipped holding also) := by
  have tolerant : Tolerant (reporting origin equipped holding also) origin.place :=
    reporting_tolerant
  apply tolerant.ensureBroadcast generatePolynomial_follows verificationVector_obeys
  exact (secretKeyContribution_obeys brings).weaken fun _ _ holds => holds.1

/-! ### The response to a complaint -/

theorem getComplaintResponse_obeys {toNodeIndex : Nat}
    (known : (origin.group.nodeIdsContract toNodeIndex).isSome = true) :
    (DKGClient.getComplaintResponse toNodeIndex).Obeys (reporting origin equipped holding also)
      (reporting origin equipped holding also).keeps fun result client =>
        (reporting origin equipped holding also).keeps client ∧
          (∃ key, parseInt 16 result.2.1 = some key) ∧
          ∀ point ∈ result.2.2, IsPoint point := by
  have tolerant : Tolerant (reporting origin equipped holding also) origin.place :=
    reporting_tolerant
  apply tolerant.retryUnreachable
  · apply obeys_read_bind
    intro client kept
    have group : client.group = origin.group := congrArg Place.group kept.1
    rw [id, group]
    apply obeys_getOr_bind
    · intro missing
      rw [missing] at known
      cases known
    · exact fun _ kept => kept
    intro index _
    apply tolerant.invoke_bind (tolerant.plain _ rfl)
    intro response expected
    have formed : response.Formed := proper_of_expected expected
    obtain ⟨share, converted⟩ := ComplaintResponse.Formed.exists_share formed
    rw [converted]
    exact obeys_pure fun _ kept => ⟨kept, formed.dhKey, formed.vector⟩
  · intro message known
    cases known

theorem sendResponse_follows (holds : holding) (share : G2Point) {dhKey : Text}
    (readable : ∃ key, parseInt 16 dhKey = some key) {vector : List (List Text)}
    (arePoints : ∀ point ∈ vector, IsPoint point) :
    (DKGClient.sendResponse share dhKey vector : ClientM n Unit).Follows
      (reporting origin equipped holding also) := by
  have tolerant : Tolerant (reporting origin equipped holding also) origin.place :=
    reporting_tolerant
  apply follows_read_bind
  intro client kept
  obtain ⟨own, stored, ownPoints⟩ := (kept.2 holds).vector
  obtain ⟨sgx, sent⟩ := (kept.2 holds).shares
  apply follows_liftExcept_bind
  · intro error failed
    obtain ⟨converted, isConverted⟩ := convertG2PointsToArray_of_isPoint ownPoints
    rw [id, stored, isConverted] at failed
    cases failed
  intro ownVector _
  apply follows_liftExcept_bind
  · intro error failed
    obtain ⟨converted, isConverted⟩ := convertG2PointsToArray_of_isPoint arePoints
    rw [isConverted] at failed
    cases failed
  intro multVector _
  apply follows_getOr_bind
  · intro missing
    cases sent.symm.trans missing
  intro text same
  obtain rfl := Option.some.inj (sent.symm.trans same)
  apply follows_getOr_bind
  · intro missing
    obtain ⟨keyShares, converted⟩ := exists_keyShares sgx
    cases converted.symm.trans missing
  intro keyShares _
  apply tolerant.plain_bind rfl
  intro _
  apply follows_bind (tolerant.setStep _)
  intro _
  apply tolerant.plain_bind rfl
  intro possible
  split
  · exact follows_pure _
  apply follows_bind tolerant.isChannelOpened
  intro opened
  split
  · exact follows_pure _
  apply follows_getOr_bind
  · intro missing
    obtain ⟨key, read⟩ := readable
    cases read.symm.trans missing
  intro key _
  apply tolerant.plain_bind rfl
  intro _
  exact tolerant.setStep _

/-- The complaint that was read just before names a node of the group, and the node is
equipped, whenever it comes to a response. -/
theorem client_response_ends (enough : equipped → holding) {data : Nat × Nat} {time : Int}
    {client client' : DKGClient n} {trace : Trace dkgInterface} {outcome : Outcome PyError Unit}
    (kept : (reporting origin equipped holding also).keeps client)
    (expected : origin.Answers equipped (⟨.getComplaintData, .ok data⟩ ::
      ⟨.getChannelStartedTime, .ok time⟩ :: trace))
    (run : Runs (DKGClient.response data.1 client) trace (outcome, client')) :
    (∀ event ∈ trace, (reporting origin equipped holding also).allowed event.query) ∧
      (reporting origin equipped holding also).Ends
        (fun _ => (reporting origin equipped holding also).keeps) outcome client' := by
  have tolerant : Tolerant (reporting origin equipped holding also) origin.place :=
    reporting_tolerant
  unfold DKGClient.response at run
  rw [Procedure.read_bind_apply] at run
  have proper := (List.forall_mem_cons.mp (List.forall_mem_cons.mp expected.1).2).2
  obtain ⟨possible, decision, rfl, decided⟩ := runs_invoke_bind_proper proper run
  have asks : (reporting origin equipped holding also).allowed
      (DkgQuery.isPreResponsePossible client.nodeIdContract) := tolerant.plain _ rfl
  cases possible with
  | false =>
      obtain ⟨rfl, rfl, rfl⟩ := Procedure.runs_pure_iff.mp decided
      exact ⟨List.forall_mem_cons.mpr ⟨asks, nofun⟩, kept⟩
  | true =>
      obtain ⟨opened, rest, rfl, begun⟩ :=
        runs_invoke_bind_proper (List.forall_mem_cons.mp proper).2 decided
      have asksAgain : (reporting origin equipped holding also).allowed DkgQuery.isChannelOpened :=
        tolerant.plain _ rfl
      cases opened with
      | false =>
          obtain ⟨rfl, rfl, rfl⟩ := Procedure.runs_pure_iff.mp begun
          exact ⟨List.forall_mem_cons.mpr ⟨asks, List.forall_mem_cons.mpr ⟨asksAgain, nofun⟩⟩,
            kept⟩
      | true =>
          have may : mayRespond data time client.nodeIdContract <:+: _ :=
            ⟨[], rest, rfl⟩
          obtain ⟨accuser, holds⟩ := expected.2 _ _ _ may
          have whole : origin.Answers equipped
              (mayRespond data time client.nodeIdContract ++ rest) := expected
          have ended : (∀ event ∈ rest,
              (reporting origin equipped holding also).allowed event.query) ∧
              (reporting origin equipped holding also).Ends
                (fun _ => (reporting origin equipped holding also).keeps) outcome client' := by
            refine obeys_bind _ (getComplaintResponse_obeys accuser) ?_ kept whole.split.2 begun
            intro parts
            obtain ⟨share, dhKey, vector⟩ := parts
            apply Procedure.obeys_of_fact
            intro converted
            obtain ⟨readable, arePoints⟩ := converted
            exact tolerant.reraiseTransaction
              (sendResponse_follows (enough holds) share readable arePoints)
          obtain ⟨allowed, ends⟩ := ended
          exact ⟨List.forall_mem_cons.mpr ⟨asks,
            List.forall_mem_cons.mpr ⟨asksAgain, allowed⟩⟩, ends⟩

theorem response_ends (enough : equipped → holding) {data : Nat × Nat} {time : Int}
    {client client' : DKGClient n} {trace : Trace dkgInterface} {outcome : Outcome PyError Unit}
    (kept : (reporting origin equipped holding also).keeps client)
    (expected : origin.Answers equipped (⟨.getComplaintData, .ok data⟩ ::
      ⟨.getChannelStartedTime, .ok time⟩ :: trace))
    (run : Runs (response data.1 client) trace (outcome, client')) :
    (∀ event ∈ trace, (reporting origin equipped holding also).allowed event.query) ∧
      (reporting origin equipped holding also).Ends
        (fun _ => (reporting origin equipped holding also).keeps) outcome client' := by
  rcases Procedure.runs_attempt_iff.mp run with
    ⟨result, rfl, bodyRun⟩ |
    ⟨error, clause, reached, front, back, rfl, clauseOf, bodyRun, clauseRun⟩ |
    ⟨error, rfl, _, bodyRun⟩ | ⟨rfl, bodyRun⟩
  · exact client_response_ends enough kept expected bodyRun
  · have logged : clause = pure () := by
      cases error <;> cases clauseOf <;> rfl
    subst logged
    obtain ⟨rfl, rfl, rfl⟩ := Procedure.runs_pure_iff.mp clauseRun
    rw [List.append_nil] at expected ⊢
    obtain ⟨allowed, _, keptToo⟩ := client_response_ends enough kept expected bodyRun
    exact ⟨allowed, keptToo⟩
  · exact client_response_ends enough kept expected bodyRun
  · exact client_response_ends enough kept expected bodyRun

theorem checkResponse_follows (enough : equipped → holding) (reads : also .getComplaintData)
    (fuel : Nat) :
    (checkResponse fuel : ClientM n Unit).Follows (reporting origin equipped holding also) := by
  have tolerant : Tolerant (reporting origin equipped holding also) origin.place :=
    reporting_tolerant
  intro client client' trace outcome kept expected run
  unfold checkResponse at run
  rw [Procedure.read_bind_apply] at run
  obtain ⟨data, comparison, rfl, compared⟩ := runs_invoke_bind_proper expected.1 run
  have reads : (reporting origin equipped holding also).allowed DkgQuery.getComplaintData :=
    .inr reads
  split at compared
  swap
  · obtain ⟨rfl, rfl, rfl⟩ := Procedure.runs_pure_iff.mp compared
    exact ⟨List.forall_mem_cons.mpr ⟨reads, nofun⟩, kept⟩
  obtain ⟨time, rest, rfl, accused⟩ :=
    runs_invoke_bind_proper (List.forall_mem_cons.mp expected.1).2 compared
  have asks : (reporting origin equipped holding also).allowed DkgQuery.getChannelStartedTime :=
    tolerant.plain _ rfl
  rcases Procedure.runs_bind_iff.mp accused with
    ⟨_, middle, front, back, rfl, responded, waited⟩ | ⟨error, rfl, responded⟩ |
    ⟨rfl, responded⟩
  · have whole : origin.Answers equipped
        ((⟨.getComplaintData, .ok data⟩ :: ⟨.getChannelStartedTime, .ok time⟩ :: front) ++
          back) := expected
    obtain ⟨frontExpected, backExpected⟩ := whole.split
    obtain ⟨frontAllowed, keptToo⟩ := response_ends enough kept frontExpected responded
    obtain ⟨backAllowed, ends⟩ := tolerant.waitForFail _ _ _ keptToo backExpected waited
    refine ⟨List.forall_mem_cons.mpr ⟨reads, List.forall_mem_cons.mpr ⟨asks, ?_⟩⟩, ends⟩
    exact List.forall_mem_append.mpr ⟨frontAllowed, backAllowed⟩
  · obtain ⟨allowed, ends⟩ := response_ends enough kept expected responded
    exact ⟨List.forall_mem_cons.mpr ⟨reads, List.forall_mem_cons.mpr ⟨asks, allowed⟩⟩, ends⟩
  · obtain ⟨allowed, ends⟩ := response_ends enough kept expected responded
    exact ⟨List.forall_mem_cons.mpr ⟨reads, List.forall_mem_cons.mpr ⟨asks, allowed⟩⟩, ends⟩

end Conduct

end SkaleAdmin.Dkg
