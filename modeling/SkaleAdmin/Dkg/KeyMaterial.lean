import SkaleAdmin.Dkg.Footprint
import SkaleAdmin.Library.PyNumerals

/-! The broadcasts a client holds when the keys are generated. -/

namespace SkaleAdmin.Dkg

open Interaction PyText Program
open Interaction.Procedure (runs_invoke_iff runs_invoke_bind_iff runs_invoke_bind_value)

variable {n : Nat}

section Layout

/-- The contributions of a broadcast as its event spells them. -/
def broadcastLayout (shares : List KeyShare) : Text :=
  (shares.map fun share => share.publicKey ++ hexOfBytes share.share).flatten

def word (value : Nat) : Text :=
  digits 16 64 value

def pointWords (point : List Nat) : Text :=
  (point.map word).flatten

def vectorWords (vector : List (List Nat)) : Text :=
  (vector.map pointWords).flatten

def G2Point.coordinates (point : G2Point) : List Nat :=
  [point.xa.toNat, point.xb.toNat, point.ya.toNat, point.yb.toNat]

/-- The data of the event: the offsets of its two arrays, then each array behind
the word of its length. -/
def broadcastEventData (vector : List G2Point) (shares : List KeyShare) : Text :=
  '0' :: 'x' ::
    (word 64 ++ word (96 + 128 * vector.length) ++ word vector.length ++
      vectorWords (vector.map G2Point.coordinates) ++
      word shares.length ++ broadcastLayout shares)

def broadcastReceipt (filter : Filter) (nodeId : Nat) (vector : List G2Point)
    (shares : List KeyShare) : Receipt :=
  ⟨some [{
    topics := some [Filter.eventHash, filter.groupIndexStr,
      '0' :: 'x' :: word nodeId]
    data := some (broadcastEventData vector shares) }]⟩

structure SgxShares (n : Nat) where
  text : Text
  length_text : text.length = 192 * n
  isLowerHex : ∀ symbol ∈ text, IsLowerHex symbol

/-- The share that SGX made for node `index`. -/
def SgxShares.share (shares : SgxShares n) (index : Fin n) : Text :=
  slice shares.text (192 * index) (192 * (index + 1))

/-- The part of the event's text that belongs to node `index`. -/
def SgxShares.block (shares : SgxShares n) (index : Nat) : Text :=
  slice shares.text (192 * index + 64) (192 * (index + 1)) ++
    slice shares.text (192 * index) (192 * index + 64)

theorem length_block (sgx : SgxShares n) {index : Nat} (bound : index < n) :
    (sgx.block index).length = 192 := by
  have inside : 192 * (index + 1) ≤ sgx.text.length := by
    rw [sgx.length_text]
    omega
  unfold SgxShares.block
  rw [List.length_append, length_slice inside, length_slice (by omega)]
  omega

theorem toVerify_block (sgx : SgxShares n) (index : Fin n) :
    toVerify (sgx.block index) = sgx.share index := by
  have inside : 192 * (index.val + 1) ≤ sgx.text.length := by
    rw [sgx.length_text]
    omega
  have keyLength : (slice sgx.text (192 * index.val + 64)
      (192 * (index.val + 1))).length = 128 := by
    rw [length_slice inside]
    omega
  have shareLength : (slice sgx.text (192 * index.val)
      (192 * index.val + 64)).length = 64 := by
    rw [length_slice (by omega)]
    omega
  have second : slice (sgx.block index) 128 192 =
      slice sgx.text (192 * index.val) (192 * index.val + 64) := by
    have moved := slice_append_right
      (slice sgx.text (192 * index.val + 64) (192 * (index.val + 1)))
      (slice sgx.text (192 * index.val) (192 * index.val + 64)) 0 64
    rw [keyLength] at moved
    unfold SgxShares.block
    have whole := slice_all
      (slice sgx.text (192 * index.val) (192 * index.val + 64))
    rw [shareLength] at whole
    exact moved.trans whole
  have first : (sgx.block index).take 128 =
      slice sgx.text (192 * index.val + 64) (192 * (index.val + 1)) := by
    unfold SgxShares.block
    rw [List.take_append_of_le_length (by omega), List.take_of_length_le (by omega)]
  unfold toVerify SgxShares.share
  rw [second, first]
  exact slice_append_slice (by omega) (by omega)

theorem keyShare_block {sgx : SgxShares n} {index : Nat} {share : KeyShare}
    (bound : index < n)
    (converted : (bytesFromHex (slice sgx.text (index * 192)
      (index * 192 + 64))).map (fun bytes =>
        ({ publicKey := slice sgx.text (index * 192 + 64) ((index + 1) * 192)
           share := bytes } : KeyShare)) = some share) :
    share.publicKey ++ hexOfBytes share.share = sgx.block index := by
  obtain ⟨bytes, parsed, rfl⟩ := Option.map_eq_some_iff.mp converted
  have inside : index * 192 + 64 ≤ sgx.text.length := by
    rw [sgx.length_text]
    omega
  have even : (slice sgx.text (index * 192) (index * 192 + 64)).length % 2 = 0 := by
    rw [length_slice inside]
    omega
  obtain ⟨other, parsedOther, printed⟩ := hexOfBytes_bytesFromHex even
    (fun symbol member => sgx.isLowerHex symbol (mem_of_mem_slice member))
  rw [parsed] at parsedOther
  cases parsedOther
  unfold SgxShares.block
  rw [printed, Nat.mul_comm 192 index, Nat.mul_comm 192 (index + 1)]

theorem broadcastLayout_eq_blocks {sgx : SgxShares n} {shares : List KeyShare}
    (converted : convertStrToKeyShare sgx.text n = some shares) :
    broadcastLayout shares = ((List.range n).map sgx.block).flatten := by
  have related := forall₂_of_mapM converted
  have sameLength : shares.length = n := by
    rw [← related.length_eq, List.length_range]
  unfold broadcastLayout
  apply congrArg List.flatten
  apply List.ext_getElem
  · rw [List.length_map, List.length_map, List.length_range, sameLength]
  · intro position bound _
    rw [List.length_map] at bound
    rw [List.getElem_map, List.getElem_map, List.getElem_range]
    apply keyShare_block (by omega)
    have entry := related.get (i := position)
      (by rw [List.length_range]; omega) bound
    simpa using entry

theorem slice_broadcastLayout {sgx : SgxShares n} {shares : List KeyShare}
    (converted : convertStrToKeyShare sgx.text n = some shares)
    (index : Fin n) :
    slice (broadcastLayout shares) (192 * index) (192 * (index + 1)) =
      sgx.block index := by
  rw [broadcastLayout_eq_blocks converted]
  apply slice_flatten
  · intro block member
    obtain ⟨position, inside, rfl⟩ := List.mem_map.mp member
    exact length_block sgx (List.mem_range.mp inside)
  · rw [List.getElem?_map, List.getElem?_range index.isLt, Option.map_some]

/-- The text SGX gets for a share out of a broadcast event is the share SGX
made. -/
theorem toVerify_broadcastLayout {sgx : SgxShares n} {shares : List KeyShare}
    (converted : convertStrToKeyShare sgx.text n = some shares)
    (index : Fin n) :
    toVerify (slice (broadcastLayout shares) (192 * index)
      (192 * (index + 1))) = sgx.share index := by
  rw [slice_broadcastLayout converted]
  exact toVerify_block sgx index

end Layout

/-- `event` is a broadcast of node `index` of the group. -/
def DKGEvent.From (event : DKGEvent) (group : Group n) (index : Fin n) : Prop :=
  group.nodeIdsDkg index = event.nodeIndex

namespace DKGClient

/-- The entries of node `index` hold the data of `event`, in the layout of the
broadcast event. -/
def Holds (client : DKGClient n) (index : Fin n) (event : DKGEvent) : Prop :=
  client.incomingSecretKeyContribution index =
      slice event.secretKeyContribution (192 * client.nodeIdDkg)
        (192 * (client.nodeIdDkg + 1)) ∧
    if index = client.nodeIdDkg then
      ∃ points, convertHexToG2Array event.verificationVector = some points ∧
        client.incomingVerificationVector index = .points points
    else client.incomingVerificationVector index = .hex event.verificationVector

/-- The entries of node `index` were stored from one of its events. -/
def StoredFrom (client : DKGClient n) (events : List DKGEvent)
    (index : Fin n) : Prop :=
  ∃ event ∈ events, event.From client.group index ∧ client.Holds index event

/-- Everything that was scanned is stored. -/
def StoresAll (client : DKGClient n) (events : List DKGEvent) : Prop :=
  ∀ event ∈ events, ∃ index, event.From client.group index ∧
    client.StoredFrom events index

theorem storedFrom_of_held {client client' : DKGClient n}
    {events : List DKGEvent} {index : Fin n}
    (stored : client.StoredFrom events index)
    (kept : client'.held = client.held) : client'.StoredFrom events index := by
  have place : client'.place = client.place := congrArg Held.toPlace kept
  have group : client'.group = client.group := congrArg Place.group place
  have node : client'.nodeIdDkg = client.nodeIdDkg :=
    congrArg Place.nodeIdDkg place
  have vectors : client'.incomingVerificationVector =
      client.incomingVerificationVector :=
    congrArg Held.incomingVerificationVector kept
  have contributions : client'.incomingSecretKeyContribution =
      client.incomingSecretKeyContribution :=
    congrArg Held.incomingSecretKeyContribution kept
  unfold StoredFrom Holds at stored ⊢
  rw [group, node, vectors, contributions]
  exact stored

theorem StoredFrom.mono {client : DKGClient n} {events more : List DKGEvent}
    {index : Fin n} (stored : client.StoredFrom events index)
    (contained : events ⊆ more) : client.StoredFrom more index := by
  obtain ⟨event, member, origin, holds⟩ := stored
  exact ⟨event, contained member, origin, holds⟩

structure StoresEvent (client client' : DKGClient n) (index : Fin n)
    (event : DKGEvent) : Prop where
  place : client'.place = client.place
  holds : client'.Holds index event
  contributions : ∀ other, other ≠ index →
    client'.incomingSecretKeyContribution other =
      client.incomingSecretKeyContribution other
  vectors : ∀ other, other ≠ index →
    client'.incomingVerificationVector other =
      client.incomingVerificationVector other

theorem StoresEvent.keeps {client client' : DKGClient n} {index : Fin n}
    {event : DKGEvent} (stores : StoresEvent client client' index event)
    (origin : event.From client.group index) {events : List DKGEvent}
    (member : event ∈ events) {other : Fin n}
    (stored : client.StoredFrom events other) :
    client'.StoredFrom events other := by
  have group : client'.group = client.group :=
    congrArg Place.group stores.place
  by_cases same : other = index
  · subst same
    exact ⟨event, member, by rw [group]; exact origin, stores.holds⟩
  · have node : client'.nodeIdDkg = client.nodeIdDkg :=
      congrArg Place.nodeIdDkg stores.place
    unfold StoredFrom Holds at stored ⊢
    rw [group, node, stores.contributions other same, stores.vectors other same]
    exact stored

theorem storeBroadcastedData_stores {event : DKGEvent} {index : Fin n}
    {client client' : DKGClient n} {trace : Trace dkgInterface}
    (run : Runs (storeBroadcastedData
      (event.verificationVector, event.secretKeyContribution) index client)
      trace (.value (), client')) :
    StoresEvent client client' index event := by
  unfold storeBroadcastedData at run
  simp only [Procedure.read_bind_apply, Procedure.modify_bind_apply] at run
  split at run
  · rename_i own
    cases converted : convertHexToG2Array event.verificationVector with
    | none =>
        rw [converted] at run
        obtain ⟨_, absurdity, _⟩ := Procedure.runs_raise_iff.mp run
        cases absurdity
    | some points =>
        simp only [converted, getOr_some, Procedure.pure_bind_apply,
          Procedure.modify_bind_apply] at run
        obtain ⟨_, _, rfl⟩ := Procedure.runs_modify_iff.mp run
        refine ⟨rfl, ⟨?_, ?_⟩, ?_, ?_⟩
        · exact Function.update_self ..
        · exact (if_pos own).mpr
            ⟨points, converted, Function.update_self ..⟩
        · intro other apart
          exact Function.update_of_ne apart ..
        · intro other apart
          exact Function.update_of_ne apart ..
  · rename_i foreign
    obtain ⟨_, _, rfl⟩ := Procedure.runs_modify_iff.mp run
    refine ⟨rfl, ⟨?_, ?_⟩, ?_, ?_⟩
    · exact Function.update_self ..
    · exact (if_neg foreign).mpr (Function.update_self ..)
    · intro other apart
      exact Function.update_of_ne apart ..
    · intro other apart
      exact Function.update_of_ne apart ..

theorem storeBroadcastedData_raises {data : Text × Text} {index : Fin n}
    {client client' : DKGClient n} {trace : Trace dkgInterface}
    {error : PyError}
    (run : Runs (storeBroadcastedData data index client) trace
      (.raised error, client')) : error = .valueError := by
  unfold storeBroadcastedData at run
  simp only [Procedure.read_bind_apply, Procedure.modify_bind_apply] at run
  split at run
  · cases converted : convertHexToG2Array data.1 with
    | none =>
        rw [converted] at run
        obtain ⟨_, same, _⟩ := Procedure.runs_raise_iff.mp run
        cases same
        rfl
    | some points =>
        simp only [converted, getOr_some, Procedure.pure_bind_apply,
          Procedure.modify_bind_apply] at run
        obtain ⟨_, absurdity, _⟩ := Procedure.runs_modify_iff.mp run
        cases absurdity
  · obtain ⟨_, absurdity, _⟩ := Procedure.runs_modify_iff.mp run
    cases absurdity

theorem StoresEvent.of_held {client middle client' : DKGClient n}
    {index : Fin n} {event : DKGEvent}
    (stores : StoresEvent client middle index event)
    (kept : client'.held = middle.held) :
    StoresEvent client client' index event := by
  have place : client'.place = middle.place := congrArg Held.toPlace kept
  have node : client'.nodeIdDkg = middle.nodeIdDkg :=
    congrArg Place.nodeIdDkg place
  have vectors : client'.incomingVerificationVector =
      middle.incomingVerificationVector :=
    congrArg Held.incomingVerificationVector kept
  have contributions : client'.incomingSecretKeyContribution =
      middle.incomingSecretKeyContribution :=
    congrArg Held.incomingSecretKeyContribution kept
  refine ⟨place.trans stores.place, ?_, ?_, ?_⟩
  · unfold Holds
    rw [node, vectors, contributions]
    exact stores.holds
  · rw [contributions]
    exact stores.contributions
  · rw [vectors]
    exact stores.vectors

theorem receiveFromNode_stores {event : DKGEvent} {index : Fin n}
    {client client' : DKGClient n} {trace : Trace dkgInterface}
    {outcome : Outcome PyError Unit}
    (run : Runs (receiveFromNode index
      (event.verificationVector, event.secretKeyContribution) client)
      trace (outcome, client'))
    (ended : outcome = .value () ∨
      ∃ message, outcome = .raised (.dkgVerificationError message)) :
    StoresEvent client client' index event := by
  rcases Procedure.runs_bind_iff.mp run with
    ⟨_, middle, front, back, rfl, stored, verified⟩ |
    ⟨error, rfl, stored⟩ | ⟨rfl, _⟩
  · apply (storeBroadcastedData_stores stored).of_held
    exact (verifyReceived_confined DKGClient.held _ verified).2
  · obtain rfl := storeBroadcastedData_raises stored
    rcases ended with same | ⟨_, same⟩ <;> cases same
  · rcases ended with same | ⟨_, same⟩ <;> cases same

end DKGClient

/-- What becomes of an event of node `index` when no error escapes. -/
inductive Synced (progress : BroadcastProgress n) (event : DKGEvent)
    (client : DKGClient n) (index : Fin n) (trace : Trace dkgInterface) :
    BroadcastProgress n → DKGClient n → Prop
  | skipped (received : progress.received index = true)
      (foreign : index ≠ client.nodeIdDkg) (silent : trace = []) :
      Synced progress event client index trace progress client
  | verified {client' : DKGClient n}
      (fresh : ¬ (progress.received index = true ∧ index ≠ client.nodeIdDkg))
      (run : Runs (DKGClient.receiveFromNode index
        (event.verificationVector, event.secretKeyContribution) client) trace
        (.value (), client')) :
      Synced progress event client index trace
        ((progress.markReceived index).markCorrect index event.nodeIndex) client'
  | refused {client' : DKGClient n} {message : String}
      (fresh : ¬ (progress.received index = true ∧ index ≠ client.nodeIdDkg))
      (run : Runs (DKGClient.receiveFromNode index
        (event.verificationVector, event.secretKeyContribution) client) trace
        (.raised (.dkgVerificationError message), client')) :
      Synced progress event client index trace (progress.markReceived index) client'

theorem syncEvent_synced {progress progress' : BroadcastProgress n}
    {event : DKGEvent} {client client' : DKGClient n}
    {trace : Trace dkgInterface}
    (run : Runs (syncEvent progress event client) trace
      (.value progress', client')) :
    ∃ index, event.From client.group index ∧
      Synced progress event client index trace progress' client' := by
  unfold syncEvent at run
  rw [Procedure.read_bind_apply] at run
  cases found : client.group.nodeIdsContract event.nodeIndex with
  | none =>
      simp only [id, found, getOr_none, Procedure.raise_bind_apply] at run
      obtain ⟨_, absurdity, _⟩ := Procedure.runs_raise_iff.mp run
      cases absurdity
  | some index =>
      refine ⟨index, Group.nodeIdsContract_eq_some.mp found, ?_⟩
      simp only [id, found, getOr_some, Procedure.pure_bind_apply] at run
      split at run
      · rename_i skipped
        obtain ⟨silent, same, rfl⟩ := Procedure.runs_pure_iff.mp run
        cases same
        exact .skipped skipped.1 skipped.2 silent
      · rename_i fresh
        rcases Procedure.runs_attempt_iff.mp run with
          ⟨_, same, body⟩ |
          ⟨error, clause, _, _, _, rfl, handled, body, clauseRun⟩ |
          ⟨_, absurdity, _⟩ | ⟨absurdity, _⟩
        · cases same
          obtain ⟨_, _, _, _, rfl, received, returned⟩ :=
            Procedure.runs_bind_value body
          obtain ⟨rfl, same, rfl⟩ := Procedure.runs_pure_iff.mp returned
          cases same
          rw [List.append_nil]
          exact .verified fresh received
        · cases error <;> cases handled
          obtain ⟨rfl, same, rfl⟩ := Procedure.runs_pure_iff.mp clauseRun
          cases same
          rcases Procedure.runs_bind_raised body with ⟨_, _, _, _, _, _, returned⟩ | received
          · obtain ⟨_, absurdity, _⟩ := Procedure.runs_pure_iff.mp returned
            cases absurdity
          · rw [List.append_nil]
            exact .refused fresh received
        · cases absurdity
        · cases absurdity

/-- An event of `sync_broadcast_data` is skipped or received; a share that fails
the verification counts as received. -/
theorem syncEvent_receives {progress progress' : BroadcastProgress n}
    {event : DKGEvent} {client client' : DKGClient n}
    {trace : Trace dkgInterface}
    (run : Runs (syncEvent progress event client) trace
      (.value progress', client')) :
    ∃ index, event.From client.group index ∧
      ((progress' = progress ∧ client' = client ∧
          progress.received index = true ∧ index ≠ client.nodeIdDkg) ∨
        (progress'.received = Function.update progress.received index true ∧
          ∃ outcome, Runs (DKGClient.receiveFromNode index
              (event.verificationVector, event.secretKeyContribution) client)
              trace (outcome, client') ∧
            (outcome = .value () ∨
              ∃ message, outcome = .raised (.dkgVerificationError message)))) := by
  obtain ⟨index, origin, synced⟩ := syncEvent_synced run
  refine ⟨index, origin, ?_⟩
  cases synced with
  | skipped received foreign _ => exact .inl ⟨rfl, rfl, received, foreign⟩
  | verified _ received => exact .inr ⟨rfl, _, received, .inl rfl⟩
  | refused _ received => exact .inr ⟨rfl, _, received, .inr ⟨_, rfl⟩⟩

/-- How one event of `sync_broadcast_data` ends when no error escapes. -/
theorem syncEvent_cases {progress progress' : BroadcastProgress n}
    {event : DKGEvent} {client client' : DKGClient n}
    {trace : Trace dkgInterface}
    (run : Runs (syncEvent progress event client) trace
      (.value progress', client')) :
    ∃ index, event.From client.group index ∧
      ((progress' = progress ∧ client' = client ∧
          progress.received index = true ∧ index ≠ client.nodeIdDkg) ∨
        (progress'.received = Function.update progress.received index true ∧
          DKGClient.StoresEvent client client' index event)) := by
  obtain ⟨index, origin, skipped | ⟨marked, _, received, ended⟩⟩ :=
    syncEvent_receives run
  · exact ⟨index, origin, .inl skipped⟩
  · exact ⟨index, origin, .inr
      ⟨marked, DKGClient.receiveFromNode_stores received ended⟩⟩

/-- Every broadcast counted as received, but the own one, is stored. -/
def DKGClient.StoresReceived (client : DKGClient n) (events : List DKGEvent)
    (progress : BroadcastProgress n) : Prop :=
  ∀ index, index ≠ client.nodeIdDkg → progress.received index = true →
    client.StoredFrom events index

/-- One event is stored, and what was stored before stays so. -/
theorem syncEvent_stores {progress progress' : BroadcastProgress n}
    {event : DKGEvent} {events : List DKGEvent} {client client' : DKGClient n}
    {trace : Trace dkgInterface}
    (run : Runs (syncEvent progress event client) trace
      (.value progress', client'))
    (member : event ∈ events)
    (received : client.StoresReceived events progress) :
    client'.StoresReceived events progress' ∧
      (∃ index, event.From client'.group index ∧
        client'.StoredFrom events index) ∧
      ∀ index, client.StoredFrom events index →
        client'.StoredFrom events index := by
  obtain ⟨index, origin, step⟩ := syncEvent_cases run
  rcases step with ⟨rfl, rfl, known, foreign⟩ | ⟨marked, stores⟩
  · exact ⟨received, ⟨index, origin, received index foreign known⟩,
      fun _ stored => stored⟩
  · have group : client'.group = client.group :=
      congrArg Place.group stores.place
    have node : client'.nodeIdDkg = client.nodeIdDkg :=
      congrArg Place.nodeIdDkg stores.place
    have now : client'.StoredFrom events index :=
      ⟨event, member, by rw [group]; exact origin, stores.holds⟩
    refine ⟨?_, ⟨index, by rw [group]; exact origin, now⟩, ?_⟩
    · intro other foreign isReceived
      by_cases same : other = index
      · rw [same]
        exact now
      · rw [marked, Function.update_of_ne same] at isReceived
        rw [node] at foreign
        exact stores.keeps origin member (received other foreign isReceived)
    · intro other stored
      exact stores.keeps origin member stored

theorem syncEvents_stores {scannedNow events : List DKGEvent}
    {progress progress' : BroadcastProgress n} {client client' : DKGClient n}
    {trace : Trace dkgInterface}
    (run : Runs (syncEvents scannedNow progress client) trace
      (.value progress', client'))
    (contained : scannedNow ⊆ events)
    (received : client.StoresReceived events progress) :
    client'.StoresReceived events progress' ∧
      (∀ event ∈ scannedNow, ∃ index, event.From client'.group index ∧
        client'.StoredFrom events index) ∧
      ∀ index, client.StoredFrom events index →
        client'.StoredFrom events index := by
  induction scannedNow generalizing progress client trace with
  | nil =>
      obtain ⟨_, same, rfl⟩ := Procedure.runs_pure_iff.mp run
      cases same
      refine ⟨received, ?_, fun _ stored => stored⟩
      intro event member
      cases member
  | cons event rest ih =>
      obtain ⟨between, middle, front, back, _, first, later⟩ :=
        Procedure.runs_bind_value run
      obtain ⟨headMember, restContained⟩ := List.cons_subset.mp contained
      obtain ⟨receivedThen, ⟨index, origin, stored⟩, kept⟩ :=
        syncEvent_stores first headMember received
      obtain ⟨receivedAfter, restStored, keptAfter⟩ :=
        ih later restContained receivedThen
      have group : client'.group = middle.group :=
        congrArg Place.group (syncEvents_verifying _ _ later).2
      refine ⟨receivedAfter, ?_, fun index stored =>
        keptAfter index (kept index stored)⟩
      intro other member
      rcases List.mem_cons.mp member with rfl | member
      · exact ⟨index, by rw [group]; exact origin, keptAfter index stored⟩
      · exact restStored other member

theorem routine_unread {filter : Filter} {event : Event dkgInterface}
    (routine : event.query.isRoutine = true) : filter.eventOf event = none := by
  obtain ⟨query, answer⟩ := event
  cases query <;> first | rfl | cases routine

theorem verification_unread {filter : Filter} {event : Event dkgInterface}
    (verification : event.query.isVerification = true) : filter.eventOf event = none := by
  obtain ⟨query, answer⟩ := event
  cases query <;> first | rfl | cases verification

theorem eventOf_of_verifying {α : Type} {body : ClientM n α}
    (within : body.Within verifying) {client client' : DKGClient n}
    {trace : Trace dkgInterface} {outcome : Outcome PyError α}
    (run : Runs (body client) trace (outcome, client')) (filter : Filter) :
    trace.filterMap filter.eventOf = [] :=
  List.filterMap_eq_nil_iff.mpr fun event member =>
    ((within run).1 event member).elim routine_unread verification_unread

theorem runs_syncBroadcastData {progress progress' : BroadcastProgress n}
    {trace : Trace dkgInterface} {state state' : DKGClient n × Filter}
    (run : Runs (syncBroadcastData progress state) trace (.value progress', state')) :
    ∃ (everyone : Bool) (events : List DKGEvent) (scan sync : Trace dkgInterface),
      trace = ⟨.isEveryoneBroadcasted, .ok everyone⟩ :: (scan ++ sync) ∧
      (∀ filter : Filter, trace.filterMap filter.eventOf = scan.filterMap filter.eventOf) ∧
      events = scan.filterMap state.2.eventOf ∧
      Runs (Filter.getEvents everyone state.2) scan (.value events, state'.2) ∧
      Runs (syncEvents events progress state.1) sync (.value progress', state'.1) := by
  obtain ⟨everyone, middle, front, back, rfl, asked, run⟩ :=
    Procedure.runs_bind_value run
  obtain ⟨events, reached, scan, sync, rfl, scanned, synced⟩ :=
    Procedure.runs_bind_value run
  obtain ⟨sameFilter, askedRun⟩ := Procedure.runs_onFirst_iff.mp asked
  obtain ⟨sameClient, scanRun⟩ := Procedure.runs_onSecond_iff.mp scanned
  obtain ⟨sameFilter', syncRun⟩ := Procedure.runs_onFirst_iff.mp synced
  rcases runs_invoke_iff.mp askedRun with ⟨reply, rfl, same, kept⟩ | ⟨_, _, same, _⟩
  swap
  · cases same
  cases same
  rw [sameFilter, ← sameFilter'] at scanRun
  rw [sameClient, kept] at syncRun
  obtain ⟨_, _, _, answered⟩ := Filter.runs_getEvents scanRun
  refine ⟨everyone, events, scan, sync, rfl, ?_, answered events rfl, scanRun, syncRun⟩
  intro filter
  rw [List.filterMap_append, List.filterMap_append,
    eventOf_of_verifying (syncEvents_verifying _ _) syncRun filter, List.append_nil]
  rfl

structure Polled (place : Place n) (filter : Filter)
    (progress : BroadcastProgress n) (past : Trace dkgInterface)
    (state : DKGClient n × Filter) : Prop where
  keepsPlace : state.1.place = place
  moved : ∃ block, state.2 = filter.movedTo block
  received : state.1.StoresReceived (past.filterMap filter.eventOf) progress
  storesAll : state.1.StoresAll (past.filterMap filter.eventOf)

theorem Polled.unread {place : Place n} {filter : Filter}
    {progress : BroadcastProgress n} {past : Trace dkgInterface}
    {state : DKGClient n × Filter} {event : Event dkgInterface}
    (polled : Polled place filter progress past state)
    (routine : event.query.isRoutine = true) :
    Polled place filter progress (past ++ [event]) state := by
  have same : (past ++ [event]).filterMap filter.eventOf =
      past.filterMap filter.eventOf := by
    rw [List.filterMap_append, List.filterMap_cons_none (routine_unread routine),
      List.filterMap_nil, List.append_nil]
  refine ⟨polled.keepsPlace, polled.moved, ?_, ?_⟩
  · rw [same]
    exact polled.received
  · rw [same]
    exact polled.storesAll

theorem syncBroadcastData_polls {place : Place n} {filter : Filter}
    {progress progress' : BroadcastProgress n}
    {past trace : Trace dkgInterface} {state state' : DKGClient n × Filter}
    (polled : Polled place filter progress past state)
    (run : Runs (syncBroadcastData progress state) trace
      (.value progress', state')) :
    Polled place filter progress' (past ++ trace) state' := by
  obtain ⟨everyone, events, scan, sync, -, found, rfl, scanRun, syncRun⟩ :=
    runs_syncBroadcastData run
  obtain ⟨block, moved⟩ := polled.moved
  obtain ⟨next, movedAgain⟩ := Filter.getEvents_keeps_filter scanRun
  rw [moved, Filter.eventOf_movedTo, ← found filter] at syncRun
  have extends' := List.subset_append_left
    (past.filterMap filter.eventOf) (trace.filterMap filter.eventOf)
  have receivedBefore : state.1.StoresReceived
      (past.filterMap filter.eventOf ++ trace.filterMap filter.eventOf) progress :=
    fun index foreign isReceived =>
      (polled.received index foreign isReceived).mono extends'
  obtain ⟨receivedAfter, newStored, kept⟩ :=
    syncEvents_stores syncRun (List.subset_append_right _ _) receivedBefore
  have syncPlace := (syncEvents_verifying _ _ syncRun).2
  refine ⟨?_, ⟨next, ?_⟩, ?_, ?_⟩
  · exact syncPlace.trans polled.keepsPlace
  · rw [movedAgain, moved, Filter.movedTo_movedTo]
  · rw [List.filterMap_append]
    exact receivedAfter
  · rw [List.filterMap_append]
    intro event member
    rcases List.mem_append.mp member with old | new
    · obtain ⟨index, origin, stored⟩ := polled.storesAll event old
      refine ⟨index, ?_, kept index (stored.mono extends')⟩
      have group : state'.1.group = state.1.group := congrArg Place.group syncPlace
      rw [group]
      exact origin
    · exact newStored event new

def DkgQuery.isPause : DkgQuery → Bool
  | .getLatestBlockTimestamp | .sleep _ => true
  | _ => false

theorem routine_of_pause {query : DkgQuery} (pause : query.isPause = true) :
    query.isRoutine = true := by
  cases query <;> first | rfl | cases pause

/-- What the polls of `receive_broadcast_data` keep: the calls of the pauses do not matter to
it, and the broadcasts that a poll finds and stores keep it. -/
structure PollInvariant
    (invariant : BroadcastProgress n → Trace dkgInterface → DKGClient n × Filter → Prop) :
    Prop where
  unread : ∀ {progress : BroadcastProgress n} {past : Trace dkgInterface}
    {state : DKGClient n × Filter} {event : Event dkgInterface},
    event.query.isPause = true → invariant progress past state →
      invariant progress (past ++ [event]) state
  sync : ∀ {progress progress' : BroadcastProgress n} {past trace : Trace dkgInterface}
    {state state' : DKGClient n × Filter}, invariant progress past state →
    Runs (syncBroadcastData progress state) trace (.value progress', state') →
      invariant progress' (past ++ trace) state'

namespace PollInvariant

variable {invariant :
  BroadcastProgress n → Trace dkgInterface → DKGClient n × Filter → Prop}

def Ends
    (invariant : BroadcastProgress n → Trace dkgInterface → DKGClient n × Filter → Prop) :
    Outcome PyError (BroadcastResult n) → Trace dkgInterface →
      DKGClient n × Filter → Prop
  | .value result, past, state =>
      ∃ progress : BroadcastProgress n, result = progress.toBroadcastResult ∧
        invariant progress past state
  | _, _, _ => True

theorem receiveRound (polls : PollInvariant invariant) {startTime : Int}
    (progress : BroadcastProgress n) :
    Procedure.Triple (invariant progress) (receiveRound startTime progress)
      (Procedure.RoundEnds invariant (Ends invariant)) := by
  intro past state state' trace outcome polled run
  cases outcome with
  | raised error => trivial
  | running => trivial
  | value ended =>
      unfold Dkg.receiveRound at run
      split at run
      · obtain ⟨rfl, same, rfl⟩ := Procedure.runs_pure_iff.mp run
        cases same
        rw [List.append_nil]
        exact ⟨progress, rfl, polled⟩
      · rw [Procedure.read_bind_apply] at run
        obtain ⟨now, middle, front, back, rfl, asked, run⟩ :=
          Procedure.runs_bind_value run
        obtain ⟨following, reached, sync, back', rfl, synced, returned⟩ :=
          Procedure.runs_bind_value run
        have polledThen : invariant progress (past ++ front) middle := by
          rcases runs_invoke_iff.mp asked with
            ⟨_, rfl, _, rfl⟩ | ⟨_, _, absurdity, _⟩
          · exact polls.unread rfl polled
          · cases absurdity
        have polledAfter := polls.sync polledThen synced
        rw [List.append_assoc] at polledAfter
        split at returned
        · obtain ⟨rfl, same, rfl⟩ := Procedure.runs_pure_iff.mp returned
          cases same
          rw [List.append_nil]
          exact ⟨following, rfl, polledAfter⟩
        · obtain ⟨_, _, pause, _, rfl, slept, resumed⟩ :=
            Procedure.runs_bind_value returned
          obtain ⟨answer, rfl, _, rfl⟩ := runs_sleep_iff.mp slept
          obtain ⟨rfl, same, rfl⟩ := Procedure.runs_pure_iff.mp resumed
          cases same
          have rested : invariant following
              (past ++ (front ++ sync) ++ [⟨DkgQuery.sleep _, answer⟩]) _ :=
            polls.unread rfl polledAfter
          simp only [List.append_assoc] at rested
          exact rested

theorem receiveBroadcastData (polls : PollInvariant invariant) {fuel : Nat}
    {client client' : DKGClient n} {trace : Trace dkgInterface} {result : BroadcastResult n}
    (started : ∀ startTime, invariant (BroadcastProgress.start client.nodeIdDkg)
      [⟨.getChannelStartedTime, .ok startTime⟩] (client, client.newFilter))
    (run : Runs (receiveBroadcastData fuel client) trace (.value result, client')) :
    ∃ (progress : BroadcastProgress n) (filter : Filter),
      result = progress.toBroadcastResult ∧ invariant progress trace (client', filter) := by
  unfold Dkg.receiveBroadcastData at run
  rw [Procedure.read_bind_apply] at run
  obtain ⟨startTime, rest, rfl, afterStart⟩ := runs_invoke_bind_value run
  obtain ⟨⟨_, filter⟩, middle, loop, back, rfl, looped, returned⟩ :=
    Procedure.runs_bind_value afterStart
  obtain ⟨rfl, same, rfl⟩ := Procedure.runs_pure_iff.mp returned
  cases same
  obtain ⟨ended, held, loopRun, same⟩ := Procedure.runs_withLocal_iff.mp looped
  have ends : Ends invariant ended
      ([⟨.getChannelStartedTime, .ok startTime⟩] ++ loop) (client', held) :=
    Procedure.triple_iterate invariant polls.receiveRound (fun _ _ _ _ => trivial) fuel _
      (started startTime) loopRun
  cases ended with
  | raised error => cases same
  | running => cases same
  | value reached =>
      cases same
      rw [List.append_nil]
      obtain ⟨progress, same, kept⟩ := ends
      exact ⟨progress, _, same, kept⟩

end PollInvariant

theorem polled_invariant (place : Place n) (filter : Filter) :
    PollInvariant (Polled place filter) where
  unread pause polled := polled.unread (routine_of_pause pause)
  sync := syncBroadcastData_polls

theorem newFilter_of_place {client client' : DKGClient n}
    (place : client'.place = client.place) :
    client'.newFilter = client.newFilter := by
  have group : client'.groupIndex = client.groupIndex :=
    congrArg Place.groupIndex place
  have address : client'.dkgContractAddress = client.dkgContractAddress :=
    congrArg Place.dkgContractAddress place
  unfold DKGClient.newFilter
  rw [group, address]

/-- The broadcast events in the answers of a run of the client. -/
def DKGClient.scanned (client : DKGClient n) (trace : Trace dkgInterface) :
    List DKGEvent :=
  trace.filterMap client.newFilter.eventOf

theorem scanned_append (client : DKGClient n) (front back : Trace dkgInterface) :
    client.scanned (front ++ back) = client.scanned front ++ client.scanned back :=
  List.filterMap_append

theorem scanned_of_settled {α : Type} {body : ClientM n α}
    (within : body.Within settled) {client client' : DKGClient n}
    {trace : Trace dkgInterface} {outcome : Outcome PyError α}
    (run : Runs (body client) trace (outcome, client'))
    (scanner : DKGClient n) : scanner.scanned trace = [] :=
  eventOf_of_verifying (within_verifying_of_settled within) run scanner.newFilter

theorem polled_start {client : DKGClient n} (startTime : Int) :
    Polled client.place client.newFilter (BroadcastProgress.start client.nodeIdDkg)
      [⟨.getChannelStartedTime, .ok startTime⟩] (client, client.newFilter) := by
  refine ⟨rfl, ⟨client.newFilter.firstUnseenBlock, rfl⟩, ?_, ?_⟩
  · intro index foreign isReceived
    simp [BroadcastProgress.start, Function.update_of_ne foreign] at isReceived
  · intro event member
    cases member

theorem receiveBroadcastData_storesAll {fuel : Nat} {client client' : DKGClient n}
    {trace : Trace dkgInterface} {result : BroadcastResult n}
    (run : Runs (receiveBroadcastData fuel client) trace
      (.value result, client')) :
    client'.StoresAll (client.scanned trace) := by
  obtain ⟨_, _, _, polled⟩ :=
    (polled_invariant client.place client.newFilter).receiveBroadcastData polled_start run
  exact polled.storesAll

theorem storesAll_of_held {client client' : DKGClient n}
    {events : List DKGEvent} (stores : client.StoresAll events)
    (kept : client'.held = client.held) : client'.StoresAll events := by
  intro event member
  obtain ⟨index, origin, stored⟩ := stores event member
  refine ⟨index, ?_, DKGClient.storedFrom_of_held stored kept⟩
  have group : client'.group = client.group :=
    congrArg Place.group (congrArg Held.toPlace kept)
  rw [group]
  exact origin

theorem beside_unread {extra : DkgQuery → Prop}
    (unread : ∀ query, extra query → ∀ (filter : Filter) answer,
      filter.eventOf ⟨query, answer⟩ = none)
    {α : Type} {body : ClientM n α} (within : body.Within (beside extra))
    {client client' : DKGClient n} {trace : Trace dkgInterface}
    {outcome : Outcome PyError α}
    (run : Runs (body client) trace (outcome, client'))
    (scanner : DKGClient n) : scanner.scanned trace = [] := by
  apply List.filterMap_eq_nil_iff.mpr
  intro event member
  rcases (within run).1 event member with routine | special
  · exact routine_unread routine
  · exact unread _ special _ _

def checkReceived (fuel : Nat) (result : BroadcastResult n) :
    ClientM n (BroadcastResult n) := do
  checkBroadcastResult fuel result
  DKGClient.setStep .BROADCAST_VERIFICATION
  return result

theorem checkReceived_quiet (fuel : Nat) (result : BroadcastResult n) :
    (checkReceived fuel result).Within quiet := by
  apply Procedure.within_bind (checkBroadcastFrom_quiet _ _ _)
  intro _
  exact Procedure.within_bind (setStep_quiet _) fun _ => Procedure.within_pure _

structure BroadcastPhase (fuel : Nat) (client start polled client' : DKGClient n)
    (result : BroadcastResult n) (ensure poll check : Trace dkgInterface) : Prop where
  ensured : Runs (ensureBroadcast client) ensure (.value (), start)
  received : Runs (receiveBroadcastData fuel start) poll (.value result, polled)
  checked : Runs (checkReceived fuel result polled) check (.value result, client')

theorem initBlsBroadcast_parts {fuel rotationId : Nat}
    {client client' : DKGClient n} {trace : Trace dkgInterface}
    {collected : Int × BroadcastResult n}
    (run : Runs (initBlsBroadcast fuel rotationId client) trace
      (.value collected, client')) :
    ∃ time rotation ensure poll check start polled,
      trace = [⟨.getChannelStartedTime, .ok time⟩, ⟨.getRotationCounter, .ok rotation⟩] ++
        (ensure ++ (poll ++ check)) ∧
      BroadcastPhase fuel client start polled client' collected.2 ensure poll check := by
  unfold initBlsBroadcast at run
  rw [Procedure.read_bind_apply] at run
  obtain ⟨time, _, rfl, afterTime⟩ := runs_invoke_bind_value run
  obtain ⟨rotation, rest, rfl, afterRotation⟩ := runs_invoke_bind_value afterTime
  split at afterRotation
  · obtain ⟨_, absurdity, _⟩ := Procedure.runs_raise_iff.mp afterRotation
    cases absurdity
  obtain ⟨result, reached, phase, _, rfl, phaseRun, returned⟩ :=
    Procedure.runs_bind_value afterRotation
  obtain ⟨rfl, same, rfl⟩ := Procedure.runs_pure_iff.mp returned
  obtain ⟨_, start, ensure, _, rfl, ensured, run⟩ := Procedure.runs_bind_value phaseRun
  obtain ⟨received, polled, poll, check, rfl, pollRun, checkRun⟩ :=
    Procedure.runs_bind_value run
  have checkRun : Runs (checkReceived fuel received polled) check (.value result, client') :=
    checkRun
  have unchanged : received = result := by
    obtain ⟨_, _, _, _, rfl, _, run⟩ := Procedure.runs_bind_value checkRun
    obtain ⟨_, _, _, _, rfl, _, returned⟩ := Procedure.runs_bind_value run
    obtain ⟨_, same, _⟩ := Procedure.runs_pure_iff.mp returned
    cases same
    rfl
  cases same
  subst unchanged
  rw [List.append_nil]
  exact ⟨time, rotation, ensure, poll, check, start, polled, rfl, ensured, pollRun, checkRun⟩

theorem BroadcastPhase.scanned {fuel : Nat} {client start polled client' : DKGClient n}
    {result : BroadcastResult n} {ensure poll check : Trace dkgInterface}
    (phase : BroadcastPhase fuel client start polled client' result ensure poll check)
    (scanner : DKGClient n) (time : Int) (rotation : Nat) :
    scanner.scanned ([⟨.getChannelStartedTime, .ok time⟩,
      ⟨.getRotationCounter, .ok rotation⟩] ++ (ensure ++ (poll ++ check))) =
        scanner.scanned poll := by
  have entered : scanner.scanned [⟨.getChannelStartedTime, .ok time⟩,
      ⟨.getRotationCounter, .ok rotation⟩] = [] := rfl
  rw [scanned_append, scanned_append, scanned_append, entered,
    scanned_of_settled ensureBroadcast_settled phase.ensured scanner,
    scanned_of_settled (within_settled_of_quiet (checkReceived_quiet _ _)) phase.checked
      scanner,
    List.nil_append, List.nil_append, List.append_nil]

theorem initBlsBroadcast_storesAll {fuel rotationId : Nat}
    {client client' : DKGClient n} {trace : Trace dkgInterface}
    {collected : Int × BroadcastResult n}
    (run : Runs (initBlsBroadcast fuel rotationId client) trace
      (.value collected, client')) :
    client'.StoresAll (client.scanned trace) := by
  obtain ⟨time, rotation, ensure, poll, check, start, polled, rfl, phase⟩ :=
    initBlsBroadcast_parts run
  have stores := receiveBroadcastData_storesAll phase.received
  have startFilter : start.newFilter = client.newFilter :=
    newFilter_of_place (ensureBroadcast_settled phase.ensured).2
  rw [phase.scanned]
  unfold DKGClient.scanned at stores ⊢
  rw [← startFilter]
  exact storesAll_of_held stores (checkReceived_quiet _ _ phase.checked).2

theorem initBls_storesAll {fuel rotationId : Nat} {client client' : DKGClient n}
    {trace : Trace dkgInterface}
    (run : Runs (initBls fuel rotationId client) trace (.value (), client')) :
    client'.StoresAll (client.scanned trace) := by
  obtain ⟨⟨time, result⟩, middle, front, _, rfl, collected, run⟩ :=
    Procedure.runs_bind_value run
  obtain ⟨_, _, await, _, rfl, awaited, run⟩ := Procedure.runs_bind_value run
  obtain ⟨sent, _, decision, finish, rfl, decided, finished⟩ :=
    Procedure.runs_bind_value run
  have broadcasts := initBlsBroadcast_storesAll collected
  have kept : client'.held = middle.held :=
    (initBlsFinish_beside _ _ _ finished).2.trans
      ((initBlsAlright_beside decided).2.trans (initBlsAwait_quiet _ _ awaited).2)
  have awaitScanned := scanned_of_settled
    (within_settled_of_quiet (initBlsAwait_quiet _ _)) awaited client
  have decisionScanned := beside_unread (by
    intro query decision filter answer
    cases query <;> first | rfl | cases decision) initBlsAlright_beside decided client
  have finishScanned := beside_unread (by
    rintro query rfl filter answer
    rfl) (initBlsFinish_beside _ _ _) finished client
  rw [scanned_append, scanned_append, scanned_append, awaitScanned,
    decisionScanned, finishScanned, List.nil_append, List.nil_append,
    List.append_nil]
  exact storesAll_of_held broadcasts kept

theorem storeEvents_stores {scannedNow events : List DKGEvent}
    {client client' : DKGClient n} {trace : Trace dkgInterface}
    (run : Runs (DKGClient.storeEvents scannedNow client) trace
      (.value (), client'))
    (contained : scannedNow ⊆ events) :
    (∀ event ∈ scannedNow, ∃ index, event.From client'.group index ∧
      client'.StoredFrom events index) ∧
    ∀ index, client.StoredFrom events index →
      client'.StoredFrom events index := by
  induction scannedNow generalizing client trace with
  | nil =>
      obtain ⟨_, _, rfl⟩ := Procedure.runs_pure_iff.mp run
      refine ⟨?_, fun _ stored => stored⟩
      intro event member
      cases member
  | cons event rest ih =>
      unfold DKGClient.storeEvents at run
      rw [Procedure.read_bind_apply] at run
      cases found : client.group.nodeIdsContract event.nodeIndex with
      | none =>
          simp only [id, found, getOr_none, Procedure.raise_bind_apply] at run
          obtain ⟨_, absurdity, _⟩ := Procedure.runs_raise_iff.mp run
          cases absurdity
      | some index =>
          simp only [id, found, getOr_some, Procedure.pure_bind_apply] at run
          obtain ⟨_, middle, _, _, _, stored, later⟩ :=
            Procedure.runs_bind_value run
          obtain ⟨headMember, restContained⟩ := List.cons_subset.mp contained
          have origin := Group.nodeIdsContract_eq_some.mp found
          have stores := DKGClient.storeBroadcastedData_stores stored
          obtain ⟨restStored, keptAfter⟩ := ih later restContained
          have middleGroup : middle.group = client.group :=
            congrArg Place.group stores.place
          have group : client'.group = client.group :=
            (congrArg Place.group (storeEvents_settled _ later).2).trans
              middleGroup
          have now : client'.StoredFrom events index := keptAfter index
            ⟨event, headMember, by rw [middleGroup]; exact origin, stores.holds⟩
          refine ⟨?_, ?_⟩
          · intro other member
            rcases List.mem_cons.mp member with rfl | member
            · exact ⟨index, by rw [group]; exact origin, now⟩
            · exact restStored other member
          · intro other storedBefore
            exact keptAfter other
              (stores.keeps origin headMember storedBefore)

theorem fetchAllBroadcastedData_storesAll {client client' : DKGClient n}
    {trace : Trace dkgInterface}
    (run : Runs (DKGClient.fetchAllBroadcastedData client) trace
      (.value (), client')) :
    client'.StoresAll (client.scanned trace) := by
  unfold DKGClient.fetchAllBroadcastedData at run
  rw [Procedure.read_bind_apply] at run
  obtain ⟨⟨events, _⟩, middle, front, back, rfl, fetched, stored⟩ :=
    Procedure.runs_bind_value run
  obtain ⟨ended, held, scanRun, same⟩ := Procedure.runs_withLocal_iff.mp fetched
  obtain ⟨_, filterRun⟩ := Procedure.runs_onSecond_iff.mp scanRun
  cases ended with
  | raised error => cases same
  | running => cases same
  | value returned =>
      cases same
      obtain ⟨_, _, _, answered⟩ := Filter.runs_getEvents filterRun
      have events_eq : client.scanned (front ++ back) = events := by
        rw [scanned_append,
          scanned_of_settled (storeEvents_settled _) stored client,
          List.append_nil, answered events rfl]
        rfl
      rw [events_eq]
      exact (storeEvents_stores stored (List.Subset.refl _)).1

def keepsPlace : Frame dkgInterface (DKGClient n) :=
  Frame.confined (fun query => query ≠ .getCommonPublicKey) DKGClient.place

theorem routine_ne_commonPublicKey {query : DkgQuery}
    (routine : query.isRoutine = true) : query ≠ .getCommonPublicKey := by
  rintro rfl
  cases routine

theorem within_keepsPlace_of_polling {α : Type} {body : ClientM n α}
    (within : body.Within polling) : body.Within keepsPlace := by
  apply Procedure.within_confined_mono id within _ fun _ => rfl
  rintro query (routine | poll)
  · exact routine_ne_commonPublicKey routine
  · rintro rfl
    cases poll

theorem within_keepsPlace_of_beside {α : Type} {extra : DkgQuery → Prop}
    (apart : ¬ extra .getCommonPublicKey) {body : ClientM n α}
    (within : body.Within (beside extra)) : body.Within keepsPlace := by
  apply Procedure.within_confined_mono Held.toPlace within _ fun _ => rfl
  rintro query (routine | special)
  · exact routine_ne_commonPublicKey routine
  · rintro rfl
    exact apart special

theorem within_keepsPlace_of_quiet {α : Type} {body : ClientM n α}
    (within : body.Within quiet) : body.Within keepsPlace :=
  Procedure.within_confined_mono Held.toPlace within
    (fun _ => routine_ne_commonPublicKey) fun _ => rfl

theorem initBls_keepsPlace (fuel rotationId : Nat) :
    (initBls fuel rotationId : ClientM n Unit).Within keepsPlace := by
  apply Procedure.within_bind
    (within_keepsPlace_of_polling (initBlsBroadcast_polling _ _))
  intro collected
  apply Procedure.within_bind
    (within_keepsPlace_of_quiet (initBlsAwait_quiet _ _))
  intro _
  apply Procedure.within_bind (within_keepsPlace_of_beside nofun initBlsAlright_beside)
  intro sent
  exact within_keepsPlace_of_beside nofun (initBlsFinish_beside _ _ _)

theorem runDkgProcedure_keepsPlace (fuel rotationId : Nat) :
    (runDkgProcedure fuel rotationId :
      ClientM n (Option DKGStatus)).Within keepsPlace := by
  apply Procedure.within_attempt
  · apply Procedure.within_bind
    · apply Procedure.within_bind (confined_invoke nofun)
      intro nodes
      apply Procedure.within_bind (confined_invoke nofun)
      intro completed
      exact Procedure.within_pure _
    intro finished
    split
    · apply Procedure.within_bind
        (within_keepsPlace_of_polling fetchAllBroadcastedData_polling)
      intro _
      exact Procedure.within_pure _
    apply Procedure.within_bind (confined_invoke nofun)
    intro opened
    split
    · apply Procedure.within_bind (confined_invoke nofun)
      intro again
      split
      · exact Procedure.within_bind (initBls_keepsPlace _ _) fun _ =>
          Procedure.within_pure _
      · exact Procedure.within_pure _
    · exact Procedure.within_pure _
  · intro error clause handled
    obtain rfl := failDkg_cases handled
    exact Procedure.within_pure _

/-- Whenever the DKG procedure goes by without failing, everything that was
scanned in the run is stored. -/
theorem runDkgProcedure_storesAll {fuel rotationId : Nat}
    {client client' : DKGClient n} {trace : Trace dkgInterface}
    {status : Option DKGStatus}
    (run : Runs (runDkgProcedure fuel rotationId client) trace
      (.value status, client'))
    (unfailed : status ≠ some .FAILED) :
    client'.StoresAll (client.scanned trace) := by
  cases runDkgProcedure_unfailed run unfailed with
  | fetched nodes fetch split run =>
      rw [split]
      change client'.StoresAll (client.scanned fetch)
      exact fetchAllBroadcastedData_storesAll run
  | closed nodes completed incomplete split same =>
      rw [split]
      intro event member
      cases member
  | performed nodes completed init incomplete split run =>
      rw [split]
      change client'.StoresAll (client.scanned init)
      exact initBls_storesAll run

/-- `run_dkg` comes to `generate_bls_keys`, with this trace and this client. -/
def CallsKeyGeneration (fuel rotationId : Nat) (client : DKGClient n)
    (trace : Trace dkgInterface) (client' : DKGClient n) : Prop :=
  ∃ status, status ≠ some DKGStatus.FAILED ∧
    Runs (runDkgProcedure fuel rotationId client) trace (.value status, client')

/-- When the keys are generated, every entry was stored in the run from a
broadcast event, and its share is the one its sender's SGX made for this node,
exactly when the run was answered a broadcast of every node. -/
theorem key_material_complete_iff {fuel rotationId : Nat}
    {client client' : DKGClient n} {trace : Trace dkgInterface}
    (called : CallsKeyGeneration fuel rotationId client trace client')
    (sgx : Fin n → SgxShares n)
    (emitted : ∀ index, ∀ event ∈ client.scanned trace,
      event.From client.group index →
      ∃ shares, convertStrToKeyShare (sgx index).text n = some shares ∧
        event.secretKeyContribution = broadcastLayout shares) :
    (∀ index, client'.StoredFrom (client.scanned trace) index ∧
      toVerify (client'.incomingSecretKeyContribution index) =
        (sgx index).share client.nodeIdDkg) ↔
    ∀ index, ∃ event ∈ client.scanned trace, event.From client.group index := by
  obtain ⟨status, unfailed, run⟩ := called
  have place := (runDkgProcedure_keepsPlace _ _ run).2
  have group : client'.group = client.group := congrArg Place.group place
  have node : client'.nodeIdDkg = client.nodeIdDkg :=
    congrArg Place.nodeIdDkg place
  constructor
  · intro complete index
    obtain ⟨⟨event, member, origin, _⟩, _⟩ := complete index
    exact ⟨event, member, by rw [← group]; exact origin⟩
  · intro answered index
    obtain ⟨event, member, origin⟩ := answered index
    obtain ⟨other, otherOrigin, stored⟩ :=
      runDkgProcedure_storesAll run unfailed event member
    have same : other = index := by
      rw [group] at otherOrigin
      exact client.group.distinct (otherOrigin.trans origin.symm)
    rw [same] at stored
    refine ⟨stored, ?_⟩
    obtain ⟨source, sourceMember, sourceOrigin, holds⟩ := stored
    rw [group] at sourceOrigin
    obtain ⟨shares, converted, layout⟩ :=
      emitted index source sourceMember sourceOrigin
    rw [holds.1, layout, node]
    exact toVerify_broadcastLayout converted client.nodeIdDkg

section Samples

def loneClient : DKGClient 1 where
  group :=
    { nodeIdsDkg := fun _ => 10
      distinct := fun _ _ _ => Subsingleton.elim _ _ }
  nodeIdDkg := 0
  schainName := "chain"
  groupIndex := ['g']
  dkgContractAddress := ['d']
  complaintErrorEventHash := ['c']
  publicKeys := []
  ethKeyName := "key"
  polyName := "poly"
  blsName := "bls"
  rotationId := 0
  dkgTimeout := 10

def failedScan : Trace dkgInterface := [
  ⟨.getNodesForSchain, .ok [{ id := 10, publicKey := [] }]⟩,
  ⟨.getNumberOfCompleted, .ok 1⟩,
  ⟨.getChannelStartedBlock, .error (.web3Exception "timed out")⟩]

theorem failedScan_calls :
    ∃ client', CallsKeyGeneration 1 0 loneClient failedScan client' := by
  refine ⟨?client, none, by decide, ?run⟩
  case run =>
    iterate 3 apply Runs.call
    exact Runs.done _

theorem keys_can_be_generated_without_broadcasts :
    ¬ ∀ (n fuel rotationId : Nat) (client client' : DKGClient n)
      (trace : Trace dkgInterface),
      CallsKeyGeneration fuel rotationId client trace client' →
      ∀ index, client'.StoredFrom (client.scanned trace) index := by
  intro claimed
  obtain ⟨client', called⟩ := failedScan_calls
  obtain ⟨event, member, _⟩ := claimed 1 1 0 loneClient client' failedScan called 0
  cases member

def pairClient : DKGClient 2 where
  group :=
    { nodeIdsDkg := fun index => 10 + index
      distinct := injective_ten }
  nodeIdDkg := 0
  schainName := "chain"
  groupIndex := ['g']
  dkgContractAddress := ['d']
  complaintErrorEventHash := ['c']
  publicKeys := []
  ethKeyName := "key"
  polyName := "poly"
  blsName := "bls"
  rotationId := 0
  dkgTimeout := 60

def shareText (share key : Char) : Text :=
  List.replicate 64 share ++ List.replicate 128 key

theorem length_shareText (share key : Char) : (shareText share key).length = 192 := by
  unfold shareText
  rw [List.length_append, List.length_replicate, List.length_replicate]

theorem shareText_isLowerHex {share key symbol : Char} (lowerShare : IsLowerHex share)
    (lowerKey : IsLowerHex key) (member : symbol ∈ shareText share key) :
    IsLowerHex symbol := by
  rcases List.mem_append.mp member with member | member
  · rw [List.eq_of_mem_replicate member]
    exact lowerShare
  · rw [List.eq_of_mem_replicate member]
    exact lowerKey

theorem length_shareTexts (share key otherShare otherKey : Char) :
    (shareText share key ++ shareText otherShare otherKey).length = 192 * 2 := by
  rw [List.length_append, length_shareText, length_shareText]

def pairShares : Fin 2 → SgxShares 2
  | 0 => {
      text := shareText '1' '2' ++ shareText '3' '4'
      length_text := length_shareTexts _ _ _ _
      isLowerHex := fun _ member => (List.mem_append.mp member).elim
        (shareText_isLowerHex ⟨1, by decide, rfl⟩ ⟨2, by decide, rfl⟩)
        (shareText_isLowerHex ⟨3, by decide, rfl⟩ ⟨4, by decide, rfl⟩) }
  | 1 => {
      text := shareText '5' '6' ++ shareText '7' '8'
      length_text := length_shareTexts _ _ _ _
      isLowerHex := fun _ member => (List.mem_append.mp member).elim
        (shareText_isLowerHex ⟨5, by decide, rfl⟩ ⟨6, by decide, rfl⟩)
        (shareText_isLowerHex ⟨7, by decide, rfl⟩ ⟨8, by decide, rfl⟩) }

def keyShare (share : Nat) (key : Char) : KeyShare where
  publicKey := List.replicate 128 key
  share := List.replicate 32 share

def pairKeyShares : Fin 2 → List KeyShare
  | 0 => [keyShare 0x11 '2', keyShare 0x33 '4']
  | 1 => [keyShare 0x55 '6', keyShare 0x77 '8']

def pairVector (index : Fin 2) : List G2Point :=
  [⟨index + 1, index + 2, index + 3, index + 4⟩]

theorem pairShares_converted (index : Fin 2) :
    convertStrToKeyShare (pairShares index).text 2 = some (pairKeyShares index) := by
  revert index
  decide +kernel

abbrev firstNode : Fin 2 := 0

abbrev secondNode : Fin 2 := 1

def pairReceipt (index : Fin 2) : Receipt :=
  broadcastReceipt pairClient.newFilter (10 + index) (pairVector index)
    (pairKeyShares index)

def pairEvent (index : Fin 2) : DKGEvent where
  nodeIndex := 10 + index
  secretKeyContribution := broadcastLayout (pairKeyShares index)
  verificationVector := vectorWords ((pairVector index).map G2Point.coordinates)

def pairTx (index : Fin 2) : Tx where
  toAddress := some ['d']
  hash := some (word index)

def fullScan : Trace dkgInterface := [
  ⟨.getNodesForSchain,
    .ok [{ id := 10, publicKey := [] }, { id := 11, publicKey := [] }]⟩,
  ⟨.getNumberOfCompleted, .ok 2⟩,
  ⟨.getChannelStartedBlock, .ok 5⟩, ⟨.getLatestBlockNumber, .ok 5⟩,
  ⟨.getBlock 5, .ok ⟨[pairTx 0, pairTx 1]⟩⟩,
  ⟨.getTransactionReceipt (word 0), .ok (pairReceipt 0)⟩,
  ⟨.getTransactionReceipt (word 1), .ok (pairReceipt 1)⟩]

theorem fullScan_returns :
    Procedure.returns (runDkgProcedure 1 0) pairClient fullScan
      (fun status _ => decide (status = none)) = true := by
  decide +kernel

theorem fullScan_scanned :
    pairClient.scanned fullScan = [pairEvent 0, pairEvent 1] := by
  decide +kernel

theorem fullScan_key_material_complete :
    ∃ client', CallsKeyGeneration 1 0 pairClient fullScan client' ∧
      ∀ index, client'.StoredFrom [pairEvent 0, pairEvent 1] index ∧
        toVerify (client'.incomingSecretKeyContribution index) =
          (pairShares index).share 0 := by
  obtain ⟨status, client', run, unset⟩ := Procedure.runs_of_returns fullScan_returns
  obtain rfl := of_decide_eq_true unset
  have called : CallsKeyGeneration 1 0 pairClient fullScan client' :=
    ⟨none, by decide, run⟩
  refine ⟨client', called, ?_⟩
  have complete := (key_material_complete_iff called pairShares
    (by
      intro index event member origin
      rw [fullScan_scanned] at member
      have own : event = pairEvent index := by
        rcases List.mem_cons.mp member with rfl | member
        · have same : index = 0 := pairClient.group.distinct origin
          rw [same]
        · obtain rfl := List.mem_singleton.mp member
          have same : index = 1 := pairClient.group.distinct origin
          rw [same]
      exact ⟨pairKeyShares index, pairShares_converted index, by rw [own]; rfl⟩)).mpr
    (by
      intro index
      rw [fullScan_scanned]
      refine ⟨pairEvent index, ?_, rfl⟩
      cases index using Fin.cases with
      | zero => exact List.mem_cons_self
      | succ index =>
          obtain rfl : index = 0 := Subsingleton.elim _ _
          exact List.mem_cons_of_mem _ List.mem_cons_self)
  rw [fullScan_scanned] at complete
  exact complete

end Samples

end SkaleAdmin.Dkg
