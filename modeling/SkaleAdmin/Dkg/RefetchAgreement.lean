import SkaleAdmin.Dkg.EventLayout
import SkaleAdmin.Dkg.ServedScan

/-! Polling the broadcasts one after the other leaves the client with the same
data as fetching all of them at once. -/

namespace SkaleAdmin.Dkg

open Interaction PyText Program
open Interaction.Procedure (runs_invoke_iff runs_invoke_bind_iff)

variable {n : Nat}

section Sent

/-- The text of the own shares follows the own broadcast among `events`, if there
is one. -/
def Resends (client client' : DKGClient n) (events : List DKGEvent) : Prop :=
  (client'.sentSecretKeyContribution = client.sentSecretKeyContribution ∧
    ∀ event ∈ events, ¬ event.From client.group client.nodeIdDkg) ∨
  ∃ event ∈ events, event.From client.group client.nodeIdDkg ∧
    client'.sentSecretKeyContribution =
      some (convertKeyShareToStr event.secretKeyContribution n)

theorem resends_nil (client : DKGClient n) : Resends client client [] :=
  .inl ⟨rfl, fun _ member => by cases member⟩

theorem Resends.append {client middle client' : DKGClient n}
    {front back : List DKGEvent} (place : middle.place = client.place)
    (first : Resends client middle front) (second : Resends middle client' back) :
    Resends client client' (front ++ back) := by
  have group : middle.group = client.group := congrArg Place.group place
  have node : middle.nodeIdDkg = client.nodeIdDkg := congrArg Place.nodeIdDkg place
  unfold Resends at second
  rw [group, node] at second
  rcases second with ⟨same, foreign⟩ | ⟨event, member, own, sent⟩
  · rcases first with ⟨sameFirst, foreignFirst⟩ | ⟨event, member, own, sent⟩
    · refine .inl ⟨same.trans sameFirst, ?_⟩
      intro event member
      rcases List.mem_append.mp member with inside | inside
      · exact foreignFirst event inside
      · exact foreign event inside
    · exact .inr ⟨event, List.mem_append_left _ member, own, same.trans sent⟩
  · exact .inr ⟨event, List.mem_append_right _ member, own, sent⟩

theorem resends_single {client client' : DKGClient n} {event : DKGEvent}
    {index : Fin n} (origin : event.From client.group index)
    (sent : client'.sentSecretKeyContribution =
      if index = client.nodeIdDkg then
        some (convertKeyShareToStr event.secretKeyContribution n)
      else client.sentSecretKeyContribution) :
    Resends client client' [event] := by
  by_cases own : index = client.nodeIdDkg
  · rw [if_pos own] at sent
    rw [own] at origin
    exact .inr ⟨event, List.mem_singleton_self _, origin, sent⟩
  · rw [if_neg own] at sent
    refine .inl ⟨sent, ?_⟩
    intro other member from'
    rw [List.mem_singleton.mp member] at from'
    exact own (client.group.distinct (origin.trans from'.symm))

theorem receiveFromNode_sent {data : Text × Text} {index : Fin n}
    {client client' : DKGClient n} {trace : Trace dkgInterface}
    {outcome : Outcome PyError Unit}
    (run : Runs (DKGClient.receiveFromNode index data client) trace
      (outcome, client'))
    (ended : outcome = .value () ∨
      ∃ message, outcome = .raised (.dkgVerificationError message)) :
    client'.sentSecretKeyContribution =
      if index = client.nodeIdDkg then some (convertKeyShareToStr data.2 n)
      else client.sentSecretKeyContribution := by
  rcases Procedure.runs_bind_iff.mp run with
    ⟨_, middle, front, back, rfl, stored, verified⟩ |
    ⟨error, rfl, stored⟩ | ⟨rfl, _⟩
  · rw [← DKGClient.storeBroadcastedData_sent stored]
    exact (verifyReceived_confined DKGClient.sentSecretKeyContribution _ verified).2
  · obtain rfl := DKGClient.storeBroadcastedData_raises stored
    rcases ended with same | ⟨_, same⟩ <;> cases same
  · rcases ended with same | ⟨_, same⟩ <;> cases same

theorem syncEvent_resends {progress progress' : BroadcastProgress n}
    {event : DKGEvent} {client client' : DKGClient n}
    {trace : Trace dkgInterface}
    (run : Runs (syncEvent progress event client) trace
      (.value progress', client')) : Resends client client' [event] := by
  obtain ⟨index, origin, ⟨_, rfl, _, foreign⟩ | ⟨_, _, received, ended⟩⟩ :=
    syncEvent_receives run
  · apply resends_single origin
    rw [if_neg foreign]
  · exact resends_single origin (receiveFromNode_sent received ended)

theorem syncEvents_resends {events : List DKGEvent}
    {progress progress' : BroadcastProgress n} {client client' : DKGClient n}
    {trace : Trace dkgInterface}
    (run : Runs (syncEvents events progress client) trace
      (.value progress', client')) : Resends client client' events := by
  induction events generalizing progress client trace with
  | nil =>
      obtain ⟨_, _, rfl⟩ := Procedure.runs_pure_iff.mp run
      exact resends_nil _
  | cons event rest ih =>
      obtain ⟨between, middle, front, back, _, first, later⟩ :=
        Procedure.runs_bind_value run
      have place := (syncEvent_verifying _ _ first).2
      exact (syncEvent_resends first).append place (ih later)

theorem storeEvents_resends {events : List DKGEvent} {client client' : DKGClient n}
    {trace : Trace dkgInterface} {outcome : Outcome PyError Unit}
    (known : ∀ event ∈ events, ∃ index, event.From client.group index ∧
      (index = client.nodeIdDkg →
        ∃ points, convertHexToG2Array event.verificationVector = some points))
    (run : Runs (DKGClient.storeEvents events client) trace (outcome, client')) :
    outcome = .value () ∧ Resends client client' events := by
  induction events generalizing client trace with
  | nil =>
      obtain ⟨_, rfl, rfl⟩ := Procedure.runs_pure_iff.mp run
      exact ⟨rfl, resends_nil _⟩
  | cons event rest ih =>
      obtain ⟨index, origin, readable⟩ := known event List.mem_cons_self
      have found := Group.nodeIdsContract_eq_some.mpr origin
      unfold DKGClient.storeEvents at run
      rw [Procedure.read_bind_apply] at run
      simp only [id, found, getOr_some, Procedure.pure_bind_apply] at run
      have value : ∀ {front : Trace dkgInterface} {middle : DKGClient n}
          {ended : Outcome PyError Unit},
          Runs (DKGClient.storeBroadcastedData
            (event.verificationVector, event.secretKeyContribution) index client)
            front (ended, middle) → ended = .value () := by
        intro front middle ended stored
        unfold DKGClient.storeBroadcastedData at stored
        simp only [Procedure.read_bind_apply, Procedure.modify_bind_apply]
          at stored
        split at stored
        · rename_i own
          obtain ⟨points, read⟩ := readable own
          simp only [read, getOr_some, Procedure.pure_bind_apply,
            Procedure.modify_bind_apply] at stored
          exact (Procedure.runs_modify_iff.mp stored).2.1
        · exact (Procedure.runs_modify_iff.mp stored).2.1
      rcases Procedure.runs_bind_iff.mp run with
        ⟨_, middle, front, back, rfl, stored, later⟩ |
        ⟨error, rfl, stored⟩ | ⟨rfl, stored⟩
      · have place := (storeBroadcastedData_settled _ _ stored).2
        have group : middle.group = client.group := congrArg Place.group place
        have node : middle.nodeIdDkg = client.nodeIdDkg :=
          congrArg Place.nodeIdDkg place
        obtain ⟨ended, resends⟩ := ih (by
          rw [group, node]
          exact fun other member => known other (List.mem_cons_of_mem _ member))
          later
        refine ⟨ended, ?_⟩
        exact (resends_single origin
          (DKGClient.storeBroadcastedData_sent stored)).append place resends
      · cases value stored
      · cases value stored

end Sent

section Polling

variable {chain : Chain} {broadcasts : Broadcasts n} {client : DKGClient n}

/-- What holds between the polls of a client that started as `client`: until the
first one nothing has happened, and after it the own broadcast is found. -/
structure Follows (broadcasts : Broadcasts n) (client : DKGClient n)
    (progress : BroadcastProgress n) (past : Trace dkgInterface)
    (state : DKGClient n × Filter) : Prop where
  polled : Polled client.place client.newFilter progress past state
  finds : Chain.Finds broadcasts client.newFilter past
  begun : (state.2 = client.newFilter ∧ progress =
      BroadcastProgress.start client.nodeIdDkg) ∨
    broadcasts.event client.nodeIdDkg ∈ client.scanned past
  resends : Resends client state.1 (client.scanned past)

theorem Follows.unread {progress : BroadcastProgress n}
    {past : Trace dkgInterface} {state : DKGClient n × Filter}
    {event : Event dkgInterface}
    (follows : Follows broadcasts client progress past state)
    (routine : event.query.isRoutine = true) :
    Follows broadcasts client progress (past ++ [event]) state := by
  have unread : client.scanned [event] = [] :=
    List.filterMap_cons_none (routine_unread routine)
  have same : client.scanned (past ++ [event]) = client.scanned past := by
    rw [scanned_append, unread, List.append_nil]
  refine ⟨follows.polled.unread routine, ?_, ?_, ?_⟩
  · exact follows.finds.append (Chain.finds_unread (routine_unread routine))
  · rw [same]
    exact follows.begun
  · rw [same]
    exact follows.resends

theorem syncBroadcastData_resends {progress progress' : BroadcastProgress n}
    {trace : Trace dkgInterface} {state state' : DKGClient n × Filter}
    (moved : ∃ block, state.2 = client.newFilter.movedTo block)
    (run : Runs (syncBroadcastData progress state) trace
      (.value progress', state')) :
    Resends state.1 state'.1 (client.scanned trace) := by
  obtain ⟨everyone, events, scan, sync, -, found, rfl, -, syncRun⟩ :=
    runs_syncBroadcastData run
  obtain ⟨block, moved⟩ := moved
  have same : client.scanned trace = scan.filterMap state.2.eventOf := by
    rw [moved, Filter.eventOf_movedTo]
    exact found client.newFilter
  rw [same]
  exact syncEvents_resends syncRun

theorem syncBroadcastData_follows {progress progress' : BroadcastProgress n}
    {past trace : Trace dkgInterface} {state state' : DKGClient n × Filter}
    (carries : chain.Carries client.newFilter client.group broadcasts)
    (serves : chain.Serves (broadcasts.block client.nodeIdDkg) trace)
    (follows : Follows broadcasts client progress past state)
    (run : Runs (syncBroadcastData progress state) trace
      (.value progress', state')) :
    Follows broadcasts client progress' (past ++ trace) state' := by
  have polledAfter := syncBroadcastData_polls follows.polled run
  have resends := syncBroadcastData_resends follows.polled.moved run
  obtain ⟨everyone, events, scan, sync, split, whole, -, scanRun, -⟩ :=
    runs_syncBroadcastData run
  obtain ⟨block, moved⟩ := follows.polled.moved
  have servesScan : chain.Serves (broadcasts.block client.nodeIdDkg) scan :=
    serves.mono fun event member => by simp [split, member]
  have carriesHere : chain.Carries state.2 client.group broadcasts := by
    rw [moved]
    exact Chain.carries_movedTo.mpr carries
  obtain ⟨-, found, all⟩ := Chain.getEvents_served carriesHere servesScan scanRun
  have scanned : scan.filterMap state.2.eventOf = client.scanned trace := by
    rw [moved, Filter.eventOf_movedTo]
    exact (whole client.newFilter).symm
  unfold Chain.Finds at found
  rw [scanned] at found all
  refine ⟨polledAfter, ?_, .inr ?_, ?_⟩
  · intro event member
    have member : event ∈ client.scanned (past ++ trace) := member
    rw [scanned_append] at member
    rcases List.mem_append.mp member with inside | inside
    · exact follows.finds event inside
    · exact found event inside
  · rw [scanned_append]
    rcases follows.begun with ⟨fresh, _⟩ | inside
    · have fresh : state.2.firstUnseenBlock = -1 := by
        rw [fresh]
        rfl
      exact List.mem_append_right _
        (all (.inl fresh) client.nodeIdDkg (Nat.le_refl _))
    · exact List.mem_append_left _ inside
  · rw [scanned_append]
    exact follows.resends.append follows.polled.keepsPlace resends

theorem follows_invariant
    (carries : chain.Carries client.newFilter client.group broadcasts) :
    PollInvariant fun progress past state =>
      chain.Serves (broadcasts.block client.nodeIdDkg) past →
        Follows broadcasts client progress past state where
  unread := by
    intro progress past state event pause follows serves
    exact (follows (serves.mono (List.subset_append_left _ _))).unread
      (routine_of_pause pause)
  sync := by
    intro progress progress' past trace state state' follows run serves
    exact syncBroadcastData_follows carries
      (serves.mono (List.subset_append_right _ _))
      (follows (serves.mono (List.subset_append_left _ _))) run

theorem receiveBroadcastData_follows {fuel : Nat} {live : DKGClient n}
    {trace : Trace dkgInterface} {result : BroadcastResult n}
    (carries : chain.Carries client.newFilter client.group broadcasts)
    (serves : chain.Serves (broadcasts.block client.nodeIdDkg) trace)
    (run : Runs (receiveBroadcastData fuel client) trace (.value result, live)) :
    ∃ (progress : BroadcastProgress n) (filter : Filter),
      result = progress.toBroadcastResult ∧
        Follows broadcasts client progress trace (live, filter) := by
  have started : ∀ startTime : Int, chain.Serves (broadcasts.block client.nodeIdDkg)
      [⟨.getChannelStartedTime, .ok startTime⟩] →
      Follows broadcasts client (BroadcastProgress.start client.nodeIdDkg)
        [⟨.getChannelStartedTime, .ok startTime⟩] (client, client.newFilter) := by
    intro startTime _
    refine ⟨polled_start startTime, ?_, .inl ⟨rfl, rfl⟩, resends_nil client⟩
    intro event member
    cases member
  obtain ⟨progress, filter, same, follows⟩ :=
    (follows_invariant carries).receiveBroadcastData started run
  exact ⟨progress, filter, same, follows serves⟩

end Polling

section Agreement

variable {chain : Chain} {broadcasts : Broadcasts n}

theorem holds_of_stored {client : DKGClient n} {filter : Filter} {index : Fin n}
    {past : Trace dkgInterface}
    (origin : ∀ index, (broadcasts.event index).From client.group index)
    (finds : Chain.Finds broadcasts filter past)
    (stored : client.StoredFrom (past.filterMap filter.eventOf) index) :
    client.Holds index (broadcasts.event index) := by
  obtain ⟨event, member, from', holds⟩ := stored
  obtain ⟨other, rfl⟩ := finds event member
  obtain rfl : other = index :=
    client.group.distinct ((origin other).trans from'.symm)
  exact holds

theorem sent_of_resends {client client' : DKGClient n} {filter : Filter}
    {past : Trace dkgInterface}
    (origin : ∀ index, (broadcasts.event index).From client.group index)
    (finds : Chain.Finds broadcasts filter past)
    (own : broadcasts.event client.nodeIdDkg ∈ past.filterMap filter.eventOf)
    (resends : Resends client client' (past.filterMap filter.eventOf)) :
    client'.sentSecretKeyContribution = some (convertKeyShareToStr
      (broadcasts.event client.nodeIdDkg).secretKeyContribution n) := by
  rcases resends with ⟨_, foreign⟩ | ⟨event, member, from', sent⟩
  · exact absurd (origin client.nodeIdDkg) (foreign _ own)
  · obtain ⟨other, rfl⟩ := finds event member
    have same : other = client.nodeIdDkg :=
      client.group.distinct ((origin other).trans from'.symm)
    rw [same] at sent
    exact sent

theorem fields_of_holds {first second : DKGClient n}
    (node : first.nodeIdDkg = second.nodeIdDkg)
    (firstHolds : ∀ index, first.Holds index (broadcasts.event index))
    (secondHolds : ∀ index, second.Holds index (broadcasts.event index)) :
    first.incomingVerificationVector = second.incomingVerificationVector ∧
      first.incomingSecretKeyContribution =
        second.incomingSecretKeyContribution := by
  constructor
  · funext index
    have one := (firstHolds index).2
    have two := (secondHolds index).2
    rw [node] at one
    by_cases own : index = second.nodeIdDkg
    · rw [if_pos own] at one two
      obtain ⟨points, read, held⟩ := one
      obtain ⟨other, readOther, heldOther⟩ := two
      rw [read] at readOther
      cases readOther
      rw [held, heldOther]
    · rw [if_neg own] at one two
      rw [one, two]
  · funext index
    have one := (firstHolds index).1
    rw [node] at one
    rw [one, (secondHolds index).1]

theorem stored_of_found {client client' : DKGClient n} {events : List DKGEvent}
    (place : client'.place = client.place)
    (origin : ∀ index, (broadcasts.event index).From client.group index)
    (stores : client'.StoresAll events) {index : Fin n}
    (found : broadcasts.event index ∈ events) :
    client'.StoredFrom events index := by
  obtain ⟨other, from', stored⟩ := stores _ found
  have group : client'.group = client.group := congrArg Place.group place
  rw [group] at from'
  obtain rfl : other = index :=
    client.group.distinct (from'.trans (origin index).symm)
  exact stored

/-- A refetch that is served returns and has found every broadcast. -/
theorem fetchAllBroadcastedData_served {client fetched : DKGClient n}
    {trace : Trace dkgInterface} {outcome : Outcome PyError Unit} {height : Nat}
    (carries : chain.Carries client.newFilter client.group broadcasts)
    (mined : ∀ index, broadcasts.block index ≤ height)
    (serves : chain.Serves height trace)
    (readable : ∃ points, convertHexToG2Array
      (broadcasts.event client.nodeIdDkg).verificationVector = some points)
    (run : Runs (client.fetchAllBroadcastedData) trace (outcome, fetched)) :
    outcome = .value () ∧
      Chain.Finds broadcasts client.newFilter trace ∧
      (∀ index, broadcasts.event index ∈ client.scanned trace) ∧
      Resends client fetched (client.scanned trace) := by
  unfold DKGClient.fetchAllBroadcastedData at run
  rw [Procedure.read_bind_apply] at run
  have scanOf : ∀ {front back : Trace dkgInterface} {middle : DKGClient n}
      {ended : Outcome PyError (List DKGEvent × Filter)},
      trace = front ++ back →
      Runs (Procedure.withLocal client.newFilter
        (Procedure.onSecond (Filter.getEvents true)) client) front
        (ended, middle) →
      middle = client ∧ Chain.Finds broadcasts client.newFilter front ∧
        (∀ index, broadcasts.event index ∈ client.scanned front) ∧
        ∃ filter, ended = .value (client.scanned front, filter) := by
    intro front back middle ended split fetched
    obtain ⟨inner, held, scanRun, rfl⟩ := Procedure.runs_withLocal_iff.mp fetched
    obtain ⟨same, filterRun⟩ := Procedure.runs_onSecond_iff.mp scanRun
    rw [split] at serves
    obtain ⟨rfl, found, all⟩ := Chain.getEvents_served carries
      (serves.mono (List.subset_append_left front back)) filterRun
    exact ⟨same, found, fun index => all (.inr rfl) index (mined index), held, rfl⟩
  rcases Procedure.runs_bind_iff.mp run with
    ⟨⟨events, filter⟩, middle, front, back, rfl, fetched, stored⟩ |
    ⟨error, rfl, fetched⟩ | ⟨rfl, fetched⟩
  · obtain ⟨kept, found, all, held, same⟩ := scanOf rfl fetched
    cases same
    rw [kept] at stored
    have whole : client.scanned (front ++ back) = client.scanned front := by
      rw [scanned_append, scanned_of_settled (storeEvents_settled _) stored client,
        List.append_nil]
    obtain ⟨ended, resends⟩ := storeEvents_resends (by
      intro event member
      obtain ⟨index, rfl⟩ := found event member
      refine ⟨index, carries.origin index, ?_⟩
      rintro rfl
      exact readable) stored
    refine ⟨ended, ?_, ?_, ?_⟩
    · intro event member
      have member : event ∈ client.scanned (front ++ back) := member
      rw [whole] at member
      exact found event member
    · rw [whole]
      exact all
    · rw [whole]
      exact resends
  · obtain ⟨_, _, _, _, absurdity⟩ := scanOf (List.append_nil trace).symm fetched
    cases absurdity
  · obtain ⟨_, _, _, _, absurdity⟩ := scanOf (List.append_nil trace).symm fetched
    cases absurdity

theorem exists_other_node (several : 2 ≤ n) (node : Fin n) : ∃ other, other ≠ node := by
  by_cases first : node.val = 0
  · refine ⟨⟨1, by omega⟩, ?_⟩
    intro same
    rw [← same] at first
    cases first
  · refine ⟨⟨0, by omega⟩, ?_⟩
    intro same
    rw [← same] at first
    exact first rfl

/-- On the same broadcasts, a client that polled until every node was received
and one that fetches all of them hold the same data, and the fetch returns. -/
theorem polling_agrees_with_refetch {fuel : Nat} {client live fetched : DKGClient n}
    {polls refetch : Trace dkgInterface} {result : BroadcastResult n}
    {outcome : Outcome PyError Unit} {height : Nat}
    (several : 2 ≤ n)
    (carries : chain.Carries client.newFilter client.group broadcasts)
    (pollsServed : chain.Serves (broadcasts.block client.nodeIdDkg) polls)
    (polled : Runs (receiveBroadcastData fuel client) polls (.value result, live))
    (complete : AllTrue result.received)
    (mined : ∀ index, broadcasts.block index ≤ height)
    (refetchServed : chain.Serves height refetch)
    (fetch : Runs (client.fetchAllBroadcastedData) refetch (outcome, fetched)) :
    outcome = .value () ∧
      live.incomingVerificationVector = fetched.incomingVerificationVector ∧
      live.incomingSecretKeyContribution =
        fetched.incomingSecretKeyContribution ∧
      live.sentSecretKeyContribution = fetched.sentSecretKeyContribution := by
  obtain ⟨progress, filter, rfl, follows⟩ :=
    receiveBroadcastData_follows carries pollsServed polled
  have place : live.place = client.place := follows.polled.keepsPlace
  have group : live.group = client.group := congrArg Place.group place
  have node : live.nodeIdDkg = client.nodeIdDkg := congrArg Place.nodeIdDkg place
  have own : broadcasts.event client.nodeIdDkg ∈ client.scanned polls := by
    rcases follows.begun with ⟨_, rfl⟩ | own
    · -- with a second node in the group the loop has gone round at least once
      obtain ⟨other, foreign⟩ := exists_other_node several client.nodeIdDkg
      have received : Function.update (fun _ => false) client.nodeIdDkg true other =
          true := complete other
      rw [Function.update_of_ne foreign] at received
      cases received
    · exact own
  have liveHolds : ∀ index, live.Holds index (broadcasts.event index) := by
    intro index
    apply holds_of_stored (by rw [group]; exact carries.origin) follows.finds
    by_cases same : index = client.nodeIdDkg
    · rw [same]
      exact stored_of_found place carries.origin follows.polled.storesAll own
    · exact follows.polled.received index (by rw [node]; exact same)
        (complete index)
  have readable : ∃ points, convertHexToG2Array
      (broadcasts.event client.nodeIdDkg).verificationVector = some points := by
    have held := (liveHolds client.nodeIdDkg).2
    rw [node, if_pos rfl] at held
    obtain ⟨points, read, _⟩ := held
    exact ⟨points, read⟩
  obtain ⟨rfl, finds, all, resends⟩ := fetchAllBroadcastedData_served carries mined
    refetchServed readable fetch
  have fetchedPlace : fetched.place = client.place :=
    (fetchAllBroadcastedData_polling fetch).2
  have fetchedGroup : fetched.group = client.group :=
    congrArg Place.group fetchedPlace
  have fetchedNode : fetched.nodeIdDkg = client.nodeIdDkg :=
    congrArg Place.nodeIdDkg fetchedPlace
  have fetchedHolds : ∀ index, fetched.Holds index (broadcasts.event index) := by
    intro index
    apply holds_of_stored (by rw [fetchedGroup]; exact carries.origin) finds
    exact stored_of_found fetchedPlace carries.origin
      (fetchAllBroadcastedData_storesAll fetch) (all index)
  obtain ⟨vectors, contributions⟩ :=
    fields_of_holds (node.trans fetchedNode.symm) liveHolds fetchedHolds
  refine ⟨rfl, vectors, contributions, ?_⟩
  rw [sent_of_resends carries.origin follows.finds own follows.resends,
    sent_of_resends carries.origin finds (all client.nodeIdDkg) resends]

end Agreement

section Samples

def pairChain : Chain where
  blocks number :=
    ⟨if number = 5 then [pairTx firstNode] else if number = 6 then [pairTx secondNode] else []⟩
  receipts hash := if hash = word 0 then pairReceipt firstNode else pairReceipt secondNode
  channelStartedBlock := 5

def pairBroadcasts : Broadcasts 2 where
  event := pairEvent
  block index := 5 + index

theorem pairChain_block (index : Fin 2) :
    pairTx index ∈ (pairChain.blocks (5 + index)).transactions := by
  revert index
  decide +kernel

theorem pairChain_receipt (index : Fin 2) :
    pairChain.receipts (word index) = pairReceipt index := by
  revert index
  decide +kernel

theorem pairReceipt_accepted (index : Fin 2) :
    pairClient.newFilter.checkEvent (pairReceipt index) = true := by
  revert index
  decide +kernel

theorem pairReceipt_parsed (index : Fin 2) :
    pairClient.newFilter.parseEvent (pairReceipt index) = .ok (pairEvent index) := by
  apply parseEvent_broadcastReceipt
  · revert index
    decide
  · rfl
  · exact length_broadcastLayout (pairShares_converted index)

theorem pairChain_carries :
    pairChain.Carries pairClient.newFilter pairClient.group pairBroadcasts := by
  refine ⟨fun _ => rfl, ?_, ?_⟩
  · intro index
    refine ⟨Nat.le_add_right 5 _, word index,
      ⟨⟨pairTx index, pairChain_block index, rfl, rfl, ?_⟩, ?_⟩, ?_⟩
    · intro empty
      have none := congrArg List.length empty
      rw [length_word] at none
      cases none
    · rw [pairChain_receipt]
      exact pairReceipt_accepted index
    · rw [pairChain_receipt]
      exact pairReceipt_parsed index
  · intro block hash _
    by_cases own : hash = word 0
    · have receipt : pairChain.receipts hash = pairReceipt 0 := if_pos own
      exact ⟨0, by rw [receipt]; exact pairReceipt_parsed 0⟩
    · have receipt : pairChain.receipts hash = pairReceipt 1 := if_neg own
      exact ⟨1, by rw [receipt]; exact pairReceipt_parsed 1⟩

/-- The first poll sees block 5 only, the second one goes on from block 6. -/
def splitPolls : Trace dkgInterface := [
  ⟨.getChannelStartedTime, .ok 0⟩,
  ⟨.getLatestBlockTimestamp, .ok 0⟩, ⟨.isEveryoneBroadcasted, .ok false⟩,
  ⟨.getChannelStartedBlock, .ok 5⟩, ⟨.getLatestBlockNumber, .ok 5⟩,
  ⟨.getBlock 5, .ok ⟨[pairTx firstNode]⟩⟩,
  ⟨.getTransactionReceipt (word 0), .ok (pairReceipt firstNode)⟩, ⟨.sleep 30, .ok ()⟩,
  ⟨.getLatestBlockTimestamp, .ok 30⟩, ⟨.isEveryoneBroadcasted, .ok false⟩,
  ⟨.getLatestBlockNumber, .ok 6⟩, ⟨.getBlock 6, .ok ⟨[pairTx secondNode]⟩⟩,
  ⟨.getTransactionReceipt (word 1), .ok (pairReceipt secondNode)⟩,
  ⟨.verifySecretShareV2 (.hex (pairEvent secondNode).verificationVector) "key"
    (shareText '5' '6') 0, .ok true⟩,
  ⟨.sleep 30, .ok ()⟩]

def bulkFetch : Trace dkgInterface := [
  ⟨.getChannelStartedBlock, .ok 5⟩, ⟨.getLatestBlockNumber, .ok 6⟩,
  ⟨.getBlock 5, .ok ⟨[pairTx firstNode]⟩⟩,
  ⟨.getTransactionReceipt (word 0), .ok (pairReceipt firstNode)⟩,
  ⟨.getBlock 6, .ok ⟨[pairTx secondNode]⟩⟩,
  ⟨.getTransactionReceipt (word 1), .ok (pairReceipt secondNode)⟩]

theorem splitPolls_returns :
    Procedure.returns (receiveBroadcastData 3) pairClient splitPolls
      (fun result _ => decide (AllTrue result.received)) = true := by
  decide +kernel

theorem bulkFetch_ends :
    Procedure.ends DKGClient.fetchAllBroadcastedData pairClient bulkFetch
      (fun _ _ => true) = true := by
  decide +kernel

theorem word_one_ne_zero : word 1 ≠ word 0 := by
  decide +kernel

theorem splitPolls_served : pairChain.Serves 5 splitPolls := by
  simp [Chain.Serves, Succeeded, Chain.Admits, splitPolls, pairChain, word_one_ne_zero]

theorem bulkFetch_served : pairChain.Serves 6 bulkFetch := by
  simp [Chain.Serves, Succeeded, Chain.Admits, bulkFetch, pairChain, word_one_ne_zero]

theorem splitPolls_agree_with_bulkFetch :
    ∃ live fetched result,
      Runs (receiveBroadcastData 3 pairClient) splitPolls
        (.value result, live) ∧
      Runs (pairClient.fetchAllBroadcastedData) bulkFetch
        (.value (), fetched) ∧
      live.incomingVerificationVector = fetched.incomingVerificationVector ∧
      live.incomingSecretKeyContribution =
        fetched.incomingSecretKeyContribution ∧
      live.sentSecretKeyContribution = fetched.sentSecretKeyContribution := by
  obtain ⟨result, live, polled, complete⟩ :=
    Procedure.runs_of_returns splitPolls_returns
  obtain ⟨outcome, fetched, fetch, _⟩ := Procedure.runs_of_ends bulkFetch_ends
  have mined : ∀ index, pairBroadcasts.block index ≤ 6 := by decide
  obtain ⟨rfl, same⟩ := polling_agrees_with_refetch (by decide)
    pairChain_carries splitPolls_served polled (of_decide_eq_true complete) mined
    bulkFetch_served fetch
  exact ⟨live, fetched, result, polled, fetch, same⟩

end Samples

end SkaleAdmin.Dkg
