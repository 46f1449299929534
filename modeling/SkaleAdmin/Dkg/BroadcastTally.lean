import SkaleAdmin.Dkg.KeyMaterial

/-! Which broadcasts count as received and which shares as verified, told by the
answers of the run. -/

namespace SkaleAdmin.Dkg

open Interaction PyText Program
open Interaction.Procedure (runs_invoke_iff)

variable {n : Nat}

section Refusals

def RefusesShare : Event dkgInterface → Prop
  | ⟨.verifySecretShareV2 .., .ok verified⟩ => verified = false
  | ⟨.verifySecretShareV2 .., .error (.dkgVerificationError _)⟩ => True
  | _ => False

def Refused (trace : Trace dkgInterface) : Prop :=
  ∃ event ∈ trace, RefusesShare event

theorem not_refused_nil : ¬ Refused [] := by
  rintro ⟨event, member, _⟩
  cases member

theorem refused_append {front back : Trace dkgInterface} :
    Refused (front ++ back) ↔ Refused front ∨ Refused back := by
  unfold Refused
  simp only [List.mem_append, or_and_right, exists_or]

theorem not_refused_of_forall {trace : Trace dkgInterface}
    (other : ∀ event ∈ trace, event.query.isVerification = false) : ¬ Refused trace := by
  rintro ⟨⟨query, answer⟩, member, refuses⟩
  have isOther := other _ member
  cases query <;> first | cases refuses | cases isOther

theorem routine_not_verification {query : DkgQuery}
    (routine : query.isRoutine = true) : query.isVerification = false := by
  cases query <;> first | rfl | cases routine

theorem scan_not_verification {query : DkgQuery}
    (scan : query.isScan = true) : query.isVerification = false := by
  cases query <;> first | rfl | cases scan

theorem not_refused_of_settled {α : Type} {body : ClientM n α}
    (within : body.Within settled) {client client' : DKGClient n}
    {trace : Trace dkgInterface} {outcome : Outcome PyError α}
    (run : Runs (body client) trace (outcome, client')) : ¬ Refused trace :=
  not_refused_of_forall fun event member =>
    routine_not_verification ((within run).1 event member)

theorem not_refused_of_quiet {α : Type} {body : ClientM n α}
    (within : body.Within quiet) {client client' : DKGClient n}
    {trace : Trace dkgInterface} {outcome : Outcome PyError α}
    (run : Runs (body client) trace (outcome, client')) : ¬ Refused trace :=
  not_refused_of_settled (within_settled_of_quiet within) run

end Refusals

section Verification

/-- The verification of a share ends without success. -/
def Denied (outcome : Outcome PyError Bool) : Prop :=
  outcome = .value false ∨ ∃ message, outcome = .raised (.dkgVerificationError message)

theorem invoke_verification_refused {vector : VerificationVector} {ethKeyName : String}
    {share : Text} {nodeIdDkg : Nat} {client client' : DKGClient n}
    {trace : Trace dkgInterface} {outcome : Outcome PyError Bool}
    (run : Runs ((invoke (.verifySecretShareV2 vector ethKeyName share nodeIdDkg) :
      ClientM n Bool) client) trace (outcome, client')) :
    Refused trace ↔ Denied outcome := by
  rcases runs_invoke_iff.mp run with ⟨verified, rfl, rfl, _⟩ | ⟨error, rfl, rfl, _⟩
  · simp [Refused, RefusesShare, Denied]
  · cases error <;> simp [Refused, RefusesShare, Denied]

theorem refused_of_rest {seconds : Nat} {rest : ClientM n Bool}
    {client client' : DKGClient n} {trace : Trace dkgInterface}
    {outcome : Outcome PyError Bool}
    (run : Runs ((do sleep seconds; rest : ClientM n Bool) client) trace (outcome, client'))
    (refused : ∀ {later : Trace dkgInterface}, Runs (rest client) later (outcome, client') →
      (Refused later ↔ Denied outcome)) :
    Refused trace ↔ Denied outcome := by
  rcases Procedure.runs_bind_iff.mp run with
    ⟨_, _, pause, later, rfl, paused, went⟩ | ⟨_, _, paused⟩ | ⟨_, paused⟩
  · obtain ⟨answer, rfl, _, rfl⟩ := runs_sleep_iff.mp paused
    rw [refused_append, refused went]
    simp [Refused, RefusesShare]
  · obtain ⟨_, _, absurdity, _⟩ := runs_sleep_iff.mp paused
    cases absurdity
  · obtain ⟨_, _, absurdity, _⟩ := runs_sleep_iff.mp paused
    cases absurdity

theorem not_denied_unreachable (message : String) :
    ¬ Denied (.raised (.sgxUnreachableError message)) := by
  rintro (same | ⟨_, same⟩) <;> cases same

theorem retryUnreachable_refused {func : ClientM n Bool}
    (once : ∀ {client client' : DKGClient n} {trace : Trace dkgInterface}
      {outcome : Outcome PyError Bool},
      Runs (func client) trace (outcome, client') → (Refused trace ↔ Denied outcome))
    (retries : Nat) {client client' : DKGClient n} {trace : Trace dkgInterface}
    {outcome : Outcome PyError Bool}
    (run : Runs (retryUnreachable func retries client) trace (outcome, client')) :
    Refused trace ↔ Denied outcome := by
  induction retries generalizing client trace with
  | zero =>
      rcases Procedure.runs_attempt_iff.mp run with
        ⟨_, rfl, body⟩ | ⟨error, clause, middle, front, back, rfl, handled, body, clauseRun⟩ |
        ⟨_, rfl, _, body⟩ | ⟨rfl, body⟩
      · exact once body
      · cases error <;> cases handled
        rw [refused_append, once body, refused_of_rest clauseRun]
        · simp [not_denied_unreachable]
        · intro later raised
          obtain ⟨rfl, rfl, _⟩ := Procedure.runs_raise_iff.mp raised
          simp [not_refused_nil, not_denied_unreachable]
      · exact once body
      · exact once body
  | succ retries ih =>
      rcases Procedure.runs_attempt_iff.mp run with
        ⟨_, rfl, body⟩ | ⟨error, clause, middle, front, back, rfl, handled, body, clauseRun⟩ |
        ⟨_, rfl, _, body⟩ | ⟨rfl, body⟩
      · exact once body
      · cases error <;> cases handled
        rw [refused_append, once body, refused_of_rest clauseRun ih]
        simp [not_denied_unreachable]
      · exact once body
      · exact once body

theorem verification_refused {fromNode : Fin n} {client client' : DKGClient n}
    {trace : Trace dkgInterface} {outcome : Outcome PyError Bool}
    (run : Runs (DKGClient.verification fromNode client) trace (outcome, client')) :
    Refused trace ↔ Denied outcome := by
  apply retryUnreachable_refused _ _ run
  intro client client' trace outcome once
  rw [Procedure.read_bind_apply] at once
  exact invoke_verification_refused once

theorem verifyReceived_refused {fromNode : Fin n} {client client' : DKGClient n}
    {trace : Trace dkgInterface} {outcome : Outcome PyError Unit}
    (run : Runs (DKGClient.verifyReceived fromNode client) trace (outcome, client')) :
    (outcome = .value () → ¬ Refused trace) ∧
      ∀ message, outcome = .raised (.dkgVerificationError message) →
        fromNode ≠ client.nodeIdDkg ∧ Refused trace := by
  unfold DKGClient.verifyReceived at run
  rw [Procedure.read_bind_apply] at run
  split at run
  · obtain ⟨rfl, rfl, _⟩ := Procedure.runs_pure_iff.mp run
    exact ⟨fun _ => not_refused_nil, fun _ absurdity => by cases absurdity⟩
  rename_i foreign
  have body : ∀ {front : Trace dkgInterface} {ended : Outcome PyError Unit}
      {middle : DKGClient n}, Runs ((do
        let verified ← DKGClient.verification fromNode
        if verified then return ()
        Procedure.raise (.dkgVerificationError
          s!"sChain: {client.schainName}. Fatal error : user {fromNode.val + 1} hasn't passed verification by user {client.nodeIdDkg.val + 1}") :
          ClientM n Unit) client) front (ended, middle) →
      (ended = .value () → ¬ Refused front) ∧
        ∀ message, ended = .raised (.dkgVerificationError message) → Refused front := by
    intro front ended middle run
    rcases Procedure.runs_bind_iff.mp run with
      ⟨verified, _, first, rest, rfl, asked, went⟩ | ⟨error, rfl, asked⟩ | ⟨rfl, asked⟩
    · have refused := verification_refused asked
      cases verified with
      | true =>
          obtain ⟨rfl, rfl, _⟩ := Procedure.runs_pure_iff.mp went
          rw [List.append_nil, refused]
          simp [Denied]
      | false =>
          obtain ⟨rfl, rfl, _⟩ := Procedure.runs_raise_iff.mp went
          rw [List.append_nil, refused]
          simp [Denied]
    · have refused := verification_refused asked
      refine ⟨fun absurdity => (by cases absurdity), ?_⟩
      intro message same
      cases same
      exact refused.mpr (.inr ⟨message, rfl⟩)
    · exact ⟨fun absurdity => (by cases absurdity), fun _ absurdity => by cases absurdity⟩
  rcases Procedure.runs_attempt_iff.mp run with
    ⟨_, rfl, ran⟩ | ⟨error, clause, middle, front, back, rfl, handled, ran, clauseRun⟩ |
    ⟨error, rfl, _, ran⟩ | ⟨rfl, ran⟩
  · exact ⟨(body ran).1, fun message same => ⟨foreign, (body ran).2 message same⟩⟩
  · cases error <;> cases handled
    obtain ⟨_, rfl, _⟩ := Procedure.runs_raise_iff.mp clauseRun
    exact ⟨fun absurdity => (by cases absurdity), fun _ absurdity => by cases absurdity⟩
  · exact ⟨(body ran).1, fun message same => ⟨foreign, (body ran).2 message same⟩⟩
  · exact ⟨fun absurdity => (by cases absurdity), fun _ absurdity => by cases absurdity⟩

theorem receiveFromNode_refused {fromNode : Fin n} {data : Text × Text}
    {client client' : DKGClient n} {trace : Trace dkgInterface}
    {outcome : Outcome PyError Unit}
    (run : Runs (DKGClient.receiveFromNode fromNode data client) trace (outcome, client')) :
    (outcome = .value () → ¬ Refused trace) ∧
      ∀ message, outcome = .raised (.dkgVerificationError message) →
        fromNode ≠ client.nodeIdDkg ∧ Refused trace := by
  rcases Procedure.runs_bind_iff.mp run with
    ⟨_, middle, front, back, rfl, stored, verified⟩ | ⟨error, rfl, stored⟩ | ⟨rfl, _⟩
  · have kept := storeBroadcastedData_settled _ _ stored
    have node : middle.nodeIdDkg = client.nodeIdDkg := congrArg Place.nodeIdDkg kept.2
    have spared := not_refused_of_settled (storeBroadcastedData_settled _ _) stored
    rw [← node, refused_append]
    simpa [spared] using verifyReceived_refused verified
  · obtain rfl := DKGClient.storeBroadcastedData_raises stored
    exact ⟨fun absurdity => (by cases absurdity), fun _ absurdity => by cases absurdity⟩
  · exact ⟨fun absurdity => (by cases absurdity), fun _ absurdity => by cases absurdity⟩

end Verification

section Tally

/-- The flags of `receive_broadcast_data` against the answers: what was found
counts as received, and a received share is not correct where SGX refused one. -/
structure Tallied (group : Group n) (events : List DKGEvent)
    (trace : Trace dkgInterface) (progress : BroadcastProgress n) : Prop where
  received : ∀ event ∈ events, ∃ index, event.From group index ∧
    progress.received index = true
  verified : ∀ index, progress.correct index = true → progress.received index = true
  refused : Refused trace ↔
    ∃ index, progress.received index = true ∧ progress.correct index = false

variable {group : Group n} {events : List DKGEvent} {trace more : Trace dkgInterface}
  {progress progress' : BroadcastProgress n}

theorem tallied_start (group : Group n) (node : Fin n) {trace : Trace dkgInterface}
    (spared : ¬ Refused trace) : Tallied group [] trace (BroadcastProgress.start node) where
  received _ member := absurd member List.not_mem_nil
  verified _ correct := correct
  refused := by
    refine ⟨fun refused => absurd refused spared, ?_⟩
    rintro ⟨index, received, incorrect⟩
    have same : Function.update (fun _ => false) node true index = true := received
    have other : Function.update (fun _ => false) node true index = false := incorrect
    rw [same] at other
    cases other

theorem Tallied.unread (tallied : Tallied group events trace progress)
    (spared : ¬ Refused more) : Tallied group events (trace ++ more) progress := by
  refine ⟨tallied.received, tallied.verified, ?_⟩
  rw [refused_append, ← tallied.refused]
  simp [spared]

theorem Tallied.received_append {event : DKGEvent} {index : Fin n}
    (tallied : Tallied group events trace progress)
    (origin : event.From group index)
    (marked : progress'.received = Function.update progress.received index true) :
    ∀ other ∈ events ++ [event], ∃ sender, other.From group sender ∧
      progress'.received sender = true := by
  intro other member
  rw [marked]
  rcases List.mem_append.mp member with old | new
  · obtain ⟨sender, from', received⟩ := tallied.received other old
    refine ⟨sender, from', ?_⟩
    by_cases same : sender = index
    · rw [same, Function.update_self]
    · rw [Function.update_of_ne same, received]
  · rw [List.mem_singleton.mp new]
    exact ⟨index, origin, Function.update_self ..⟩

/-- One event is counted, and refused exactly when SGX refuses its share. -/
theorem Tallied.synced {event : DKGEvent} {client client' : DKGClient n} {index : Fin n}
    (tallied : Tallied client.group events trace progress)
    (own : progress.correct client.nodeIdDkg = true)
    (origin : event.From client.group index)
    (synced : Synced progress event client index more progress' client') :
    Tallied client.group (events ++ [event]) (trace ++ more) progress' ∧
      progress'.correct client.nodeIdDkg = true := by
  cases synced with
  | skipped received foreign silent =>
      rw [silent, List.append_nil]
      refine ⟨⟨?_, tallied.verified, tallied.refused⟩, own⟩
      intro other member
      rcases List.mem_append.mp member with old | new
      · exact tallied.received other old
      · rw [List.mem_singleton.mp new]
        exact ⟨index, origin, received⟩
  | verified fresh run =>
      have spared := (receiveFromNode_refused run).1 rfl
      refine ⟨⟨tallied.received_append origin rfl, ?_, ?_⟩, ?_⟩
      · intro other correct
        by_cases same : other = index
        · rw [same]
          exact Function.update_self ..
        · have before : progress.correct other = true :=
            (Function.update_of_ne same ..).symm.trans correct
          exact (Function.update_of_ne same ..).trans (tallied.verified other before)
      · -- the entry that is marked was not a refused one
        rw [refused_append, tallied.refused, or_iff_left spared]
        constructor
        · rintro ⟨other, received, incorrect⟩
          have apart : other ≠ index := by
            rintro rfl
            apply fresh
            refine ⟨received, ?_⟩
            rintro rfl
            rw [own] at incorrect
            cases incorrect
          exact ⟨other, (Function.update_of_ne apart ..).trans received,
            (Function.update_of_ne apart ..).trans incorrect⟩
        · rintro ⟨other, received, incorrect⟩
          have apart : other ≠ index := by
            rintro rfl
            have marked : Function.update progress.correct other true other = false :=
              incorrect
            rw [Function.update_self] at marked
            cases marked
          exact ⟨other, (Function.update_of_ne apart ..).symm.trans received,
            (Function.update_of_ne apart ..).symm.trans incorrect⟩
      · by_cases same : client.nodeIdDkg = index
        · rw [same]
          exact Function.update_self ..
        · exact (Function.update_of_ne same ..).trans own
  | refused fresh run =>
      obtain ⟨foreign, refused⟩ := (receiveFromNode_refused run).2 _ rfl
      have unmarked : progress.correct index = false := by
        cases correct : progress.correct index with
        | false => rfl
        | true => exact absurd ⟨tallied.verified index correct, foreign⟩ fresh
      refine ⟨⟨tallied.received_append origin rfl, ?_, ?_⟩, own⟩
      · intro other correct
        have before := tallied.verified other correct
        by_cases same : other = index
        · rw [same]
          exact Function.update_self ..
        · exact (Function.update_of_ne same ..).trans before
      · exact ⟨fun _ => ⟨index, Function.update_self .., unmarked⟩,
          fun _ => refused_append.mpr (.inr refused)⟩

theorem Tallied.syncEvents {scannedNow : List DKGEvent} {client client' : DKGClient n}
    (tallied : Tallied client.group events trace progress)
    (own : progress.correct client.nodeIdDkg = true)
    (run : Runs (syncEvents scannedNow progress client) more (.value progress', client')) :
    Tallied client.group (events ++ scannedNow) (trace ++ more) progress' ∧
      progress'.correct client.nodeIdDkg = true := by
  induction scannedNow generalizing events trace progress client more with
  | nil =>
      obtain ⟨rfl, same, _⟩ := Procedure.runs_pure_iff.mp run
      cases same
      rw [List.append_nil, List.append_nil]
      exact ⟨tallied, own⟩
  | cons event rest ih =>
      obtain ⟨between, middle, front, back, rfl, first, later⟩ :=
        Procedure.runs_bind_value run
      obtain ⟨index, origin, synced⟩ := syncEvent_synced first
      have place := (syncEvent_verifying _ _ first).2
      have group : middle.group = client.group := congrArg Place.group place
      have node : middle.nodeIdDkg = client.nodeIdDkg := congrArg Place.nodeIdDkg place
      obtain ⟨talliedThen, ownThen⟩ := tallied.synced own origin synced
      rw [← group] at talliedThen
      rw [← node] at ownThen
      have talliedAfter := ih talliedThen ownThen later
      rw [group, node] at talliedAfter
      simpa using talliedAfter

end Tally

section Phase

/-- What holds between the polls, with the flags told by the answers. -/
structure Counted (client : DKGClient n) (progress : BroadcastProgress n)
    (past : Trace dkgInterface) (state : DKGClient n × Filter) : Prop where
  polled : Polled client.place client.newFilter progress past state
  tallied : Tallied client.group (client.scanned past) past progress
  own : progress.correct client.nodeIdDkg = true

theorem counted_invariant (client : DKGClient n) : PollInvariant (Counted client) where
  unread := by
    intro progress past state event pause counted
    have routine := routine_of_pause pause
    have unread : client.scanned [event] = [] :=
      List.filterMap_cons_none (routine_unread routine)
    refine ⟨counted.polled.unread routine, ?_, counted.own⟩
    rw [scanned_append, unread, List.append_nil]
    apply counted.tallied.unread
    apply not_refused_of_forall
    intro other member
    rw [List.mem_singleton.mp member]
    exact routine_not_verification routine
  sync := by
    intro progress progress' past trace state state' counted run
    obtain ⟨everyone, events, scan, sync, split, found, rfl, scanRun, syncRun⟩ :=
      runs_syncBroadcastData run
    have polled := syncBroadcastData_polls counted.polled run
    obtain ⟨block, moved⟩ := counted.polled.moved
    have group : state.1.group = client.group :=
      congrArg Place.group counted.polled.keepsPlace
    have node : state.1.nodeIdDkg = client.nodeIdDkg :=
      congrArg Place.nodeIdDkg counted.polled.keepsPlace
    have scanned : client.scanned trace = scan.filterMap state.2.eventOf := by
      rw [moved, Filter.eventOf_movedTo]
      exact found client.newFilter
    have spared : ¬ Refused (⟨DkgQuery.isEveryoneBroadcasted, .ok everyone⟩ :: scan) := by
      apply not_refused_of_forall
      intro event member
      rcases List.mem_cons.mp member with rfl | member
      · rfl
      · exact scan_not_verification (Filter.getEvents_scans scanRun event member)
    have tallied := counted.tallied.unread spared
    rw [← group] at tallied
    obtain ⟨talliedAfter, own⟩ :=
      tallied.syncEvents (by rw [node]; exact counted.own) syncRun
    rw [group, List.append_assoc, List.cons_append, ← split, ← scanned,
      ← scanned_append] at talliedAfter
    rw [node] at own
    exact ⟨polled, talliedAfter, own⟩

/-- The flags of a finished collection of broadcasts, told by the answers of the
run. -/
structure Received (client : DKGClient n) (trace : Trace dkgInterface)
    (result : BroadcastResult n) : Prop where
  received : ∀ index, index ≠ client.nodeIdDkg →
    (result.received index = true ↔
      ∃ event ∈ client.scanned trace, event.From client.group index)
  correct : result.correct client.nodeIdDkg = true
  refused : Refused trace ↔
    ∃ index, result.received index = true ∧ result.correct index = false

theorem receiveBroadcastData_received {fuel : Nat} {client client' : DKGClient n}
    {trace : Trace dkgInterface} {result : BroadcastResult n}
    (run : Runs (receiveBroadcastData fuel client) trace (.value result, client')) :
    Received client trace result := by
  have started : ∀ startTime : Int, Counted client
      (BroadcastProgress.start client.nodeIdDkg)
      [⟨.getChannelStartedTime, .ok startTime⟩] (client, client.newFilter) := by
    intro startTime
    refine ⟨polled_start startTime, tallied_start _ _ ?_,
      by simp [BroadcastProgress.start]⟩
    apply not_refused_of_forall
    intro event member
    rw [List.mem_singleton.mp member]
    rfl
  obtain ⟨progress, filter, rfl, counted⟩ :=
    (counted_invariant client).receiveBroadcastData started run
  have place := counted.polled.keepsPlace
  have group : client'.group = client.group := congrArg Place.group place
  have node : client'.nodeIdDkg = client.nodeIdDkg := congrArg Place.nodeIdDkg place
  refine ⟨?_, counted.own, counted.tallied.refused⟩
  intro index foreign
  constructor
  · intro received
    obtain ⟨event, member, origin, _⟩ :=
      counted.polled.received index (by rw [node]; exact foreign) received
    rw [group] at origin
    exact ⟨event, member, origin⟩
  · rintro ⟨event, member, origin⟩
    obtain ⟨sender, from', received⟩ := counted.tallied.received event member
    have same : sender = index := client.group.distinct (from'.trans origin.symm)
    rw [← same]
    exact received

theorem initBlsBroadcast_received {fuel rotationId : Nat} {client client' : DKGClient n}
    {trace : Trace dkgInterface} {time : Int} {result : BroadcastResult n}
    (run : Runs (initBlsBroadcast fuel rotationId client) trace
      (.value (time, result), client')) :
    Received client trace result := by
  obtain ⟨time, rotation, ensure, poll, check, start, polled, rfl, phase⟩ :=
    initBlsBroadcast_parts run
  have place := (ensureBroadcast_settled phase.ensured).2
  have startFilter : start.newFilter = client.newFilter := newFilter_of_place place
  have group : start.group = client.group := congrArg Place.group place
  have node : start.nodeIdDkg = client.nodeIdDkg := congrArg Place.nodeIdDkg place
  obtain ⟨received, correct, refused⟩ := receiveBroadcastData_received phase.received
  have entered : ¬ Refused [⟨DkgQuery.getChannelStartedTime, .ok time⟩,
      ⟨.getRotationCounter, .ok rotation⟩] := by
    apply not_refused_of_forall
    intro event member
    rcases List.mem_pair.mp member with rfl | rfl <;> rfl
  have ensured := not_refused_of_settled ensureBroadcast_settled phase.ensured
  have checked := not_refused_of_quiet (checkReceived_quiet _ _) phase.checked
  refine ⟨?_, by rw [← node]; exact correct, ?_⟩
  · intro index foreign
    rw [phase.scanned]
    unfold DKGClient.scanned at received ⊢
    rw [← startFilter, ← group]
    exact received index (by rw [node]; exact foreign)
  · rw [refused_append, refused_append, refused_append, ← refused]
    simp [entered, ensured, checked]

end Phase

end SkaleAdmin.Dkg
