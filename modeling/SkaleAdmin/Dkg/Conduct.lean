import SkaleAdmin.Library.Conduct
import SkaleAdmin.Dkg.Footprint

/-! The parts of `init_bls` under any conduct that tolerates their calls. -/

namespace SkaleAdmin.Dkg

open Interaction PyText
open Interaction.Procedure (Follows Obeys obeys_attempt obeys_bind obeys_pure obeys_raise
  obeys_read_bind)

variable {n : Nat}

abbrev DkgConduct (n : Nat) := Conduct dkgInterface (DKGClient n) PyError

def DkgQuery.accused : DkgQuery → Option Nat
  | .complaint _ toId | .complaintBadData _ toId => some toId
  | _ => none

/-- All calls but complaints, reads of what the nodes have sent, and those that bring in the
node's own broadcast. -/
def DkgQuery.isPlain : DkgQuery → Bool
  | .complaint .. | .complaintBadData .. | .getComplaintData | .isAllDataReceived _
  | .getAlrightStartedTime | .getNumberOfCompleted | .getSecretKeyContributionV2 ..
  | .getTransactionReceipt _ => false
  | _ => true

def Place.nodeIdContract (place : Place n) : Nat :=
  place.group.nodeIdsDkg place.nodeIdDkg

/-- The transaction of a complaint of the node about `toNode`. -/
def Place.complaint (place : Place n) (toNode : Fin n) (reason : ComplaintReason) : DkgQuery :=
  if reason = .BAD_DATA then
    .complaintBadData place.nodeIdContract (place.group.nodeIdsDkg toNode)
  else
    .complaint place.nodeIdContract (place.group.nodeIdsDkg toNode)

/-- The receipt of a complaint shows whether it was rejected. -/
def Receipt.Shows (receipt : Receipt) : Prop :=
  ∃ log more topic topics, receipt.logs = some (log :: more) ∧
    log.topics = some (topic :: topics)

/-- The conduct of a client in its place that goes on after every DKG error. -/
structure Tolerant (conduct : DkgConduct n) (place : Place n) : Prop where
  placed : ∀ client, conduct.keeps client → client.place = place
  plain : ∀ query : DkgQuery, query.isPlain = true → conduct.allowed query
  fails : ∀ (query : DkgQuery) error, conduct.expected [⟨query, .error error⟩] →
    conduct.known error
  dkgErrors : ∀ error : PyError, error.isDkgError = true → conduct.known error
  unreachable : ∀ first second, conduct.known (.sgxUnreachableError first) →
    conduct.known (.sgxUnreachableError second)
  steps : ∀ (client : DKGClient n) step, conduct.keeps client →
    conduct.keeps { client with lastCompletedStep := step }
  shows : ∀ fromId toId (receipt : Receipt),
    conduct.expected [⟨.complaint fromId toId, .ok receipt⟩] ∨
        conduct.expected [⟨.complaintBadData fromId toId, .ok receipt⟩] →
      receipt.Shows ∨ ∀ error, conduct.known error

variable {conduct : DkgConduct n} {α β : Type}

section Rules

theorem follows_bind {first : ClientM n β} {next : β → ClientM n α}
    (follows : first.Follows conduct) (rest : ∀ result, (next result).Follows conduct) :
    (first >>= next).Follows conduct :=
  obeys_bind _ follows rest

theorem follows_pure (result : α) : (pure result : ClientM n α).Follows conduct :=
  obeys_pure fun _ kept => kept

theorem follows_raise {error : PyError} (known : conduct.known error) :
    (Procedure.raise error : ClientM n α).Follows conduct :=
  obeys_raise known fun _ kept => kept

theorem follows_read_bind {view : DKGClient n → β} {next : β → ClientM n α}
    (rest : ∀ client, conduct.keeps client → (next (view client)).Follows conduct) :
    (Procedure.read view >>= next).Follows conduct :=
  obeys_read_bind rest

theorem obeys_getOr_bind {before : DKGClient n → Prop} {after : α → DKGClient n → Prop}
    {error : PyError} {option : Option β} {next : β → ClientM n α}
    (known : option = none → conduct.known error)
    (kept : ∀ client, before client → conduct.keeps client)
    (rest : ∀ result, option = some result → (next result).Obeys conduct before after) :
    (getOr error option >>= next).Obeys conduct before after := by
  cases option with
  | none => exact obeys_raise (known rfl) kept
  | some result => exact rest result rfl

theorem follows_getOr_bind {error : PyError} {option : Option β} {next : β → ClientM n α}
    (known : option = none → conduct.known error)
    (rest : ∀ result, option = some result → (next result).Follows conduct) :
    (getOr error option >>= next).Follows conduct :=
  obeys_getOr_bind known (fun _ kept => kept) rest

theorem follows_liftExcept_bind {result : Except PyError β} {next : β → ClientM n α}
    (known : ∀ error, result = .error error → conduct.known error)
    (rest : ∀ value, result = .ok value → (next value).Follows conduct) :
    (DKGClient.liftExcept result >>= next).Follows conduct := by
  cases result with
  | ok value => exact rest value rfl
  | error error => exact follows_raise (known error rfl)

theorem follows_passTransactionError {body : ClientM n Unit} (follows : body.Follows conduct) :
    (Procedure.attempt body passTransactionError).Follows conduct := by
  apply obeys_attempt follows
  intro error clause _ handled
  cases error <;> cases handled
  exact follows_pure _

end Rules

namespace Tolerant

variable {place : Place n} (tolerant : Tolerant conduct place)

include tolerant

theorem invoke_bind {query : DkgQuery} {next : query.Reply → ClientM n α}
    {after : α → DKGClient n → Prop} (allowed : conduct.allowed query)
    (rest : ∀ reply, conduct.expected [⟨query, .ok reply⟩] →
      (next reply).Obeys conduct conduct.keeps after) :
    (invoke query >>= next : ClientM n α).Obeys conduct conduct.keeps after :=
  Procedure.obeys_invoke_bind allowed
    (fun _ error kept expected => ⟨tolerant.fails query error expected, kept⟩) rest

theorem invoke {query : DkgQuery} (allowed : conduct.allowed query) :
    (invoke query : ClientM n query.Reply).Follows conduct :=
  Procedure.obeys_invoke allowed
    (fun _ error kept expected => ⟨tolerant.fails query error expected, kept⟩)
    fun _ _ _ kept => kept

theorem plain_bind {query : DkgQuery} {next : query.Reply → ClientM n α}
    {after : α → DKGClient n → Prop} (plain : query.isPlain = true)
    (rest : ∀ reply, (next reply).Obeys conduct conduct.keeps after) :
    (Dkg.invoke query >>= next : ClientM n α).Obeys conduct conduct.keeps after :=
  tolerant.invoke_bind (tolerant.plain query plain) fun reply _ => rest reply

theorem sleep (seconds : Nat) : (Dkg.sleep seconds : ClientM n Unit).Follows conduct :=
  follows_bind (Procedure.obeys_ask (tolerant.plain _ rfl) fun _ _ kept => kept) fun _ =>
    follows_pure _

theorem setStep (step : DKGStep) :
    (DKGClient.setStep step : ClientM n Unit).Follows conduct :=
  Procedure.obeys_modify fun client kept => tolerant.steps client step kept

theorem dkgError {error : PyError} (isDkgError : error.isDkgError = true) :
    (Procedure.raise error : ClientM n α).Follows conduct :=
  follows_raise (tolerant.dkgErrors error isDkgError)

theorem retryUnreachable {before : DKGClient n → Prop} {after : α → DKGClient n → Prop}
    {func : ClientM n α} (obeys : func.Obeys conduct before after)
    (again : ∀ message, conduct.known (.sgxUnreachableError message) →
      ∀ client, conduct.keeps client → before client) (retries : Nat) :
    (retryUnreachable func retries).Obeys conduct before after := by
  induction retries with
  | zero =>
      apply obeys_attempt obeys
      intro error clause known handled
      cases error <;> cases handled
      apply obeys_bind _ (tolerant.sleep _)
      intro _
      exact obeys_raise known fun _ kept => kept
  | succ retries ih =>
      apply obeys_attempt obeys
      intro error clause known handled
      cases error <;> cases handled
      apply obeys_bind _ (tolerant.sleep _)
      intro _
      exact ih.strengthen (again _ known)

theorem sgxUnreachableRetry {func : ClientM n α} (follows : func.Follows conduct) :
    (sgxUnreachableRetry func).Follows conduct :=
  tolerant.retryUnreachable follows (fun _ _ _ kept => kept) _

theorem isChannelOpened : (DKGClient.isChannelOpened : ClientM n Bool).Follows conduct :=
  tolerant.invoke (tolerant.plain _ rfl)

theorem checkFailedDkg (schainName : String) :
    (checkFailedDkg schainName : ClientM n Bool).Follows conduct := by
  apply follows_bind tolerant.isChannelOpened
  intro opened
  split
  · exact follows_pure _
  apply tolerant.plain_bind rfl
  intro successful
  split
  · exact follows_pure _
  apply tolerant.plain_bind rfl
  intro time
  split
  · exact follows_pure _
  · exact tolerant.dkgError rfl

theorem waitForFail (fuel : Nat) (schainName : String) (channelStartedTime : Int) :
    (waitForFail fuel schainName channelStartedTime : ClientM n Unit).Follows conduct := by
  apply tolerant.plain_bind rfl
  intro startTime
  apply tolerant.plain_bind rfl
  intro dkgTimeout
  apply Procedure.follows_iterate
  intro _
  apply tolerant.plain_bind rfl
  intro now
  split
  · exact follows_pure _
  apply follows_bind (tolerant.checkFailedDkg _)
  intro _
  apply tolerant.plain_bind rfl
  intro current
  split
  · exact follows_bind (tolerant.sleep _) fun _ => follows_pure _
  · exact tolerant.dkgError rfl

theorem reraiseTransaction {body : ClientM n α} (follows : body.Follows conduct) :
    (Procedure.attempt body DKGClient.reraiseTransaction).Follows conduct := by
  apply obeys_attempt follows
  intro error clause _ handled
  cases error <;> cases handled
  exact tolerant.dkgError rfl

theorem checkNoComplaints (reads : conduct.allowed .getComplaintData) :
    (checkNoComplaints : ClientM n Bool).Follows conduct :=
  tolerant.invoke_bind reads fun _ _ => follows_pure _

theorem isAllDataReceived {fromNode : Fin n}
    (asks : conduct.allowed (.isAllDataReceived (place.group.nodeIdsDkg fromNode))) :
    (DKGClient.isAllDataReceived fromNode).Follows conduct := by
  apply follows_read_bind
  intro client kept
  apply tolerant.invoke
  have group : client.group = place.group := congrArg Place.group (tolerant.placed client kept)
  rw [id, group]
  exact asks

theorem initBlsAwait (fuel : Nat) (channelStartedTime : Int) :
    (initBlsAwait fuel channelStartedTime : ClientM n Unit).Follows conduct := by
  apply follows_read_bind
  intro client _
  apply follows_bind
  · apply follows_read_bind
    intro client _
    apply follows_bind (tolerant.invoke (tolerant.plain _ rfl))
    intro everyone
    split
    · exact follows_pure _
    · exact tolerant.waitForFail _ _ _
  intro _
  exact follows_bind (tolerant.checkFailedDkg _) fun _ => follows_pure _

theorem alright : (DKGClient.alright : ClientM n Unit).Follows conduct := by
  apply follows_read_bind
  intro client _
  apply tolerant.plain_bind rfl
  intro possible
  split
  · exact follows_pure _
  apply follows_bind tolerant.isChannelOpened
  intro opened
  split
  · exact follows_pure _
  apply tolerant.plain_bind rfl
  intro _
  exact tolerant.setStep _

theorem initBlsAlright (reads : conduct.allowed .getComplaintData)
    (asks : conduct.allowed (.isAllDataReceived (place.group.nodeIdsDkg place.nodeIdDkg))) :
    (initBlsAlright : ClientM n (Fin n → Bool)).Follows conduct := by
  apply follows_read_bind
  intro client _
  apply follows_bind (tolerant.checkNoComplaints reads)
  intro noComplaints
  split
  · apply follows_bind
    · apply follows_read_bind
      intro client kept
      apply follows_bind
      · apply tolerant.isAllDataReceived
        have node : client.nodeIdDkg = place.nodeIdDkg :=
          congrArg Place.nodeIdDkg (tolerant.placed client kept)
        rw [id, node]
        exact asks
      intro received
      split
      · exact tolerant.setStep _
      · exact tolerant.alright
    intro _
    exact follows_pure _
  · exact follows_pure _

theorem refreshAlright
    (asks : ∀ fromNode, conduct.allowed (.isAllDataReceived (place.group.nodeIdsDkg fromNode)))
    (nodes : List (Fin n)) (sent : Fin n → Bool) :
    (refreshAlright nodes sent).Follows conduct := by
  induction nodes generalizing sent with
  | nil => exact follows_pure _
  | cons fromNode rest ih =>
      unfold Dkg.refreshAlright
      split
      · exact follows_bind (tolerant.isAllDataReceived (asks fromNode)) fun _ => ih _
      · exact ih _

theorem alrightRound (reads : conduct.allowed .getComplaintData)
    (asks : ∀ fromNode, conduct.allowed (.isAllDataReceived (place.group.nodeIdsDkg fromNode)))
    (startTimeAlright : Int) (sent : Fin n → Bool) :
    (alrightRound startTimeAlright sent).Follows conduct := by
  unfold Dkg.alrightRound
  split
  · exact follows_pure _
  apply follows_read_bind
  intro client _
  apply follows_bind (tolerant.checkFailedDkg _)
  intro _
  apply follows_bind (tolerant.checkNoComplaints reads)
  intro noComplaints
  split
  · exact follows_pure _
  apply tolerant.plain_bind rfl
  intro now
  split
  · exact follows_pure _
  apply follows_bind (tolerant.refreshAlright asks _ _)
  intro sent
  exact follows_bind (tolerant.sleep _) fun _ => follows_pure _

theorem afterComplaint {client : DKGClient n} {receipt : Receipt} {reason : ComplaintReason}
    (shows : receipt.Shows ∨ ∀ error, conduct.known error) :
    (do
      let logs ← getOr .keyError receipt.logs
      let log ← getOr .indexError logs.head?
      if ← DKGClient.liftExcept (client.checkComplaintLogs log) then
        DKGClient.setStep (DKGClient.reasonToStep reason)
        return true
      else
        return false : ClientM n Bool).Follows conduct := by
  have written : ∀ accepted : Bool, (if accepted = true then do
        DKGClient.setStep (DKGClient.reasonToStep reason)
        return true
      else
        return false : ClientM n Bool).Follows conduct := by
    intro accepted
    split
    · exact follows_bind (tolerant.setStep _) fun _ => follows_pure _
    · exact follows_pure _
  rcases shows with ⟨log, more, topic, topics, logs, titled⟩ | known
  · apply follows_getOr_bind (by simp [logs])
    intro found same
    rw [logs] at same
    cases same
    apply follows_getOr_bind (by simp)
    intro first same
    cases same
    apply follows_liftExcept_bind _ fun accepted _ => written accepted
    intro error raised
    simp [DKGClient.checkComplaintLogs, titled, orRaise, Bind.bind, Except.bind, Pure.pure,
      Except.pure] at raised
  · apply follows_getOr_bind fun _ => known _
    intro logs _
    apply follows_getOr_bind fun _ => known _
    intro log _
    exact follows_liftExcept_bind (fun error _ => known error) fun accepted _ =>
      written accepted

theorem complaintTransaction {toNode : Fin n} {reason : ComplaintReason} {client : DKGClient n}
    (placed : client.place = place) (posts : conduct.allowed (place.complaint toNode reason))
    {next : Receipt → ClientM n α}
    (rest : ∀ receipt : Receipt, receipt.Shows ∨ (∀ error, conduct.known error) →
      (next receipt).Follows conduct) :
    (DKGClient.complaintTransaction client.nodeIdContract (client.group.nodeIdsDkg toNode)
      reason >>= next).Follows conduct := by
  subst placed
  unfold DKGClient.complaintTransaction
  unfold Place.complaint at posts
  split
  · rename_i bad
    rw [if_pos bad] at posts
    apply tolerant.invoke_bind posts
    intro receipt expected
    exact rest receipt (tolerant.shows _ _ receipt (.inr expected))
  · rename_i other
    rw [if_neg other] at posts
    apply tolerant.invoke_bind posts
    intro receipt expected
    exact rest receipt (tolerant.shows _ _ receipt (.inl expected))

theorem client_sendComplaint {toNode : Fin n} {reason : ComplaintReason}
    (posts : conduct.allowed (place.complaint toNode reason)) :
    (DKGClient.sendComplaint toNode reason).Follows conduct := by
  apply follows_read_bind
  intro client kept
  apply tolerant.plain_bind rfl
  intro possible
  apply follows_bind tolerant.isChannelOpened
  intro opened
  split
  · exact follows_pure _
  apply tolerant.reraiseTransaction
  apply tolerant.complaintTransaction (tolerant.placed client kept) posts
  intro receipt shows
  exact tolerant.afterComplaint shows

theorem sendComplaint {fuel : Nat} {index : Fin n} {reason : ComplaintReason}
    (posts : conduct.allowed (place.complaint index reason)) :
    (sendComplaint fuel index reason).Follows conduct := by
  apply follows_read_bind
  intro client _
  apply tolerant.plain_bind rfl
  intro channelStartedTime
  apply follows_passTransactionError
  apply follows_bind (tolerant.client_sendComplaint posts)
  intro sent
  split
  · exact tolerant.waitForFail _ _ _
  · exact follows_pure _

theorem reportBadData {fuel : Nat} {index : Fin n}
    (posts : ∀ reason, conduct.allowed (place.complaint index reason)) :
    (reportBadData fuel index).Follows conduct := by
  apply follows_read_bind
  intro client _
  apply follows_passTransactionError
  apply tolerant.plain_bind rfl
  intro channelStartedTime
  apply follows_bind (tolerant.client_sendComplaint (posts _))
  intro sent
  split
  · apply follows_bind (tolerant.waitForFail _ _ _)
    intro _
    apply follows_bind (tolerant.client_sendComplaint (posts _))
    intro _
    exact tolerant.waitForFail _ _ _
  · exact follows_pure _

/-! ### Sending and collecting the broadcasts -/

/-- Between the two SGX requests of `broadcast` the state is in `between`. -/
theorem ensureBroadcast {between : DKGClient n → Prop}
    (generates : ∀ polyName, (DKGClient.generatePolynomial polyName).Follows conduct)
    (first : (DKGClient.verificationVector : ClientM n (List G2Point)).Obeys conduct
      conduct.keeps fun _ => between)
    (second : (DKGClient.secretKeyContribution : ClientM n (List KeyShare)).Obeys conduct
      between fun _ => conduct.keeps) :
    (ensureBroadcast : ClientM n Unit).Follows conduct := by
  apply follows_bind
  · apply follows_read_bind
    intro client _
    exact tolerant.invoke (tolerant.plain _ rfl)
  intro broadcasted
  split
  · exact tolerant.setStep _
  apply follows_read_bind
  intro client _
  apply follows_bind (generates _)
  intro polySuccess
  split
  · exact tolerant.dkgError rfl
  apply tolerant.plain_bind rfl
  intro possible
  apply follows_bind tolerant.isChannelOpened
  intro opened
  split
  · exact follows_pure _
  apply obeys_bind _ first
  intro verificationVector
  apply obeys_bind _ second
  intro secretKeyContribution
  apply tolerant.plain_bind rfl
  intro _
  exact tolerant.setStep _

theorem verifyReceived (fromNode : Fin n) :
    (DKGClient.verifyReceived fromNode).Follows conduct := by
  apply follows_read_bind
  intro client _
  split
  · exact follows_pure _
  apply obeys_attempt
  · apply follows_bind
    · apply tolerant.sgxUnreachableRetry
      apply follows_read_bind
      intro client _
      exact tolerant.invoke (tolerant.plain _ rfl)
    intro verified
    split
    · exact follows_pure _
    · exact tolerant.dkgError rfl
  · intro error clause known handled
    cases error <;> cases handled
    exact follows_raise (tolerant.unreachable _ _ known)

end Tolerant

def BroadcastResult.OwnSet (result : BroadcastResult n) (nodeIdDkg : Fin n) : Prop :=
  result.received nodeIdDkg = true ∧ result.correct nodeIdDkg = true

theorem ownSet_start (nodeIdDkg : Fin n) :
    (BroadcastProgress.start nodeIdDkg).OwnSet nodeIdDkg := by
  constructor
  · exact Function.update_self nodeIdDkg true fun _ => false
  · exact Function.update_self nodeIdDkg true fun _ => false

theorem ownSet_markReceived {progress : BroadcastProgress n} {nodeIdDkg : Fin n}
    (own : progress.OwnSet nodeIdDkg) (fromNode : Fin n) :
    (progress.markReceived fromNode).OwnSet nodeIdDkg := by
  refine ⟨?_, own.2⟩
  by_cases same : nodeIdDkg = fromNode
  · rw [same]
    exact Function.update_self ..
  · exact (Function.update_of_ne same ..).trans own.1

theorem ownSet_markCorrect {progress : BroadcastProgress n} {nodeIdDkg : Fin n}
    (own : progress.OwnSet nodeIdDkg) (fromNode : Fin n) (nodeIndex : Nat) :
    (progress.markCorrect fromNode nodeIndex).OwnSet nodeIdDkg := by
  refine ⟨own.1, ?_⟩
  by_cases same : nodeIdDkg = fromNode
  · rw [same]
    exact Function.update_self ..
  · exact (Function.update_of_ne same ..).trans own.2

/-- What the collection of broadcasts relies on: the scan hands out good events, whose
sender is known and which can be stored. -/
structure Receptive (conduct : DkgConduct n) (place : Place n) (held : Filter → Prop)
    (good : DKGEvent → Prop) : Prop where
  starts : ∀ client, conduct.keeps client → held client.newFilter
  scans : ∀ fromChannelStartedBlock, (Filter.getEvents fromChannelStartedBlock).Obeys
    (conduct.on held) held fun events filter => held filter ∧ ∀ event ∈ events, good event
  finds : ∀ event, good event → place.group.nodeIdsContract event.nodeIndex = none →
    conduct.known .keyError
  stores : ∀ event fromNode, good event → place.group.nodeIdsDkg fromNode = event.nodeIndex →
    (DKGClient.storeBroadcastedData
      (event.verificationVector, event.secretKeyContribution) fromNode).Follows conduct

namespace Receptive

variable {place : Place n} {held : Filter → Prop} {good : DKGEvent → Prop}
  (tolerant : Tolerant conduct place) (receptive : Receptive conduct place held good)

include tolerant receptive

abbrev Advances (conduct : DkgConduct n) (place : Place n)
    (body : ClientM n (BroadcastProgress n)) : Prop :=
  body.Obeys conduct conduct.keeps fun progress client =>
    conduct.keeps client ∧ progress.OwnSet place.nodeIdDkg

theorem syncEvent {progress : BroadcastProgress n} {event : DKGEvent} (isGood : good event)
    (own : progress.OwnSet place.nodeIdDkg) :
    Advances conduct place (syncEvent progress event) := by
  apply obeys_read_bind
  intro client kept
  have group : client.group = place.group := congrArg Place.group (tolerant.placed client kept)
  rw [id, group]
  apply obeys_getOr_bind (receptive.finds event isGood) fun _ kept => kept
  intro fromNode found
  split
  · exact obeys_pure fun _ kept => ⟨kept, own⟩
  apply obeys_attempt
  · apply obeys_bind fun _ => conduct.keeps
    · apply follows_bind
        (receptive.stores event fromNode isGood (Group.nodeIdsContract_eq_some.mp found))
      intro _
      exact tolerant.verifyReceived fromNode
    intro _
    exact obeys_pure fun _ kept =>
      ⟨kept, ownSet_markCorrect (ownSet_markReceived own fromNode) fromNode event.nodeIndex⟩
  · intro error clause _ handled
    cases error <;> cases handled
    exact obeys_pure fun _ kept => ⟨kept, ownSet_markReceived own fromNode⟩

theorem syncEvents {events : List DKGEvent} (areGood : ∀ event ∈ events, good event)
    {progress : BroadcastProgress n} (own : progress.OwnSet place.nodeIdDkg) :
    Advances conduct place (syncEvents events progress) := by
  induction events generalizing progress with
  | nil => exact obeys_pure fun _ kept => ⟨kept, own⟩
  | cons event rest ih =>
      apply obeys_bind _ (receptive.syncEvent tolerant (areGood event List.mem_cons_self) own)
      intro progress
      apply Procedure.obeys_of_fact
      intro own
      exact ih (fun event member => areGood event (List.mem_cons_of_mem _ member)) own

/-- Between the rounds of `receive_broadcast_data`. -/
abbrev Polls (conduct : DkgConduct n) (held : Filter → Prop) (place : Place n)
    (progress : BroadcastResult n) (state : DKGClient n × Filter) : Prop :=
  (conduct.beside held).keeps state ∧ progress.OwnSet place.nodeIdDkg

theorem syncBroadcastData {progress : BroadcastProgress n}
    (own : progress.OwnSet place.nodeIdDkg) :
    (syncBroadcastData progress).Obeys (conduct.beside held) (conduct.beside held).keeps
      fun progress state => Polls conduct held place progress.toBroadcastResult state := by
  apply obeys_bind fun _ => (conduct.beside held).keeps
  · exact Procedure.obeys_onFirst held (tolerant.invoke (tolerant.plain _ rfl))
  intro everyone
  apply obeys_bind _ (Procedure.obeys_onSecond (receptive.scans everyone))
  intro events
  apply Procedure.obeys_of_fact
  intro areGood
  have synced := Procedure.obeys_onFirst held (receptive.syncEvents tolerant areGood own)
  apply synced.weaken
  intro progress state ends
  exact ⟨⟨ends.1.1, ends.2⟩, ends.1.2⟩

theorem receiveRound (startTime : Int) (progress : BroadcastProgress n) :
    (receiveRound startTime progress).Obeys (conduct.beside held)
      (Polls conduct held place progress.toBroadcastResult)
      (Procedure.AfterRound
        (fun progress : BroadcastProgress n =>
          Polls conduct held place progress.toBroadcastResult)
        (Polls conduct held place)) := by
  unfold Dkg.receiveRound
  split
  · exact obeys_pure fun _ polled => polled
  apply Procedure.obeys_of_fact
  intro own
  apply obeys_read_bind
  intro state _
  have allowed : (conduct.beside held).allowed DkgQuery.getLatestBlockTimestamp :=
    tolerant.plain _ rfl
  apply Procedure.obeys_invoke_bind allowed
  · intro state error kept expected
    exact ⟨tolerant.fails _ error expected, kept⟩
  intro now _
  apply obeys_bind _ (receptive.syncBroadcastData tolerant own)
  intro progress
  split
  · exact obeys_pure fun _ polled => polled
  have rests : (conduct.beside held).allowed (DkgQuery.sleep BROADCAST_DATA_SEARCH_SLEEP) :=
    tolerant.plain _ rfl
  apply obeys_bind fun _ => Polls conduct held place progress.toBroadcastResult
  · apply obeys_bind _ (Procedure.obeys_ask rests fun _ _ polled => polled)
    intro _
    exact obeys_pure fun _ polled => polled
  · intro _
    exact obeys_pure fun _ polled => polled

theorem receiveBroadcastData (fuel : Nat) :
    (receiveBroadcastData fuel : ClientM n (BroadcastResult n)).Obeys conduct conduct.keeps
      fun result client => conduct.keeps client ∧ result.OwnSet place.nodeIdDkg := by
  apply obeys_read_bind
  intro client kept
  apply tolerant.plain_bind rfl
  intro startTime
  apply obeys_bind fun result client =>
    conduct.keeps client ∧ BroadcastResult.OwnSet result.1 place.nodeIdDkg
  · apply Procedure.obeys_withLocal held
    have looped := Procedure.obeys_iterate
      (fun progress : BroadcastProgress n =>
        Polls conduct held place progress.toBroadcastResult)
      (fun _ _ polled => polled.1) (receptive.receiveRound tolerant startTime) fuel
      (BroadcastProgress.start client.nodeIdDkg)
    have node : client.nodeIdDkg = place.nodeIdDkg :=
      congrArg Place.nodeIdDkg (tolerant.placed client kept)
    have own := ownSet_start client.nodeIdDkg
    rw [node] at own looped
    rw [id, node]
    apply Obeys.strengthen (looped.weaken fun result state ends => ⟨ends.1.1, ends.2⟩)
    rintro ⟨other, filter⟩ ⟨keptToo, rfl⟩
    exact ⟨⟨keptToo, receptive.starts client kept⟩, own⟩
  · intro result
    exact obeys_pure fun _ ends => ends

theorem storeEvents {events : List DKGEvent} (areGood : ∀ event ∈ events, good event) :
    (DKGClient.storeEvents events : ClientM n Unit).Follows conduct := by
  induction events with
  | nil => exact follows_pure _
  | cons event rest ih =>
      apply follows_read_bind
      intro client kept
      have group : client.group = place.group := congrArg Place.group (tolerant.placed client kept)
      rw [id, group]
      apply follows_getOr_bind (receptive.finds event (areGood event List.mem_cons_self))
      intro fromNode found
      apply follows_bind (receptive.stores event fromNode (areGood event List.mem_cons_self)
        (Group.nodeIdsContract_eq_some.mp found))
      intro _
      exact ih fun event member => areGood event (List.mem_cons_of_mem _ member)

theorem fetchAllBroadcastedData :
    (DKGClient.fetchAllBroadcastedData : ClientM n Unit).Follows conduct := by
  apply follows_read_bind
  intro client kept
  apply obeys_bind fun (result : List DKGEvent × Filter) client =>
    conduct.keeps client ∧ ∀ event ∈ result.1, good event
  · apply Procedure.obeys_withLocal held
    have scans : (Procedure.onSecond (Filter.getEvents true)).Obeys (conduct.beside held)
        (conduct.beside held).keeps fun events state =>
          (conduct.beside held).keeps state ∧ ∀ event ∈ events, good event :=
      Procedure.obeys_onSecond (receptive.scans true)
    apply Obeys.strengthen (scans.weaken fun _ _ ends => ⟨ends.1.1, ends.2⟩)
    rintro ⟨other, filter⟩ ⟨keptToo, rfl⟩
    exact ⟨keptToo, receptive.starts client kept⟩
  · rintro ⟨events, filter⟩
    apply Procedure.obeys_of_fact
    exact receptive.storeEvents tolerant

end Receptive

end SkaleAdmin.Dkg
