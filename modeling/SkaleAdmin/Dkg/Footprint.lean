import SkaleAdmin.Dkg.FilterCoverage
import SkaleAdmin.Dkg.Main

/-! What the parts of `init_bls` that neither collect broadcasts nor send the
alright may ask and change. -/

namespace SkaleAdmin.Dkg

open Interaction PyText
open Interaction.Procedure (within_invoke)

variable {n : Nat}

/-- All calls but those of the alright, the count of the completed nodes, the
receipts of a scan, the verification of a share and the common public key. -/
def DkgQuery.isRoutine : DkgQuery → Bool
  | .alright _ | .isAlrightPossible _ | .getCommonPublicKey | .getNumberOfCompleted
  | .getTransactionReceipt _ | .verifySecretShareV2 .. => false
  | _ => true

def DkgQuery.isDecision : DkgQuery → Bool
  | .alright _ | .isAlrightPossible _ => true
  | _ => false

def DkgQuery.isVerification : DkgQuery → Bool
  | .verifySecretShareV2 .. => true
  | _ => false

def DkgQuery.isPoll (query : DkgQuery) : Bool :=
  query.isScan || query.isVerification

structure Place (n : Nat) where
  group : Group n
  nodeIdDkg : Fin n
  groupIndex : Text
  dkgContractAddress : Text

def DKGClient.place (client : DKGClient n) : Place n where
  group := client.group
  nodeIdDkg := client.nodeIdDkg
  groupIndex := client.groupIndex
  dkgContractAddress := client.dkgContractAddress

/-- The place together with the broadcasts the client holds. -/
structure Held (n : Nat) extends Place n where
  incomingVerificationVector : Fin n → VerificationVector
  incomingSecretKeyContribution : Fin n → Text

def DKGClient.held (client : DKGClient n) : Held n where
  toPlace := client.place
  incomingVerificationVector := client.incomingVerificationVector
  incomingSecretKeyContribution := client.incomingSecretKeyContribution

/-- Only routine calls, and the broadcasts held stay as they are. -/
def quiet : Frame dkgInterface (DKGClient n) :=
  Frame.confined (fun query => query.isRoutine = true) DKGClient.held

section Quiet

theorem confined_invoke {σ κ : Type} {allowed : DkgQuery → Prop} {view : σ → κ}
    {query : DkgQuery} (permitted : allowed query) :
    (invoke query : DkgM σ query.Reply).Within (.confined allowed view) := by
  apply within_invoke
  intro answer state
  refine ⟨?_, rfl⟩
  intro event member
  rw [List.mem_singleton.mp member]
  exact permitted

theorem quiet_invoke {query : DkgQuery} (routine : query.isRoutine = true) :
    (invoke query : ClientM n query.Reply).Within quiet :=
  confined_invoke routine

theorem quiet_modify {change : DKGClient n → DKGClient n}
    (kept : ∀ client, (change client).held = client.held) :
    (Procedure.modify change : ClientM n Unit).Within quiet := by
  apply Procedure.within_modify
  intro client
  exact ⟨fun event member => absurd member List.not_mem_nil, kept client⟩

theorem within_getOr {σ α : Type} {frame : Frame dkgInterface σ}
    (error : PyError) (option : Option α) :
    (getOr error option : DkgM σ α).Within frame := by
  cases option with
  | none => exact Procedure.within_raise error
  | some value => exact Procedure.within_pure value

theorem within_liftExcept {α : Type} {frame : Frame dkgInterface (DKGClient n)}
    (result : Except PyError α) :
    (DKGClient.liftExcept result : ClientM n α).Within frame := by
  cases result with
  | ok value => exact Procedure.within_pure value
  | error error => exact Procedure.within_raise error

section Sleeping

variable {σ κ α : Type} {allowed : DkgQuery → Prop} {view : σ → κ}
  (rests : ∀ seconds, allowed (.sleep seconds))

include rests

theorem within_sleep (seconds : Nat) :
    (sleep seconds : DkgM σ Unit).Within (.confined allowed view) := by
  apply Procedure.within_bind _ fun _ => Procedure.within_pure _
  apply Procedure.within_ask
  intro answer state
  refine ⟨?_, rfl⟩
  intro event member
  rw [List.mem_singleton.mp member]
  exact rests seconds

theorem within_retryUnreachable {func : DkgM σ α}
    (funcWithin : func.Within (.confined allowed view)) (retries : Nat) :
    (retryUnreachable func retries).Within (.confined allowed view) := by
  induction retries with
  | zero =>
      apply Procedure.within_attempt funcWithin
      intro error clause handled
      cases error <;> cases handled
      exact Procedure.within_bind (within_sleep rests _) fun _ => Procedure.within_raise _
  | succ retries ih =>
      apply Procedure.within_attempt funcWithin
      intro error clause handled
      cases error <;> cases handled
      exact Procedure.within_bind (within_sleep rests _) fun _ => ih

theorem within_sgxUnreachableRetry {func : DkgM σ α}
    (funcWithin : func.Within (.confined allowed view)) :
    (sgxUnreachableRetry func).Within (.confined allowed view) :=
  within_retryUnreachable rests funcWithin _

end Sleeping

theorem sleep_quiet (seconds : Nat) :
    (sleep seconds : ClientM n Unit).Within quiet :=
  within_sleep (fun _ => rfl) seconds

theorem setStep_quiet (step : DKGStep) :
    (DKGClient.setStep step : ClientM n Unit).Within quiet :=
  quiet_modify fun _ => rfl

theorem isChannelOpened_quiet :
    (DKGClient.isChannelOpened : ClientM n Bool).Within quiet :=
  quiet_invoke rfl

theorem reraiseTransaction_quiet {α : Type} (error : PyError)
    (clause : ClientM n α)
    (handled : DKGClient.reraiseTransaction error = some clause) :
    clause.Within quiet := by
  cases error <;> cases handled
  exact Procedure.within_raise _

theorem client_sendComplaint_quiet (toNode : Fin n) (reason : ComplaintReason) :
    (DKGClient.sendComplaint toNode reason).Within quiet := by
  apply Procedure.within_bind (Procedure.within_read _)
  intro client
  apply Procedure.within_bind (quiet_invoke rfl)
  intro possible
  apply Procedure.within_bind isChannelOpened_quiet
  intro opened
  split
  · exact Procedure.within_pure _
  apply Procedure.within_attempt _ reraiseTransaction_quiet
  apply Procedure.within_bind
  · unfold DKGClient.complaintTransaction
    split
    · exact quiet_invoke rfl
    · exact quiet_invoke rfl
  intro receipt
  apply Procedure.within_bind (within_getOr _ _)
  intro logs
  apply Procedure.within_bind (within_getOr _ _)
  intro log
  apply Procedure.within_bind (within_liftExcept _)
  intro accepted
  split
  · exact Procedure.within_bind (setStep_quiet _) fun _ => Procedure.within_pure _
  · exact Procedure.within_pure _

theorem checkFailedDkg_quiet (schainName : String) :
    (checkFailedDkg schainName : ClientM n Bool).Within quiet := by
  apply Procedure.within_bind isChannelOpened_quiet
  intro opened
  split
  · exact Procedure.within_pure _
  apply Procedure.within_bind (quiet_invoke rfl)
  intro successful
  split
  · exact Procedure.within_pure _
  apply Procedure.within_bind (quiet_invoke rfl)
  intro time
  split
  · exact Procedure.within_pure _
  · exact Procedure.within_raise _

theorem waitForFail_quiet (fuel : Nat) (schainName : String)
    (channelStartedTime : Int) :
    (waitForFail fuel schainName channelStartedTime :
      ClientM n Unit).Within quiet := by
  apply Procedure.within_bind (quiet_invoke rfl)
  intro startTime
  apply Procedure.within_bind (quiet_invoke rfl)
  intro dkgTimeout
  apply Procedure.within_iterate
  intro _
  apply Procedure.within_bind (quiet_invoke rfl)
  intro now
  split
  · exact Procedure.within_pure _
  apply Procedure.within_bind (checkFailedDkg_quiet _)
  intro _
  apply Procedure.within_bind (quiet_invoke rfl)
  intro current
  split
  · exact Procedure.within_bind (sleep_quiet _) fun _ => Procedure.within_pure _
  · exact Procedure.within_raise _

theorem passTransactionError_quiet (error : PyError) (clause : ClientM n Unit)
    (handled : passTransactionError error = some clause) :
    clause.Within quiet := by
  cases error <;> cases handled
  exact Procedure.within_pure _

theorem sendComplaint_quiet (fuel : Nat) (index : Fin n)
    (reason : ComplaintReason) :
    (sendComplaint fuel index reason).Within quiet := by
  apply Procedure.within_bind (Procedure.within_read _)
  intro client
  apply Procedure.within_bind (quiet_invoke rfl)
  intro channelStartedTime
  apply Procedure.within_attempt _ passTransactionError_quiet
  apply Procedure.within_bind (client_sendComplaint_quiet _ _)
  intro sent
  split
  · exact waitForFail_quiet _ _ _
  · exact Procedure.within_pure _

theorem reportBadData_quiet (fuel : Nat) (index : Fin n) :
    (reportBadData fuel index).Within quiet := by
  apply Procedure.within_bind (Procedure.within_read _)
  intro client
  apply Procedure.within_attempt _ passTransactionError_quiet
  apply Procedure.within_bind (quiet_invoke rfl)
  intro channelStartedTime
  apply Procedure.within_bind (client_sendComplaint_quiet _ _)
  intro sent
  split
  · apply Procedure.within_bind (waitForFail_quiet _ _ _)
    intro _
    apply Procedure.within_bind (client_sendComplaint_quiet _ _)
    intro _
    exact waitForFail_quiet _ _ _
  · exact Procedure.within_pure _

theorem checkBroadcastFrom_quiet (fuel : Nat) (result : BroadcastResult n)
    (nodes : List (Fin n)) :
    (checkBroadcastFrom fuel result nodes).Within quiet := by
  induction nodes with
  | nil => exact Procedure.within_pure _
  | cons i rest ih =>
      unfold checkBroadcastFrom
      split
      · exact sendComplaint_quiet _ _ _
      split
      · exact reportBadData_quiet _ _
      · exact ih

theorem getComplaintResponse_quiet (toNodeIndex : Nat) :
    (DKGClient.getComplaintResponse toNodeIndex :
      ClientM n (G2Point × Text × List (List Text))).Within quiet := by
  apply within_sgxUnreachableRetry fun _ => rfl
  apply Procedure.within_bind (Procedure.within_read _)
  intro client
  apply Procedure.within_bind (within_getOr _ _)
  intro index
  apply Procedure.within_bind (quiet_invoke rfl)
  intro response
  apply Procedure.within_bind (within_liftExcept _)
  intro share
  exact Procedure.within_pure _

theorem sendResponse_quiet (share : G2Point) (dhKey : Text)
    (verificationVectorMult : List (List Text)) :
    (DKGClient.sendResponse share dhKey verificationVectorMult :
      ClientM n Unit).Within quiet := by
  apply Procedure.within_bind (Procedure.within_read _)
  intro client
  apply Procedure.within_bind (within_liftExcept _)
  intro ownVector
  apply Procedure.within_bind (within_liftExcept _)
  intro multVector
  apply Procedure.within_bind (within_getOr _ _)
  intro sent
  apply Procedure.within_bind (within_getOr _ _)
  intro keyShares
  apply Procedure.within_bind (quiet_invoke rfl)
  intro _
  apply Procedure.within_bind (setStep_quiet _)
  intro _
  apply Procedure.within_bind (quiet_invoke rfl)
  intro possible
  split
  · exact Procedure.within_pure _
  apply Procedure.within_bind isChannelOpened_quiet
  intro opened
  split
  · exact Procedure.within_pure _
  apply Procedure.within_bind (within_getOr _ _)
  intro key
  apply Procedure.within_bind (quiet_invoke rfl)
  intro _
  exact setStep_quiet _

theorem response_quiet (toNodeIndex : Nat) :
    (response toNodeIndex : ClientM n Unit).Within quiet := by
  apply Procedure.within_attempt
  · apply Procedure.within_bind (Procedure.within_read _)
    intro client
    apply Procedure.within_bind (quiet_invoke rfl)
    intro possible
    split
    · exact Procedure.within_pure _
    apply Procedure.within_bind isChannelOpened_quiet
    intro opened
    split
    · exact Procedure.within_pure _
    apply Procedure.within_bind (getComplaintResponse_quiet _)
    intro answer
    apply Procedure.within_attempt (sendResponse_quiet _ _ _)
    exact reraiseTransaction_quiet
  · intro error clause handled
    cases error <;> cases handled
    · exact Procedure.within_pure _
    · exact Procedure.within_pure _

theorem checkNoComplaints_quiet :
    (checkNoComplaints : ClientM n Bool).Within quiet := by
  apply Procedure.within_bind (quiet_invoke rfl)
  intro complaintData
  exact Procedure.within_pure _

theorem checkResponse_quiet (fuel : Nat) :
    (checkResponse fuel : ClientM n Unit).Within quiet := by
  apply Procedure.within_bind (Procedure.within_read _)
  intro client
  apply Procedure.within_bind (quiet_invoke rfl)
  intro complaintData
  split
  · apply Procedure.within_bind (quiet_invoke rfl)
    intro channelStartedTime
    apply Procedure.within_bind (response_quiet _)
    intro _
    exact waitForFail_quiet _ _ _
  · exact Procedure.within_pure _

theorem isAllDataReceived_quiet (fromNode : Fin n) :
    (DKGClient.isAllDataReceived fromNode).Within quiet := by
  apply Procedure.within_bind (Procedure.within_read _)
  intro client
  exact quiet_invoke rfl

theorem initBlsAwait_quiet (fuel : Nat) (channelStartedTime : Int) :
    (initBlsAwait fuel channelStartedTime : ClientM n Unit).Within quiet := by
  apply Procedure.within_bind (Procedure.within_read _)
  intro client
  apply Procedure.within_bind
  · apply Procedure.within_bind (Procedure.within_read _)
    intro client
    apply Procedure.within_bind (quiet_invoke rfl)
    intro everyone
    split
    · exact Procedure.within_pure _
    · exact waitForFail_quiet _ _ _
  intro _
  exact Procedure.within_bind (checkFailedDkg_quiet _) fun _ =>
    Procedure.within_pure _

theorem refreshAlright_quiet (nodes : List (Fin n)) (sent : Fin n → Bool) :
    (refreshAlright nodes sent).Within quiet := by
  induction nodes generalizing sent with
  | nil => exact Procedure.within_pure _
  | cons fromNode rest ih =>
      unfold refreshAlright
      split
      · apply Procedure.within_bind (isAllDataReceived_quiet _)
        intro received
        exact ih _
      · exact ih _

theorem alrightRound_quiet (startTimeAlright : Int) (sent : Fin n → Bool) :
    (alrightRound startTimeAlright sent).Within quiet := by
  unfold alrightRound
  split
  · exact Procedure.within_pure _
  apply Procedure.within_bind (Procedure.within_read _)
  intro client
  apply Procedure.within_bind (checkFailedDkg_quiet _)
  intro _
  apply Procedure.within_bind checkNoComplaints_quiet
  intro noComplaints
  split
  · exact Procedure.within_pure _
  apply Procedure.within_bind (quiet_invoke rfl)
  intro now
  split
  · exact Procedure.within_pure _
  apply Procedure.within_bind (refreshAlright_quiet _ _)
  intro sent
  exact Procedure.within_bind (sleep_quiet _) fun _ => Procedure.within_pure _

theorem complainFrom_quiet (fuel : Nat) (sent : Fin n → Bool)
    (nodes : List (Fin n)) : (complainFrom fuel sent nodes).Within quiet := by
  induction nodes with
  | nil => exact Procedure.within_pure _
  | cons i rest ih =>
      apply Procedure.within_bind _ fun _ => ih
      apply Procedure.within_bind (Procedure.within_read _)
      intro client
      split
      · exact sendComplaint_quiet _ _ _
      · exact Procedure.within_pure _

theorem initBlsCollectAlright_quiet (fuel : Nat) (sent : Fin n → Bool) :
    (initBlsCollectAlright fuel sent).Within quiet := by
  apply Procedure.within_bind (Procedure.within_read _)
  intro client
  apply Procedure.within_bind (checkFailedDkg_quiet _)
  intro _
  apply Procedure.within_bind (checkResponse_quiet _)
  intro _
  apply Procedure.within_bind (quiet_invoke rfl)
  intro startTimeAlright
  apply Procedure.within_bind
    (Procedure.within_iterate (alrightRound_quiet _) _ _)
  intro sent
  apply Procedure.within_bind
  · apply Procedure.within_bind checkNoComplaints_quiet
    intro noComplaints
    split
    · exact complainFrom_quiet _ _ _
    · exact Procedure.within_pure _
  intro _
  exact Procedure.within_bind (checkResponse_quiet _) fun _ =>
    Procedure.within_pure _

theorem initBlsResolveComplaint_quiet (fuel : Nat) (channelStartedTime : Int) :
    (initBlsResolveComplaint fuel channelStartedTime :
      ClientM n Unit).Within quiet := by
  apply Procedure.within_bind (Procedure.within_read _)
  intro client
  apply Procedure.within_bind checkNoComplaints_quiet
  intro noComplaints
  split
  · apply Procedure.within_bind (checkResponse_quiet _)
    intro _
    apply Procedure.within_bind (quiet_invoke rfl)
    intro complaintData
    apply Procedure.within_bind (within_getOr _ _)
    intro complaintedNodeIndex
    apply Procedure.within_bind (waitForFail_quiet _ _ _)
    intro _
    apply Procedure.within_bind (checkFailedDkg_quiet _)
    intro open'
    split
    · exact Procedure.within_bind (sendComplaint_quiet _ _ _) fun _ =>
        waitForFail_quiet _ _ _
    · exact Procedure.within_pure _
  · exact Procedure.within_pure _

end Quiet

/-- Only routine calls and those of `extra`, and the broadcasts held stay. -/
def beside (extra : DkgQuery → Prop) : Frame dkgInterface (DKGClient n) :=
  Frame.confined (fun query => query.isRoutine = true ∨ extra query)
    DKGClient.held

section Beside

variable {α : Type} {extra : DkgQuery → Prop}

theorem within_beside_of_quiet {body : ClientM n α}
    (within : body.Within quiet) : body.Within (beside extra) :=
  Procedure.within_confined_mono id within
    (fun _ routine => .inl routine) fun _ => rfl

theorem initBlsAlright_beside :
    (initBlsAlright : ClientM n (Fin n → Bool)).Within
      (beside fun query => query.isDecision = true) := by
  apply Procedure.within_bind (Procedure.within_read _)
  intro client
  apply Procedure.within_bind (within_beside_of_quiet checkNoComplaints_quiet)
  intro noComplaints
  split
  · apply Procedure.within_bind
    · apply Procedure.within_bind (Procedure.within_read _)
      intro client
      apply Procedure.within_bind
        (within_beside_of_quiet (isAllDataReceived_quiet _))
      intro received
      split
      · exact within_beside_of_quiet (setStep_quiet _)
      apply Procedure.within_bind (Procedure.within_read _)
      intro client
      apply Procedure.within_bind (confined_invoke (.inr rfl))
      intro possible
      split
      · exact Procedure.within_pure _
      apply Procedure.within_bind (within_beside_of_quiet isChannelOpened_quiet)
      intro opened
      split
      · exact Procedure.within_pure _
      apply Procedure.within_bind (confined_invoke (.inr rfl))
      intro _
      exact within_beside_of_quiet (setStep_quiet _)
    intro _
    exact Procedure.within_pure _
  · exact Procedure.within_pure _

theorem initBlsFinish_beside (fuel : Nat) (channelStartedTime : Int)
    (sent : Fin n → Bool) :
    (initBlsFinish fuel channelStartedTime sent).Within
      (beside fun query => query = .getNumberOfCompleted) := by
  apply Procedure.within_bind (Procedure.within_read _)
  intro client
  apply Procedure.within_bind
    (within_beside_of_quiet (initBlsCollectAlright_quiet _ _))
  intro sent
  apply Procedure.within_bind
  · apply Procedure.within_bind (Procedure.within_read _)
    intro client
    apply Procedure.within_bind
    · apply Procedure.within_bind (confined_invoke (.inr rfl))
      intro completed
      exact Procedure.within_pure _
    intro everyone
    split
    · apply Procedure.within_bind
        (within_beside_of_quiet checkNoComplaints_quiet)
      intro noComplaints
      split
      · exact within_beside_of_quiet (waitForFail_quiet _ _ _)
      · exact Procedure.within_pure _
    · exact Procedure.within_pure _
  intro _
  apply Procedure.within_bind
    (within_beside_of_quiet (initBlsResolveComplaint_quiet _ _))
  intro _
  split
  · exact Procedure.within_pure _
  · exact Procedure.within_raise _

end Beside

def settled : Frame dkgInterface (DKGClient n) :=
  Frame.confined (fun query => query.isRoutine = true) DKGClient.place

def verifying : Frame dkgInterface (DKGClient n) :=
  Frame.confined
    (fun query => query.isRoutine = true ∨ query.isVerification = true) DKGClient.place

/-- Only routine calls and that for the common public key, and the client keeps
its place. -/
def generating : Frame dkgInterface (DKGClient n) :=
  Frame.confined
    (fun query => query.isRoutine = true ∨ query = .getCommonPublicKey) DKGClient.place

def polling : Frame dkgInterface (DKGClient n) :=
  Frame.confined
    (fun query => query.isRoutine = true ∨ query.isPoll = true) DKGClient.place

section Storing

variable {α : Type}

theorem within_settled_of_quiet {body : ClientM n α}
    (within : body.Within quiet) : body.Within settled :=
  Procedure.within_confined_mono Held.toPlace within
    (fun _ routine => routine) fun _ => rfl

theorem within_polling_of_settled {body : ClientM n α}
    (within : body.Within settled) : body.Within polling :=
  Procedure.within_confined_mono id within
    (fun _ routine => .inl routine) fun _ => rfl

theorem within_verifying_of_settled {body : ClientM n α}
    (within : body.Within settled) : body.Within verifying :=
  Procedure.within_confined_mono id within
    (fun _ routine => .inl routine) fun _ => rfl

theorem within_generating_of_settled {body : ClientM n α}
    (within : body.Within settled) : body.Within generating :=
  Procedure.within_confined_mono id within
    (fun _ routine => .inl routine) fun _ => rfl

theorem within_polling_of_verifying {body : ClientM n α}
    (within : body.Within verifying) : body.Within polling := by
  apply Procedure.within_confined_mono id within _ fun _ => rfl
  rintro query (routine | verification)
  · exact .inl routine
  · exact .inr (by rw [DkgQuery.isPoll, verification, Bool.or_true])

theorem settled_modify {change : DKGClient n → DKGClient n}
    (kept : ∀ client, (change client).place = client.place) :
    (Procedure.modify change : ClientM n Unit).Within settled := by
  apply Procedure.within_modify
  intro client
  exact ⟨fun event member => absurd member List.not_mem_nil, kept client⟩

theorem settled_invoke {query : DkgQuery} (routine : query.isRoutine = true) :
    (invoke query : ClientM n query.Reply).Within settled :=
  within_settled_of_quiet (quiet_invoke routine)

theorem storeBroadcastedData_settled (data : Text × Text) (fromNode : Fin n) :
    (DKGClient.storeBroadcastedData data fromNode).Within settled := by
  apply Procedure.within_bind (Procedure.within_read _)
  intro client
  apply Procedure.within_bind
  · exact settled_modify fun _ => rfl
  intro _
  split
  · apply Procedure.within_bind (within_getOr _ _)
    intro points
    apply Procedure.within_bind
    · exact settled_modify fun _ => rfl
    intro _
    exact settled_modify fun _ => rfl
  · exact settled_modify fun _ => rfl

theorem broadcast_settled :
    (DKGClient.broadcast : ClientM n Unit).Within settled := by
  apply Procedure.within_bind (Procedure.within_read _)
  intro client
  apply Procedure.within_bind
  · apply within_sgxUnreachableRetry fun _ => rfl
    apply Procedure.within_bind
    · exact settled_modify fun _ => rfl
    intro _
    exact settled_invoke rfl
  intro polySuccess
  split
  · exact Procedure.within_raise _
  apply Procedure.within_bind (settled_invoke rfl)
  intro possible
  apply Procedure.within_bind (settled_invoke rfl)
  intro opened
  split
  · exact Procedure.within_pure _
  apply Procedure.within_bind
  · apply within_sgxUnreachableRetry fun _ => rfl
    apply Procedure.within_bind (Procedure.within_read _)
    intro client
    apply Procedure.within_bind (settled_invoke rfl)
    intro vector
    apply Procedure.within_bind
    · exact settled_modify fun _ => rfl
    intro _
    exact within_liftExcept _
  intro verificationVector
  apply Procedure.within_bind
  · apply within_sgxUnreachableRetry fun _ => rfl
    apply Procedure.within_bind (Procedure.within_read _)
    intro client
    apply Procedure.within_bind (settled_invoke rfl)
    intro sent
    apply Procedure.within_bind
    · exact settled_modify fun _ => rfl
    intro _
    apply Procedure.within_bind
    · exact settled_modify fun _ => rfl
    intro _
    exact within_getOr _ _
  intro secretKeyContribution
  apply Procedure.within_bind (settled_invoke rfl)
  intro _
  exact settled_modify fun _ => rfl

theorem ensureBroadcast_settled :
    (ensureBroadcast : ClientM n Unit).Within settled := by
  apply Procedure.within_bind
  · apply Procedure.within_bind (Procedure.within_read _)
    intro client
    exact settled_invoke rfl
  intro broadcasted
  split
  · exact settled_modify fun _ => rfl
  · exact broadcast_settled

theorem verification_confined {κ : Type} (view : DKGClient n → κ) (fromNode : Fin n) :
    (DKGClient.verification fromNode).Within
      (.confined (fun query => query.isRoutine = true ∨ query.isVerification = true)
        view) := by
  apply within_sgxUnreachableRetry fun _ => .inl rfl
  apply Procedure.within_bind (Procedure.within_read _)
  intro client
  exact confined_invoke (.inr rfl)

theorem verifyReceived_confined {κ : Type} (view : DKGClient n → κ) (fromNode : Fin n) :
    (DKGClient.verifyReceived fromNode).Within
      (.confined (fun query => query.isRoutine = true ∨ query.isVerification = true)
        view) := by
  apply Procedure.within_bind (Procedure.within_read _)
  intro client
  split
  · exact Procedure.within_pure _
  apply Procedure.within_attempt
  · apply Procedure.within_bind (verification_confined view _)
    intro verified
    split
    · exact Procedure.within_pure _
    · exact Procedure.within_raise _
  · intro error clause handled
    cases error <;> cases handled
    exact Procedure.within_raise _

theorem receiveFromNode_verifying (fromNode : Fin n) (data : Text × Text) :
    (DKGClient.receiveFromNode fromNode data).Within verifying := by
  apply Procedure.within_bind (within_verifying_of_settled (storeBroadcastedData_settled _ _))
  intro _
  exact verifyReceived_confined DKGClient.place _

theorem syncEvent_verifying (progress : BroadcastProgress n) (event : DKGEvent) :
    (syncEvent progress event).Within verifying := by
  apply Procedure.within_bind (Procedure.within_read _)
  intro client
  apply Procedure.within_bind (within_getOr _ _)
  intro fromNode
  split
  · exact Procedure.within_pure _
  apply Procedure.within_attempt
  · apply Procedure.within_bind (receiveFromNode_verifying _ _)
    intro _
    exact Procedure.within_pure _
  · intro error clause handled
    cases error <;> cases handled
    exact Procedure.within_pure _

theorem syncEvents_verifying (events : List DKGEvent)
    (progress : BroadcastProgress n) :
    (syncEvents events progress).Within verifying := by
  induction events generalizing progress with
  | nil => exact Procedure.within_pure _
  | cons event rest ih =>
      apply Procedure.within_bind (syncEvent_verifying _ _)
      intro progress
      exact ih progress

theorem getEvents_confined (fromChannelStartedBlock : Bool) :
    (Filter.getEvents fromChannelStartedBlock).Within
      (Frame.confined (fun query => query.isRoutine = true ∨ query.isPoll = true)
        fun _ => ()) := by
  intro filter filter' trace outcome run
  refine ⟨?_, rfl⟩
  intro event member
  have scans := Filter.getEvents_scans run event member
  exact .inr (by rw [DkgQuery.isPoll, scans, Bool.true_or])

theorem receiveBroadcastData_polling (fuel : Nat) :
    (receiveBroadcastData fuel : ClientM n (BroadcastResult n)).Within
      polling := by
  apply Procedure.within_bind (Procedure.within_read _)
  intro client
  apply Procedure.within_bind (within_polling_of_settled (settled_invoke rfl))
  intro startTime
  apply Procedure.within_bind
  · apply Procedure.within_withLocal
    apply Procedure.within_iterate
    intro progress
    unfold receiveRound
    split
    · exact Procedure.within_pure _
    apply Procedure.within_bind (Procedure.within_read _)
    intro client
    apply Procedure.within_bind
    · exact confined_invoke (.inl rfl)
    intro now
    apply Procedure.within_bind
    · apply Procedure.within_bind
      · apply Procedure.within_onFirst
        exact within_polling_of_settled (settled_invoke rfl)
      intro everyone
      apply Procedure.within_bind
      · exact Procedure.within_onSecond (getEvents_confined _)
      intro events
      apply Procedure.within_onFirst
      exact within_polling_of_verifying (syncEvents_verifying _ _)
    intro progress
    split
    · exact Procedure.within_pure _
    · exact Procedure.within_bind (within_sleep (fun _ => .inl rfl) _) fun _ =>
        Procedure.within_pure _
  intro result
  exact Procedure.within_pure _

theorem initBlsBroadcast_polling (fuel rotationId : Nat) :
    (initBlsBroadcast fuel rotationId :
      ClientM n (Int × BroadcastResult n)).Within polling := by
  apply Procedure.within_bind (Procedure.within_read _)
  intro client
  apply Procedure.within_bind (confined_invoke (.inl rfl))
  intro channelStartedTime
  apply Procedure.within_bind (confined_invoke (.inl rfl))
  intro rotationMainnet
  split
  · exact Procedure.within_raise _
  apply Procedure.within_bind
  · apply Procedure.within_bind (within_polling_of_settled ensureBroadcast_settled)
    intro _
    apply Procedure.within_bind (receiveBroadcastData_polling _)
    intro result
    apply Procedure.within_bind
    · apply within_polling_of_settled
      exact within_settled_of_quiet (checkBroadcastFrom_quiet _ _ _)
    intro _
    apply Procedure.within_bind
    · apply within_polling_of_settled
      exact within_settled_of_quiet (setStep_quiet _)
    intro _
    exact Procedure.within_pure _
  intro result
  exact Procedure.within_pure _

theorem storeEvents_settled (events : List DKGEvent) :
    (DKGClient.storeEvents events : ClientM n Unit).Within settled := by
  induction events with
  | nil => exact Procedure.within_pure _
  | cons event rest ih =>
      apply Procedure.within_bind (Procedure.within_read _)
      intro client
      apply Procedure.within_bind (within_getOr _ _)
      intro fromNode
      apply Procedure.within_bind (storeBroadcastedData_settled _ _)
      intro _
      exact ih

theorem fetchAllBroadcastedData_polling :
    (DKGClient.fetchAllBroadcastedData : ClientM n Unit).Within polling := by
  apply Procedure.within_bind (Procedure.within_read _)
  intro client
  apply Procedure.within_bind
  · apply Procedure.within_withLocal
    exact Procedure.within_onSecond (getEvents_confined _)
  intro events
  exact within_polling_of_settled (storeEvents_settled _)

theorem fetchBlsPublicKeyOnce_settled :
    (DKGClient.fetchBlsPublicKeyOnce : ClientM n Unit).Within settled := by
  apply Procedure.within_bind (Procedure.within_read _)
  intro client
  apply Procedure.within_bind (settled_invoke rfl)
  intro key
  exact settled_modify fun _ => rfl

theorem absentKey_settled (error : PyError) (clause : ClientM n Bool)
    (handled : DKGClient.absentKey error = some clause) :
    clause.Within settled := by
  unfold DKGClient.absentKey at handled
  split at handled
  · split at handled
    · obtain rfl := Option.some.inj handled
      exact Procedure.within_pure _
    · cases handled
  · cases handled

theorem obtainBlsKey_settled : (obtainBlsKey : ClientM n Unit).Within settled := by
  apply Procedure.within_bind
  · apply within_sgxUnreachableRetry fun _ => rfl
    apply Procedure.within_bind (Procedure.within_read _)
    intro client
    apply Procedure.within_attempt _ absentKey_settled
    apply Procedure.within_bind (settled_invoke rfl)
    intro _
    exact Procedure.within_pure _
  intro generated
  split
  · exact within_sgxUnreachableRetry (fun _ => rfl) fetchBlsPublicKeyOnce_settled
  apply Procedure.within_bind
  · apply within_sgxUnreachableRetry fun _ => rfl
    apply Procedure.within_bind (Procedure.within_read _)
    intro client
    apply Procedure.within_bind (settled_invoke rfl)
    intro key
    apply Procedure.within_bind fetchBlsPublicKeyOnce_settled
    intro _
    exact Procedure.within_pure _
  intro _
  exact Procedure.within_pure _

theorem getBlsPublicKeys_settled :
    (DKGClient.getBlsPublicKeys : ClientM n (List (List Text))).Within settled := by
  apply within_sgxUnreachableRetry fun _ => rfl
  apply Procedure.within_bind (Procedure.within_read _)
  intro client
  apply Procedure.within_bind (within_getOr _ _)
  intro own
  apply Procedure.within_bind
  · exact settled_modify fun _ => rfl
  intro _
  apply Procedure.within_bind (Procedure.within_read _)
  intro client
  exact settled_invoke rfl

theorem generateBlsKeys_generating :
    (generateBlsKeys : ClientM n KeysData).Within generating := by
  apply Procedure.within_bind
  · apply Procedure.within_attempt
    · apply Procedure.within_bind (within_generating_of_settled obtainBlsKey_settled)
      intro _
      apply Procedure.within_bind
        (within_generating_of_settled getBlsPublicKeys_settled)
      intro blsPublicKeys
      apply Procedure.within_bind
      · apply Procedure.within_bind (confined_invoke (.inr rfl))
        intro raw
        exact Procedure.within_pure _
      intro commonPublicKey
      exact Procedure.within_pure _
    · intro error clause handled
      obtain rfl := Option.some.inj handled
      exact Procedure.within_raise _
  intro keys
  apply Procedure.within_bind
  · exact within_generating_of_settled (settled_modify fun _ => rfl)
  intro _
  apply Procedure.within_bind (Procedure.within_read _)
  intro client
  apply Procedure.within_bind (within_getOr _ _)
  intro publicKey
  exact Procedure.within_pure _

theorem runDkgKeyGeneration_generating (status : Option DKGStatus) :
    (runDkgKeyGeneration status :
      ClientM n (Option KeysData × Option DKGStatus)).Within generating := by
  unfold runDkgKeyGeneration
  split
  · apply Procedure.within_attempt
    · apply Procedure.within_bind generateBlsKeys_generating
      intro keysData
      exact Procedure.within_pure _
    · intro error clause handled
      cases error <;> cases handled
      exact Procedure.within_pure _
  · exact Procedure.within_pure _

end Storing

end SkaleAdmin.Dkg
