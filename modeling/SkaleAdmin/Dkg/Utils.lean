import SkaleAdmin.Dkg.Client

/-! The phases of the DKG procedure: broadcasts, complaints, waits. -/

namespace SkaleAdmin.Dkg

open Interaction PyText

def UINT_CONSTANT : Nat := 2 ^ 256 - 1

structure BroadcastResult (n : Nat) where
  received : Fin n → Bool
  correct : Fin n → Bool

/-- The accumulators of `receive_broadcast_data`. -/
structure BroadcastProgress (n : Nat) extends BroadcastResult n where
  broadcastsFound : List Nat

variable {n : Nat}

namespace BroadcastProgress

def start (nodeIdDkg : Fin n) : BroadcastProgress n where
  received := Function.update (fun _ => false) nodeIdDkg true
  correct := Function.update (fun _ => false) nodeIdDkg true
  broadcastsFound := []

def markReceived (progress : BroadcastProgress n) (fromNode : Fin n) :
    BroadcastProgress n :=
  { progress with received := Function.update progress.received fromNode true }

def markCorrect (progress : BroadcastProgress n) (fromNode : Fin n)
    (nodeIndex : Nat) : BroadcastProgress n :=
  { progress with
    correct := Function.update progress.correct fromNode true
    broadcastsFound := progress.broadcastsFound ++ [nodeIndex] }

end BroadcastProgress

def keepIncorrect (progress : BroadcastProgress n) :
    PyError → Option (ClientM n (BroadcastProgress n))
  | .dkgVerificationError _ => some (pure progress)
  | _ => none

def syncEvent (progress : BroadcastProgress n) (event : DKGEvent) :
    ClientM n (BroadcastProgress n) := do
  let client ← Procedure.read id
  let fromNode ← getOr .keyError (client.group.nodeIdsContract event.nodeIndex)
  if progress.received fromNode ∧ fromNode ≠ client.nodeIdDkg then
    return progress
  let progress := progress.markReceived fromNode
  Procedure.attempt
    (do
      DKGClient.receiveFromNode fromNode
        (event.verificationVector, event.secretKeyContribution)
      return progress.markCorrect fromNode event.nodeIndex)
    (keepIncorrect progress)

def syncEvents : List DKGEvent → BroadcastProgress n →
    ClientM n (BroadcastProgress n)
  | [], progress => pure progress
  | event :: rest, progress => do
      let progress ← syncEvent progress event
      syncEvents rest progress

abbrev PollM (n : Nat) (α : Type) := DkgM (DKGClient n × Filter) α

def syncBroadcastData (progress : BroadcastProgress n) :
    PollM n (BroadcastProgress n) := do
  let everyone ← Procedure.onFirst DKGClient.isEveryoneBroadcasted
  let events ← Procedure.onSecond (Filter.getEvents everyone)
  Procedure.onFirst (syncEvents events progress)

def BROADCAST_DATA_SEARCH_SLEEP : Nat := 30

def getLatestBlockTimestamp {σ : Type} : DkgM σ Int :=
  invoke .getLatestBlockTimestamp

/-- `False not in flags`. -/
def AllTrue (flags : Fin n → Bool) : Prop := ∀ index, flags index = true

instance (flags : Fin n → Bool) : Decidable (AllTrue flags) :=
  inferInstanceAs (Decidable (∀ index, flags index = true))

def receiveRound (startTime : Int) (progress : BroadcastProgress n) :
    PollM n (BroadcastProgress n ⊕ BroadcastResult n) := do
  if AllTrue progress.received then
    return .inr progress.toBroadcastResult
  let client ← Procedure.read Prod.fst
  let timeGone := (← getLatestBlockTimestamp) - startTime
  let progress ← syncBroadcastData progress
  if timeGone > client.dkgTimeout then
    return .inr progress.toBroadcastResult
  sleep BROADCAST_DATA_SEARCH_SLEEP
  return .inl progress

def receiveBroadcastData (fuel : Nat) : ClientM n (BroadcastResult n) := do
  let client ← Procedure.read id
  let startTime : Int ← invoke .getChannelStartedTime
  let (result, _) ← Procedure.withLocal client.newFilter
    (Procedure.iterate (receiveRound startTime) fuel
      (BroadcastProgress.start client.nodeIdDkg))
  return result

def checkFailedDkg (schainName : String) : ClientM n Bool := do
  if ← DKGClient.isChannelOpened then
    return true
  if ← invoke .isLastDkgSuccessful then
    return true
  let time : Int ← invoke .getTimeOfLastSuccessfulDkg
  if time = 0 then
    return true
  Procedure.raise (.dkgFailedError s!"sChain: {schainName}. Dkg failed")

def waitRound (schainName : String) (channelStartedTime startTime dkgTimeout : Int) :
    ClientM n (Unit ⊕ Unit) := do
  if !decide ((← getLatestBlockTimestamp) - startTime < dkgTimeout) then
    return .inr ()
  let _ ← checkFailedDkg schainName
  let current : Int ← invoke .getChannelStartedTime
  if channelStartedTime = current then
    sleep 30
    return .inl ()
  Procedure.raise (.dkgFailedError
    s!"sChain: {schainName}. Dkg failed due to event FailedDKG")

def waitForFail (fuel : Nat) (schainName : String) (channelStartedTime : Int) :
    ClientM n Unit := do
  let startTime ← getLatestBlockTimestamp
  let dkgTimeout : Int ← invoke .getDkgTimeout
  Procedure.iterate
    (fun _ => waitRound schainName channelStartedTime startTime dkgTimeout)
    fuel ()

def passTransactionError : PyError → Option (ClientM n Unit)
  | .dkgTransactionError _ => some (pure ())
  | _ => none

def sendComplaint (fuel : Nat) (index : Fin n) (reason : ComplaintReason) :
    ClientM n Unit := do
  let client ← Procedure.read id
  let channelStartedTime : Int ← invoke .getChannelStartedTime
  Procedure.attempt
    (do
      if ← DKGClient.sendComplaint index reason then
        waitForFail fuel client.schainName channelStartedTime)
    passTransactionError

def reportBadData (fuel : Nat) (index : Fin n) : ClientM n Unit := do
  let client ← Procedure.read id
  Procedure.attempt
    (do
      let channelStartedTime : Int ← invoke .getChannelStartedTime
      if ← DKGClient.sendComplaint index .BAD_DATA then
        waitForFail fuel client.schainName channelStartedTime
        let _ ← DKGClient.sendComplaint index .NO_RESPONSE
        waitForFail fuel client.schainName channelStartedTime)
    passTransactionError

def logResponseError : PyError → Option (ClientM n Unit)
  | .dkgTransactionError _ | .sgxUnreachableError _ => some (pure ())
  | _ => none

def response (toNodeIndex : Nat) : ClientM n Unit :=
  Procedure.attempt (DKGClient.response toNodeIndex) logResponseError

/-- The loop of `check_broadcast_result`, which stops at the first node whose
broadcast is missing or wrong. -/
def checkBroadcastFrom (fuel : Nat) (result : BroadcastResult n) :
    List (Fin n) → ClientM n Unit
  | [] => pure ()
  | i :: rest =>
      if !result.received i then
        sendComplaint fuel i .NO_BROADCAST
      else if !result.correct i then
        reportBadData fuel i
      else
        checkBroadcastFrom fuel result rest

def checkBroadcastResult (fuel : Nat) (result : BroadcastResult n) :
    ClientM n Unit :=
  checkBroadcastFrom fuel result (List.finRange n)

/-- The first step of `broadcast_and_check_data`. -/
def ensureBroadcast : ClientM n Unit := do
  if ← DKGClient.isNodeBroadcasted then
    DKGClient.setStep .BROADCAST
  else
    DKGClient.broadcast

/-- The local `broadcast_result`, which the source drops here, is returned so
that results can speak of it. -/
def broadcastAndCheckData (fuel : Nat) : ClientM n (BroadcastResult n) := do
  ensureBroadcast
  let broadcastResult ← receiveBroadcastData fuel
  checkBroadcastResult fuel broadcastResult
  DKGClient.setStep .BROADCAST_VERIFICATION
  return broadcastResult

def checkResponse (fuel : Nat) : ClientM n Unit := do
  let client ← Procedure.read id
  let complaintData : Nat × Nat ← invoke .getComplaintData
  if complaintData.1 ≠ complaintData.2 ∧
      complaintData.2 = client.nodeIdContract then
    let channelStartedTime : Int ← invoke .getChannelStartedTime
    response complaintData.1
    waitForFail fuel client.schainName channelStartedTime

def checkNoComplaints : ClientM n Bool := do
  let complaintData : Nat × Nat ← invoke .getComplaintData
  return complaintData.1 == UINT_CONSTANT && complaintData.2 == UINT_CONSTANT

structure KeysData where
  commonPublicKey : List Text
  publicKey : List Text
  blsPublicKeys : List (List Text)
  t : Nat
  n : Nat
  keyShareName : String
  deriving DecidableEq

def getCommonBlsPublicKey : ClientM n (List Text) := do
  let rawCommonPublicKey : List (List Text) ← invoke .getCommonPublicKey
  return rawCommonPublicKey.flatten

/-- `except Exception as err: raise DKGKeyGenerationError(err)`. -/
def wrapKeyGeneration {α : Type} (error : PyError) : Option (ClientM n α) :=
  some (Procedure.raise (.dkgKeyGenerationError error))

def obtainBlsKey : ClientM n Unit := do
  if ← DKGClient.isBlsKeyGenerated then
    DKGClient.fetchBlsPublicKey
  else
    let _ ← DKGClient.generateBlsKey

def generateBlsKeys : ClientM n KeysData := do
  let (blsPublicKeys, commonPublicKey) ← Procedure.attempt
    (do
      obtainBlsKey
      let blsPublicKeys ← DKGClient.getBlsPublicKeys
      let commonPublicKey ← getCommonBlsPublicKey
      return (blsPublicKeys, commonPublicKey))
    wrapKeyGeneration
  DKGClient.setStep .KEY_GENERATION
  let client ← Procedure.read id
  let publicKey ← getOr .attributeError client.publicKey
  return {
    commonPublicKey, publicKey, blsPublicKeys
    t := client.t, n, keyShareName := client.blsName }

end SkaleAdmin.Dkg
