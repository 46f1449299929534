import SkaleAdmin.Dkg.BroadcastFilter
import SkaleAdmin.Dkg.Codec
import Mathlib.Data.List.FinRange
import Mathlib.Logic.Function.Basic
import Mathlib.Algebra.Group.Nat.Defs
import Mathlib.Data.List.Infix

/-! The DKG client of one node of a group and the calls it wraps. -/

namespace SkaleAdmin.Dkg

open Interaction PyText

structure Group (n : Nat) where
  nodeIdsDkg : Fin n → Nat
  distinct : Function.Injective nodeIdsDkg

theorem injective_add (first n : Nat) : Function.Injective fun index : Fin n => first + index := by
  intro index other same
  exact Fin.ext (Nat.add_left_cancel same)

theorem injective_ten : Function.Injective fun index : Fin 2 => 10 + index.val :=
  injective_add 10 2

/-- `node_ids_contract.get(id)`. -/
def Group.nodeIdsContract {n : Nat} (group : Group n) (id : Nat) :
    Option (Fin n) :=
  (List.finRange n).find? fun index => group.nodeIdsDkg index == id

theorem Group.nodeIdsContract_eq_some {n : Nat} {group : Group n} {id : Nat}
    {index : Fin n} :
    group.nodeIdsContract id = some index ↔ group.nodeIdsDkg index = id := by
  constructor
  · intro found
    simpa using List.find?_some found
  · intro same
    unfold nodeIdsContract
    cases found : (List.finRange n).find? fun index =>
        group.nodeIdsDkg index == id with
    | none =>
        have absent := List.find?_eq_none.mp found index (List.mem_finRange index)
        simp [same] at absent
    | some other =>
        have otherSame : group.nodeIdsDkg other = id := by
          simpa using List.find?_some found
        exact congrArg some (group.distinct (otherSame.trans same.symm))

def RETRY_ATTEMPTS : Nat := 14

structure DKGClient (n : Nat) where
  group : Group n
  nodeIdDkg : Fin n
  schainName : String
  groupIndex : Text
  dkgContractAddress : Text
  complaintErrorEventHash : Text
  publicKeys : List Text
  ethKeyName : String
  polyName : String
  blsName : String
  rotationId : Nat
  dkgTimeout : Int
  incomingVerificationVector : Fin n → VerificationVector := fun _ => .hex ['0']
  incomingSecretKeyContribution : Fin n → Text := fun _ => ['0']
  sentSecretKeyContribution : Option Text := none
  publicKey : Option (List Text) := none
  lastCompletedStep : DKGStep := .NONE

abbrev ClientM (n : Nat) (α : Type) := DkgM (DKGClient n) α

/-- The sleep after an attempt with `retries` attempts left, from `TIMEOUTS`. -/
def retryTimeout (retries : Nat) : Nat := 2 ^ (RETRY_ATTEMPTS - 1 - retries)

/-- Go round while SGX is unreachable, `retries` times at most after the first
attempt; also the last attempt is followed by a sleep. -/
def retryUnreachable {σ α : Type} (func : DkgM σ α) : Nat → DkgM σ α
  | 0 =>
      Procedure.attempt func fun error =>
        match error with
        | .sgxUnreachableError _ => some do
            sleep (retryTimeout 0)
            Procedure.raise error
        | _ => none
  | retries + 1 =>
      Procedure.attempt func fun error =>
        match error with
        | .sgxUnreachableError _ => some do
            sleep (retryTimeout (retries + 1))
            retryUnreachable func retries
        | _ => none

def sgxUnreachableRetry {σ α : Type} (func : DkgM σ α) : DkgM σ α :=
  retryUnreachable func (RETRY_ATTEMPTS - 1)

namespace DKGClient

variable {n : Nat}

def t (_ : DKGClient n) : Nat := (2 * n + 1) / 3

def nodeIdContract (client : DKGClient n) : Nat :=
  client.group.nodeIdsDkg client.nodeIdDkg

def setStep (step : DKGStep) : ClientM n Unit :=
  Procedure.modify fun client => { client with lastCompletedStep := step }

def isChannelOpened : ClientM n Bool :=
  invoke .isChannelOpened

def checkComplaintLogs (client : DKGClient n) (logs : TxLog) :
    Except PyError Bool := do
  let topics ← orRaise .keyError logs.topics
  let topic ← orRaise .indexError topics.head?
  return topic != client.complaintErrorEventHash

def storeSecretKeyContribution (fromNode : Fin n) (contribution : Text)
    (client : DKGClient n) : DKGClient n :=
  { client with
    incomingSecretKeyContribution :=
      Function.update client.incomingSecretKeyContribution fromNode contribution }

def storeVerificationVector (fromNode : Fin n) (vector : VerificationVector)
    (client : DKGClient n) : DKGClient n :=
  { client with
    incomingVerificationVector :=
      Function.update client.incomingVerificationVector fromNode vector }

def storeBroadcastedData (data : Text × Text) (fromNode : Fin n) :
    ClientM n Unit := do
  let client ← Procedure.read id
  Procedure.modify (storeSecretKeyContribution fromNode
    (slice data.2 (192 * client.nodeIdDkg) (192 * (client.nodeIdDkg + 1))))
  if fromNode = client.nodeIdDkg then
    let points ← getOr .valueError (convertHexToG2Array data.1)
    Procedure.modify (storeVerificationVector fromNode (.points points))
    Procedure.modify fun client =>
      { client with sentSecretKeyContribution := convertKeyShareToStr data.2 n }
  else
    Procedure.modify (storeVerificationVector fromNode (.hex data.1))

def generatePolynomial (polyName : String) : ClientM n DkgPolyStatus :=
  sgxUnreachableRetry do
    Procedure.modify fun client => { client with polyName }
    invoke (.generateDkgPoly polyName)

/-- An `Except` value inside a method. -/
def liftExcept {α : Type} : Except PyError α → ClientM n α
  | .ok result => pure result
  | .error error => Procedure.raise error

def verificationVector : ClientM n (List G2Point) :=
  sgxUnreachableRetry do
    let client ← Procedure.read id
    let vector ← invoke (.getVerificationVector client.polyName)
    Procedure.modify (storeVerificationVector client.nodeIdDkg (.points vector))
    liftExcept (convertG2PointsToArray (.points vector))

def secretKeyContribution : ClientM n (List KeyShare) :=
  sgxUnreachableRetry do
    let client ← Procedure.read id
    let sent : Text ←
      invoke (.getSecretKeyContributionV2 client.polyName client.publicKeys)
    Procedure.modify fun client => { client with sentSecretKeyContribution := sent }
    Procedure.modify (storeSecretKeyContribution client.nodeIdDkg
      (slice sent (client.nodeIdDkg * 192) ((client.nodeIdDkg + 1) * 192)))
    getOr .valueError (convertStrToKeyShare sent n)

def isNodeBroadcasted : ClientM n Bool := do
  let client ← Procedure.read id
  invoke (.isNodeBroadcasted client.nodeIdContract)

def broadcast : ClientM n Unit := do
  let client ← Procedure.read id
  let polySuccess ← generatePolynomial client.polyName
  if polySuccess = .FAIL then
    Procedure.raise (.sgxDkgPolynomGenerationError
      s!"sChain: {client.schainName}. Sgx dkg polynom generation failed")
  else
    let isBroadcastPossible ← invoke (.isBroadcastPossible client.nodeIdContract)
    let channelOpened ← isChannelOpened
    if !isBroadcastPossible || !channelOpened then
      return ()
    let verificationVector ← verificationVector
    let secretKeyContribution ← secretKeyContribution
    invoke (.broadcast client.nodeIdContract verificationVector
      secretKeyContribution client.rotationId)
    setStep .BROADCAST

def verification (fromNode : Fin n) : ClientM n Bool :=
  sgxUnreachableRetry do
    let client ← Procedure.read id
    invoke (.verifySecretShareV2
      (client.incomingVerificationVector fromNode) client.ethKeyName
      (toVerify (client.incomingSecretKeyContribution fromNode))
      client.nodeIdDkg)

def rewordUnreachable (client : DKGClient n) (fromNode : Fin n) :
    PyError → Option (ClientM n Unit)
  | .sgxUnreachableError _ =>
      some (Procedure.raise (.sgxUnreachableError
        s!"sChain: {client.schainName}. Fatal error : user {fromNode.val + 1} hasn't passed verification by user {client.nodeIdDkg.val + 1}with SgxUnreachableError: "))
  | _ => none

/-- The part of `receive_from_node` after the data was stored. -/
def verifyReceived (fromNode : Fin n) : ClientM n Unit := do
  let client ← Procedure.read id
  if fromNode = client.nodeIdDkg then
    return ()
  Procedure.attempt
    (do
      let verified ← verification fromNode
      if verified then
        return ()
      Procedure.raise (.dkgVerificationError
        s!"sChain: {client.schainName}. Fatal error : user {fromNode.val + 1} hasn't passed verification by user {client.nodeIdDkg.val + 1}"))
    (rewordUnreachable client fromNode)

def receiveFromNode (fromNode : Fin n) (broadcastedData : Text × Text) :
    ClientM n Unit := do
  storeBroadcastedData broadcastedData fromNode
  verifyReceived fromNode

def absentKey : PyError → Option (ClientM n Bool)
  | .sgxServerError message =>
      if "Data with this name does not exist".toList <:+: message.toList then
        some (pure false)
      else none
  | _ => none

theorem absentKey_cases {error : PyError} {clause : ClientM n Bool}
    (handled : absentKey error = some clause) : clause = pure false := by
  unfold absentKey at handled
  split at handled
  · split at handled
    · exact (Option.some.inj handled).symm
    · cases handled
  · cases handled

def isBlsKeyGenerated : ClientM n Bool :=
  sgxUnreachableRetry do
    let client ← Procedure.read id
    Procedure.attempt
      (do
        let _ ← invoke (.getBlsPublicKey client.blsName)
        pure true)
      absentKey

/-- The argument that `generate_bls_key` hands to SGX. -/
def receivedSecretKeyContribution (client : DKGClient n) : Text :=
  ((List.finRange n).map fun j =>
    toVerify (client.incomingSecretKeyContribution j)).flatten

def fetchBlsPublicKeyOnce : ClientM n Unit := do
  let client ← Procedure.read id
  let key ← invoke (.getBlsPublicKey client.blsName)
  Procedure.modify fun client => { client with publicKey := some key }

def generateBlsKey : ClientM n Text :=
  sgxUnreachableRetry do
    let client ← Procedure.read id
    let blsPrivateKey ← invoke (.createBlsPrivateKeyV2 client.polyName
      client.blsName client.ethKeyName client.receivedSecretKeyContribution)
    fetchBlsPublicKeyOnce
    return blsPrivateKey

def fetchBlsPublicKey : ClientM n Unit :=
  sgxUnreachableRetry fetchBlsPublicKeyOnce

def getBlsPublicKeys : ClientM n (List (List Text)) :=
  sgxUnreachableRetry do
    let client ← Procedure.read id
    let own ← getOr .valueError
      (convertG2ArrayToHex (client.incomingVerificationVector client.nodeIdDkg))
    Procedure.modify (storeVerificationVector client.nodeIdDkg (.hex own))
    let client ← Procedure.read id
    invoke (.calculateAllBlsPublicKeys
      ((List.finRange n).map client.incomingVerificationVector))

def alright : ClientM n Unit := do
  let client ← Procedure.read id
  if !(← invoke (.isAlrightPossible client.nodeIdContract)) then
    return ()
  if !(← isChannelOpened) then
    return ()
  invoke (.alright client.nodeIdContract)
  setStep .ALRIGHT

def reasonToStep : ComplaintReason → DKGStep
  | .NO_BROADCAST => .COMPLAINT_NO_BROADCAST
  | .BAD_DATA => .COMPLAINT_BAD_DATA
  | .NO_ALRIGHT => .COMPLAINT_NO_ALRIGHT
  | .NO_RESPONSE => .COMPLAINT_NO_RESPONSE

/-- `except TransactionFailedError as e: raise DkgTransactionError(e)`. -/
def reraiseTransaction {α : Type} : PyError → Option (ClientM n α)
  | .transactionFailedError message =>
      some (Procedure.raise
        (.dkgTransactionError (.transactionFailedError message)))
  | _ => none

/-- The transaction of `send_complaint`. -/
def complaintTransaction (fromId toId : Nat) (reason : ComplaintReason) :
    ClientM n Receipt :=
  if reason = .BAD_DATA then
    invoke (.complaintBadData fromId toId)
  else
    invoke (.complaint fromId toId)

def sendComplaint (toNode : Fin n) (reason : ComplaintReason) :
    ClientM n Bool := do
  let client ← Procedure.read id
  let toId := client.group.nodeIdsDkg toNode
  let isComplaintPossible ←
    invoke (.isComplaintPossible client.nodeIdContract toId)
  let isChannelOpened ← isChannelOpened
  if !isComplaintPossible || !isChannelOpened then
    return false
  Procedure.attempt
    (do
      let receipt ← complaintTransaction client.nodeIdContract toId reason
      let logs ← getOr .keyError receipt.logs
      let log ← getOr .indexError logs.head?
      if ← liftExcept (client.checkComplaintLogs log) then
        setStep (reasonToStep reason)
        return true
      else
        return false)
    reraiseTransaction

/-- Points of a complaint response: `share.split(':')` with its first four
parts converted. -/
def convertShare (share : Text) : Except PyError G2Point :=
  let parts := share.splitOn ':'
  if parts.length < 4 then
    match parts.mapM (parseInt 10) with
    | none => .error .valueError
    | some _ => .error .indexError
  else
    match (parts.take 4).mapM (parseInt 10) with
    | some [xa, xb, ya, yb] =>
        if parts.length = 4 then .ok ⟨xa, xb, ya, yb⟩ else .error .typeError
    | _ => .error .valueError

theorem convertShare_ne (share : Text) (message : String) :
    convertShare share ≠ .error (.sgxUnreachableError message) := by
  unfold convertShare
  simp only []
  split
  · split <;> nofun
  · split
    · split <;> nofun
    · nofun

def getComplaintResponse (toNodeIndex : Nat) :
    ClientM n (G2Point × Text × List (List Text)) :=
  sgxUnreachableRetry do
    let client ← Procedure.read id
    let index ← getOr .keyError (client.group.nodeIdsContract toNodeIndex)
    let response ← invoke (.complaintResponse client.polyName index)
    let share ← liftExcept (convertShare response.share)
    return (share, response.dhKey, response.verificationVectorMult)

/-- The transactions of `response`, the body of its `try`. -/
def sendResponse (share : G2Point) (dhKey : Text)
    (verificationVectorMult : List (List Text)) : ClientM n Unit := do
  let client ← Procedure.read id
  let ownVector ← liftExcept (convertG2PointsToArray
    (client.incomingVerificationVector client.nodeIdDkg))
  let multVector ← liftExcept (convertG2PointsToArray (.points verificationVectorMult))
  let sent ← getOr .attributeError client.sentSecretKeyContribution
  let keyShares ← getOr .valueError (convertStrToKeyShare sent n)
  invoke (.preResponse client.nodeIdContract ownVector multVector keyShares)
  setStep .PRE_RESPONSE
  if !(← invoke (.isResponsePossible client.nodeIdContract)) then
    return ()
  if !(← isChannelOpened) then
    return ()
  let key ← getOr .valueError (parseInt 16 dhKey)
  invoke (.response client.nodeIdContract key share)
  setStep .RESPONSE

def response (toNodeIndex : Nat) : ClientM n Unit := do
  let client ← Procedure.read id
  if !(← invoke (.isPreResponsePossible client.nodeIdContract)) then
    return ()
  if !(← isChannelOpened) then
    return ()
  let (share, dhKey, verificationVectorMult) ← getComplaintResponse toNodeIndex
  Procedure.attempt (sendResponse share dhKey verificationVectorMult)
    reraiseTransaction

def newFilter (client : DKGClient n) : Filter where
  groupIndexStr := client.groupIndex
  dkgContractAddress := client.dkgContractAddress
  n := n

def storeEvents : List DKGEvent → ClientM n Unit
  | [] => pure ()
  | event :: rest => do
      let client ← Procedure.read id
      let fromNode ←
        getOr .keyError (client.group.nodeIdsContract event.nodeIndex)
      storeBroadcastedData
        (event.verificationVector, event.secretKeyContribution) fromNode
      storeEvents rest

def fetchAllBroadcastedData : ClientM n Unit := do
  let client ← Procedure.read id
  let (events, _) ← Procedure.withLocal client.newFilter
    (Procedure.onSecond (Filter.getEvents true))
  storeEvents events

def isAllDataReceived (fromNode : Fin n) : ClientM n Bool := do
  let client ← Procedure.read id
  invoke (.isAllDataReceived (client.group.nodeIdsDkg fromNode))

def isEveryoneBroadcasted : ClientM n Bool :=
  invoke .isEveryoneBroadcasted

def isEveryoneSentAlgright : ClientM n Bool := do
  let completed : Nat ← invoke .getNumberOfCompleted
  return completed == n

end DKGClient

end SkaleAdmin.Dkg
