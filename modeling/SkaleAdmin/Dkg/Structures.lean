import SkaleAdmin.Library.InteractionRules
import SkaleAdmin.Library.PyText

/-! Statuses, errors and the calls of the distributed key generation (DKG). -/

namespace SkaleAdmin.Dkg

open Interaction PyText

inductive DKGStatus where
  | NOT_STARTED
  | IN_PROGRESS
  | DONE
  | FAILED
  | KEY_GENERATION_ERROR
  deriving DecidableEq, Repr

def DKGStatus.isDone (status : DKGStatus) : Bool :=
  status == .DONE

inductive DKGStep where
  | NONE
  | BROADCAST
  | BROADCAST_VERIFICATION
  | ALRIGHT
  | ALRIGHT_RECEIVING
  | COMPLAINT_NO_BROADCAST
  | COMPLAINT_BAD_DATA
  | COMPLAINT_NO_ALRIGHT
  | COMPLAINT_NO_RESPONSE
  | PRE_RESPONSE
  | RESPONSE
  | KEY_GENERATION
  deriving DecidableEq, Repr

inductive ComplaintReason where
  | NO_BROADCAST
  | BAD_DATA
  | NO_ALRIGHT
  | NO_RESPONSE
  deriving DecidableEq, Repr

inductive DkgPolyStatus where
  | NEW_GENERATED
  | PREEXISTING
  | FAIL
  deriving DecidableEq, Repr

/-- The exceptions that reach the DKG code; `otherError` is any class that no
clause of it names. -/
inductive PyError where
  | dkgError (message : String)
  | dkgTransactionError (cause : PyError)
  | dkgVerificationError (message : String)
  | sgxDkgPolynomGenerationError (message : String)
  | dkgFailedError (message : String)
  | dkgKeyGenerationError (cause : PyError)
  | sgxUnreachableError (message : String)
  | sgxServerError (message : String)
  | transactionFailedError (message : String)
  | transactionNotFound
  | web3Exception (message : String)
  | valueError
  | typeError
  | keyError
  | indexError
  | attributeError
  | otherError (message : String)
  deriving DecidableEq

namespace PyError

/-- `DkgError` and its subclasses. -/
def isDkgError : PyError → Bool
  | dkgError _ | dkgTransactionError _ | dkgVerificationError _
  | sgxDkgPolynomGenerationError _ | dkgFailedError _
  | dkgKeyGenerationError _ => true
  | _ => false

def isValueOrWeb3Error : PyError → Bool
  | valueError | web3Exception _ | transactionNotFound => true
  | _ => false

end PyError

def orRaise {α : Type} (error : PyError) : Option α → Except PyError α
  | some value => .ok value
  | none => .error error

theorem orRaise_bind_error {α β : Type} {error other : PyError}
    {option : Option α} {next : α → Except PyError β}
    (failed : orRaise error option >>= next = .error other) :
    other = error ∨ ∃ value, option = some value ∧ next value = .error other := by
  cases option with
  | none =>
      cases failed
      exact .inl rfl
  | some value => exact .inr ⟨value, rfl, failed⟩

/-- A point of the curve's group G2 by its four coordinates. -/
structure G2Point where
  xa : Int
  xb : Int
  ya : Int
  yb : Int
  deriving DecidableEq

structure KeyShare where
  publicKey : Text
  share : List Nat
  deriving DecidableEq

/-- A verification vector is held as the text of a broadcast event or as a
list of points, each a list of decimal coordinates. -/
inductive VerificationVector where
  | hex (text : Text)
  | points (coordinates : List (List Text))
  deriving DecidableEq

structure TxLog where
  topics : Option (List Text)
  data : Option Text
  deriving DecidableEq

structure Receipt where
  logs : Option (List TxLog)
  deriving DecidableEq

structure Tx where
  toAddress : Option Text
  hash : Option Text
  deriving DecidableEq

structure Block where
  transactions : List Tx
  deriving DecidableEq

structure SchainNode where
  id : Nat
  publicKey : Text
  deriving DecidableEq

structure ComplaintResponse where
  share : Text
  dhKey : Text
  verificationVectorMult : List (List Text)
  deriving DecidableEq

/-- The calls that leave the DKG code: views and transactions of the contracts
(all about the one group of the client), reads of the chain, SGX requests and
sleeps. -/
inductive DkgQuery where
  | getChannelStartedTime
  | getChannelStartedBlock
  | getAlrightStartedTime
  | getTimeOfLastSuccessfulDkg
  | getNumberOfCompleted
  | getComplaintData
  | isChannelOpened
  | isLastDkgSuccessful
  | isNodeBroadcasted (nodeId : Nat)
  | isEveryoneBroadcasted
  | isAllDataReceived (nodeId : Nat)
  | isBroadcastPossible (nodeId : Nat)
  | isAlrightPossible (nodeId : Nat)
  | isComplaintPossible (fromId toId : Nat)
  | isPreResponsePossible (nodeId : Nat)
  | isResponsePossible (nodeId : Nat)
  | getDkgTimeout
  | getRotationCounter
  | getNodesForSchain
  | getCommonPublicKey
  | getLatestBlockTimestamp
  | getLatestBlockNumber
  | getBlock (number : Nat)
  | getTransactionReceipt (hash : Text)
  | broadcast (nodeId : Nat) (verificationVector : List G2Point)
      (secretKeyContribution : List KeyShare) (rotationId : Nat)
  | alright (nodeId : Nat)
  | complaint (fromId toId : Nat)
  | complaintBadData (fromId toId : Nat)
  | preResponse (nodeId : Nat)
      (verificationVector verificationVectorMult : List G2Point)
      (secretKeyContribution : List KeyShare)
  | response (nodeId : Nat) (dhKey : Int) (share : G2Point)
  | generateDkgPoly (polyName : String)
  | getVerificationVector (polyName : String)
  | getSecretKeyContributionV2 (polyName : String) (publicKeys : List Text)
  | verifySecretShareV2 (verificationVector : VerificationVector)
      (ethKeyName : String) (share : Text) (nodeIdDkg : Nat)
  | getBlsPublicKey (blsName : String)
  | createBlsPrivateKeyV2 (polyName blsName ethKeyName : String)
      (secretKeyContribution : Text)
  | calculateAllBlsPublicKeys (verificationVectors : List VerificationVector)
  | complaintResponse (polyName : String) (nodeIndex : Nat)
  | sleep (seconds : Nat)
  deriving DecidableEq

@[reducible] def DkgQuery.Reply : DkgQuery → Type
  | getChannelStartedBlock | getNumberOfCompleted | getRotationCounter
  | getLatestBlockNumber => Nat
  | getChannelStartedTime | getAlrightStartedTime | getTimeOfLastSuccessfulDkg
  | getDkgTimeout | getLatestBlockTimestamp => Int
  | getComplaintData => Nat × Nat
  | isChannelOpened | isLastDkgSuccessful | isNodeBroadcasted _
  | isEveryoneBroadcasted | isAllDataReceived _ | isBroadcastPossible _
  | isAlrightPossible _ | isComplaintPossible _ _ | isPreResponsePossible _
  | isResponsePossible _ | verifySecretShareV2 .. => Bool
  | getNodesForSchain => List SchainNode
  | getCommonPublicKey => List (List Text)
  | getBlock _ => Block
  | getTransactionReceipt _ | complaint .. | complaintBadData .. => Receipt
  | broadcast .. | alright _ | preResponse .. | response .. | sleep _ => Unit
  | generateDkgPoly _ => DkgPolyStatus
  | getVerificationVector _ => List (List Text)
  | getSecretKeyContributionV2 .. => Text
  | getBlsPublicKey _ => List Text
  | createBlsPrivateKeyV2 .. => Text
  | calculateAllBlsPublicKeys _ => List (List Text)
  | complaintResponse .. => ComplaintResponse

abbrev dkgInterface : Interface :=
  fallible DkgQuery DkgQuery.Reply PyError

/-- A step of the DKG code on a Python object of type `σ`. -/
abbrev DkgM (σ α : Type) := Procedure dkgInterface σ PyError α

abbrev invoke {σ : Type} (query : DkgQuery) : DkgM σ query.Reply :=
  Procedure.invoke query

def sleep {σ : Type} (seconds : Nat) : DkgM σ Unit := do
  let _ ← Procedure.ask (I := dkgInterface) (.sleep seconds)

theorem runs_sleep_iff {σ : Type} {seconds : Nat} {state state' : σ}
    {trace : Trace dkgInterface} {outcome : Outcome PyError Unit} :
    Program.Runs (sleep seconds state) trace (outcome, state') ↔
      ∃ answer, trace = [⟨.sleep seconds, answer⟩] ∧ outcome = .value () ∧
        state' = state := by
  change Program.Runs (.call (DkgQuery.sleep seconds) fun _ =>
    .done (.value (), state)) trace (outcome, state') ↔ _
  rw [Program.runs_call_iff]
  constructor
  · rintro ⟨answer, rest, rfl, ended⟩
    obtain ⟨rfl, same⟩ := Program.runs_done_iff.mp ended
    cases same
    exact ⟨answer, rfl, rfl, rfl⟩
  · rintro ⟨answer, rfl, rfl, rfl⟩
    exact ⟨answer, [], rfl, .done _⟩

def getOr {σ α : Type} (error : PyError) : Option α → DkgM σ α
  | some result => pure result
  | none => Procedure.raise error

@[simp] theorem getOr_some {σ α : Type} {error : PyError} {result : α} :
    (getOr error (some result) : DkgM σ α) = pure result := rfl

@[simp] theorem getOr_none {σ α : Type} {error : PyError} :
    (getOr error none : DkgM σ α) = Procedure.raise error := rfl

end SkaleAdmin.Dkg
