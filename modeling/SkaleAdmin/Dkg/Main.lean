import SkaleAdmin.Dkg.Utils

/-! `init_bls` and `run_dkg`. -/

namespace SkaleAdmin.Dkg

open Interaction PyText Program
open Interaction.Procedure (runs_invoke_bind_value)

variable {n : Nat}

/-- `init_bls` up to the end of `broadcast_and_check_data`; returns the local
`channel_started_time` and the broadcast result. -/
def initBlsBroadcast (fuel rotationId : Nat) :
    ClientM n (Int × BroadcastResult n) := do
  let client ← Procedure.read id
  let channelStartedTime : Int ← invoke .getChannelStartedTime
  let rotationMainnet : Nat ← invoke .getRotationCounter
  if rotationId ≠ rotationMainnet then
    Procedure.raise (.dkgError s!"sChain {client.schainName}: restarting DKG")
  else
    let broadcastResult ← broadcastAndCheckData fuel
    return (channelStartedTime, broadcastResult)

def awaitBroadcasts (fuel : Nat) (channelStartedTime : Int) :
    ClientM n Unit := do
  let client ← Procedure.read id
  if ← DKGClient.isEveryoneBroadcasted then
    return ()
  waitForFail fuel client.schainName channelStartedTime

/-- The wait for the broadcasts of others and the check of the channel. -/
def initBlsAwait (fuel : Nat) (channelStartedTime : Int) : ClientM n Unit := do
  let client ← Procedure.read id
  awaitBroadcasts fuel channelStartedTime
  let _ ← checkFailedDkg client.schainName

def ensureAlright : ClientM n Unit := do
  let client ← Procedure.read id
  if ← DKGClient.isAllDataReceived client.nodeIdDkg then
    DKGClient.setStep .ALRIGHT
  else
    DKGClient.alright

/-- The alright of this node; returns `is_alright_sent_list`. -/
def initBlsAlright : ClientM n (Fin n → Bool) := do
  let client ← Procedure.read id
  if ← checkNoComplaints then
    ensureAlright
    return Function.update (fun _ => false) client.nodeIdDkg true
  else
    return fun _ => false

def refreshAlright : List (Fin n) → (Fin n → Bool) → ClientM n (Fin n → Bool)
  | [], sent => pure sent
  | fromNode :: rest, sent => do
      if !sent fromNode then
        let received ← DKGClient.isAllDataReceived fromNode
        refreshAlright rest (Function.update sent fromNode received)
      else
        refreshAlright rest sent

/-- One round of `while False in is_alright_sent_list`. -/
def alrightRound (startTimeAlright : Int) (sent : Fin n → Bool) :
    ClientM n ((Fin n → Bool) ⊕ (Fin n → Bool)) := do
  if AllTrue sent then
    return .inr sent
  let client ← Procedure.read id
  let _ ← checkFailedDkg client.schainName
  if !(← checkNoComplaints) then
    return .inr sent
  if (← getLatestBlockTimestamp) - startTimeAlright > client.dkgTimeout then
    return .inr sent
  let sent ← refreshAlright (List.finRange n) sent
  sleep 30
  return .inl sent

def complainNoAlright (fuel : Nat) (sent : Fin n → Bool) (i : Fin n) :
    ClientM n Unit := do
  let client ← Procedure.read id
  if !sent i ∧ i ≠ client.nodeIdDkg then
    sendComplaint fuel i .NO_ALRIGHT

def complainFrom (fuel : Nat) (sent : Fin n → Bool) :
    List (Fin n) → ClientM n Unit
  | [] => pure ()
  | i :: rest => do
      complainNoAlright fuel sent i
      complainFrom fuel sent rest

def complainAboutMissing (fuel : Nat) (sent : Fin n → Bool) :
    ClientM n Unit := do
  if ← checkNoComplaints then
    complainFrom fuel sent (List.finRange n)

def initBlsCollectAlright (fuel : Nat) (sent : Fin n → Bool) :
    ClientM n (Fin n → Bool) := do
  let client ← Procedure.read id
  let _ ← checkFailedDkg client.schainName
  checkResponse fuel
  let startTimeAlright : Int ← invoke .getAlrightStartedTime
  let sent ← Procedure.iterate (alrightRound startTimeAlright) fuel sent
  complainAboutMissing fuel sent
  checkResponse fuel
  return sent

/-- The wait when the contract does not count every node as completed. -/
def initBlsAwaitCompletion (fuel : Nat) (channelStartedTime : Int) :
    ClientM n Unit := do
  let client ← Procedure.read id
  if !(← DKGClient.isEveryoneSentAlgright) then
    if ← checkNoComplaints then
      waitForFail fuel client.schainName channelStartedTime

/-- The reaction to a complaint that stands at the end. -/
def initBlsResolveComplaint (fuel : Nat) (channelStartedTime : Int) :
    ClientM n Unit := do
  let client ← Procedure.read id
  if !(← checkNoComplaints) then
    checkResponse fuel
    let complaintData : Nat × Nat ← invoke .getComplaintData
    let complaintedNodeIndex ←
      getOr .keyError (client.group.nodeIdsContract complaintData.2)
    waitForFail fuel client.schainName channelStartedTime
    let complaintItself := complaintedNodeIndex == client.nodeIdDkg
    if (← checkFailedDkg client.schainName) && !complaintItself then
      sendComplaint fuel complaintedNodeIndex .NO_RESPONSE
      waitForFail fuel client.schainName channelStartedTime

/-- `init_bls` after the alright decision. -/
def initBlsFinish (fuel : Nat) (channelStartedTime : Int) (sent : Fin n → Bool) :
    ClientM n Unit := do
  let client ← Procedure.read id
  let sent ← initBlsCollectAlright fuel sent
  initBlsAwaitCompletion fuel channelStartedTime
  initBlsResolveComplaint fuel channelStartedTime
  if AllTrue sent then
    return ()
  else
    Procedure.raise (.dkgError
      s!"sChain: {client.schainName}: Not everyone sent alright")

def initBls (fuel rotationId : Nat) : ClientM n Unit := do
  let (channelStartedTime, _) ← initBlsBroadcast fuel rotationId
  initBlsAwait fuel channelStartedTime
  let sent ← initBlsAlright
  initBlsFinish fuel channelStartedTime sent

def isLastDkgFinished : ClientM n Bool := do
  let nodes : List SchainNode ← invoke .getNodesForSchain
  let numOfNodes := nodes.length
  let completed : Nat ← invoke .getNumberOfCompleted
  return completed == numOfNodes

structure DKGResult where
  status : DKGStatus
  step : DKGStep
  keysData : Option KeysData
  deriving DecidableEq

def failDkg : PyError → Option (ClientM n (Option DKGStatus)) :=
  fun error => if error.isDkgError then some (pure (some .FAILED)) else none

theorem failDkg_cases {error : PyError} {clause : ClientM n (Option DKGStatus)}
    (handled : failDkg error = some clause) : clause = pure (some .FAILED) := by
  unfold failDkg at handled
  split at handled
  · exact (Option.some.inj handled).symm
  · cases handled

/-- The first `try` of `run_dkg`; returns `status`. -/
def runDkgProcedure (fuel rotationId : Nat) : ClientM n (Option DKGStatus) :=
  Procedure.attempt
    (do
      if ← isLastDkgFinished then
        DKGClient.fetchAllBroadcastedData
        return none
      else if ← DKGClient.isChannelOpened then
        if ← DKGClient.isChannelOpened then
          initBls fuel rotationId
          return some .IN_PROGRESS
        else
          return some .FAILED
      else
        return none)
    failDkg

/-- A DKG procedure that goes by without failing: it fetches the broadcasts of a
finished DKG, passes by a closed channel or performs DKG. -/
inductive Unfailed (fuel rotationId : Nat) (client client' : DKGClient n)
    (trace : Trace dkgInterface) : Prop
  | fetched (nodes : List SchainNode) (fetch : Trace dkgInterface)
      (split : trace = ⟨.getNodesForSchain, .ok nodes⟩ ::
        ⟨.getNumberOfCompleted, .ok nodes.length⟩ :: fetch)
      (run : Runs (DKGClient.fetchAllBroadcastedData client) fetch
        (.value (), client'))
  | closed (nodes : List SchainNode) (completed : Nat)
      (incomplete : completed ≠ nodes.length)
      (split : trace = [⟨.getNodesForSchain, .ok nodes⟩,
        ⟨.getNumberOfCompleted, .ok completed⟩, ⟨.isChannelOpened, .ok false⟩])
      (same : client' = client)
  | performed (nodes : List SchainNode) (completed : Nat) (init : Trace dkgInterface)
      (incomplete : completed ≠ nodes.length)
      (split : trace = ⟨.getNodesForSchain, .ok nodes⟩ ::
        ⟨.getNumberOfCompleted, .ok completed⟩ :: ⟨.isChannelOpened, .ok true⟩ ::
        ⟨.isChannelOpened, .ok true⟩ :: init)
      (run : Runs (initBls fuel rotationId client) init (.value (), client'))

theorem runDkgProcedure_unfailed {fuel rotationId : Nat}
    {client client' : DKGClient n} {trace : Trace dkgInterface}
    {status : Option DKGStatus}
    (run : Runs (runDkgProcedure fuel rotationId client) trace
      (.value status, client'))
    (unfailed : status ≠ some .FAILED) :
    Unfailed fuel rotationId client client' trace := by
  unfold runDkgProcedure at run
  rcases Procedure.runs_attempt_iff.mp run with
    ⟨_, same, body⟩ | ⟨_, _, _, _, _, _, handled, _, clauseRun⟩ |
    ⟨_, absurdity, _⟩ | ⟨absurdity, _⟩
  · cases same
    simp only [isLastDkgFinished, Procedure.bind_assoc] at body
    obtain ⟨nodes, rest, rfl, afterNodes⟩ := runs_invoke_bind_value body
    obtain ⟨completed, rest, rfl, afterCompleted⟩ := runs_invoke_bind_value afterNodes
    rw [Procedure.pure_bind_apply] at afterCompleted
    by_cases finished : completed = nodes.length
    · subst finished
      rw [if_pos (beq_self_eq_true _)] at afterCompleted
      obtain ⟨_, _, fetch, _, rfl, fetched, returned⟩ :=
        Procedure.runs_bind_value afterCompleted
      obtain ⟨rfl, _, rfl⟩ := Procedure.runs_pure_iff.mp returned
      exact .fetched nodes fetch (by rw [List.append_nil]) fetched
    · rw [if_neg (by simpa using finished)] at afterCompleted
      obtain ⟨opened, rest, rfl, afterOpened⟩ := runs_invoke_bind_value afterCompleted
      cases opened with
      | false =>
          obtain ⟨rfl, _, same⟩ := Procedure.runs_pure_iff.mp afterOpened
          exact .closed nodes completed finished rfl same
      | true =>
          rw [if_pos rfl] at afterOpened
          obtain ⟨again, rest, rfl, afterAgain⟩ := runs_invoke_bind_value afterOpened
          cases again with
          | false =>
              obtain ⟨_, same, _⟩ := Procedure.runs_pure_iff.mp afterAgain
              cases same
              exact absurd rfl unfailed
          | true =>
              rw [if_pos rfl] at afterAgain
              obtain ⟨_, _, init, _, rfl, initRun, returned⟩ :=
                Procedure.runs_bind_value afterAgain
              obtain ⟨rfl, _, rfl⟩ := Procedure.runs_pure_iff.mp returned
              exact .performed nodes completed init finished
                (by rw [List.append_nil]) initRun
  · obtain rfl := failDkg_cases handled
    obtain ⟨_, same, _⟩ := Procedure.runs_pure_iff.mp clauseRun
    cases same
    exact absurd rfl unfailed
  · cases absurdity
  · cases absurdity

def failKeyGeneration :
    PyError → Option (ClientM n (Option KeysData × Option DKGStatus))
  | .dkgKeyGenerationError _ => some (pure (none, some .KEY_GENERATION_ERROR))
  | _ => none

/-- The second `try` of `run_dkg`; returns `keys_data` and `status`. -/
def runDkgKeyGeneration (status : Option DKGStatus) :
    ClientM n (Option KeysData × Option DKGStatus) :=
  if status ≠ some .FAILED then
    Procedure.attempt
      (do
        let keysData ← generateBlsKeys
        return (some keysData, status))
      failKeyGeneration
  else
    pure (none, status)

def finalStatus (keysData : Option KeysData) (status : Option DKGStatus) :
    DKGStatus :=
  if keysData.isSome then .DONE
  else if status ≠ some .KEY_GENERATION_ERROR then .FAILED
  else .KEY_GENERATION_ERROR

def runDkg (fuel rotationId : Nat) : ClientM n DKGResult := do
  let status ← runDkgProcedure fuel rotationId
  let (keysData, status) ← runDkgKeyGeneration status
  let client ← Procedure.read id
  return {
    keysData
    step := client.lastCompletedStep
    status := finalStatus keysData status }

end SkaleAdmin.Dkg
