import SkaleAdmin.Process.Report

/-! `run_process_manager` and `run_pm_schain`. -/

namespace SkaleAdmin.Process

open Interaction
open Interaction.Procedure (attempt)

def DKG_TIMEOUT_COEFFICIENT_TENTHS : Int := 22

def P_KILL_WAIT_TIMEOUT : Int := 60

def checkPid (pid : Pid) : PmM Bool :=
  attempt
    (do
      invoke (.osKillZero pid)
      return true)
    fun
      | .osError => some (pure false)
      | _ => none

def isMonitorProcessAlive (monitorPid : Pid) : PmM Bool :=
  if monitorPid ≠ 0 then checkPid monitorPid else pure false

def getSchainProcessInfo (schainName : String) : PmM (Option (Pid × Int)) := do
  if ← invoke (.isReportExist schainName) then
    let pid ← invoke (.readPid schainName)
    let ts ← invoke (.readTs schainName)
    return some (pid, ts)
  else
    return none

/-- `p = psutil.Process(pid)` under the clauses of the `try` that it opens. -/
def findProcess (pid : Pid) : PmM (Option PsutilProcess) :=
  attempt
    (do
      let p ← invoke (.psutilProcess pid)
      return some p)
    fun _ => some (pure none)

/-- The rest of that `try`; only `p.wait` raises `TimeoutExpired`. -/
def stopProcess (p : PsutilProcess) (killTimeout : Int) : PmM Unit :=
  attempt
    (do
      invoke (.osKillSigterm p.pid)
      invoke (.wait p killTimeout))
    fun
      | .timeoutExpired => some (invoke (.kill p))
      | _ => some (pure ())

def terminateProcess (pid : Pid) (killTimeout : Int := P_KILL_WAIT_TIMEOUT) :
    PmM Unit := do
  if pid ≠ 0 then
    match ← findProcess pid with
    | some p => stopProcess p killTimeout
    | none => return ()

/-- `int(dkg_timeout * 2.2)` unless a timeout is given. -/
def getAllowedDiff : Option Int → PmM Int
  | some timeout => pure timeout
  | none => do
      let dkgTimeout ← invoke .getDkgTimeout
      return (dkgTimeout * DKG_TIMEOUT_COEFFICIENT_TENTHS).tdiv 10

/-- `run_pm_schain` once it has found a process alive at the reported pid. -/
def checkTimeout (allowedDiff : Int) (pid : Pid) (pts : Int) : PmM Unit := do
  let now ← invoke .time
  if now - pts > allowedDiff then
    terminateProcess pid

def startMonitor (name : String) : PmM Unit := do
  let _ ← invoke (.startProcess name)

def runPmSchain (schain : Schain) (timeout : Option Int) : PmM Unit := do
  let allowedDiff ← getAllowedDiff timeout
  match ← getSchainProcessInfo schain.name with
  | some (pid, pts) =>
      if ← isMonitorProcessAlive pid then
        checkTimeout allowedDiff pid pts
      else
        startMonitor schain.name
  | none => startMonitor schain.name

def collectLeavingSchains : List String → PmM (List Schain)
  | [] => pure []
  | schainId :: rest => do
      let schain ← invoke (.getSchain schainId)
      let rotating ← invoke (.isRotationActive schain.name)
      let leavingSchains ← collectLeavingSchains rest
      if rotating ∧ schain.name ≠ "" then
        return { schain with active := true } :: leavingSchains
      else
        return leavingSchains

def getLeavingSchainsForNode (nodeId : Nat) : PmM (List Schain) := do
  let leavingHistory ← invoke (.getLeavingHistory nodeId)
  collectLeavingSchains leavingHistory

def fetchSchainsToMonitor (nodeId : Nat) : PmM (List Schain) := do
  let schains ← invoke (.getSchainsForNode nodeId)
  let leavingSchains ← getLeavingSchainsForNode nodeId
  return (schains ++ leavingSchains).filter Schain.active

def runPmSchains : List Schain → PmM Unit
  | [] => pure ()
  | schain :: rest => do
      runPmSchain schain none
      runPmSchains rest

def runProcessManager (nodeId : Nat) : PmM Unit := do
  invoke .notifyIfNotEnoughBalance
  let schainsToMonitor ← fetchSchainsToMonitor nodeId
  runPmSchains schainsToMonitor

inductive PmJob where
  | processManager (nodeId : Nat)
  | pmSchain (schain : Schain) (timeout : Option Int)

def PmJob.run : PmJob → PmM Unit
  | .processManager nodeId => runProcessManager nodeId
  | .pmSchain schain timeout => runPmSchain schain timeout

def pmHost : Host pmInterface World Move PmJob (Outcome PyError Unit × Unit) where
  move := World.move
  serve := World.serve
  job job := job.run ()
  finish world := { world with lookup := none }

abbrev PmLabel := Label pmInterface Move PmJob

end SkaleAdmin.Process
