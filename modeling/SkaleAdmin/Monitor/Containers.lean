import SkaleAdmin.Monitor.Base

/-! The watchmen of the skaled and IMA containers and of the RPC endpoint. -/

namespace SkaleAdmin.Monitor

open PyText Json Config

structure SkaledSettings where
  syncNode : Bool := false
  maxSchainRestartCount : Int := 5
  maxSchainFailedRpcCount : Int := 5
  /-- `get_image_name(IMA_CONTAINER, new)`. -/
  imaImageName : Bool → Text := fun _ => []
  /-- By how much local time is ahead of UTC. -/
  utcOffset : Int := 0

def EC_SUCCESS : Int := 0

/-! ### `core.schains.ssl` -/

def updateSslChangeDate (schainRecord : Web.SChainRecord) :
    MonitorM Web.SChainRecord := do
  match ← invoke .sslFilesChangeDate with
  | none => return schainRecord
  | some date => setOn schainRecord (Web.setSslChangeDate date)

def sslReloadNeeded (schainRecord : Web.SChainRecord) : MonitorM Bool := do
  match ← invoke .sslFilesChangeDate with
  | none => return false
  | some date => return date ≠ schainRecord .sslChangeDate

/-! ### `monitor_schain_container` -/

/-- A property of `SkaledStatus` reads the file anew. -/
def skaledFlag (flag : StatusFile → Evaluated Bool) : MonitorM Bool := do
  let status ← invoke .readSkaledStatus
  evaluate (flag status)

/-- `skaled_status.clear_data_dir and skaled_status.start_from_snapshot`. -/
def needsRepair : MonitorM Bool := do
  if ← skaledFlag StatusFile.clearDataDir then
    skaledFlag StatusFile.startFromSnapshot
  else
    return false

def isSchainContainerFailed : MonitorM Bool := do
  let created ← invoke .isContainerCreated
  let exited ← invoke .isContainerExited
  let exitCode ← invoke .containerExitCode
  return created || (exited && exitCode != EC_SUCCESS)

def resetFailedCounters (schainRecord : Web.SChainRecord) : MonitorM Unit := do
  let schainRecord ← setOn schainRecord (Web.setRestartCount 0)
  let _ ← setOn schainRecord (Web.setFailedRpcCount 0)

structure ContainerOptions where
  downloadSnapshot : Bool := false
  startTs : Option Int := none
  snapshotFrom : Value := .null
  abortOnExit : Bool := true

def startSchainContainer (schainRecord : Web.SChainRecord)
    (options : ContainerOptions) : MonitorM Unit := do
  invoke (.runSchainContainer options.downloadSnapshot options.startTs
    options.snapshotFrom)
  let schainRecord ← updateSslChangeDate schainRecord
  resetFailedCounters schainRecord

section Settings

variable (settings : SkaledSettings)

def restartFailedContainer (schainRecord : Web.SChainRecord) : MonitorM Unit :=
  if schainRecord .restartCount < settings.maxSchainRestartCount then do
    invoke (.restartContainer false)
    let schainRecord ← updateSslChangeDate schainRecord
    let schainRecord ← setOn schainRecord
      (Web.setRestartCount (schainRecord .restartCount + 1))
    let _ ← setOn schainRecord (Web.setFailedRpcCount 0)
  else
    return

def watchSchainContainer (schainRecord : Web.SChainRecord) : MonitorM Unit := do
  if ← needsRepair then
    resetFailedCounters schainRecord
  else
    if ← isSchainContainerFailed then
      restartFailedContainer settings schainRecord
    else do
      let _ ← setOn schainRecord (Web.setRestartCount 0)

def monitorSchainContainer (schainRecord : Web.SChainRecord)
    (options : ContainerOptions) : MonitorM Unit := do
  if ← invoke .isVolumeExists then
    let reached ← skaledFlag StatusFile.exitTimeReached
    if reached && options.abortOnExit then
      resetFailedCounters schainRecord
    else
      if ← invoke (.isContainerExists .schain) then
        watchSchainContainer settings schainRecord
      else
        startSchainContainer schainRecord options
  else
    return

/-! ### `handle_failed_schain_rpc` -/

def countFailedRpc (schainRecord : Web.SChainRecord) : MonitorM Unit := do
  let _ ← setOn schainRecord
    (Web.setFailedRpcCount (schainRecord .failedRpcCount + 1))

/-- Restarts the container unless that was done too often. -/
def restartStuckContainer (schainRecord : Web.SChainRecord) :
    MonitorM Web.SChainRecord :=
  if schainRecord .restartCount < settings.maxSchainRestartCount then do
    invoke (.restartContainer true)
    setOn schainRecord (Web.setRestartCount (schainRecord .restartCount + 1))
  else
    return schainRecord

def handleStuckRpc (schainRecord : Web.SChainRecord) : MonitorM Unit := do
  let schainRecord ← restartStuckContainer settings schainRecord
  let _ ← setOn schainRecord (Web.setFailedRpcCount 0)

def handleFailedRpc (schainRecord : Web.SChainRecord) : MonitorM Unit := do
  if ← skaledFlag StatusFile.exitTimeReached then do
    let _ ← setOn schainRecord (Web.setFailedRpcCount 0)
  else
    if ← skaledFlag StatusFile.downloadingSnapshot then do
      let _ ← setOn schainRecord (Web.setFailedRpcCount 0)
    else
      if schainRecord .failedRpcCount > settings.maxSchainFailedRpcCount then
        handleStuckRpc settings schainRecord
      else
        countFailedRpc schainRecord

def handleFailedSchainRpc (schainRecord : Web.SChainRecord) : MonitorM Unit := do
  if ← invoke (.isContainerExists .schain) then
    if ← invoke (.isContainerRunning .schain) then
      handleFailedRpc settings schainRecord
    else
      return
  else
    return

/-! ### `monitor_ima_container` -/

/-- A container of another image or time frame is removed. -/
def keepImaContainer (image : Text) (timeFrame : Int) : MonitorM Bool := do
  let containerImage ← invoke .imaContainerImage
  let containerTimeFrame ← invoke .imaContainerTimeFrame
  if containerImage = some image ∧ containerTimeFrame = timeFrame then
    return true
  else do
    let _ ← invoke (.removeContainer .ima)
    return false

def migratedImaContainer (past containerExists : Bool) (image : Text)
    (timeFrame : Int) : MonitorM Bool :=
  if past && containerExists then keepImaContainer image timeFrame
  else pure containerExists

def monitorImaContainer (imaLinked chainId : Value) (migrationTs : Int) :
    MonitorM Unit :=
  if settings.syncNode || !truthy imaLinked then
    return
  else do
    invoke .copySchainImaAbi
    let containerExists ← invoke (.isContainerExists .ima)
    let past ← invoke (.isPast migrationTs)
    let image := settings.imaImageName past
    let timeFrame ← invoke (.getImaTimeFrame past)
    let containerExists ← migratedImaContainer past containerExists image timeFrame
    ifNot containerExists (invoke (.runImaContainer chainId image timeFrame))

end Settings

end SkaleAdmin.Monitor
