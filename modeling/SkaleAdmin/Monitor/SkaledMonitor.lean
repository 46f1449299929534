import SkaleAdmin.Monitor.Containers

/-! `run_skaled_pipeline` and the skaled monitors. -/

namespace SkaleAdmin.Monitor

open Interaction PyText Json Config
open Interaction.Procedure (attempt raise)

/-! ### `core.schains.config.main` -/

def firstFinishTs (nodeGroups : Value) : List Int → Evaluated (Option Int)
  | [] => .ok none
  | rotationId :: rotationIds => do
      match ← getItem "finish_ts" (← getItem (toString rotationId) nodeGroups) with
      | .null => firstFinishTs nodeGroups rotationIds
      | .num finishTs => return some finishTs
      | _ => throw .shape

def getLatestFinishTs (config : Value) : Evaluated (Option Int) := do
  let chain ← getItem "sChain" (← getItem "skaleConfig" config)
  let nodeGroups ← getItem "nodeGroups" chain
  match nodeGroups with
  | .obj groups =>
      let rotationIds ← groups.mapM fun group => toInt (.str group.1)
      firstFinishTs nodeGroups
        (rotationIds.mergeSort fun first second => second ≤ first)
  | _ => throw .shape

def getFinishTsFromLatestUpstream (files : Directory Text) :
    Evaluated (Option Int) := do
  let config ← latestUpstreamConfig files
  if truthy config then getLatestFinishTs config else return none

def getFinishTsFromSkaledConfig (files : Directory Text) :
    Evaluated (Option Int) := do
  getLatestFinishTs (← skaledConfig files)

/-! ### `SkaledActionManager` -/

/-- `checksRecord` is the copy of the row that the checks hold. -/
structure SkaledActionManager where
  settings : SkaledSettings
  checksRecord : Web.SChainRecord
  hasNodeCliStatus : Bool

def getEndpointAliveCheckTimeout (failedRpcCount : Int) : Int :=
  30 + failedRpcCount * 10

namespace SkaledActionManager

variable (am : SkaledActionManager)

def firewallRulesCheck : MonitorM Bool := do
  let (files, synced) ← invoke .observeRules
  evaluate (SkaledChecks.firewallRules files synced)

def rpcCheck : MonitorM Bool := do
  let timeout := getEndpointAliveCheckTimeout (am.checksRecord .failedRpcCount)
  let (files, answers) ← invoke (.observeEndpoint timeout)
  evaluate (SkaledChecks.rpc files answers)

def blocksCheck : MonitorM Bool := do
  let (files, mines) ← invoke .observeBlocks
  evaluate (SkaledChecks.blocks files mines)

def isImaContainerUpToDate : MonitorM Bool := do
  let newImagePulled ← invoke .isNewImagePulled
  let migrationTs ← invoke .getImaMigrationTs
  let after ← invoke (.isPast migrationTs)
  if ← invoke (.isContainerRunning .ima) then
    let image ← invoke .imaContainerImage
    let timeFrame ← invoke (.getImaTimeFrame after)
    let containerTimeFrame ← invoke .imaContainerTimeFrame
    return newImagePulled && image == some (am.settings.imaImageName after) &&
      timeFrame == containerTimeFrame
  else
    return false

def imaContainerCheck : MonitorM Bool := do
  if ← check fun files => SkaledChecks.imaContainer files false then
    return true
  else
    am.isImaContainerUpToDate

def initDataVolume : MonitorM Unit := do
  ifNot (← invoke .isVolumeExists) (invoke .createDataVolume)

def volume : MonitorM Unit := do
  ifNot (← invoke .isVolumeExists) initDataVolume

def configureRules (upstream : Bool) : MonitorM Unit := do
  let files ← invoke .readFiles
  let conf ← evaluate (if upstream then latestUpstreamConfig files else skaledConfig files)
  let basePort ← evaluate (getBasePortFromConfig conf)
  let nodeIps ← evaluate (getNodeIpsFromConfig conf)
  let ownIp ← evaluate (getOwnIpFromConfig conf)
  let files ← invoke .readFiles
  let ranges ← evaluate (externalRanges files)
  invoke (.syncRules basePort ownIp nodeIps ranges)

def firewallRules (upstream : Bool := false) : MonitorM Unit := do
  ifNot (← firewallRulesCheck) (configureRules upstream)

def snapshotFrom : MonitorM Value :=
  if am.hasNodeCliStatus then do
    let status ← invoke .readNodeCliStatus
    evaluate status.snapshotFrom
  else
    return .null

def skaledContainer (downloadSnapshot : Bool := false)
    (startTs : Option Int := none) (abortOnExit : Bool := true) :
    MonitorM Unit := do
  let snapshotFrom ← am.snapshotFrom
  let schainRecord ← invoke .loadRecord
  monitorSchainContainer am.settings schainRecord
    { downloadSnapshot, startTs, snapshotFrom, abortOnExit }

def resetRestartCounter : MonitorM Unit :=
  setRecord (Web.setRestartCount 0)

/-- `if is_container_exists(..): remove_..`. -/
def removeIfExists (type : ContainerType) : MonitorM Unit := do
  if ← invoke (.isContainerExists type) then do
    let _ ← invoke (.removeContainer type)
  else
    return

def resetCounters : MonitorM Unit := do
  setRecord (Web.setRestartCount 0)
  setRecord (Web.setFailedRpcCount 0)
  setRecord (Web.setNeedsReload false)

def reloadedSkaledContainer : MonitorM Unit := do
  removeIfExists .schain
  resetCounters
  am.skaledContainer

/-- A container that is restarted keeps its command. -/
def restartSkaledContainer : MonitorM Unit := do
  if ← invoke (.isContainerExists .schain) then do
    invoke (.restartContainer false)
    let schainRecord ← invoke .loadRecord
    let _ ← updateSslChangeDate schainRecord
  else
    am.skaledContainer

def displaySkaledLogs : MonitorM Unit := do
  if ← invoke (.isContainerExists .schain) then invoke .displayContainerLogs
  else return

def skaledRpc : MonitorM Unit := do
  if ← am.rpcCheck then
    setRecord (Web.setFailedRpcCount 0)
  else do
    displaySkaledLogs
    let schainRecord ← invoke .loadRecord
    handleFailedSchainRpc am.settings schainRecord

def pullNewImage : MonitorM Unit := do
  ifNot (← invoke .isNewImagePulled) (invoke .pullNewImage)

def runImaWatchman (migrationTs : Int) : MonitorM Unit := do
  pullNewImage
  let files ← invoke .readFiles
  let linked ← evaluate (do getOr "ima_linked" (.bool true) (← externalConfigRead files))
  let files ← invoke .readFiles
  let chainId ← evaluate (do getOr "chain_id" .null (← externalConfigRead files))
  monitorImaContainer am.settings linked chainId migrationTs

def imaContainer : MonitorM Unit := do
  let initialStatus ← am.imaContainerCheck
  let migrationTs ← invoke .getImaMigrationTs
  ifNot initialStatus (am.runImaWatchman migrationTs)

def recreatedSchainContainers (abortOnExit : Bool) : MonitorM Unit := do
  removeIfExists .ima
  removeIfExists .schain
  resetCounters
  am.skaledContainer false none abortOnExit
  am.imaContainer

def cleanupSchainDockerEntity : MonitorM Unit := do
  let _ ← invoke (.removeContainer .schain)
  invoke .removeVolume

def updateConfig : MonitorM Unit := do
  let _ ← invoke .syncSkaledConfigWithUpstream

/-- `self.skaled_status.exit_time_reached or self.esfm.exists()`. -/
def isExitScheduled : MonitorM Bool := do
  if ← skaledFlag StatusFile.exitTimeReached then return true
  else invoke .exitScheduleExists

def scheduleSkaledExit (exitTs : Option Int) : MonitorM Unit := do
  if ← isExitScheduled then
    return
  else
    match exitTs with
    | none => return
    | some exitTs => invoke (.setExitTs exitTs)

def resetExitSchedule : MonitorM Unit := do
  if ← invoke .exitScheduleExists then invoke .removeExitSchedule else return

def disableBackupRun : MonitorM Unit :=
  setRecord (Web.setBackupRun false)

def updateRepairTs (newTs : Int) : MonitorM Unit :=
  setRecord (Web.setRepairDate newTs)

def upstreamFinishTs : MonitorM (Option Int) := do
  let files ← invoke .readFiles
  evaluate (getFinishTsFromLatestUpstream files)

def finishTs : MonitorM (Option Int) := do
  let files ← invoke .readFiles
  evaluate (getFinishTsFromSkaledConfig files)

def reloadTs : MonitorM (Option Int) := do
  let files ← invoke .readFiles
  match ← evaluate (externalReloadTs files) with
  | .null => return none
  | .num reloadTs => return some reloadTs
  | _ => raise (.check .shape)

def updSchainRecord : MonitorM Unit := do
  let schainRecord ← invoke .loadRecord
  ifNot (!schainRecord .firstRun) do
    setRecord (Web.setRestartCount 0)
    setRecord (Web.setFailedRpcCount 0)
  setRecord (Web.setFirstRun false)
  setRecord (Web.setNewSchain false)

/-! ### The monitors -/

/-- `if not self.checks.skaled_container: .. else: reset_restart_counter()`. -/
def containerOrReset (start : MonitorM Unit) : MonitorM Unit := do
  if ← invoke (.isContainerRunning .schain) then resetRestartCounter else start

def watchSkaled (upstreamRules : Bool) : MonitorM Unit := do
  ifNot (← firewallRulesCheck) (firewallRules upstreamRules)
  ifNot (← invoke .isVolumeExists) volume
  containerOrReset am.skaledContainer
  ifNot (← am.rpcCheck) am.skaledRpc

def regularSkaledMonitor : MonitorM Unit := do
  am.watchSkaled false
  ifNot ((← am.imaContainerCheck) || am.settings.syncNode) am.imaContainer

/-- The object has no `reset_restart_count`. -/
def repairSkaledMonitor : MonitorM Unit := do
  let _ ← invoke .containerExitCode
  invoke .notifyRepairMode
  cleanupSchainDockerEntity
  ifNot (← firewallRulesCheck) firewallRules
  ifNot (← invoke .isVolumeExists) volume
  if ← invoke (.isContainerRunning .schain) then
    raise .attributeError
  else do
    am.skaledContainer true
    let now ← invoke .time
    updateRepairTs now

def backupSkaledMonitor : MonitorM Unit := do
  ifNot (← invoke .isVolumeExists) volume
  ifNot (← firewallRulesCheck) firewallRules
  containerOrReset (am.skaledContainer true)
  ifNot (← am.imaContainerCheck) am.imaContainer
  disableBackupRun

def recreateSkaledMonitor : MonitorM Unit := do
  ifNot (← invoke .isVolumeExists) volume
  am.reloadedSkaledContainer

def updateConfigSkaledMonitor : MonitorM Unit := do
  ifNot (← check SkaledChecks.configUpdated) updateConfig
  ifNot (← firewallRulesCheck) firewallRules
  ifNot (← invoke .isVolumeExists) volume
  resetExitSchedule
  am.recreatedSchainContainers false

def reloadGroupSkaledMonitor : MonitorM Unit := do
  am.watchSkaled false
  ifNot (← am.imaContainerCheck) am.imaContainer
  scheduleSkaledExit (← upstreamFinishTs)

def reloadIpSkaledMonitor : MonitorM Unit := do
  am.watchSkaled true
  ifNot (← am.imaContainerCheck) am.imaContainer
  scheduleSkaledExit (← reloadTs)

def noConfigSkaledMonitor : MonitorM Unit := do
  ifNot (!(← check fun files => .ok (SkaledChecks.upstreamExists files))) updateConfig

def newNodeSkaledMonitor : MonitorM Unit := do
  ifNot (← invoke .isVolumeExists) volume
  ifNot (← firewallRulesCheck) firewallRules
  containerOrReset do
    let startTs ← finishTs
    am.skaledContainer true startTs
  ifNot (← am.imaContainerCheck) am.imaContainer

def execute : SkaledMonitor → MonitorM Unit
  | .regular => am.regularSkaledMonitor
  | .repair => am.repairSkaledMonitor
  | .backup => am.backupSkaledMonitor
  | .recreate => am.recreateSkaledMonitor
  | .updateConfig => am.updateConfigSkaledMonitor
  | .reloadGroup => am.reloadGroupSkaledMonitor
  | .reloadIp => am.reloadIpSkaledMonitor
  | .noConfig => noConfigSkaledMonitor
  | .newNode => am.newNodeSkaledMonitor

end SkaledActionManager

/-- `BaseSkaledMonitor.run`: every exception is swallowed. -/
def runSkaledMonitor (execute : MonitorM Unit) : MonitorM Unit :=
  attempt
    (do
      updLastSeen
      execute
      SkaledActionManager.updSchainRecord
      updLastSeen)
    fun _ => some (pure ())

/-! ### `get_skaled_monitor` -/

/-- What `get_skaled_monitor` uses of the checks. -/
structure CheckStatus where
  config : Bool
  configUpdated : Bool
  skaledContainer : Bool

def SkaledActionManager.getAllChecks (am : SkaledActionManager) :
    MonitorM CheckStatus := do
  let _ ← blocksCheck
  let config ← check fun files => .ok (SkaledChecks.config files)
  let configUpdated ← check SkaledChecks.configUpdated
  let _ ← invoke .containerExitCode
  ifNot (← invoke (.isContainerRunning .schain)) do
    let _ ← invoke .containerExitCode
  let _ ← firewallRulesCheck
  let _ ← am.imaContainerCheck
  let _ ← invoke (.isMonitorProcessAlive (am.checksRecord .monitorId))
  let _ ← check SkaledChecks.rotationIdUpdated
  let _ ← am.rpcCheck
  let skaledContainer ← invoke (.isContainerRunning .schain)
  let _ ← check fun files => .ok (SkaledChecks.upstreamExists files)
  let _ ← invoke .isVolumeExists
  return { config, configUpdated, skaledContainer }

/-- `hasSkaledStatus` and `hasNodeCliStatus` tell whether there was a file. -/
structure MonitorChoice where
  checkStatus : CheckStatus
  schainRecord : Web.SChainRecord
  hasSkaledStatus : Bool
  hasNodeCliStatus : Bool
  automaticRepair : Bool

namespace MonitorChoice

variable (choice : MonitorChoice)

def noConfig : Bool :=
  !choice.checkStatus.config

def isBackupMode : Bool :=
  choice.schainRecord .backupRun && !choice.schainRecord .newSchain

/-- `repair_date` is taken for a local date. -/
def repairTs (settings : SkaledSettings) : Int :=
  choice.schainRecord .repairDate - settings.utcOffset

def isRepairRequested (settings : SkaledSettings) : MonitorM Bool :=
  if choice.hasNodeCliStatus then do
    let status ← invoke .readNodeCliStatus
    evaluate (status.requestsRepairAfter (choice.repairTs settings))
  else
    return false

def isSkaledRepairInternal : MonitorM Bool :=
  if choice.hasSkaledStatus then do
    let needsRepair ← needsRepair
    return !choice.checkStatus.skaledContainer && needsRepair
  else
    return false

def isRepairMode (settings : SkaledSettings) : MonitorM Bool := do
  if ← choice.isRepairRequested settings then
    return true
  else
    if choice.automaticRepair then choice.isSkaledRepairInternal
    else return false

def isRecreateMode : MonitorM Bool :=
  if choice.checkStatus.skaledContainer then sslReloadNeeded choice.schainRecord
  else return false

def isReloadable : Bool :=
  choice.checkStatus.config && !choice.checkStatus.configUpdated

def isReloadGroupMode : MonitorM Bool := do
  let finishTs ← SkaledActionManager.upstreamFinishTs
  let ts ← invoke .time
  match finishTs with
  | none => return false
  | some finishTs => return finishTs > ts && choice.isReloadable

def isReloadIpMode : MonitorM Bool := do
  match ← SkaledActionManager.reloadTs with
  | none => return false
  | some _ => return choice.isReloadable

def isConfigUpdateTime : MonitorM Bool :=
  if choice.hasSkaledStatus && !choice.checkStatus.skaledContainer then
    skaledFlag StatusFile.exitTimeReached
  else
    return false

def isNewNodeMode : MonitorM Bool := do
  let finishTs ← SkaledActionManager.finishTs
  let ts ← invoke .time
  let secretSharesNumber ← invoke .getNumberOfSecretShares
  match finishTs with
  | none => return false
  | some finishTs => return finishTs > ts && secretSharesNumber == 1

/-- The last branches, which both kinds of nodes have. -/
def getUpdateMonitor (default : SkaledMonitor) : MonitorM SkaledMonitor := do
  if ← choice.isConfigUpdateTime then
    return .updateConfig
  else
    if ← choice.isReloadGroupMode then
      return .reloadGroup
    else
      if ← choice.isReloadIpMode then return .reloadIp else return default

def getSyncMonitor : MonitorM SkaledMonitor := do
  let default := if choice.noConfig then .noConfig else .regular
  if ← choice.isRecreateMode then return .recreate
  else choice.getUpdateMonitor default

def getRegularMonitor (settings : SkaledSettings) : MonitorM SkaledMonitor := do
  if choice.noConfig then
    return .noConfig
  else
    if choice.isBackupMode then
      return .backup
    else
      if ← choice.isRepairMode settings then
        return .repair
      else
        if ← choice.isRecreateMode then
          return .recreate
        else
          if ← isNewNodeMode then return .newNode
          else choice.getUpdateMonitor .regular

def getSkaledMonitor (settings : SkaledSettings) : MonitorM SkaledMonitor :=
  if settings.syncNode then choice.getSyncMonitor
  else choice.getRegularMonitor settings

end MonitorChoice

def runSkaledPipeline (settings : SkaledSettings) : MonitorM Unit := do
  invoke .getSchain
  let schainRecord ← invoke .loadRecord
  let skaledStatus ← invoke .readSkaledStatus
  let ncliStatus ← invoke .readNodeCliStatus
  let am : SkaledActionManager := {
    settings, checksRecord := schainRecord, hasNodeCliStatus := ncliStatus.isFound }
  let checkStatus ← am.getAllChecks
  let automaticRepair ← invoke .getAutomaticRepairOption
  invoke .notifyChecks
  let choice : MonitorChoice := {
    checkStatus, schainRecord, automaticRepair
    hasSkaledStatus := skaledStatus.isFound
    hasNodeCliStatus := ncliStatus.isFound }
  let monitor ← choice.getSkaledMonitor settings
  invoke (.incrSkaledPipeline monitor)
  runSkaledMonitor (am.execute monitor)

end SkaleAdmin.Monitor
