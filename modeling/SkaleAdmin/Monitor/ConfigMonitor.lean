import SkaleAdmin.Monitor.Base

/-! `run_config_pipeline` and the config monitors. -/

namespace SkaleAdmin.Monitor

open Interaction PyText Config
open Interaction.Procedure (attempt raise)

/-! ### `core.node` -/

def CHANGE_IP_DELAY : Int := 300

def getCurrentIps (currentNodes : List NodeInfo) : List Text :=
  currentNodes.map NodeInfo.ip

/-- `max` of no nodes raises a `ValueError`. -/
def getMaxIpChangeTs : List NodeInfo → MonitorM (Option Int)
  | [] => raise .valueError
  | node :: nodes =>
      let maxIpChangeTs := (nodes.map NodeInfo.ipChangeTs).foldl max node.ipChangeTs
      return if maxIpChangeTs = 0 then none else some maxIpChangeTs

def getNodeDelay (nodeIndex : Nat) : Int :=
  CHANGE_IP_DELAY * (nodeIndex + 1)

def calcReloadTs (currentNodes : List NodeInfo) (nodeIndex : Nat) :
    MonitorM (Option Int) := do
  match ← getMaxIpChangeTs currentNodes with
  | none => return none
  | some maxIpChangeTs => return some (maxIpChangeTs + getNodeDelay nodeIndex)

/-! ### `ConfigActionManager` -/

structure ConfigActionManager where
  checks : ConfigChecks
  currentNodes : List NodeInfo

namespace ConfigActionManager

variable (am : ConfigActionManager)

def configDir : MonitorM Unit :=
  invoke .initSchainConfigDir

def dkg : MonitorM Unit := do
  let initialStatus ← check fun files => .ok (am.checks.dkg files)
  ifNot initialStatus do
    invoke (.getDkgClient am.checks.rotationId)
    let (status, keysData) ← invoke (.runDkg am.checks.rotationId)
    ifNot (!status.isDone) (invoke (.writeJson (.secretKey am.checks.rotationId) keysData))
    setRecord (Web.setDkgStatus status)
    ifNot status.isDone (raise .dkgError)

/-- `update_schain_config_version(name, schain_record=self.schain_record)`. -/
def updateSchainConfigVersion : MonitorM Unit := do
  let schainRecord ← invoke .loadRecord
  let newConfigVersion ← invoke .getSkaleNodeVersion
  let _ ← setOn schainRecord (Web.setConfigVersion newConfigVersion)

/-- `not upstream_config_exists() or new_config != latest_upstream_config`. -/
def differsFromLatest (newConfig : GeneratedConfig) : MonitorM Bool := do
  if ← check fun files => .ok (hasUpstream files) then
    check fun files => do
      return !newConfig.equal (← latestUpstreamConfig files)
  else
    return true

def saveNewUpstream (rotationId : Nat) (config : Document) : MonitorM Unit := do
  let ts ← invoke .time
  invoke (.writeJson (.upstream { rotationId, ts }) config)

def upstreamConfig : MonitorM Unit := do
  let newConfig ← invoke (.createNewUpstreamConfig am.checks.rotationId)
  let same := !(← differsFromLatest newConfig)
  ifNot same (saveNewUpstream am.checks.rotationId newConfig.document)
  updateSchainConfigVersion

def resetConfigRecord : MonitorM Unit := do
  updateSchainConfigVersion
  setRecord (Web.setSyncConfigRun false)

def updateExternalConfig (estate : ExternalState) : MonitorM Unit :=
  invoke (.writeJson .external estate.document)

def externalState : MonitorM Unit :=
  updateExternalConfig am.checks.estate

def nodeIndexInGroup (syncNode : Bool) : MonitorM (Option Nat) :=
  if syncNode then pure (some 0) else invoke .getNodeIndexInGroup

def updateReloadTs (ipMatched : Bool) (syncNode : Bool := false) :
    MonitorM Unit :=
  if ipMatched then
    updateExternalConfig { am.checks.estate with reloadTs := none }
  else do
    match ← nodeIndexInGroup syncNode with
    | none => return
    | some nodeIndex =>
        let reloadTs ← calcReloadTs am.currentNodes nodeIndex
        updateExternalConfig { am.checks.estate with reloadTs }

end ConfigActionManager

/-! ### The monitors -/

def runConfigMonitor (execute : MonitorM Unit) : MonitorM Unit :=
  attempt
    (do
      updLastSeen
      execute
      updLastSeen)
    fun _ => some (pure ())

def regularConfigMonitor (am : ConfigActionManager) : MonitorM Unit := do
  ifNot (← invoke .isConfigDir) ConfigActionManager.configDir
  ifNot (← check fun files => .ok (am.checks.dkg files)) am.dkg
  ifNot (← check am.checks.externalState) am.externalState
  ifNot (← check am.checks.upstreamConfig) am.upstreamConfig
  am.updateReloadTs (← check am.checks.skaledNodeIps)
  ConfigActionManager.resetConfigRecord

def syncUpstreamConfig (am : ConfigActionManager) : MonitorM Unit := do
  ifNot (← check am.checks.upstreamConfig) do
    am.upstreamConfig
    am.updateReloadTs (← check am.checks.skaledNodeIps) true

def syncConfigMonitor (am : ConfigActionManager) : MonitorM Unit := do
  ifNot (← invoke .isConfigDir) ConfigActionManager.configDir
  ifNot (← check am.checks.externalState) am.externalState
  ifNot (!am.checks.lastDkgSuccessful) (syncUpstreamConfig am)
  ConfigActionManager.resetConfigRecord

/-- `config_checks.get_all`, of which only the exceptions matter. -/
def evaluateConfigChecks (checks : ConfigChecks) : MonitorM Unit := do
  let _ ← invoke .isConfigDir
  let _ ← check fun files => .ok (checks.dkg files)
  let _ ← check checks.externalState
  let _ ← check checks.skaledNodeIps
  let _ ← check checks.upstreamConfig

def isImaLinked (syncNode : Bool) : MonitorM Bool :=
  if syncNode then pure false else invoke .hasSchain

def runConfigPipeline (syncNode : Bool) (streamVersion : String) :
    MonitorM Unit := do
  invoke .getSchain
  let schainRecord ← invoke .loadRecord
  let rotationId ← invoke .getRotation
  let ranges ← invoke .getSyncAgentRanges
  let imaLinked ← isImaLinked syncNode
  let lastDkgSuccessful ← invoke .isLastDkgSuccessful
  let currentNodes ← invoke .getCurrentNodes
  let chainId ← invoke .getChainId
  let checks : ConfigChecks := {
    schainRecord, rotationId, streamVersion, lastDkgSuccessful
    currentIps := getCurrentIps currentNodes
    estate := { chainId, ranges, imaLinked } }
  let am : ConfigActionManager := { checks, currentNodes }
  evaluateConfigChecks checks
  runConfigMonitor (if syncNode then syncConfigMonitor am else regularConfigMonitor am)

end SkaleAdmin.Monitor
