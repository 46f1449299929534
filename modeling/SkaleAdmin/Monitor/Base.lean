import SkaleAdmin.Config.GeneratedConfig
import SkaleAdmin.Monitor.Status
import SkaleAdmin.Library.Interleaving

/-! The calls that the monitors of an sChain make, and what is common to their
action managers. -/

namespace SkaleAdmin.Monitor

open Interaction PyText Config
open Interaction.Procedure (raise)

inductive MonitorError where
  | check (error : CheckError)
  | dkgError
  | valueError
  | attributeError
  | otherError (message : String)

structure NodeInfo where
  ip : Text
  ipChangeTs : Int
  deriving DecidableEq

inductive ContainerType where
  | schain
  | ima
  deriving DecidableEq

/-- The classes of `skaled_monitor`. -/
inductive SkaledMonitor where
  | regular
  | repair
  | backup
  | recreate
  | updateConfig
  | reloadGroup
  | reloadIp
  | noConfig
  | newNode
  deriving DecidableEq

/-- `saveRecord` writes the copy of the row that an object holds, as its last
setter saves it. -/
inductive MonitorQuery where
  /-- `int(time.time())`. -/
  | time
  | loadRecord
  | saveRecord (setter : Web.Setter) (copy : Web.SChainRecord)
  | readFiles
  | writeJson (path : FileName) (content : Document)
  | getSkaleNodeVersion
  | getSchain
  | getRotation
  | getSyncAgentRanges
  | hasSchain
  | getChainId
  | isLastDkgSuccessful
  | getCurrentNodes
  | isConfigDir
  | initSchainConfigDir
  | getDkgClient (rotationId : Nat)
  | runDkg (rotationId : Nat)
  | createNewUpstreamConfig (rotationId : Nat)
  | getNodeIndexInGroup
  /-- `time.time() > ts`. -/
  | isPast (ts : Int)
  | readSkaledStatus
  | readNodeCliStatus
  | isVolumeExists
  | createDataVolume
  | removeVolume
  | isContainerExists (type : ContainerType)
  | isContainerRunning (type : ContainerType)
  | isContainerCreated
  | isContainerExited
  | containerExitCode
  /-- `restart_container` of the sChain; `stuckRpc` where its RPC is the reason. -/
  | restartContainer (stuckRpc : Bool)
  /-- Answers whether Docker knew the container. -/
  | removeContainer (type : ContainerType)
  | runSchainContainer (downloadSnapshot : Bool) (startTs : Option Int)
      (snapshotFrom : Json.Value)
  | displayContainerLogs
  | sslFilesChangeDate
  /-- The files of the moment and on which ports skaled answers. -/
  | observeEndpoint (timeout : Int)
  /-- The files of the moment and on which ports skaled mines blocks. -/
  | observeBlocks
  /-- The files of the moment and for what the rules on the host are synced. -/
  | observeRules
  | syncRules (basePort ownIp : Json.Value) (nodeIps : List Json.Value)
      (ranges : List IpRange)
  | isMonitorProcessAlive (monitorId : Int)
  | getAutomaticRepairOption
  | notifyChecks
  | notifyRepairMode
  /-- `statsd_client.incr(f'admin.skaled_pipeline.{mon.__name__}..')`. -/
  | incrSkaledPipeline (monitor : SkaledMonitor)
  | syncSkaledConfigWithUpstream
  | exitScheduleExists
  | setExitTs (ts : Int)
  | removeExitSchedule
  | getNumberOfSecretShares
  | isNewImagePulled
  | pullNewImage
  | getImaMigrationTs
  | getImaTimeFrame (after : Bool)
  | imaContainerImage
  | imaContainerTimeFrame
  | copySchainImaAbi
  | runImaContainer (chainId : Json.Value) (image : Text) (timeFrame : Int)

@[reducible] def MonitorQuery.Reply : MonitorQuery → Type
  | time => Nat
  | getChainId => Int
  | loadRecord => Web.SChainRecord
  | readFiles => Directory Text
  | getSkaleNodeVersion => String
  | getRotation => Nat
  | getSyncAgentRanges => List IpRange
  | hasSchain | isLastDkgSuccessful | isConfigDir => Bool
  | getCurrentNodes => List NodeInfo
  | runDkg _ => Dkg.DKGStatus × Document
  | createNewUpstreamConfig _ => GeneratedConfig
  | getNodeIndexInGroup => Option Nat
  | readSkaledStatus | readNodeCliStatus => StatusFile
  | isPast _ | isVolumeExists | isContainerExists _ | isContainerRunning _
  | isContainerCreated | isContainerExited | removeContainer _
  | isMonitorProcessAlive _ | getAutomaticRepairOption
  | syncSkaledConfigWithUpstream | exitScheduleExists | isNewImagePulled => Bool
  | containerExitCode | getImaMigrationTs | getImaTimeFrame _
  | imaContainerTimeFrame => Int
  | sslFilesChangeDate => Option Int
  | observeEndpoint _ | observeBlocks => Directory Text × (Int → Bool)
  | observeRules => Directory Text ×
      (Json.Value → Json.Value → List Json.Value → List IpRange → Bool)
  | getNumberOfSecretShares => Nat
  | imaContainerImage => Option Text
  | createDataVolume | removeVolume | restartContainer _ | runSchainContainer ..
  | displayContainerLogs | syncRules .. | notifyChecks | notifyRepairMode
  | incrSkaledPipeline _ | setExitTs _ | removeExitSchedule | pullNewImage
  | copySchainImaAbi | runImaContainer .. => Unit
  | saveRecord .. | writeJson .. | getSchain | initSchainConfigDir
  | getDkgClient _ => Unit

abbrev monitorInterface : Interface :=
  fallible MonitorQuery MonitorQuery.Reply MonitorError

abbrev MonitorM (α : Type) := Procedure monitorInterface Unit MonitorError α

abbrev invoke (query : MonitorQuery) : MonitorM query.Reply :=
  Procedure.invoke query

def setOn (record : Web.SChainRecord) (setter : Web.Setter) :
    MonitorM Web.SChainRecord := do
  let copy := record.set setter.column setter.value
  invoke (.saveRecord setter copy)
  return copy

/-- `self.schain_record.set_..(..)`: the property loads the row anew. -/
def setRecord (setter : Web.Setter) : MonitorM Unit := do
  let record ← invoke .loadRecord
  let _ ← setOn record setter

def updLastSeen : MonitorM Unit := do
  let record ← invoke .loadRecord
  let now ← invoke .time
  let _ ← setOn record (Web.setMonitorLastSeen now)

/-- A check reads the files of the moment. -/
def check (status : Directory Text → Evaluated Bool) : MonitorM Bool := do
  let files ← invoke .readFiles
  match status files with
  | .ok passed => return passed
  | .error error => raise (.check error)

/-- What was read has to be of the expected shape. -/
def evaluate {α : Type} (evaluated : Evaluated α) : MonitorM α :=
  match evaluated with
  | .ok value => pure value
  | .error error => raise (.check error)

def ifNot (status : Bool) (action : MonitorM Unit) : MonitorM Unit :=
  if status then pure () else action

end SkaleAdmin.Monitor
