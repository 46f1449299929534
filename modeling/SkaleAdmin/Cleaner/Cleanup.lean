import SkaleAdmin.Config.Checks
import SkaleAdmin.Firewall.Flush

/-! `cleanup_schain` on a node that nothing else changes. -/

namespace SkaleAdmin.Cleaner

open PyText Json Config
open Interaction (Outcome)
open Firewall (SChainRuleController SChainFirewallManager SkaledPorts FirewallError
  FirewallM runOn)

/-- The states of a Docker container. -/
inductive Status where
  | created
  | restarting
  | running
  | removing
  | paused
  | exited
  | dead
  deriving DecidableEq

inductive ContainerType where
  | schain
  | ima
  deriving DecidableEq

/-- The properties of the checks that `cleanup_schain` has run but does not look at. -/
inductive OtherCheck where
  | dkg
  | config
  | exitCodeOk
  | rpc
  | blocks
  | process

/-- What may raise. -/
inductive CleanupCall where
  | upsertSchainRecord
  | getSkaleNodeVersion
  | check (check : OtherCheck)
  | inspectVolume
  | getInfo (type : ContainerType)
  | getImaImages
  | getContainer (type : ContainerType)
  | stop (type : ContainerType)
  | backupContainerLogs (type : ContainerType)
  | remove (type : ContainerType)
  | getVol
  | removeVolume
  | removeConfigDir
  | markSchainDeleted

inductive CleanupError where
  | outage (call : CleanupCall)
  | check (error : CheckError)
  | firewall (error : FirewallError)
  | stuck

structure NodeState where
  record : Option Web.SChainRecord
  container : ContainerType → Option Status
  /-- The volume of Docker. -/
  volume : Bool
  /-- The directory and the link that a sync node has instead. -/
  stateDir : Bool
  staticLink : Bool
  chain : Firewall.Chain
  /-- The files in the config directory, if there is one. -/
  configDir : Option (Directory Text)

/-- `failing` tells which calls raise, and `imaUpToDate` whether a running IMA container
has the image and the time frame of the moment. -/
structure CleanupSettings where
  schainName : String
  now : Int := 0
  started : Int := 0
  syncNode : Bool := false
  failing : CleanupCall → Bool := fun _ => false
  imaUpToDate : Bool := true
  syncAgentRanges : List Firewall.IpRange := []
  portsPerSchain : Nat
  portAllocation : SkaledPorts portsPerSchain

abbrev CleanupM := StateT NodeState (Except CleanupError)

def NodeState.files (node : NodeState) : Directory Text :=
  node.configDir.getD []

def liftFirewall {α : Type} (body : FirewallM α) : CleanupM α := fun node =>
  match runOn body node.chain with
  | (.value result, chain) => .ok (result, { node with chain })
  | (.raised error, _) => .error (.firewall error)
  | (.running, _) => .error .stuck

def evaluate {α : Type} (evaluated : NodeState → Evaluated α) : CleanupM α := fun node =>
  match evaluated node with
  | .ok value => .ok (value, node)
  | .error error => .error (.check error)

/-! ### Values of a config -/

/-- A base port that is no natural number is refused. -/
def toPort : Value → Evaluated (Option Nat)
  | .null => .ok none
  | .num port => if 0 ≤ port then .ok (some port.toNat) else .error .shape
  | _ => .error .shape

def toIp : Value → Evaluated Text
  | .str ip => .ok ip
  | _ => .error .shape

def toOwnIp : Value → Evaluated (Option Text)
  | .null => .ok none
  | .str ip => .ok (some ip)
  | _ => .error .shape

def toRange (range : IpRange) : Firewall.IpRange where
  startIp := range.startIp
  endIp := range.endIp

def readAddresses (conf : Value) : Evaluated (Option Nat × List Text × Option Text) := do
  let basePort ← toPort (← getBasePortFromConfig conf)
  let nodeIps ← (← getNodeIpsFromConfig conf).mapM toIp
  let ownIp ← toOwnIp (← getOwnIpFromConfig conf)
  return (basePort, nodeIps, ownIp)

def configured (rc : SChainRuleController) (conf : Value) (ranges : List IpRange) :
    Evaluated SChainRuleController := do
  let (basePort, nodeIps, ownIp) ← readAddresses conf
  return rc.configure basePort ownIp nodeIps (ranges.map toRange)

section Settings

variable (settings : CleanupSettings)

def call (query : CleanupCall) : CleanupM Unit := fun node =>
  if settings.failing query then .error (.outage query) else .ok ((), node)

/-! ### Docker -/

def hasStatus (type : ContainerType) (status : Status) : CleanupM Bool := do
  call settings (.getInfo type)
  let node ← get
  return node.container type = some status

def isContainerRunning (type : ContainerType) : CleanupM Bool :=
  hasStatus settings type .running

def isExited (type : ContainerType) : CleanupM Bool :=
  hasStatus settings type .exited

/-- An error of `safe_get_container` is taken for a container that does not exist. -/
def safeRm (type : ContainerType) : CleanupM Unit := do
  let node ← get
  if settings.failing (.getContainer type) || (node.container type).isNone then
    return
  else do
    call settings (.stop type)
    call settings (.backupContainerLogs type)
    call settings (.remove type)
    modify fun node => { node with container := Function.update node.container type none }

def rmVol : CleanupM Unit := do
  call settings .getVol
  let node ← get
  if node.volume then do
    call settings .removeVolume
    modify fun node => { node with volume := false }
  else
    return

/-! ### Checks -/

def NodeState.isVolumeExists (node : NodeState) : Bool :=
  if settings.syncNode then node.stateDir && node.staticLink else node.volume

/-- A sync node looks for its directory and link. -/
def inspectVolume : CleanupM Unit :=
  if settings.syncNode then return else call settings .inspectVolume

def volumeCheck : CleanupM Bool := do
  inspectVolume settings
  let node ← get
  return node.isVolumeExists settings

def firewallRulesCheck (rc : SChainRuleController) :
    CleanupM (Bool × SChainRuleController) := do
  let node ← get
  if SkaledChecks.config node.files then do
    let rc ← evaluate fun node => do
      configured rc (← skaledConfig node.files) (← externalRanges node.files)
    let synced ← liftFirewall rc.isRulesSynced
    return (synced, rc)
  else
    return (false, rc)

/-- No status where the check raises an `AttributeError`, which `hasattr` takes for a
check that does not exist. -/
def imaContainerCheck : CleanupM (Option Bool) := do
  let econfig ← evaluate fun node => externalConfigRead node.files
  match econfig with
  | .obj fields =>
      if truthy ((fields.lookup "ima_linked".toList).getD (.bool true)) then do
        call settings .getImaImages
        let running ← isContainerRunning settings .ima
        return some (running && settings.imaUpToDate)
      else
        return some true
  | _ => return none

structure CheckStatus where
  configDir : Bool
  volume : Bool
  firewallRules : Bool
  skaledContainer : Bool
  imaContainer : Option Bool

/-- `SChainChecks.get_all`, which evaluates each check twice. -/
def getAll (rc : SChainRuleController) : CleanupM (CheckStatus × SChainRuleController) := do
  let node ← get
  let configDir := node.configDir.isSome
  call settings (.check .dkg)
  call settings (.check .config)
  let volume ← volumeCheck settings
  let (firewallRules, rc) ← firewallRulesCheck rc
  let skaledContainer ← isContainerRunning settings .schain
  call settings (.check .exitCodeOk)
  call settings (.check .rpc)
  call settings (.check .blocks)
  call settings (.check .process)
  let imaContainer ← imaContainerCheck settings
  return ({ configDir, volume, firewallRules, skaledContainer, imaContainer }, rc)

/-! ### `cleanup_schain` -/

def upsertSchainRecord : CleanupM Unit := do
  call settings .upsertSchainRecord
  modify fun node => { node with
    record := some (node.record.getD
      (.add settings.schainName settings.now settings.started)) }

def markSchainDeleted : CleanupM Unit := do
  call settings .markSchainDeleted
  modify fun node => { node with
    record := node.record.map fun record => record.set .isDeleted true }

/-- `passed or is_exited(..)`. -/
def orExited (passed : Bool) (type : ContainerType) : CleanupM Bool :=
  if passed then pure true else isExited settings type

def removeSchainContainer (checkStatus : CheckStatus) : CleanupM Unit := do
  if ← orExited settings checkStatus.skaledContainer .schain then safeRm settings .schain
  else return

def removeSchainVolume (checkStatus : CheckStatus) : CleanupM Unit :=
  if checkStatus.volume then rmVol settings else return

def removeRules (estate : Option ExternalState) (checkStatus : CheckStatus)
    (rc : SChainRuleController) : CleanupM Unit :=
  if checkStatus.firewallRules then do
    let ranges := (estate.map ExternalState.ranges).getD []
    let rc ← evaluate fun node => do
      configured rc (← skaledConfig node.files) ranges
    liftFirewall rc.cleanup
  else
    return

/-- `estate is not None and estate.ima_linked`. -/
def isImaLinked (estate : Option ExternalState) : Bool :=
  estate.any ExternalState.imaLinked

def removeImaContainer (estate : Option ExternalState) (checkStatus : CheckStatus) :
    CleanupM Unit :=
  if isImaLinked estate then do
    if ← orExited settings (checkStatus.imaContainer.getD false) .ima then
      safeRm settings .ima
    else
      return
  else
    return

def removeConfigDir (checkStatus : CheckStatus) : CleanupM Unit :=
  if checkStatus.configDir then do
    call settings .removeConfigDir
    modify fun node => { node with configDir := none }
  else
    return

def defaultRuleController : SChainRuleController where
  name := settings.schainName
  syncIpRanges := settings.syncAgentRanges
  portsPerSchain := settings.portsPerSchain
  portAllocation := settings.portAllocation

def cleanupSchain (estate : Option ExternalState) : CleanupM Unit := do
  upsertSchainRecord settings
  call settings .getSkaleNodeVersion
  let (checkStatus, rc) ← getAll settings (defaultRuleController settings)
  removeSchainContainer settings checkStatus
  removeSchainVolume settings checkStatus
  removeRules estate checkStatus rc
  removeImaContainer settings estate checkStatus
  removeConfigDir settings checkStatus
  markSchainDeleted settings

end Settings

end SkaleAdmin.Cleaner
