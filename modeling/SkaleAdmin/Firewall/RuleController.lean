import SkaleAdmin.Firewall.FirewallManager

/-! `core/schains/firewall/rule_controller.py`. -/

namespace SkaleAdmin.Firewall

open PyText

structure SChainRuleController where
  name : String
  basePort : Option Nat := none
  ownIp : Option Text := none
  nodeIps : List Text := []
  syncIpRanges : List IpRange := []
  portsPerSchain : Nat
  portAllocation : SkaledPorts portsPerSchain

namespace SChainRuleController

variable (controller : SChainRuleController)

def getMissing : Missing where
  basePort := if controller.basePort.getD 0 = 0 then some controller.basePort else none
  ownIp := if isFalsy controller.ownIp then some controller.ownIp else none
  nodeIps := if controller.nodeIps = [] then some controller.nodeIps else none

def isConfigured : Bool :=
  controller.basePort.getD 0 ≠ 0 ∧ controller.nodeIps ≠ []

/-- What is falsy leaves the field as it is. -/
def configure (basePort : Option Nat) (ownIp : Option Text) (nodeIps : List Text)
    (syncIpRanges : List IpRange) : SChainRuleController :=
  { controller with
    basePort := if basePort.getD 0 = 0 then controller.basePort else basePort
    ownIp := if isFalsy ownIp then controller.ownIp else ownIp
    nodeIps := if nodeIps = [] then controller.nodeIps else nodeIps
    syncIpRanges :=
      if syncIpRanges.isEmpty then controller.syncIpRanges else syncIpRanges }

def configuredOnly {α : Type} (result : α) : Except FirewallError α :=
  if controller.isConfigured then .ok result
  else .error (.notInitialized controller.getMissing)

def portAt (offset : Fin controller.portsPerSchain) : Nat :=
  controller.basePort.getD 0 + offset

def internalPorts : List Nat :=
  [controller.portAllocation.CATCHUP, controller.portAllocation.PROPOSAL,
    controller.portAllocation.BINARY_CONSENSUS,
    controller.portAllocation.ZMQ_BROADCAST,
    controller.portAllocation.IMA_RPC].map controller.portAt

def publicPorts : List Nat :=
  [controller.portAllocation.HTTP_JSON, controller.portAllocation.HTTPS_JSON,
    controller.portAllocation.WS_JSON, controller.portAllocation.WSS_JSON,
    controller.portAllocation.INFO_HTTP_JSON].map controller.portAt

def syncAgentPorts : List Nat :=
  [controller.portAllocation.CATCHUP,
    controller.portAllocation.ZMQ_BROADCAST].map controller.portAt

def internalRules : List SChainRule :=
  (controller.nodeIps.filter fun ip => some ip ≠ controller.ownIp).flatMap fun ip =>
    controller.internalPorts.map fun port : Nat => .new port (some ip) none

def publicRules : List SChainRule :=
  controller.publicPorts.map fun port : Nat => .new port none none

def syncAgentRules : List SChainRule :=
  controller.syncIpRanges.flatMap fun range =>
    controller.syncAgentPorts.map fun port : Nat =>
      .new port (some range.startIp) (some range.endIp)

def expected : List SChainRule :=
  SChainRule.sorted
    (controller.internalRules ++ controller.publicRules ++ controller.syncAgentRules)

/-- Each of the three properties checks that the controller is configured. -/
def expectedRules : Except FirewallError (List SChainRule) :=
  controller.configuredOnly controller.expected

def manager : SChainFirewallManager where
  name := controller.name
  firstPort := controller.basePort.getD 0
  lastPort := controller.basePort.getD 0 + controller.portsPerSchain - 1

def createFirewallManager : Except FirewallError SChainFirewallManager :=
  controller.configuredOnly controller.manager

def actualRules : FirewallM (List SChainRule) := do
  let firewallManager ← liftExcept controller.createFirewallManager
  let rules ← firewallManager.rules
  return SChainRule.sorted rules

def isRulesSynced : FirewallM Bool := do
  let actual ← controller.actualRules
  let expected ← liftExcept controller.expectedRules
  return decide (actual ⊆ expected ∧ expected ⊆ actual)

def sync (order : SetOrder SChainRule) : FirewallM Unit := do
  let erules ← liftExcept controller.expectedRules
  let firewallManager ← liftExcept controller.createFirewallManager
  firewallManager.updateRules order erules

def cleanup : FirewallM Unit := do
  let firewallManager ← liftExcept controller.createFirewallManager
  firewallManager.flush

end SChainRuleController

end SkaleAdmin.Firewall
