import SkaleAdmin.Firewall.Iptables

/-! `core/schains/firewall/firewall_manager.py`. -/

namespace SkaleAdmin.Firewall

structure SChainFirewallManager where
  name : String
  firstPort : Int
  lastPort : Int

namespace SChainFirewallManager

def rules (manager : SChainFirewallManager) : FirewallM (List SChainRule) := do
  let hostRules ← IptablesController.rules
  return SChainRule.sorted (hostRules.filter fun rule =>
    manager.firstPort ≤ rule.port ∧ rule.port ≤ manager.lastPort)

def addEach : List SChainRule → FirewallM Unit
  | [] => pure ()
  | rule :: rest => do
      IptablesController.addRule rule
      addEach rest

def addRules (rules : List SChainRule) : FirewallM Unit :=
  addEach (SChainRule.sorted rules)

def removeRules : List SChainRule → FirewallM Unit
  | [] => pure ()
  | rule :: rest => do
      IptablesController.removeRule rule
      removeRules rest

/-- The sets are lists without duplicates, gone through in the given order. -/
def updateRules (manager : SChainFirewallManager) (order : SetOrder SChainRule)
    (rules : List SChainRule) : FirewallM Unit := do
  let actualRules ← manager.rules
  let rulesToAdd := rules.dedup.filter (· ∉ actualRules)
  let rulesToRemove := actualRules.dedup.filter (· ∉ rules)
  addRules rulesToAdd
  removeRules (order.arrange rulesToRemove)

def flush (manager : SChainFirewallManager) : FirewallM Unit := do
  removeRules (← manager.rules)

end SChainFirewallManager

end SkaleAdmin.Firewall
