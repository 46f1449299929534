import SkaleAdmin.Firewall.Types
import SkaleAdmin.Library.Ipv4
import SkaleAdmin.Library.Serving

/-! `core/schains/firewall/iptables.py`, over the rules of the `INPUT` chain as
`iptc.easy` decodes them. -/

namespace SkaleAdmin.Firewall

open Interaction Interaction.Procedure Ipv4 PyText

/-- The value of an option: a text, or several, such as `['!', '22']`. -/
inductive Value where
  | text (text : Text)
  | texts (texts : List Text)
  deriving DecidableEq

inductive Field where
  | value (value : Value)
  | options (options : List (Text × Value))
  deriving DecidableEq

inductive Target where
  | name (name : Text)
  | options (name : Text) (options : Field)
  deriving DecidableEq

structure TcpMatch where
  dport : Option Value := none
  others : List (Text × Value) := []
  deriving DecidableEq

structure IprangeMatch where
  srcRange : Option Value := none
  others : List (Text × Value) := []
  deriving DecidableEq

/-- `others` has the interfaces, the destination and all other matches. -/
structure RuleD where
  protocol : Option Text := none
  target : Option Target := none
  tcp : Option TcpMatch := none
  src : Option Text := none
  iprange : Option IprangeMatch := none
  others : List (Text × Field) := []
  deriving DecidableEq

def RuleD.dport (ruleD : RuleD) : Option Value :=
  ruleD.tcp.bind TcpMatch.dport

/-- The calls of `iptc`, on the rules from the first to the last. -/
inductive IptcQuery where
  | rules
  | hasRule (ruleD : RuleD)
  | insertRule (ruleD : RuleD)
  | deleteRule (ruleD : RuleD)

abbrev IptcQuery.Reply : IptcQuery → Type
  | rules => List RuleD
  | hasRule _ => Bool
  | insertRule _ | deleteRule _ => Unit

abbrev iptcInterface : Interface :=
  fallible IptcQuery IptcQuery.Reply FirewallError

abbrev FirewallM := Procedure iptcInterface Unit FirewallError

def liftExcept {α : Type} : Except FirewallError α → FirewallM α
  | .ok result => pure result
  | .error error => raise error

theorem liftExcept_ok_bind {α β : Type} {result : β} {next : β → FirewallM α} :
    liftExcept (.ok result) >>= next = next result :=
  rfl

/-- An inserted rule is the first one, and a single copy is deleted. -/
def serveIptc : (query : IptcQuery) → List RuleD →
    Except FirewallError query.Reply × List RuleD
  | .rules, chain => (.ok chain, chain)
  | .hasRule ruleD, chain => (.ok (decide (ruleD ∈ chain)), chain)
  | .insertRule ruleD, chain => (.ok (), ruleD :: chain)
  | .deleteRule ruleD, chain =>
      if ruleD ∈ chain then (.ok (), chain.erase ruleD)
      else (.error .iptcError, chain)

def runOn {α : Type} (body : FirewallM α) (chain : List RuleD) :
    Outcome FirewallError α × List RuleD :=
  body.served serveIptc chain

/-- `int` of a list is a `TypeError`, which is not caught. -/
def isLikeNumber : Option Value → Except FirewallError Bool
  | none => .ok false
  | some (.text text) => .ok (parseInt 10 text).isSome
  | some (.texts _) => .error .typeError

namespace IptablesController

/-- All three conditions are evaluated. -/
def isManageable (ruleD : RuleD) : Except FirewallError Bool := do
  let isNumber ← isLikeNumber ruleD.dport
  return ruleD.protocol == some "tcp".toList &&
    ruleD.target == some (.name "ACCEPT".toList) && isNumber

/-- `hosts()` of a single address is a list; otherwise it is a generator, which has no
first item to index. -/
def fromIpNetwork (ip : Text) : Except FirewallError Text :=
  match parseNetwork ip with
  | none => .error .valueError
  | some network =>
      if network.prefixLength = 32 then .ok network.address.str
      else .error .typeError

def toIpNetwork (ip : Text) : Except FirewallError Text :=
  match parseNetwork ip with
  | none => .error .valueError
  | some network => .ok network.str

def schainRuleToRuleD (srule : SChainRule) : Except FirewallError RuleD :=
  let rule : RuleD := {
    protocol := some "tcp".toList
    tcp := some { dport := some (.text (str srule.port)) }
    target := some (.name "ACCEPT".toList) }
  match srule.firstIp, srule.lastIp with
  | none, _ => .ok rule
  | some firstIp, none => do
      return { rule with src := some (← toIpNetwork firstIp) }
  | some firstIp, some lastIp =>
      if firstIp = lastIp then do
        return { rule with src := some (← toIpNetwork firstIp) }
      else
        .ok { rule with
          iprange := some { srcRange := some (.text (firstIp ++ '-' :: lastIp)) } }

/-- `iprange['src-range'].split('-')`, unpacked to two texts. -/
def splitSrcRange : Option Value → Except FirewallError (Text × Text)
  | none => .error .keyError
  | some (.texts _) => .error .attributeError
  | some (.text range) =>
      match range.splitOn '-' with
      | [firstIp, lastIp] => .ok (firstIp, lastIp)
      | _ => .error .valueError

/-- `first_ip` and `last_ip` of a rule. -/
def sourceIps (ruleD : RuleD) :
    Except FirewallError (Option Text × Option Text) :=
  match ruleD.iprange.filter (· ≠ {}), ruleD.src with
  | some iprange, _ => do
      let (firstIp, lastIp) ← splitSrcRange iprange.srcRange
      return (some firstIp, some lastIp)
  | none, some (symbol :: ip) => do
      let firstIp ← fromIpNetwork (symbol :: ip)
      return (some firstIp, none)
  | none, _ => .ok (none, none)

def portOf (ruleD : RuleD) : Except FirewallError Int :=
  match ruleD.dport with
  | none => .error .keyError
  | some (.texts _) => .error .typeError
  | some (.text text) =>
      match parseInt 10 text with
      | none => .error .valueError
      | some port => .ok port

def ruleDToSchainRule (ruleD : RuleD) : Except FirewallError SChainRule := do
  let (firstIp, lastIp) ← sourceIps ruleD
  let port ← portOf ruleD
  return .new port firstIp lastIp

def manageableRules : List RuleD → Except FirewallError (List SChainRule)
  | [] => .ok []
  | ruleD :: rest => do
      if ← isManageable ruleD then
        let rule ← ruleDToSchainRule ruleD
        let rules ← manageableRules rest
        return rule :: rules
      else
        manageableRules rest

def rules : FirewallM (List SChainRule) := do
  let chain ← invoke .rules
  liftExcept (manageableRules chain)

def hasRule (rule : SChainRule) : FirewallM Bool := do
  let ruleD ← liftExcept (schainRuleToRuleD rule)
  invoke (IptcQuery.hasRule ruleD)

def addRule (rule : SChainRule) : FirewallM Unit := do
  if ← hasRule rule then
    return ()
  else
    let ruleD ← liftExcept (schainRuleToRuleD rule)
    invoke (IptcQuery.insertRule ruleD)

def removeRule (rule : SChainRule) : FirewallM Unit := do
  if ← hasRule rule then
    let ruleD ← liftExcept (schainRuleToRuleD rule)
    invoke (IptcQuery.deleteRule ruleD)
  else
    return ()

end IptablesController

end SkaleAdmin.Firewall
