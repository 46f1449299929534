import SkaleAdmin.Firewall.Difference
import SkaleAdmin.Firewall.RuleController

/-! Which sources a rule controller admits to which ports, and that its rules say so. -/

namespace SkaleAdmin.Firewall

open IptablesController Ipv4 PyText

inductive Source where
  | anyone
  | single (address : Address)
  | range (first last : Address)

namespace Source

def Admits : Source → Address → Prop
  | anyone, _ => True
  | single address, source => source = address
  | range first last, source =>
      first.toNat ≤ source.toNat ∧ source.toNat ≤ last.toNat

def rule (port : Int) : Source → SChainRule
  | anyone => .new port none none
  | single address => .new port (some address.str) none
  | range first last => .new port (some first.str) (some last.str)

@[simp] theorem rule_port (port : Int) (source : Source) :
    (source.rule port).port = port := by
  cases source <;> exact SChainRule.new_port ..

theorem rule_range_self (port : Int) (address : Address) :
    (range address address).rule port = (single address).rule port := by
  have filled := isFalsy_of_ne_nil (addressStr_ne_nil address)
  have missing : isFalsy none = true := rfl
  unfold rule
  ext1
  · rw [SChainRule.new_port, SChainRule.new_port]
  · rw [SChainRule.new_firstIp, SChainRule.new_firstIp]
  · rw [SChainRule.new_lastIp_of_given port fun _ => filled,
      SChainRule.new_lastIp_of_missing port filled missing]

def ruleD (port : Int) : Source → RuleD
  | anyone => portRule port
  | single address => hostRule port address.host.str
  | range first last =>
      if first = last then hostRule port first.host.str
      else rangeRule port first.str last.str

theorem spelled_single (port : Int) (address : Address) :
    Spelled ((single address).rule port) (hostRule port address.host.str) :=
  spelled_new_host port (parseNetwork_addressStr address) (addressStr_ne_nil address)

theorem spelled_rule (port : Int) (source : Source) :
    Spelled (source.rule port) (source.ruleD port) := by
  cases source with
  | anyone => exact spelled_new_port port
  | single address => exact spelled_single port address
  | range first last =>
      by_cases same : first = last
      · subst same
        rw [ruleD, if_pos rfl, rule_range_self]
        exact spelled_single port first
      · rw [ruleD, if_neg same]
        have apart : first.str ≠ last.str := fun text => same (addressStr_injective text)
        exact spelled_new_range port apart
          fun _ => isFalsy_of_ne_nil (addressStr_ne_nil last)

theorem readRule_ruleD (port : Int) (source : Source) :
    readRule (source.ruleD port) = some (source.rule port) := by
  cases source with
  | anyone => exact readRule_portRule port
  | single address => exact readRule_hostRule port address
  | range first last =>
      by_cases same : first = last
      · subst same
        rw [ruleD, if_pos rfl, rule_range_self]
        exact readRule_hostRule port first
      · rw [ruleD, if_neg same]
        exact readRule_rangeRule port same

@[simp] theorem rule_ruleD (port : Int) (source : Source) :
    (source.rule port).ruleD = source.ruleD port :=
  SChainRule.ruleD_of_spelled (spelled_rule port source)

end Source

/-- The rules of a port for anyone, for one IPv4 address and for two, equal or not. -/
inductive SChainRule.Built : SChainRule → Prop
  | anyone (port : Int) : Built (.new port none none)
  | single (port : Int) {ip : Text} (valid : (parseAddress ip).isSome) :
      Built (.new port (some ip) none)
  | range (port : Int) {firstIp lastIp : Text} (first : (parseAddress firstIp).isSome)
      (last : (parseAddress lastIp).isSome) :
      Built (.new port (some firstIp) (some lastIp))

section Codec

variable {rule other : SChainRule}

theorem exists_addressStr {ip : Text} (valid : (parseAddress ip).isSome) :
    ∃ address : Address, ip = address.str := by
  obtain ⟨address, parsed⟩ := Option.isSome_iff_exists.mp valid
  exact ⟨address, parseAddress_eq_some.mp parsed⟩

theorem SChainRule.Built.exists_source (built : rule.Built) :
    ∃ source : Source, rule = source.rule rule.port := by
  cases built with
  | anyone port =>
      rw [SChainRule.new_port]
      exact ⟨.anyone, rfl⟩
  | single port valid =>
      obtain ⟨address, rfl⟩ := exists_addressStr valid
      rw [SChainRule.new_port]
      exact ⟨.single address, rfl⟩
  | range port firstValid lastValid =>
      obtain ⟨first, rfl⟩ := exists_addressStr firstValid
      obtain ⟨last, rfl⟩ := exists_addressStr lastValid
      rw [SChainRule.new_port]
      exact ⟨.range first last, rfl⟩

/-- A rule of the chain that is written for a rule is manageable, is read as that rule, and
is not written for another one. -/
theorem schainRuleToRuleD_round_trip (built : rule.Built) (otherBuilt : other.Built) :
    (∃ ruleD, schainRuleToRuleD rule = .ok ruleD ∧ isManageable ruleD = .ok true ∧
      ruleDToSchainRule ruleD = .ok rule) ∧
      (schainRuleToRuleD rule = schainRuleToRuleD other → rule = other) := by
  obtain ⟨source, spelled⟩ := built.exists_source
  obtain ⟨otherSource, otherSpelled⟩ := otherBuilt.exists_source
  have written := Source.spelled_rule rule.port source
  have otherWritten := Source.spelled_rule other.port otherSource
  have read := Source.readRule_ruleD rule.port source
  rw [← spelled] at written read
  rw [← otherSpelled] at otherWritten
  rw [schainRuleToRuleD_eq_ok.mpr written]
  constructor
  · obtain ⟨manageable, decoded⟩ := readRule_eq_some.mp read
    exact ⟨_, rfl, manageable, decoded⟩
  · intro same
    rw [schainRuleToRuleD_eq_ok.mpr otherWritten] at same
    have otherRead := Source.readRule_ruleD other.port otherSource
    rw [← Except.ok.inj same, read, ← otherSpelled] at otherRead
    exact Option.some.inj otherRead

theorem schainRuleToRuleD_round_trip_range :
    let pair : SChainRule := .new 10003 (some "10.0.0.1".toList) (some "10.0.0.9".toList)
    let same : SChainRule := .new 10003 (some "10.0.0.1".toList) (some "10.0.0.1".toList)
    (∃ ruleD, schainRuleToRuleD pair = .ok ruleD ∧ isManageable ruleD = .ok true ∧
      ruleDToSchainRule ruleD = .ok pair) ∧
      (schainRuleToRuleD pair = schainRuleToRuleD same → pair = same) :=
  schainRuleToRuleD_round_trip (.range 10003 (by decide) (by decide))
    (.range 10003 (by decide) (by decide))

end Codec

namespace SChainRuleController

variable {controller : SChainRuleController} {port : Nat}

structure Addressed (controller : SChainRuleController) : Prop where
  nodeIps : ∀ ip ∈ controller.nodeIps, ∃ address : Address, ip = address.str
  syncIpRanges : ∀ range ∈ controller.syncIpRanges,
    ∃ first last : Address, range = ⟨first.str, last.str⟩

inductive Grants (controller : SChainRuleController) : Nat → Source → Prop
  | anyone {port : Nat} (open' : port ∈ controller.publicPorts) :
      Grants controller port .anyone
  | node {port : Nat} {address : Address} (listed : address.str ∈ controller.nodeIps)
      (other : some address.str ≠ controller.ownIp)
      (internal : port ∈ controller.internalPorts) :
      Grants controller port (.single address)
  | syncAgent {port : Nat} {first last : Address}
      (listed : ⟨first.str, last.str⟩ ∈ controller.syncIpRanges)
      (served : port ∈ controller.syncAgentPorts) :
      Grants controller port (.range first last)

theorem mem_expected (addressed : controller.Addressed) {rule : SChainRule} :
    rule ∈ controller.expected ↔
      ∃ (port : Nat) (source : Source), controller.Grants port source ∧
        rule = source.rule port := by
  unfold expected
  rw [SChainRule.mem_sorted, List.mem_append, List.mem_append]
  constructor
  · rintro ((member | member) | member)
    · obtain ⟨ip, listed, member⟩ := List.mem_flatMap.mp member
      obtain ⟨port, internal, rfl⟩ := List.mem_map.mp member
      obtain ⟨node, other⟩ := List.mem_filter.mp listed
      obtain ⟨address, rfl⟩ := addressed.nodeIps ip node
      exact ⟨port, .single address, .node node (of_decide_eq_true other) internal, rfl⟩
    · obtain ⟨port, open', rfl⟩ := List.mem_map.mp member
      exact ⟨port, .anyone, .anyone open', rfl⟩
    · obtain ⟨range, listed, member⟩ := List.mem_flatMap.mp member
      obtain ⟨port, served, rfl⟩ := List.mem_map.mp member
      obtain ⟨first, last, rfl⟩ := addressed.syncIpRanges range listed
      exact ⟨port, .range first last, .syncAgent listed served, rfl⟩
  · rintro ⟨port, source, grants, rfl⟩
    cases grants with
    | anyone open' => exact .inl (.inr (List.mem_map.mpr ⟨port, open', rfl⟩))
    | node listed other internal =>
        left
        left
        exact List.mem_flatMap.mpr ⟨_,
          List.mem_filter.mpr ⟨listed, decide_eq_true other⟩,
          List.mem_map.mpr ⟨port, internal, rfl⟩⟩
    | syncAgent listed served =>
        right
        exact List.mem_flatMap.mpr ⟨_, listed, List.mem_map.mpr ⟨port, served, rfl⟩⟩

theorem inRange_iff :
    controller.manager.InRange port ↔
      controller.basePort.getD 0 ≤ port ∧
        port < controller.basePort.getD 0 + controller.portsPerSchain := by
  simp only [SChainFirewallManager.InRange, manager]
  omega

theorem inRange_portAt (offset : Fin controller.portsPerSchain) :
    controller.manager.InRange (controller.portAt offset : Nat) := by
  rw [inRange_iff]
  unfold portAt
  omega

theorem Grants.inRange {source : Source} (grants : controller.Grants port source) :
    controller.manager.InRange port := by
  have within : ∀ offsets : List (Fin controller.portsPerSchain),
      port ∈ offsets.map controller.portAt → controller.manager.InRange port := by
    intro offsets member
    obtain ⟨offset, _, rfl⟩ := List.mem_map.mp member
    exact inRange_portAt offset
  cases grants with
  | anyone open' => exact within _ open'
  | node _ _ internal => exact within _ internal
  | syncAgent _ served => exact within _ served

theorem wants_expected (addressed : controller.Addressed) :
    controller.manager.Wants controller.expected := by
  intro rule member
  obtain ⟨port, source, grants, rfl⟩ := (mem_expected addressed).mp member
  rw [Source.rule_ruleD]
  refine ⟨source.spelled_rule port, SChainFirewallManager.managed_eq_some.mpr
    ⟨source.readRule_ruleD port, ?_⟩⟩
  rw [Source.rule_port]
  exact grants.inRange

end SChainRuleController

end SkaleAdmin.Firewall
