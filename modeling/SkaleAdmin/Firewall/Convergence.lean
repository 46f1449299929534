import SkaleAdmin.Firewall.SharedChain

/-! A single `sync` on a chain with rules of others. -/

namespace SkaleAdmin.Firewall

open Interaction Interaction.Procedure IptablesController

namespace Alone

/-- Nobody else works on the chain, so that all its rules are owned. -/
def tenancy : Tenancy Empty Empty Unit where
  host := aloneHost serveIptc
  discipline := {}
  invariant chain := ∀ ruleD ∈ chain, Legible ruleD
  owned _ := true
  mayInsert := Legible
  mayDelete _ := True
  serves _ _ _ := rfl
  apart {_ move} _ _ := move.elim
  legible kept := kept
  inserts kept legible _ := List.forall_mem_cons.mpr ⟨legible, kept⟩
  deletes kept _ ruleD member := kept ruleD (List.mem_of_mem_erase member)
  insertsOwned _ := rfl
  deletesOwned _ := rfl

variable {α : Type} {body : FirewallM α} {chain : Chain}

theorem ends_of_sketches {value : α → Chain → Prop} {raised : Prop}
    (sketches : tenancy.Sketches (· = chain) body value raised)
    (legible : ∀ ruleD ∈ chain, Legible ruleD) :
    (∀ ruleD ∈ (runOn body chain).2, Legible ruleD) ∧
      Tenancy.Ends value raised ((runOn body chain).1, ()) (runOn body chain).2 := by
  have whole : ∀ other : Chain, other.filter tenancy.owned = other :=
    fun other => List.filter_true other
  have ends := Program.served_of_outline sketches legible (whole chain)
  rw [whole] at ends
  exact ends

theorem runOn_of_sketches {value : α → Chain → Prop}
    (sketches : tenancy.Sketches (· = chain) body value False)
    (legible : ∀ ruleD ∈ chain, Legible ruleD) :
    ∃ result, (runOn body chain).1 = .value result ∧
      value result (runOn body chain).2 ∧
      ∀ ruleD ∈ (runOn body chain).2, Legible ruleD := by
  obtain ⟨kept, ends⟩ := ends_of_sketches sketches legible
  generalize runOn body chain = ended at *
  obtain ⟨outcome, chain'⟩ := ended
  cases outcome with
  | value result => exact ⟨result, rfl, ends, kept⟩
  | raised error => exact ends.elim
  | running => exact ends.elim

theorem runOn_raises_of_sketches
    (sketches : tenancy.Sketches (· = chain) body (fun _ _ => False) True)
    (legible : ∀ ruleD ∈ chain, Legible ruleD) (result : α) :
    (runOn body chain).1 ≠ .value result := by
  obtain ⟨_, ends⟩ := ends_of_sketches sketches legible
  intro returned
  rw [returned] at ends
  exact ends

end Alone

section Sync

variable {controller : SChainRuleController} {order : SetOrder SChainRule}
  {chain : Chain}

theorem runOn_updateRules_of_error {manager : SChainFirewallManager}
    {rules : List SChainRule} {error : FirewallError}
    (unread : manageableRules chain = .error error) :
    runOn (manager.updateRules order rules) chain = (.raised error, chain) := by
  let sorted (hostRules : List SChainRule) : FirewallM (List SChainRule) :=
    pure (SChainRule.sorted (hostRules.filter fun rule =>
      manager.firstPort ≤ rule.port ∧ rule.port ≤ manager.lastPort))
  let change (actualRules : List SChainRule) : FirewallM Unit := do
    SChainFirewallManager.addRules (rules.dedup.filter (· ∉ actualRules))
    SChainFirewallManager.removeRules
      (order.arrange (actualRules.dedup.filter (· ∉ rules)))
  have started : runOn (manager.updateRules order rules) chain =
      runOn ((liftExcept (manageableRules chain) >>= sorted) >>= change) chain := rfl
  rw [started, unread]
  rfl

theorem legible_of_sync (configured : controller.isConfigured = true)
    (returns : (runOn (controller.sync order) chain).1 = .value ()) :
    ∀ ruleD ∈ chain, Legible ruleD := by
  cases read : manageableRules chain with
  | ok rules => exact legible_of_manageableRules read
  | error error =>
      rw [Tenancy.sync_of_configured configured, runOn_updateRules_of_error read]
        at returns
      cases returns

theorem runOn_isRulesSynced (configured : controller.isConfigured = true)
    (legible : ∀ ruleD ∈ chain, Legible ruleD) :
    ∃ synced, (runOn controller.isRulesSynced chain).1 = .value synced ∧
      (synced = true ↔
        ∀ rule, rule ∈ controller.manager.held chain ↔ rule ∈ controller.expected) := by
  obtain ⟨synced, returned, ⟨_, agrees⟩, _⟩ := Alone.runOn_of_sketches
    (Tenancy.isRulesSynced_sketches configured fun _ => rfl) legible
  exact ⟨synced, returned, agrees⟩

theorem mayInsert_expected (addressed : controller.Addressed) :
    ∀ rule ∈ controller.expected, Spelled rule rule.ruleD ∧ Legible rule.ruleD := by
  intro rule member
  obtain ⟨spelled, managed⟩ := SChainRuleController.wants_expected addressed rule member
  exact ⟨spelled, legible_of_readRule
    (SChainFirewallManager.managed_eq_some.mp managed).1⟩

theorem runOn_sync (order : SetOrder SChainRule)
    (configured : controller.isConfigured = true)
    (addressed : controller.Addressed) (legible : ∀ ruleD ∈ chain, Legible ruleD)
    (writable : ∀ rule ∈ controller.manager.held chain, rule ∉ controller.expected →
      Spelled rule rule.ruleD) :
    (runOn (controller.sync order) chain).1 = .value () ∧
      (∀ ruleD ∈ (runOn (controller.sync order) chain).2, Legible ruleD) ∧
      ∃ added removed,
        controller.manager.Difference controller.expected chain added removed ∧
          (runOn (controller.sync order) chain).2 = updated added removed chain := by
  rw [Tenancy.sync_of_configured configured]
  obtain ⟨_, returned, difference, kept⟩ := Alone.runOn_of_sketches
    (Tenancy.updateRules_sketches (fun _ => rfl) (mayInsert_expected addressed)
      fun rule held unwanted => ⟨writable rule held unwanted, trivial⟩) legible
  exact ⟨returned, kept, difference⟩

theorem writable_of_sync (configured : controller.isConfigured = true)
    (addressed : controller.Addressed)
    (returns : (runOn (controller.sync order) chain).1 = .value ()) :
    ∀ rule ∈ controller.manager.held chain, rule ∉ controller.expected →
      Spelled rule rule.ruleD := by
  intro rule held unwanted
  by_contra unwritable
  have unspelled : ∀ ruleD, ¬ Spelled rule ruleD := by
    intro ruleD spelled
    rw [SChainRule.ruleD_of_spelled spelled] at unwritable
    exact unwritable spelled
  have raises : Alone.tenancy.Sketches (· = chain)
      (controller.manager.updateRules order controller.expected) (fun _ _ => False)
      True :=
    Tenancy.updateRules_raises (fun _ => rfl) (mayInsert_expected addressed)
      ⟨rule, held, unwanted, unspelled⟩ fun _ _ _ => trivial
  rw [Tenancy.sync_of_configured configured] at returns
  exact Alone.runOn_raises_of_sketches raises
    (legible_of_sync configured (by rwa [Tenancy.sync_of_configured configured])) ()
    returns

/-- A `sync` returns with the expected rules in place, and with the rules of others as
they were, exactly where it can read all rules and finds for its ports only what it
writes itself. -/
theorem sync_converges_iff (configured : controller.isConfigured = true)
    (addressed : controller.Addressed) :
    ((runOn (controller.sync order) chain).1 = .value () ∧
        (runOn controller.isRulesSynced (runOn (controller.sync order) chain).2).1 =
          .value true ∧
        (runOn (controller.sync order) chain).2.filter controller.manager.isForeign =
          chain.filter controller.manager.isForeign) ↔
      (∀ ruleD ∈ chain, Legible ruleD) ∧
        controller.manager.Settled controller.expected chain := by
  constructor
  · rintro ⟨returns, synced, _⟩
    have legible := legible_of_sync configured returns
    have writable := writable_of_sync configured addressed returns
    obtain ⟨_, kept, added, removed, difference, same⟩ :=
      runOn_sync order configured addressed legible writable
    obtain ⟨answer, given, agrees⟩ := runOn_isRulesSynced configured kept
    rw [given] at synced
    obtain rfl := Outcome.value.inj synced
    rw [same] at agrees
    refine ⟨legible, SChainFirewallManager.settled_of_held_updated difference ?_ ?_⟩
    · intro rule member
      obtain ⟨held, unwanted⟩ := (difference.mem_removed rule).mp member
      exact writable rule held unwanted
    · intro rule held
      exact (agrees.mp rfl rule).mp held
  · rintro ⟨legible, settled⟩
    have writable : ∀ rule ∈ controller.manager.held chain,
        rule ∉ controller.expected → Spelled rule rule.ruleD := by
      intro rule held unwanted
      obtain ⟨ruleD, inside, managed⟩ := SChainFirewallManager.mem_held.mp held
      obtain ⟨spelled, _⟩ := settled ruleD inside rule managed unwanted
      rwa [SChainRule.ruleD_of_spelled spelled]
    obtain ⟨returns, kept, added, removed, difference, same⟩ :=
      runOn_sync order configured addressed legible writable
    obtain ⟨answer, given, agrees⟩ := runOn_isRulesSynced configured kept
    have wants := SChainRuleController.wants_expected addressed
    refine ⟨returns, ?_, ?_⟩
    · rw [given, agrees.mpr]
      rw [same]
      exact SChainFirewallManager.held_updated wants settled difference
    · rw [same]
      apply filter_updated
      intro rule member
      rcases List.mem_append.mp member with addition | removal
      · have wanted := ((difference.mem_added rule).mp addition).1
        exact SChainFirewallManager.isForeign_of_managed (wants rule wanted).2
      · have managed := (difference.exists_of_removed settled removal).2
        exact SChainFirewallManager.isForeign_of_managed managed

end Sync

section Samples

def samplePorts : SkaledPorts 64 where
  PROPOSAL := 0
  CATCHUP := 1
  WS_JSON := 2
  HTTP_JSON := 3
  BINARY_CONSENSUS := 4
  ZMQ_BROADCAST := 5
  WSS_JSON := 7
  HTTPS_JSON := 8
  INFO_HTTP_JSON := 9
  IMA_RPC := 10

def firstNode : Ipv4.Address := ⟨1, 1, 1, 1⟩

def secondNode : Ipv4.Address := ⟨2, 2, 2, 2⟩

def pairController : SChainRuleController where
  name := "pair"
  basePort := some 10000
  ownIp := some firstNode.str
  nodeIps := [firstNode.str, secondNode.str]
  portsPerSchain := 64
  portAllocation := samplePorts

theorem pairController_addressed : pairController.Addressed where
  nodeIps ip member := by
    simp only [pairController, List.mem_cons, List.not_mem_nil, or_false] at member
    rcases member with rfl | rfl
    · exact ⟨firstNode, rfl⟩
    · exact ⟨secondNode, rfl⟩
  syncIpRanges range member := by cases member

def listOrder : SetOrder SChainRule where
  arrange := id
  perm := List.Perm.refl

def usedChain : Chain :=
  [portRule 22, hostRule 10005 (Ipv4.Address.host ⟨9, 9, 9, 9⟩).str]

theorem usedChain_legible : ∀ ruleD ∈ usedChain, Legible ruleD := by
  intro ruleD member
  simp only [usedChain, List.mem_cons, List.not_mem_nil, or_false] at member
  rcases member with rfl | rfl
  · exact legible_of_readRule (readRule_portRule _)
  · exact legible_of_readRule (readRule_hostRule _ _)

theorem usedChain_settled :
    pairController.manager.Settled pairController.expected usedChain := by
  intro ruleD member rule managed _
  simp only [usedChain, List.mem_cons, List.not_mem_nil, or_false] at member
  obtain ⟨read, inside⟩ := SChainFirewallManager.managed_eq_some.mp managed
  rcases member with rfl | rfl
  · rw [readRule_portRule] at read
    obtain rfl := Option.some.inj read
    exact absurd inside (by decide)
  · rw [readRule_hostRule] at read
    obtain rfl := Option.some.inj read
    exact ⟨Source.spelled_single _ _, by decide +kernel⟩

theorem usedChain_converges :
    (runOn (pairController.sync listOrder) usedChain).1 = .value () ∧
      (runOn pairController.isRulesSynced
        (runOn (pairController.sync listOrder) usedChain).2).1 = .value true ∧
      (runOn (pairController.sync listOrder) usedChain).2.filter
          pairController.manager.isForeign =
        usedChain.filter pairController.manager.isForeign := by
  exact (sync_converges_iff rfl pairController_addressed).mpr
    ⟨usedChain_legible, usedChain_settled⟩

def networkRule : RuleD :=
  hostRule 22 "10.0.0.0/24".toList

theorem networkRule_unread : manageableRules [networkRule] = .error .typeError := by
  rfl

theorem sync_can_raise :
    ¬ ∀ (controller : SChainRuleController) (order : SetOrder SChainRule) (chain : Chain),
      controller.isConfigured = true → controller.Addressed →
        (runOn (controller.sync order) chain).1 = .value () ∧
          (runOn controller.isRulesSynced
            (runOn (controller.sync order) chain).2).1 = .value true ∧
          (runOn (controller.sync order) chain).2.filter controller.manager.isForeign =
            chain.filter controller.manager.isForeign := by
  intro claim
  obtain ⟨returns, _⟩ :=
    claim pairController listOrder [networkRule] rfl pairController_addressed
  have read := manageableRules_of_legible (legible_of_sync rfl returns)
  rw [networkRule_unread] at read
  cases read

end Samples

end SkaleAdmin.Firewall
