import SkaleAdmin.Firewall.Convergence

/-! What a flush leaves in the chain. -/

namespace SkaleAdmin.Firewall

open Interaction Interaction.Procedure IptablesController

namespace SChainFirewallManager

variable {manager : SChainFirewallManager} {chain : Chain}

theorem held_eq :
    manager.held chain =
      (chain.filterMap readRule).filter fun rule => manager.InRange rule.port := by
  unfold held
  rw [List.filter_filterMap]
  rfl

theorem runOn_rules (legible : ∀ ruleD ∈ chain, Legible ruleD) :
    runOn manager.rules chain =
      (.value (SChainRule.sorted (manager.held chain)), chain) := by
  have read : runOn manager.rules chain =
      runOn (liftExcept (manageableRules chain) >>= fun hostRules =>
        pure (SChainRule.sorted (hostRules.filter fun rule =>
          manager.firstPort ≤ rule.port ∧ rule.port ≤ manager.lastPort))) chain := rfl
  rw [read, manageableRules_of_legible legible, held_eq]
  rfl

theorem legible_of_flush (returns : (runOn manager.flush chain).1 = .value ()) :
    ∀ ruleD ∈ chain, Legible ruleD := by
  cases read : manageableRules chain with
  | ok rules => exact legible_of_manageableRules read
  | error error =>
      let sorted (hostRules : List SChainRule) : FirewallM (List SChainRule) :=
        pure (SChainRule.sorted (hostRules.filter fun rule =>
          manager.firstPort ≤ rule.port ∧ rule.port ≤ manager.lastPort))
      have started : runOn manager.flush chain =
          runOn ((liftExcept (manageableRules chain) >>= sorted) >>= removeRules) chain :=
        rfl
      rw [started, read] at returns
      cases returns

theorem runOn_flush (legible : ∀ ruleD ∈ chain, Legible ruleD) :
    runOn manager.flush chain =
      runOn (removeRules (SChainRule.sorted (manager.held chain))) chain := by
  have rules : runOn manager.rules chain = _ := runOn_rules legible
  unfold runOn at rules ⊢
  unfold flush
  rw [served_bind, rules]

/-- Each rule that is read is removed once, as the admin writes it. -/
theorem chain_of_flush (returns : (runOn manager.flush chain).1 = .value ()) :
    ∃ removed : List SChainRule, removed.Perm (manager.held chain) ∧
      (∀ rule ∈ removed, Spelled rule rule.ruleD) ∧
      (runOn manager.flush chain).2 = chain.diff (removed.map SChainRule.ruleD) := by
  have legible := legible_of_flush returns
  rw [runOn_flush legible] at returns ⊢
  have spelled : ∀ rule ∈ SChainRule.sorted (manager.held chain),
      Spelled rule rule.ruleD := by
    by_contra unspelled
    push Not at unspelled
    obtain ⟨rule, member, unwritten⟩ := unspelled
    refine Alone.runOn_raises_of_sketches (Tenancy.removeRules_raises
      ⟨rule, member, ?_⟩ fun _ _ _ => trivial) legible () returns
    intro ruleD written
    rw [SChainRule.ruleD_of_spelled written] at unwritten
    exact unwritten written
  obtain ⟨_, _, left, _⟩ := Alone.runOn_of_sketches
    (Tenancy.removeRules_sketches fun rule member => ⟨spelled rule member, trivial⟩) legible
  exact ⟨_, List.mergeSort_perm _ _, spelled, left⟩

/-- What the chain has for the range is as the admin writes it. -/
def Plain (manager : SChainFirewallManager) (chain : Chain) : Prop :=
  ∀ ruleD ∈ chain, ∀ rule, manager.managed ruleD = some rule → Spelled rule ruleD

theorem exists_managed {ruleD : RuleD} (legible : Legible ruleD)
    (own : manager.isForeign ruleD = false) :
    ∃ rule, manager.managed ruleD = some rule := by
  obtain ⟨answer, manageable⟩ := exists_isManageable legible.dport
  unfold isForeign at own
  rw [manageable] at own
  cases answer with
  | false => cases own
  | true =>
      obtain ⟨rule, decoded⟩ := exists_ruleDToSchainRule legible manageable
      obtain ⟨firstIp, lastIp, port, _, number, rfl⟩ :=
        ruleDToSchainRule_eq_ok.mp decoded
      rw [number] at own
      refine ⟨_, managed_eq_some.mpr ⟨readRule_eq_some.mpr ⟨manageable, decoded⟩, ?_⟩⟩
      rw [SChainRule.new_port]
      simpa using own

theorem map_held (plain : manager.Plain chain) :
    (manager.held chain).map SChainRule.ruleD =
      chain.filter fun ruleD => (manager.managed ruleD).isSome := by
  unfold held
  induction chain with
  | nil => rfl
  | cons ruleD rest ih =>
      have restPlain := ih fun other member => plain other (List.mem_cons_of_mem _ member)
      cases managed : manager.managed ruleD with
      | none =>
          rw [List.filterMap_cons_none managed, restPlain,
            List.filter_cons_of_neg (by simp [managed])]
      | some rule =>
          have spelled := plain ruleD List.mem_cons_self rule managed
          rw [List.filterMap_cons_some managed, List.map_cons, restPlain,
            SChainRule.ruleD_of_spelled spelled,
            List.filter_cons_of_pos (by simp [managed])]

/-- A flush leaves nothing for the range if and only if all of it was plain. -/
theorem foreign_flush_iff (returns : (runOn manager.flush chain).1 = .value ()) :
    (∀ ruleD ∈ (runOn manager.flush chain).2, manager.isForeign ruleD = true) ↔
      manager.Plain chain := by
  have legible := legible_of_flush returns
  obtain ⟨removed, perm, spelled, left⟩ := chain_of_flush returns
  rw [left]
  constructor
  · intro foreign ruleD inside rule managed
    by_contra written
    have kept : ruleD ∉ removed.map SChainRule.ruleD := by
      intro member
      obtain ⟨other, listed, rfl⟩ := List.mem_map.mp member
      exact written ((spelled other listed).read_spelled (managed_eq_some.mp managed).1)
    have own := foreign ruleD (List.mem_diff_of_mem inside kept)
    rw [isForeign_of_managed managed] at own
    cases own
  · intro plain ruleD member
    by_contra own
    have inside : ruleD ∈ chain := List.diff_subset _ _ member
    obtain ⟨rule, managed⟩ := exists_managed (legible ruleD inside)
      (Bool.eq_false_iff.mpr own)
    have gone : (chain.diff (removed.map SChainRule.ruleD)).count ruleD = 0 := by
      rw [List.count_diff, (perm.map SChainRule.ruleD).count_eq, map_held plain,
        List.count_filter (by simp [managed]), Nat.sub_self]
    exact List.count_eq_zero.mp gone member

end SChainFirewallManager

section Controller

variable {controller : SChainRuleController} {chain chain' : Chain}

theorem isConfigured_of_createFirewallManager {manager : SChainFirewallManager}
    (created : controller.createFirewallManager = .ok manager) :
    controller.isConfigured = true ∧ manager = controller.manager := by
  unfold SChainRuleController.createFirewallManager SChainRuleController.configuredOnly
    at created
  split at created
  · next configured => exact ⟨configured, (Except.ok.inj created).symm⟩
  · cases created

theorem isRulesSynced_returns {synced : Bool}
    (returns : runOn controller.isRulesSynced chain = (.value synced, chain')) :
    chain' = chain ∧ (synced = true ↔
      ∀ rule, rule ∈ controller.manager.held chain ↔ rule ∈ controller.expected) := by
  have configured : controller.isConfigured = true := by
    cases created : controller.createFirewallManager with
    | ok manager => exact (isConfigured_of_createFirewallManager created).1
    | error error =>
        unfold SChainRuleController.isRulesSynced SChainRuleController.actualRules
          at returns
        rw [created] at returns
        cases returns
  have legible : ∀ ruleD ∈ chain, Legible ruleD := by
    cases read : manageableRules chain with
    | ok rules => exact legible_of_manageableRules read
    | error error =>
        let sorted (hostRules : List SChainRule) : FirewallM (List SChainRule) :=
          pure (SChainRule.sorted (hostRules.filter fun rule =>
            controller.manager.firstPort ≤ rule.port ∧
              rule.port ≤ controller.manager.lastPort))
        have started : runOn controller.actualRules chain =
            runOn ((liftExcept (manageableRules chain) >>= sorted) >>= fun rules =>
              pure (SChainRule.sorted rules)) chain := by
          unfold SChainRuleController.actualRules SChainRuleController.createFirewallManager
            SChainRuleController.configuredOnly
          rw [if_pos configured]
          rfl
        have raised : runOn controller.actualRules chain = (.raised error, chain) := by
          rw [started, read]
          rfl
        unfold runOn SChainRuleController.isRulesSynced at returns
        unfold runOn at raised
        rw [served_bind, raised] at returns
        cases returns
  obtain ⟨result, returned, ⟨same, agrees⟩, _⟩ := Alone.runOn_of_sketches
    (Tenancy.isRulesSynced_sketches configured fun _ => rfl) legible
  rw [returns] at returned same
  cases returned
  exact ⟨same, agrees⟩

theorem cleanup_returns {result : Unit}
    (returns : runOn controller.cleanup chain = (.value result, chain')) :
    (∀ ruleD ∈ chain', controller.manager.isForeign ruleD = true) ↔
      controller.manager.Plain chain := by
  have flushed : runOn controller.manager.flush chain = (.value result, chain') := by
    cases created : controller.createFirewallManager with
    | ok manager =>
        obtain ⟨_, rfl⟩ := isConfigured_of_createFirewallManager created
        unfold SChainRuleController.cleanup at returns
        rw [created, liftExcept_ok_bind] at returns
        exact returns
    | error error =>
        unfold SChainRuleController.cleanup at returns
        rw [created] at returns
        cases returns
  have cleared := SChainFirewallManager.foreign_flush_iff (congrArg Prod.fst flushed)
  rw [flushed] at cleared
  exact cleared

end Controller

end SkaleAdmin.Firewall
