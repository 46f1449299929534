import SkaleAdmin.Firewall.Sources
import SkaleAdmin.Library.Interleaving

/-! What the steps of `update_rules` do to a chain on which others may work as well, as
long as they leave the rules alone that the manager looks at. -/

namespace SkaleAdmin.Firewall

open Interaction Interaction.Procedure IptablesController

/-- A host with the discipline of its steps, for which `owned` tells the rules that
nobody else touches. -/
structure Tenancy (M J ρ : Type) where
  host : Host iptcInterface Chain M J ρ
  discipline : Host.Discipline iptcInterface Chain M J
  invariant : Chain → Prop
  owned : RuleD → Bool
  mayInsert : RuleD → Prop
  mayDelete : RuleD → Prop
  serves : ∀ (query : IptcQuery) (proposed : Except FirewallError query.Reply) chain,
    host.serve query proposed chain = some (serveIptc query chain)
  apart : ∀ {chain move moved}, discipline.move chain move →
    host.move chain move = some moved → moved.filter owned = chain.filter owned
  legible : ∀ {chain}, invariant chain → ∀ ruleD ∈ chain, Legible ruleD
  inserts : ∀ {chain ruleD}, invariant chain → mayInsert ruleD → ruleD ∉ chain →
    invariant (ruleD :: chain)
  deletes : ∀ {chain ruleD}, invariant chain → mayDelete ruleD →
    invariant (chain.erase ruleD)
  insertsOwned : ∀ {ruleD}, mayInsert ruleD → owned ruleD = true
  deletesOwned : ∀ {ruleD}, mayDelete ruleD → owned ruleD = true

namespace Tenancy

variable {M J ρ α β : Type} (tenancy : Tenancy M J ρ)

/-- `value` where a procedure returns; it always ends. -/
def Ends (value : α → Chain → Prop) (raised : Prop) :
    Outcome FirewallError α × Unit → Chain → Prop
  | (.value result, _) => value result
  | (.raised _, _) => fun _ => raised
  | (.running, _) => fun _ => False

def Sketches (before : Chain → Prop) (body : FirewallM α)
    (value : α → Chain → Prop) (raised : Prop) : Prop :=
  tenancy.host.Outline tenancy.discipline tenancy.invariant
    (fun chain => before (chain.filter tenancy.owned)) (body ())
    fun ended chain => Ends value raised ended (chain.filter tenancy.owned)

variable {tenancy} {before before' : Chain → Prop} {value value' : α → Chain → Prop}
  {raised : Prop}

theorem stable (assertion : Chain → Prop) :
    tenancy.host.Stable tenancy.discipline tenancy.invariant
      fun chain => assertion (chain.filter tenancy.owned) := by
  intro chain moved move _ holds allowed taken
  rw [tenancy.apart allowed taken]
  exact holds

theorem sketches_pure {result : α} (ends : ∀ own, before own → value result own) :
    tenancy.Sketches before (pure result) value raised :=
  .done (stable before) fun _ _ holds => ends _ holds

theorem sketches_raise {error : FirewallError} (ends : raised) :
    tenancy.Sketches before (raise error : FirewallM α) value raised :=
  .done (stable before) fun _ _ _ => ends

theorem sketches_bind {first : FirewallM β} {next : β → FirewallM α}
    (middle : β → Chain → Prop) (sketches : tenancy.Sketches before first middle raised)
    (rest : ∀ result, tenancy.Sketches (middle result) (next result) value raised) :
    tenancy.Sketches before (first >>= next) value raised := by
  apply Host.Outline.bind sketches
  intro ended
  obtain ⟨outcome, ⟨⟩⟩ := ended
  cases outcome with
  | value result => exact rest result
  | raised error => exact .done (Host.stable_const raised) fun _ _ holds => holds
  | running => exact .done (Host.stable_const False) fun _ _ holds => holds

theorem Sketches.weaken {body : FirewallM α} {raised' : Prop}
    (sketches : tenancy.Sketches before body value raised)
    (weaker : ∀ result own, value result own → value' result own)
    (raisedWeaker : raised → raised') :
    tenancy.Sketches before body value' raised' := by
  apply Host.Outline.weaken sketches
  intro ended chain _ holds
  obtain ⟨outcome, ⟨⟩⟩ := ended
  cases outcome with
  | value result => exact weaker result _ holds
  | raised error => exact raisedWeaker holds
  | running => exact holds

theorem Sketches.strengthen {body : FirewallM α}
    (sketches : tenancy.Sketches before body value raised)
    (stronger : ∀ own, before' own → before own) :
    tenancy.Sketches before' body value raised :=
  Host.Outline.strengthen sketches (stable before') fun _ _ holds => stronger _ holds

theorem sketches_of_fact {fact : Prop} {body : FirewallM α}
    (known : ∀ own, before own → fact)
    (sketches : fact → tenancy.Sketches before body value raised) :
    tenancy.Sketches before body value raised :=
  Host.Outline.of_fact (fun _ holds => known _ holds) sketches

theorem sketches_invoke {query : IptcQuery} {value : query.Reply → Chain → Prop}
    (served : ∀ chain, tenancy.invariant chain →
      before (chain.filter tenancy.owned) →
      ∃ reply, (serveIptc query chain).1 = .ok reply ∧
        tenancy.invariant (serveIptc query chain).2 ∧
        value reply ((serveIptc query chain).2.filter tenancy.owned)) :
    tenancy.Sketches before (invoke query) value raised := by
  let between : Except FirewallError query.Reply → Chain → Prop
    | .ok reply => fun chain => value reply (chain.filter tenancy.owned)
    | .error _ => fun _ => raised
  refine .call between (stable before) ?_ ?_
  · intro chain chain' proposed answer kept holds _ taken
    rw [tenancy.serves] at taken
    obtain ⟨reply, replied, kept', holds'⟩ := served chain kept holds
    rw [Option.some.inj taken] at replied kept' holds'
    simp only at replied
    subst replied
    exact ⟨kept', holds'⟩
  · intro answer
    cases answer with
    | ok reply => exact .done (stable (value reply)) fun _ _ holds => holds
    | error error => exact .done (Host.stable_const raised) fun _ _ holds => holds

section Rules

variable {rule : SChainRule} {ruleD : RuleD} {own : Chain}

theorem mem_owned {chain : Chain} (mine : tenancy.owned ruleD = true) :
    ruleD ∈ chain.filter tenancy.owned ↔ ruleD ∈ chain := by
  simp [mine]

theorem hasRule_of_spelled (spelled : Spelled rule ruleD) :
    hasRule rule = invoke (IptcQuery.hasRule ruleD) := by
  unfold hasRule
  rw [schainRuleToRuleD_eq_ok.mpr spelled]
  rfl

theorem hasRule_sketches (spelled : Spelled rule ruleD)
    (mine : tenancy.owned ruleD = true) :
    tenancy.Sketches (· = own) (hasRule rule)
      (fun found own' => own' = own ∧ (found = true ↔ ruleD ∈ own)) raised := by
  rw [hasRule_of_spelled spelled]
  apply sketches_invoke
  intro chain kept same
  refine ⟨_, rfl, kept, same, ?_⟩
  rw [← same, mem_owned mine, decide_eq_true_iff]

theorem addRule_sketches (spelled : Spelled rule ruleD)
    (allowed : tenancy.mayInsert ruleD) :
    tenancy.Sketches (· = own) (addRule rule)
      (fun _ own' => own' = own.insert ruleD) raised := by
  have mine := tenancy.insertsOwned allowed
  unfold addRule
  rw [schainRuleToRuleD_eq_ok.mpr spelled]
  refine sketches_bind _ (hasRule_sketches spelled mine) fun found => ?_
  cases found with
  | true =>
      apply sketches_pure
      rintro own' ⟨rfl, present⟩
      rw [List.insert_of_mem (present.mp rfl)]
  | false =>
      apply sketches_invoke
      rintro chain kept ⟨same, absent⟩
      have fresh : ruleD ∉ own := fun present => by cases absent.mpr present
      have new : ruleD ∉ chain := by
        rw [← mem_owned mine, same]
        exact fresh
      refine ⟨(), rfl, tenancy.inserts kept allowed new, ?_⟩
      change (ruleD :: chain).filter tenancy.owned = own.insert ruleD
      rw [List.filter_cons_of_pos mine, same, List.insert_of_not_mem fresh]

theorem removeRule_sketches (spelled : Spelled rule ruleD)
    (allowed : tenancy.mayDelete ruleD) :
    tenancy.Sketches (· = own) (removeRule rule)
      (fun _ own' => own' = own.erase ruleD) raised := by
  have mine := tenancy.deletesOwned allowed
  unfold removeRule
  rw [schainRuleToRuleD_eq_ok.mpr spelled]
  refine sketches_bind _ (hasRule_sketches spelled mine) fun found => ?_
  cases found with
  | false =>
      apply sketches_pure
      rintro own' ⟨rfl, absent⟩
      rw [List.erase_of_not_mem]
      intro present
      cases absent.mpr present
  | true =>
      apply sketches_invoke
      rintro chain kept ⟨same, present⟩
      have inside : ruleD ∈ chain := by
        rw [← mem_owned mine, same]
        exact present.mp rfl
      have deleted : serveIptc (.deleteRule ruleD) chain = (.ok (), chain.erase ruleD) :=
        if_pos inside
      rw [deleted]
      refine ⟨(), rfl, tenancy.deletes kept allowed, ?_⟩
      rw [← same]
      exact List.erase_filter.symm

end Rules

section Loops

variable {rules : List SChainRule} {own : Chain}

theorem addEach_sketches
    (allowed : ∀ rule ∈ rules, Spelled rule rule.ruleD ∧ tenancy.mayInsert rule.ruleD) :
    tenancy.Sketches (· = own) (SChainFirewallManager.addEach rules)
      (fun _ own' => own' = insertAll rules own) raised := by
  induction rules generalizing own with
  | nil => exact sketches_pure fun _ same => same
  | cons rule rest ih =>
      obtain ⟨spelled, mayInsert⟩ := allowed rule (by simp)
      refine sketches_bind _ (addRule_sketches spelled mayInsert) fun _ => ?_
      exact ih fun other member => allowed other (by simp [member])

theorem removeRules_sketches
    (allowed : ∀ rule ∈ rules, Spelled rule rule.ruleD ∧ tenancy.mayDelete rule.ruleD) :
    tenancy.Sketches (· = own) (SChainFirewallManager.removeRules rules)
      (fun _ own' => own' = own.diff (rules.map SChainRule.ruleD)) raised := by
  induction rules generalizing own with
  | nil => exact sketches_pure fun _ same => same
  | cons rule rest ih =>
      obtain ⟨spelled, mayDelete⟩ := allowed rule (by simp)
      refine sketches_bind _ (removeRule_sketches spelled mayDelete) fun _ => ?_
      rw [List.map_cons, List.diff_cons]
      exact ih fun other member => allowed other (by simp [member])

/-- A rule that has no form as a rule of the chain cannot be removed. -/
theorem removeRules_raises (unspelled : ∃ rule ∈ rules, ∀ ruleD, ¬ Spelled rule ruleD)
    (allowed : ∀ rule ∈ rules, Spelled rule rule.ruleD → tenancy.mayDelete rule.ruleD) :
    tenancy.Sketches (· = own) (SChainFirewallManager.removeRules rules)
      (fun _ _ => False) True := by
  induction rules generalizing own with
  | nil => simp at unspelled
  | cons rule rest ih =>
      cases written : schainRuleToRuleD rule with
      | error error =>
          have raises : removeRule rule = raise error := by
            unfold removeRule hasRule
            rw [written]
            rfl
          unfold SChainFirewallManager.removeRules
          rw [raises]
          exact sketches_raise trivial
      | ok ruleD =>
          have spelled := schainRuleToRuleD_eq_ok.mp written
          have same := SChainRule.ruleD_of_spelled spelled
          have mayDelete := allowed rule (by simp) (by rwa [same])
          rw [same] at mayDelete
          refine sketches_bind _ (removeRule_sketches spelled mayDelete) fun _ => ?_
          apply ih
          · obtain ⟨other, member, without⟩ := unspelled
            rcases List.mem_cons.mp member with rfl | member
            · exact absurd spelled (without ruleD)
            · exact ⟨other, member, without⟩
          · exact fun other member => allowed other (by simp [member])

end Loops

section Update

variable {manager : SChainFirewallManager} {rules : List SChainRule} {own : Chain}
  {order : SetOrder SChainRule}

theorem rules_sketches
    (mine : ∀ {ruleD rule}, manager.managed ruleD = some rule →
      tenancy.owned ruleD = true) :
    tenancy.Sketches (· = own) manager.rules
      (fun rules own' => own' = own ∧ ∀ rule, rule ∈ rules ↔ rule ∈ manager.held own)
      raised := by
  have reads : tenancy.Sketches (· = own) (invoke IptcQuery.rules)
      (fun chain own' => own' = own ∧ (∀ ruleD ∈ chain, Legible ruleD) ∧
        chain.filter tenancy.owned = own) raised := by
    apply sketches_invoke
    intro chain kept same
    exact ⟨chain, rfl, kept, same, tenancy.legible kept, same⟩
  have heldOwned : ∀ chain : Chain, manager.held (chain.filter tenancy.owned) =
      (chain.filterMap readRule).filter fun rule => manager.InRange rule.port := by
    intro chain
    unfold SChainFirewallManager.held
    rw [List.filterMap_filter, List.filter_filterMap]
    congr 1
    funext ruleD
    cases read : manager.managed ruleD with
    | none => split <;> exact read.symm
    | some rule =>
        rw [if_pos (mine read)]
        exact read.symm
  unfold SChainFirewallManager.rules IptablesController.rules
  rw [Procedure.bind_assoc]
  refine sketches_bind _ reads fun chain => ?_
  refine sketches_of_fact (fun _ holds => holds.2) fun ⟨legible, whole⟩ => ?_
  rw [manageableRules_of_legible legible]
  apply sketches_pure
  rintro own' ⟨same, _⟩
  refine ⟨same, fun rule => ?_⟩
  rw [SChainRule.mem_sorted, ← whole, heldOwned]
  rfl

theorem difference_of_read {actual : List SChainRule}
    (read : ∀ rule, rule ∈ actual ↔ rule ∈ manager.held own) :
    manager.Difference rules own
      (SChainRule.sorted (rules.dedup.filter (· ∉ actual)))
      (order.arrange (actual.dedup.filter (· ∉ rules))) where
  mem_added rule := by
    rw [SChainRule.mem_sorted, List.mem_filter, List.mem_dedup]
    simp [read]
  nodup_removed :=
    (order.perm _).nodup_iff.mpr ((List.nodup_dedup actual).filter _)
  mem_removed rule := by
    rw [SetOrder.mem_arrange, List.mem_filter, List.mem_dedup]
    simp [read]

theorem addRules_sketches {added : List SChainRule}
    (allowed : ∀ rule ∈ added, Spelled rule rule.ruleD ∧ tenancy.mayInsert rule.ruleD) :
    tenancy.Sketches (· = own) (SChainFirewallManager.addRules added)
      (fun _ own' => own' = insertAll (SChainRule.sorted added) own) raised :=
  addEach_sketches fun rule member => allowed rule (SChainRule.mem_sorted.mp member)

theorem updateRules_of_removal {value : Unit → Chain → Prop}
    (mine : ∀ {ruleD rule}, manager.managed ruleD = some rule →
      tenancy.owned ruleD = true)
    (wanted : ∀ rule ∈ rules, Spelled rule rule.ruleD ∧ tenancy.mayInsert rule.ruleD)
    (removal : ∀ added removed, manager.Difference rules own added removed →
      tenancy.Sketches (· = insertAll added own)
        (SChainFirewallManager.removeRules removed) value raised) :
    tenancy.Sketches (· = own) (manager.updateRules order rules) value raised := by
  refine sketches_bind _ (rules_sketches mine) fun actual => ?_
  refine sketches_of_fact (fun _ holds => holds.2) fun read => ?_
  have difference : manager.Difference rules own
      (SChainRule.sorted (rules.dedup.filter (· ∉ actual)))
      (order.arrange (actual.dedup.filter (· ∉ rules))) := difference_of_read read
  have added : ∀ rule ∈ rules.dedup.filter (· ∉ actual),
      Spelled rule rule.ruleD ∧ tenancy.mayInsert rule.ruleD := by
    intro rule member
    have inside := SChainRule.mem_sorted.mpr member
    exact wanted rule ((difference.mem_added rule).mp inside).1
  have additions := sketches_bind _ (addRules_sketches added) fun _ =>
    removal _ _ difference
  exact additions.strengthen fun _ holds => holds.1

theorem updateRules_sketches
    (mine : ∀ {ruleD rule}, manager.managed ruleD = some rule →
      tenancy.owned ruleD = true)
    (wanted : ∀ rule ∈ rules, Spelled rule rule.ruleD ∧ tenancy.mayInsert rule.ruleD)
    (stale : ∀ rule ∈ manager.held own, rule ∉ rules →
      Spelled rule rule.ruleD ∧ tenancy.mayDelete rule.ruleD) :
    tenancy.Sketches (· = own) (manager.updateRules order rules)
      (fun _ own' => ∃ added removed, manager.Difference rules own added removed ∧
        own' = updated added removed own) raised := by
  apply updateRules_of_removal mine wanted
  intro added removed difference
  apply (removeRules_sketches fun rule member => ?_).weaken
  · rintro _ own' rfl
    exact ⟨added, removed, difference, rfl⟩
  · exact id
  · obtain ⟨held, unwanted⟩ := (difference.mem_removed rule).mp member
    exact stale rule held unwanted

theorem updateRules_raises
    (mine : ∀ {ruleD rule}, manager.managed ruleD = some rule →
      tenancy.owned ruleD = true)
    (wanted : ∀ rule ∈ rules, Spelled rule rule.ruleD ∧ tenancy.mayInsert rule.ruleD)
    (unspelled : ∃ rule ∈ manager.held own, rule ∉ rules ∧
      ∀ ruleD, ¬ Spelled rule ruleD)
    (allowed : ∀ rule ∈ manager.held own, Spelled rule rule.ruleD →
      tenancy.mayDelete rule.ruleD) :
    tenancy.Sketches (· = own) (manager.updateRules order rules)
      (fun _ _ => False) True := by
  apply updateRules_of_removal mine wanted
  intro added removed difference
  apply removeRules_raises
  · obtain ⟨rule, held, unwanted, without⟩ := unspelled
    exact ⟨rule, (difference.mem_removed rule).mpr ⟨held, unwanted⟩, without⟩
  · intro rule member
    exact allowed rule ((difference.mem_removed rule).mp member).1

end Update

section Controller

variable {controller : SChainRuleController} {own : Chain} {order : SetOrder SChainRule}

theorem sync_of_configured (configured : controller.isConfigured = true) :
    controller.sync order =
      controller.manager.updateRules order controller.expected := by
  unfold SChainRuleController.sync SChainRuleController.expectedRules
    SChainRuleController.createFirewallManager SChainRuleController.configuredOnly
  rw [if_pos configured, if_pos configured, liftExcept_ok_bind, liftExcept_ok_bind]

theorem actualRules_sketches (configured : controller.isConfigured = true)
    (mine : ∀ {ruleD rule}, controller.manager.managed ruleD = some rule →
      tenancy.owned ruleD = true) :
    tenancy.Sketches (· = own) controller.actualRules
      (fun rules own' => own' = own ∧
        ∀ rule, rule ∈ rules ↔ rule ∈ controller.manager.held own) raised := by
  unfold SChainRuleController.actualRules SChainRuleController.createFirewallManager
    SChainRuleController.configuredOnly
  rw [if_pos configured, liftExcept_ok_bind]
  refine sketches_bind _ (rules_sketches mine) fun rules => ?_
  apply sketches_pure
  rintro own' ⟨same, read⟩
  refine ⟨same, fun rule => ?_⟩
  rw [SChainRule.mem_sorted]
  exact read rule

theorem isRulesSynced_sketches (configured : controller.isConfigured = true)
    (mine : ∀ {ruleD rule}, controller.manager.managed ruleD = some rule →
      tenancy.owned ruleD = true) :
    tenancy.Sketches (· = own) controller.isRulesSynced
      (fun synced own' => own' = own ∧ (synced = true ↔
        ∀ rule, rule ∈ controller.manager.held own ↔ rule ∈ controller.expected))
      raised := by
  refine sketches_bind _ (actualRules_sketches configured mine) fun actual => ?_
  unfold SChainRuleController.expectedRules SChainRuleController.configuredOnly
  rw [if_pos configured]
  apply sketches_pure
  rintro own' ⟨same, read⟩
  refine ⟨same, ?_⟩
  rw [decide_eq_true_iff]
  constructor
  · rintro ⟨within, covers⟩ rule
    rw [← read rule]
    exact ⟨fun member => within member, fun member => covers member⟩
  · intro agree
    refine ⟨?_, ?_⟩
    · intro rule member
      exact (agree rule).mp ((read rule).mp member)
    · intro rule member
      exact (read rule).mpr ((agree rule).mpr member)

end Controller

end Tenancy

end SkaleAdmin.Firewall
