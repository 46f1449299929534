import SkaleAdmin.Firewall.Convergence
import SkaleAdmin.Library.Crew

/-! Controllers of several sChains that work on one chain at the same time. -/

namespace SkaleAdmin.Firewall

open Interaction Interaction.Procedure IptablesController

/-- The rule controllers of the sChains of a node, whose ranges of ports are apart. -/
structure Firewalls (T : Type) where
  controller : T → SChainRuleController
  configured : ∀ worker, (controller worker).isConfigured = true
  addressed : ∀ worker, (controller worker).Addressed
  disjoint : ∀ {first second} {port : Int}, (controller first).manager.InRange port →
    (controller second).manager.InRange port → first = second

namespace Firewalls

variable {T : Type} (firewalls : Firewalls T)

abbrev manager (worker : T) : SChainFirewallManager :=
  (firewalls.controller worker).manager

abbrev expected (worker : T) : List SChainRule :=
  (firewalls.controller worker).expected

/-- One process for each sChain; every call of `iptc` is a step of its own. -/
def crew : Crew iptcInterface Chain Empty T (SetOrder SChainRule)
    (Outcome FirewallError Unit × Unit) where
  move _ move := move.elim
  serve _ query _ chain := some (serveIptc query chain)
  job worker order := (firewalls.controller worker).sync order ()

def Permitted (worker : T) : IptcQuery → Prop
  | .insertRule ruleD | .deleteRule ruleD =>
      (firewalls.manager worker).isForeign ruleD = false
  | _ => True

structure Kept (initial chain : Chain) : Prop where
  legible : ∀ ruleD ∈ chain, Legible ruleD
  settled : ∀ worker,
    (firewalls.manager worker).Settled (firewalls.expected worker) chain
  present : ∀ worker, ∀ rule ∈ firewalls.expected worker,
    rule ∈ (firewalls.manager worker).held initial →
      rule ∈ (firewalls.manager worker).held chain
  outside : ∀ keep : RuleD → Bool,
    (∀ ruleD, keep ruleD = true →
      ∀ worker, (firewalls.manager worker).isForeign ruleD = true) →
    chain.filter keep = initial.filter keep

abbrev ownRules (worker : T) (chain : Chain) : Chain :=
  chain.filter fun ruleD => !(firewalls.manager worker).isForeign ruleD

section Steps

variable {firewalls} {worker other : T} {ruleD : RuleD} {rule : SChainRule}
  {initial chain : Chain}

theorem eq_of_not_foreign
    (own : (firewalls.manager worker).isForeign ruleD = false)
    (others : (firewalls.manager other).isForeign ruleD = false) : worker = other := by
  unfold SChainFirewallManager.isForeign at own others
  split at own
  · rename_i port manageable number
    rw [manageable, number] at others
    simp only [Bool.not_eq_false', decide_eq_true_eq] at own others
    exact firewalls.disjoint own others
  · cases own

theorem unseen_of_not_foreign {keep : RuleD → Bool}
    (outside : ∀ ruleD, keep ruleD = true →
      ∀ worker, (firewalls.manager worker).isForeign ruleD = true)
    (own : (firewalls.manager worker).isForeign ruleD = false) :
    keep ruleD = false := by
  cases kept : keep ruleD with
  | false => rfl
  | true =>
      rw [outside ruleD kept worker] at own
      cases own

theorem wants (worker : T) :
    (firewalls.manager worker).Wants (firewalls.expected worker) :=
  SChainRuleController.wants_expected (firewalls.addressed worker)

theorem managed_owned  
    (managed : (firewalls.manager worker).managed ruleD = some rule) :
    (!(firewalls.manager worker).isForeign ruleD) = true := by
  rw [SChainFirewallManager.isForeign_of_managed managed]
  rfl

theorem mem_held_ownRules :
    rule ∈ (firewalls.manager worker).held (firewalls.ownRules worker chain) ↔
      rule ∈ (firewalls.manager worker).held chain := by
  rw [SChainFirewallManager.mem_held, SChainFirewallManager.mem_held]
  constructor
  · rintro ⟨ruleD, member, managed⟩
    exact ⟨ruleD, (List.mem_filter.mp member).1, managed⟩
  · rintro ⟨ruleD, member, managed⟩
    exact ⟨ruleD, List.mem_filter.mpr ⟨member, managed_owned managed⟩, managed⟩

theorem settled_ownRules
    (settled :
      (firewalls.manager worker).Settled (firewalls.expected worker) chain) :
    (firewalls.manager worker).Settled (firewalls.expected worker)
      (firewalls.ownRules worker chain) := by
  intro ruleD member rule managed unwanted
  obtain ⟨spelled, once⟩ :=
    settled ruleD (List.mem_filter.mp member).1 rule managed unwanted
  have counted : (firewalls.ownRules worker chain).count ruleD = chain.count ruleD :=
    List.count_filter (managed_owned managed)
  exact ⟨spelled, counted.trans once⟩

theorem kept_insert (kept : firewalls.Kept initial chain)
    (wanted : rule ∈ firewalls.expected worker) (fresh : rule.ruleD ∉ chain) :
    firewalls.Kept initial (rule.ruleD :: chain) := by
  obtain ⟨spelled, managed⟩ := wants worker rule wanted
  have own := SChainFirewallManager.isForeign_of_managed managed
  constructor
  case legible =>
    intro ruleD member
    rcases List.mem_cons.mp member with rfl | member
    · exact legible_of_readRule (SChainFirewallManager.managed_eq_some.mp managed).1
    · exact kept.legible ruleD member
  case settled =>
    intro other ruleD member found foundManaged unwanted
    rcases List.mem_cons.mp member with rfl | member
    · have mine := SChainFirewallManager.isForeign_of_managed foundManaged
      obtain rfl := eq_of_not_foreign own mine
      rw [managed] at foundManaged
      exact absurd (Option.some.inj foundManaged ▸ wanted) unwanted
    · obtain ⟨written, once⟩ :=
        kept.settled other ruleD member found foundManaged unwanted
      refine ⟨written, ?_⟩
      rw [List.count_cons_of_ne, once]
      rintro rfl
      exact fresh member
  case present =>
    intro other found foundWanted started
    obtain ⟨ruleD, member, foundManaged⟩ :=
      SChainFirewallManager.mem_held.mp (kept.present other found foundWanted started)
    exact SChainFirewallManager.mem_held.mpr
      ⟨ruleD, List.mem_cons_of_mem _ member, foundManaged⟩
  case outside =>
    intro keep outside
    rw [List.filter_cons_of_neg (by simp [unseen_of_not_foreign outside own])]
    exact kept.outside keep outside

theorem kept_delete (kept : firewalls.Kept initial chain)
    (managed : (firewalls.manager worker).managed ruleD = some rule)
    (unwanted : rule ∉ firewalls.expected worker) :
    firewalls.Kept initial (chain.erase ruleD) := by
  have own := SChainFirewallManager.isForeign_of_managed managed
  constructor
  case legible =>
    intro other member
    exact kept.legible other (List.mem_of_mem_erase member)
  case settled =>
    intro other found member foundRule foundManaged foundUnwanted
    have inside := List.mem_of_mem_erase member
    obtain ⟨written, once⟩ :=
      kept.settled other found inside foundRule foundManaged foundUnwanted
    refine ⟨written, ?_⟩
    have left : 0 < (chain.erase ruleD).count found := List.count_pos_iff.mpr member
    have fewer : (chain.erase ruleD).count found ≤ chain.count found :=
      List.erase_sublist.count_le found
    omega
  case present =>
    intro other found foundWanted started
    obtain ⟨foundD, member, foundManaged⟩ :=
      SChainFirewallManager.mem_held.mp (kept.present other found foundWanted started)
    have different : foundD ≠ ruleD := by
      rintro rfl
      have mine := SChainFirewallManager.isForeign_of_managed foundManaged
      obtain rfl := eq_of_not_foreign own mine
      rw [managed] at foundManaged
      exact unwanted (Option.some.inj foundManaged ▸ foundWanted)
    exact SChainFirewallManager.mem_held.mpr
      ⟨foundD, (List.mem_erase_of_ne different).mpr member, foundManaged⟩
  case outside =>
    intro keep outside
    rw [← List.erase_filter, List.erase_of_not_mem]
    · exact kept.outside keep outside
    · intro member
      have seen := (List.mem_filter.mp member).2
      rw [unseen_of_not_foreign outside own] at seen
      cases seen

end Steps

section Workers

variable [DecidableEq T] {firewalls} {initial : Chain}

/-- A controller owns the rules of its range: the others are not permitted to touch
them. -/
def tenancy (firewalls : Firewalls T) (initial : Chain) (worker : T) :
    Tenancy (Crew.Rely iptcInterface Empty T) (SetOrder SChainRule)
      (Outcome FirewallError Unit × Unit) where
  host := firewalls.crew.host worker
  discipline := Crew.rely {} firewalls.Permitted worker
  invariant := firewalls.Kept initial
  owned ruleD := !(firewalls.manager worker).isForeign ruleD
  mayInsert ruleD := ∃ rule ∈ firewalls.expected worker, ruleD = rule.ruleD
  mayDelete ruleD := ∃ rule, (firewalls.manager worker).managed ruleD = some rule ∧
    rule ∉ firewalls.expected worker
  serves _ _ _ := rfl
  apart := by
    intro chain move moved allowed taken
    cases move with
    | move move => exact move.elim
    | call other query proposed =>
        obtain ⟨permitted, _⟩ := allowed
        change (if other = worker then none
          else some (serveIptc query chain).2) = some moved at taken
        split at taken
        · cases taken
        · rename_i different
          obtain rfl := Option.some.inj taken
          have unseen : ∀ ruleD : RuleD,
              (firewalls.manager other).isForeign ruleD = false →
              (!(firewalls.manager worker).isForeign ruleD) = false := by
            intro ruleD own
            cases mine : (firewalls.manager worker).isForeign ruleD with
            | true => rfl
            | false => exact absurd (eq_of_not_foreign own mine) different
          cases query with
          | rules => rfl
          | hasRule ruleD => rfl
          | insertRule ruleD =>
              exact List.filter_cons_of_neg (by simpa using unseen ruleD permitted)
          | deleteRule ruleD =>
              have hidden := unseen ruleD permitted
              simp only [serveIptc]
              split
              · rw [← List.erase_filter, List.erase_of_not_mem]
                intro member
                have seen := (List.mem_filter.mp member).2
                rw [hidden] at seen
                cases seen
              · rfl
  legible kept := kept.legible
  inserts kept allowed fresh := by
    obtain ⟨rule, wanted, rfl⟩ := allowed
    exact kept_insert kept wanted fresh
  deletes kept allowed := by
    obtain ⟨rule, managed, unwanted⟩ := allowed
    exact kept_delete kept managed unwanted
  insertsOwned allowed := by
    obtain ⟨rule, wanted, rfl⟩ := allowed
    rw [SChainFirewallManager.isForeign_of_managed (wants _ rule wanted).2]
    rfl
  deletesOwned allowed := by
    obtain ⟨rule, managed, _⟩ := allowed
    rw [SChainFirewallManager.isForeign_of_managed managed]
    rfl

def Synced (firewalls : Firewalls T) (worker : T) (ended : Outcome FirewallError Unit × Unit)
    (chain : Chain) : Prop :=
  ended.1 = .value () ∧ ∀ rule,
    rule ∈ (firewalls.manager worker).held chain ↔ rule ∈ firewalls.expected worker

theorem sync_sketches {worker : T} {own : Chain} (order : SetOrder SChainRule)
    (settled : (firewalls.manager worker).Settled (firewalls.expected worker) own) :
    (tenancy firewalls initial worker).Sketches (· = own)
      ((firewalls.controller worker).sync order)
      (fun _ own' => ∀ rule, rule ∈ (firewalls.manager worker).held own' ↔
        rule ∈ firewalls.expected worker) False := by
  rw [Tenancy.sync_of_configured (firewalls.configured worker)]
  have sketches : (tenancy firewalls initial worker).Sketches (· = own)
      ((firewalls.manager worker).updateRules order (firewalls.expected worker))
      (fun _ own' => ∃ added removed,
        (firewalls.manager worker).Difference (firewalls.expected worker) own added
          removed ∧ own' = updated added removed own) False := by
    apply Tenancy.updateRules_sketches
    · intro ruleD rule managed
      exact managed_owned managed
    · intro rule wanted
      exact ⟨(wants worker rule wanted).1, rule, wanted, rfl⟩
    · intro rule held unwanted
      obtain ⟨ruleD, member, managed⟩ := SChainFirewallManager.mem_held.mp held
      obtain ⟨spelled, _⟩ := settled ruleD member rule managed unwanted
      rw [SChainRule.ruleD_of_spelled spelled]
      exact ⟨spelled, rule, managed, unwanted⟩
  apply sketches.weaken
  · rintro _ own' ⟨added, removed, difference, rfl⟩
    exact SChainFirewallManager.held_updated (wants worker) settled difference
  · exact id

theorem sync_outline (worker : T) (order : SetOrder SChainRule) :
    ∃ before : Chain → Prop, (∀ chain, firewalls.Kept initial chain → before chain) ∧
      (firewalls.crew.host worker).Outline (Crew.rely {} firewalls.Permitted worker)
        (firewalls.Kept initial) before (firewalls.crew.job worker order)
        (firewalls.Synced worker) := by
  refine ⟨_, ?_, Host.Outline.weaken (Host.Outline.of_exists fun own :
    { own // (firewalls.manager worker).Settled (firewalls.expected worker) own } =>
      sync_sketches order own.2) ?_⟩
  · intro chain kept
    exact ⟨⟨_, settled_ownRules (kept.settled worker)⟩, rfl⟩
  · intro ended chain _ ends
    obtain ⟨outcome, ⟨⟩⟩ := ended
    cases outcome with
    | value result =>
        refine ⟨rfl, fun rule => ?_⟩
        rw [← mem_held_ownRules]
        exact ends rule
    | raised error => exact ends.elim
    | running => exact ends.elim

end Workers

section Calls

variable {firewalls} {worker : T} {rules : List SChainRule}

theorem not_foreign_of_spelled {rule : SChainRule} {ruleD : RuleD}
    (spelled : Spelled rule ruleD)
    (inside : (firewalls.manager worker).InRange rule.port) :
    (firewalls.manager worker).isForeign ruleD = false := by
  unfold SChainFirewallManager.isForeign
  rw [spelled.isManageable, spelled.portOf]
  simp [inside]

theorem calls_liftExcept {α : Type} {allowed : IptcQuery → Prop}
    {result : Except FirewallError α} : (liftExcept result).Calls allowed := by
  cases result with
  | ok result => exact calls_pure result
  | error error => exact calls_raise error

theorem calls_hasRule (rule : SChainRule) :
    (hasRule rule).Calls (firewalls.Permitted worker) :=
  calls_bind calls_liftExcept fun _ => calls_invoke trivial

theorem calls_addRule {rule : SChainRule}
    (inside : (firewalls.manager worker).InRange rule.port) :
    (addRule rule).Calls (firewalls.Permitted worker) := by
  refine calls_bind (calls_hasRule rule) fun found => ?_
  cases found with
  | true => exact calls_pure ()
  | false =>
      cases written : schainRuleToRuleD rule with
      | error error => exact calls_raise error
      | ok ruleD =>
          exact calls_invoke (not_foreign_of_spelled
            (schainRuleToRuleD_eq_ok.mp written) inside)

theorem calls_removeRule {rule : SChainRule}
    (inside : (firewalls.manager worker).InRange rule.port) :
    (removeRule rule).Calls (firewalls.Permitted worker) := by
  refine calls_bind (calls_hasRule rule) fun found => ?_
  cases found with
  | false => exact calls_pure ()
  | true =>
      cases written : schainRuleToRuleD rule with
      | error error => exact calls_raise error
      | ok ruleD =>
          exact calls_invoke (not_foreign_of_spelled
            (schainRuleToRuleD_eq_ok.mp written) inside)

theorem calls_addEach
    (inside : ∀ rule ∈ rules, (firewalls.manager worker).InRange rule.port) :
    (SChainFirewallManager.addEach rules).Calls (firewalls.Permitted worker) := by
  induction rules with
  | nil => exact calls_pure ()
  | cons rule rest ih =>
      refine calls_bind (calls_addRule (inside rule (by simp))) fun _ => ?_
      exact ih fun other member => inside other (by simp [member])

theorem calls_removeRules
    (inside : ∀ rule ∈ rules, (firewalls.manager worker).InRange rule.port) :
    (SChainFirewallManager.removeRules rules).Calls (firewalls.Permitted worker) := by
  induction rules with
  | nil => exact calls_pure ()
  | cons rule rest ih =>
      refine calls_bind (calls_removeRule (inside rule (by simp))) fun _ => ?_
      exact ih fun other member => inside other (by simp [member])

theorem calls_sync (worker : T) (order : SetOrder SChainRule) :
    ((firewalls.controller worker).sync order).Calls (firewalls.Permitted worker) := by
  rw [Tenancy.sync_of_configured (firewalls.configured worker)]
  unfold SChainFirewallManager.updateRules SChainFirewallManager.rules
    IptablesController.rules
  rw [Procedure.bind_assoc, Procedure.bind_assoc]
  refine calls_bind (calls_invoke trivial) fun chain => ?_
  refine calls_bind calls_liftExcept fun hostRules => ?_
  let actualRules := SChainRule.sorted (hostRules.filter fun rule =>
    (firewalls.manager worker).firstPort ≤ rule.port ∧
      rule.port ≤ (firewalls.manager worker).lastPort)
  have within : ∀ rule ∈ actualRules, (firewalls.manager worker).InRange rule.port := by
    intro rule member
    have kept := (List.mem_filter.mp (SChainRule.mem_sorted.mp member)).2
    exact of_decide_eq_true kept
  have changes : (do
      SChainFirewallManager.addRules
        ((firewalls.expected worker).dedup.filter (· ∉ actualRules))
      SChainFirewallManager.removeRules (order.arrange
        (actualRules.dedup.filter (· ∉ firewalls.expected worker))) :
      FirewallM Unit).Calls (firewalls.Permitted worker) := by
    refine calls_bind (calls_addEach ?_) fun _ => calls_removeRules ?_
    · intro rule member
      have wanted := (List.mem_filter.mp (SChainRule.mem_sorted.mp member)).1
      exact (SChainFirewallManager.managed_eq_some.mp
        (wants worker rule (List.mem_dedup.mp wanted)).2).2
    · intro rule member
      rw [SetOrder.mem_arrange, List.mem_filter, List.mem_dedup] at member
      exact within rule member.1
  exact changes

end Calls

section Runs

variable [DecidableEq T]

/-- The rules that stay are there throughout, those outside all ranges are not touched,
and a controller that is done has what it expects. -/
structure Independent (firewalls : Firewalls T) (initial : Chain)
    (config : Crew.Configuration iptcInterface Chain T
      (Outcome FirewallError Unit × Unit)) : Prop where
  present : ∀ worker, ∀ rule ∈ firewalls.expected worker,
    rule ∈ (firewalls.manager worker).held initial →
      rule ∈ (firewalls.manager worker).held config.world
  outside : ∀ keep : RuleD → Bool,
    (∀ ruleD, keep ruleD = true →
      ∀ worker, (firewalls.manager worker).isForeign ruleD = true) →
    config.world.filter keep = initial.filter keep
  synced : ∀ worker ended, config.running worker = some (.done ended) →
    firewalls.Synced worker ended config.world

theorem firewalls_independent (firewalls : Firewalls T) {initial : Chain}
    (legible : ∀ ruleD ∈ initial, Legible ruleD)
    (settled : ∀ worker,
      (firewalls.manager worker).Settled (firewalls.expected worker) initial)
    (labels : List (Crew.Label iptcInterface Empty T (SetOrder SChainRule))) :
    Transition.Always firewalls.crew.step (firewalls.Independent initial)
      { world := initial } labels := by
  have start : firewalls.Kept initial initial :=
    ⟨legible, settled, fun _ _ _ held => held, fun _ _ => rfl⟩
  have begun : ∀ worker order,
      (firewalls.crew.job worker order).Calls (firewalls.Permitted worker) ∧
      ∃ before : Chain → Prop, (∀ chain, firewalls.Kept initial chain → before chain) ∧
        (firewalls.crew.host worker).Outline (Crew.rely {} firewalls.Permitted worker)
          (firewalls.Kept initial) before (firewalls.crew.job worker order)
          (firewalls.Synced worker) :=
    fun worker order => ⟨calls_sync worker order (), sync_outline worker order⟩
  apply Crew.always_of_outlines (fun {_ _ move} _ _ _ => move.elim) begun ?_ start ?_
  · intro config proved
    refine ⟨proved.kept.present, proved.kept.outside, ?_⟩
    intro worker ended done
    obtain ⟨before, holds, outline⟩ := proved.outlined worker _ done
    cases outline with
    | done _ ends => exact ends _ proved.kept holds
  · exact Transition.eachStep_of_mem (fun config label _ =>
      Crew.meets_default config label) _

def nextController : SChainRuleController :=
  { pairController with name := "next", basePort := some 10064 }

def twoFirewalls : Firewalls Bool where
  controller next := if next then nextController else pairController
  configured := by decide
  addressed next := by
    cases next with
    | false => exact pairController_addressed
    | true => exact ⟨pairController_addressed.nodeIps, fun _ member => by cases member⟩
  disjoint := by
    intro first second port own other
    cases first <;> cases second
    · rfl
    · have upper : port ≤ 10063 := own.2
      have lower : 10064 ≤ port := other.1
      omega
    · have upper : port ≤ 10063 := other.2
      have lower : 10064 ≤ port := own.1
      omega
    · rfl

theorem usedChain_settled_of_two (next : Bool) :
    (twoFirewalls.manager next).Settled (twoFirewalls.expected next) usedChain := by
  cases next with
  | false => exact usedChain_settled
  | true =>
      intro ruleD member rule managed _
      simp only [usedChain, List.mem_cons, List.not_mem_nil, or_false] at member
      obtain ⟨read, inside⟩ := SChainFirewallManager.managed_eq_some.mp managed
      rcases member with rfl | rfl
      · rw [readRule_portRule] at read
        obtain rfl := Option.some.inj read
        exact absurd inside (by decide)
      · rw [readRule_hostRule] at read
        obtain rfl := Option.some.inj read
        exact absurd inside (by decide)

def turns : List (Crew.Label iptcInterface Empty Bool (SetOrder SChainRule)) :=
  .start false listOrder :: .start true listOrder ::
    (List.replicate 40 [.call false fun _ => .error .iptcError,
      .call true fun _ => .error .iptcError]).flatten

theorem twoFirewalls_independent :
    Transition.Always twoFirewalls.crew.step (twoFirewalls.Independent usedChain)
      { world := usedChain } turns :=
  firewalls_independent twoFirewalls usedChain_legible usedChain_settled_of_two turns

end Runs

end Firewalls

end SkaleAdmin.Firewall
