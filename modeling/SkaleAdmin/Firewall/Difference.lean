import Mathlib.Data.List.Count
import Mathlib.Tactic.Tauto
import SkaleAdmin.Firewall.FirewallManager
import SkaleAdmin.Firewall.RuleCodec

/-! What a chain holds for a range of ports before and after an update. -/

namespace SkaleAdmin.Firewall

open IptablesController

abbrev Chain := List RuleD

namespace SChainRule

def ruleD (rule : SChainRule) : RuleD :=
  (schainRuleToRuleD rule).toOption.getD {}

theorem ruleD_of_spelled {rule : SChainRule} {ruleD : RuleD}
    (spelled : Spelled rule ruleD) : rule.ruleD = ruleD := by
  unfold SChainRule.ruleD
  rw [schainRuleToRuleD_eq_ok.mpr spelled]
  rfl

end SChainRule

def insertAll (rules : List SChainRule) (chain : Chain) : Chain :=
  rules.foldl (fun chain rule => chain.insert rule.ruleD) chain

namespace SChainFirewallManager

variable (manager : SChainFirewallManager)

def InRange (port : Int) : Prop :=
  manager.firstPort ≤ port ∧ port ≤ manager.lastPort

instance (port : Int) : Decidable (manager.InRange port) :=
  inferInstanceAs (Decidable (_ ∧ _))

/-- The rule of the sChain that the manager takes a rule of the chain for. -/
def managed (ruleD : RuleD) : Option SChainRule :=
  (readRule ruleD).filter fun rule => manager.InRange rule.port

/-- The rule is not manageable, or its port is outside the range. -/
def isForeign (ruleD : RuleD) : Bool :=
  match isManageable ruleD, portOf ruleD with
  | .ok true, .ok port => !decide (manager.InRange port)
  | _, _ => true

def held (chain : Chain) : List SChainRule :=
  chain.filterMap manager.managed

variable {manager}

theorem managed_eq_some {ruleD : RuleD} {rule : SChainRule} :
    manager.managed ruleD = some rule ↔
      readRule ruleD = some rule ∧ manager.InRange rule.port := by
  unfold managed
  rw [Option.filter_eq_some_iff]
  simp

theorem isForeign_of_managed {ruleD : RuleD} {rule : SChainRule}
    (managed : manager.managed ruleD = some rule) : manager.isForeign ruleD = false := by
  obtain ⟨read, inside⟩ := managed_eq_some.mp managed
  obtain ⟨manageable, decoded⟩ := readRule_eq_some.mp read
  obtain ⟨firstIp, lastIp, port, _, number, rfl⟩ := ruleDToSchainRule_eq_ok.mp decoded
  rw [SChainRule.new_port] at inside
  unfold isForeign
  rw [manageable, number]
  simp [inside]

theorem mem_held {chain : Chain} {rule : SChainRule} :
    rule ∈ manager.held chain ↔
      ∃ ruleD ∈ chain, manager.managed ruleD = some rule :=
  List.mem_filterMap

/-- The rules that `update_rules` adds and removes. -/
structure Difference (manager : SChainFirewallManager) (rules : List SChainRule)
    (chain : Chain) (added removed : List SChainRule) : Prop where
  mem_added : ∀ rule, rule ∈ added ↔ rule ∈ rules ∧ rule ∉ manager.held chain
  nodup_removed : removed.Nodup
  mem_removed : ∀ rule, rule ∈ removed ↔ rule ∈ manager.held chain ∧ rule ∉ rules

/-- The rules can be written, are in the range and are read back as they are. -/
def Wants (manager : SChainFirewallManager) (rules : List SChainRule) : Prop :=
  ∀ rule ∈ rules, Spelled rule rule.ruleD ∧ manager.managed rule.ruleD = some rule

/-- Apart from what is taken for one of the rules, the chain has for the range only what
the admin writes, and each of it once. -/
def Settled (manager : SChainFirewallManager) (rules : List SChainRule)
    (chain : Chain) : Prop :=
  ∀ ruleD ∈ chain, ∀ rule, manager.managed ruleD = some rule → rule ∉ rules →
    Spelled rule ruleD ∧ chain.count ruleD = 1

end SChainFirewallManager

def updated (added removed : List SChainRule) (chain : Chain) : Chain :=
  (insertAll added chain).diff (removed.map SChainRule.ruleD)

section Updated

variable {manager : SChainFirewallManager} {rules added removed : List SChainRule}
  {chain : Chain} {ruleD : RuleD} {rule : SChainRule}

theorem mem_insertAll :
    ruleD ∈ insertAll rules chain ↔
      ruleD ∈ chain ∨ ∃ rule ∈ rules, ruleD = rule.ruleD := by
  unfold insertAll
  induction rules generalizing chain with
  | nil => simp
  | cons rule rest ih =>
      rw [List.foldl_cons, ih, List.mem_insert_iff]
      simp only [List.mem_cons, exists_eq_or_imp]
      tauto

theorem count_insertAll (present : ruleD ∈ chain) :
    (insertAll rules chain).count ruleD = chain.count ruleD := by
  unfold insertAll
  induction rules generalizing chain with
  | nil => rfl
  | cons rule rest ih =>
      rw [List.foldl_cons, ih (List.mem_insert_of_mem present)]
      by_cases inside : rule.ruleD ∈ chain
      · rw [List.insert_of_mem inside]
      · have other : rule.ruleD ≠ ruleD := fun same => inside (same ▸ present)
        rw [List.insert_of_not_mem inside, List.count_cons_of_ne other]

theorem mem_of_mem_updated (member : ruleD ∈ updated added removed chain) :
    ruleD ∈ chain ∨ ∃ rule ∈ added, ruleD = rule.ruleD :=
  mem_insertAll.mp (List.diff_subset _ _ member)

theorem mem_updated (inside : ruleD ∈ chain ∨ ∃ rule ∈ added, ruleD = rule.ruleD)
    (kept : ∀ rule ∈ removed, rule.ruleD ≠ ruleD) :
    ruleD ∈ updated added removed chain := by
  apply List.mem_diff_of_mem (mem_insertAll.mpr inside)
  intro member
  obtain ⟨rule, present, same⟩ := List.mem_map.mp member
  exact kept rule present same

namespace SChainFirewallManager

theorem Difference.exists_of_removed
    (difference : manager.Difference rules chain added removed)
    (settled : manager.Settled rules chain) (member : rule ∈ removed) :
    rule.ruleD ∈ chain ∧ manager.managed rule.ruleD = some rule := by
  obtain ⟨held, unwanted⟩ := (difference.mem_removed rule).mp member
  obtain ⟨ruleD, inside, managed⟩ := mem_held.mp held
  obtain ⟨spelled, _⟩ := settled ruleD inside rule managed unwanted
  rw [SChainRule.ruleD_of_spelled spelled]
  exact ⟨inside, managed⟩

theorem mem_rules_of_held_updated (wants : manager.Wants rules)
    (settled : manager.Settled rules chain)
    (difference : manager.Difference rules chain added removed)
    (held : rule ∈ manager.held (updated added removed chain)) : rule ∈ rules := by
  obtain ⟨ruleD, member, managed⟩ := mem_held.mp held
  by_contra unwanted
  have inside : ruleD ∈ chain := by
    rcases mem_of_mem_updated member with inside | ⟨other, present, rfl⟩
    · exact inside
    · have wanted := ((difference.mem_added other).mp present).1
      rw [(wants other wanted).2] at managed
      exact absurd (Option.some.inj managed ▸ wanted) unwanted
  obtain ⟨spelled, once⟩ := settled ruleD inside rule managed unwanted
  have removal : rule ∈ removed :=
    (difference.mem_removed rule).mpr ⟨mem_held.mpr ⟨ruleD, inside, managed⟩, unwanted⟩
  have listed : ruleD ∈ removed.map SChainRule.ruleD :=
    List.mem_map.mpr ⟨rule, removal, SChainRule.ruleD_of_spelled spelled⟩
  have gone : (updated added removed chain).count ruleD = 0 := by
    have some : 0 < (removed.map SChainRule.ruleD).count ruleD :=
      List.count_pos_iff.mpr listed
    unfold updated
    rw [List.count_diff, count_insertAll inside]
    omega
  exact List.count_eq_zero.mp gone member

theorem held_updated_of_mem_rules (wants : manager.Wants rules)
    (settled : manager.Settled rules chain)
    (difference : manager.Difference rules chain added removed)
    (wanted : rule ∈ rules) : rule ∈ manager.held (updated added removed chain) := by
  have kept : ∀ {ruleD : RuleD}, manager.managed ruleD = some rule →
      ∀ other ∈ removed, other.ruleD ≠ ruleD := by
    rintro ruleD managed other member rfl
    obtain ⟨_, otherManaged⟩ := difference.exists_of_removed settled member
    rw [managed] at otherManaged
    obtain rfl := Option.some.inj otherManaged
    exact ((difference.mem_removed rule).mp member).2 wanted
  by_cases held : rule ∈ manager.held chain
  · obtain ⟨ruleD, inside, managed⟩ := mem_held.mp held
    exact mem_held.mpr ⟨ruleD, mem_updated (.inl inside) (kept managed), managed⟩
  · have managed := (wants rule wanted).2
    have addition := (difference.mem_added rule).mpr ⟨wanted, held⟩
    exact mem_held.mpr
      ⟨rule.ruleD, mem_updated (.inr ⟨rule, addition, rfl⟩) (kept managed), managed⟩

theorem held_updated (wants : manager.Wants rules)
    (settled : manager.Settled rules chain)
    (difference : manager.Difference rules chain added removed) :
    ∀ rule, rule ∈ manager.held (updated added removed chain) ↔ rule ∈ rules :=
  fun _ => ⟨mem_rules_of_held_updated wants settled difference,
    held_updated_of_mem_rules wants settled difference⟩

/-- If nothing else is left for the range, the removals have found what they name. -/
theorem settled_of_held_updated
    (difference : manager.Difference rules chain added removed)
    (writable : ∀ rule ∈ removed, Spelled rule rule.ruleD)
    (synced : ∀ rule ∈ manager.held (updated added removed chain), rule ∈ rules) :
    manager.Settled rules chain := by
  have listed : ∀ ruleD ∈ chain, ∀ rule, manager.managed ruleD = some rule →
      rule ∉ rules → ¬ 0 < (updated added removed chain).count ruleD := by
    intro ruleD _ rule managed unwanted left
    exact unwanted (synced rule
      (mem_held.mpr ⟨ruleD, List.count_pos_iff.mp left, managed⟩))
  have written : ∀ ruleD ∈ chain, ∀ rule, manager.managed ruleD = some rule →
      rule ∉ rules → Spelled rule ruleD := by
    intro ruleD inside rule managed unwanted
    have gone := listed ruleD inside rule managed unwanted
    have removal : ruleD ∈ removed.map SChainRule.ruleD := by
      by_contra kept
      apply gone
      rw [List.count_pos_iff]
      exact List.mem_diff_of_mem (mem_insertAll.mpr (.inl inside)) kept
    obtain ⟨other, member, rfl⟩ := List.mem_map.mp removal
    exact (writable other member).read_spelled (managed_eq_some.mp managed).1
  have distinct : (removed.map SChainRule.ruleD).Nodup := by
    refine List.Nodup.map_on ?_ difference.nodup_removed
    intro first firstMember second secondMember same
    obtain ⟨firstHeld, firstUnwanted⟩ := (difference.mem_removed first).mp firstMember
    obtain ⟨secondHeld, secondUnwanted⟩ :=
      (difference.mem_removed second).mp secondMember
    obtain ⟨firstD, firstInside, firstManaged⟩ := mem_held.mp firstHeld
    obtain ⟨secondD, secondInside, secondManaged⟩ := mem_held.mp secondHeld
    have firstSame := SChainRule.ruleD_of_spelled
      (written firstD firstInside first firstManaged firstUnwanted)
    have secondSame := SChainRule.ruleD_of_spelled
      (written secondD secondInside second secondManaged secondUnwanted)
    rw [← firstSame, same, secondSame, secondManaged] at firstManaged
    exact (Option.some.inj firstManaged).symm
  intro ruleD inside rule managed unwanted
  refine ⟨written ruleD inside rule managed unwanted, ?_⟩
  have gone := listed ruleD inside rule managed unwanted
  unfold updated at gone
  rw [List.count_diff, count_insertAll inside] at gone
  have atMost : (removed.map SChainRule.ruleD).count ruleD ≤ 1 :=
    List.nodup_iff_count_le_one.mp distinct ruleD
  have present : 0 < chain.count ruleD := List.count_pos_iff.mpr inside
  omega

end SChainFirewallManager

theorem filter_insertAll {keep : RuleD → Bool}
    (unseen : ∀ rule ∈ added, keep rule.ruleD = false) :
    (insertAll added chain).filter keep = chain.filter keep := by
  unfold insertAll
  induction added generalizing chain with
  | nil => rfl
  | cons rule rest ih =>
      rw [List.foldl_cons, ih fun other member => unseen other (by simp [member])]
      have hidden := unseen rule (by simp)
      by_cases inside : rule.ruleD ∈ chain
      · rw [List.insert_of_mem inside]
      · rw [List.insert_of_not_mem inside, List.filter_cons_of_neg (by simp [hidden])]

theorem filter_diff {keep : RuleD → Bool} {gone : List RuleD}
    (unseen : ∀ ruleD ∈ gone, keep ruleD = false) :
    (chain.diff gone).filter keep = chain.filter keep := by
  induction gone generalizing chain with
  | nil => rfl
  | cons ruleD rest ih =>
      rw [List.diff_cons, ih fun other member => unseen other (by simp [member]),
        ← List.erase_filter, List.erase_of_not_mem]
      intro member
      have seen := (List.mem_filter.mp member).2
      rw [unseen ruleD (by simp)] at seen
      cases seen

theorem filter_updated {keep : RuleD → Bool}
    (unseen : ∀ rule ∈ added ++ removed, keep rule.ruleD = false) :
    (updated added removed chain).filter keep = chain.filter keep := by
  unfold updated
  rw [filter_diff, filter_insertAll]
  · intro rule member
    exact unseen rule (by simp [member])
  · intro ruleD member
    obtain ⟨rule, present, rfl⟩ := List.mem_map.mp member
    exact unseen rule (by simp [present])

end Updated

end SkaleAdmin.Firewall
