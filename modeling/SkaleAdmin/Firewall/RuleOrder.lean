import SkaleAdmin.Firewall.Types
import SkaleAdmin.Library.PyOrder

/-! The order operators of `SChainRule`, and what its rules are sorted by. -/

namespace SkaleAdmin.Firewall

open PyText PyOrder

namespace SChainRule

/-! ### The operators -/

def eq (rule other : SChainRule) : Bool :=
  rule.port = other.port && rule.firstIp = other.firstIp && rule.lastIp = other.lastIp

def items (rule : SChainRule) : List Item :=
  [.int rule.port, .ofText? rule.firstIp, .ofText? rule.lastIp]

/-- `__lt__` is the rule's own, and the other methods are those of its tuple. -/
def methods : Methods SChainRule where
  lt rule other := .ok (rule.lt other)
  le := some fun rule other => compareTuple .le rule.items other.items
  gt := some fun rule other => compareTuple .gt rule.items other.items
  ge := some fun rule other => compareTuple .ge rule.items other.items

def operators : Operators SChainRule :=
  totalOrdering eq methods

/-! ### The order -/

abbrev Key := ℤ ×ₗ WithBot Text ×ₗ WithBot Text

/-- A missing address is below every text. -/
def address : Option Text → WithBot Text
  | none => ⊥
  | some ip => ip

theorem address_injective : Function.Injective address := by
  intro first second same
  cases first <;> cases second <;> cases same <;> rfl

def key (rule : SChainRule) : Key :=
  toLex (rule.port, toLex (address rule.firstIp, address rule.lastIp))

theorem key_injective : Function.Injective key := by
  intro rule other same
  obtain ⟨ports, ips⟩ := Prod.mk.inj same
  obtain ⟨firstIps, lastIps⟩ := Prod.mk.inj ips
  exact SChainRule.ext ports (address_injective firstIps) (address_injective lastIps)

def Precedes (rule other : SChainRule) : Prop :=
  rule.key < other.key

instance : IsStrictTotalOrder SChainRule Precedes :=
  @Function.Injective.isStrictTotalOrder_onFun _ _ (· < ·) key key_injective _

/-- Neither rule lacks an address in the first field in which the two differ. -/
def Comparable (rule other : SChainRule) : Prop :=
  rule.port ≠ other.port ∨
    rule.firstIp ≠ other.firstIp ∧ rule.firstIp.isSome = true ∧ other.firstIp.isSome = true ∨
    rule.firstIp = other.firstIp ∧ rule.lastIp ≠ other.lastIp ∧ rule.lastIp.isSome = true ∧
      other.lastIp.isSome = true

/-- One address is missing and the other is empty. -/
def Clash (first second : Option Text) : Prop :=
  first = none ∧ second = some [] ∨ first = some [] ∧ second = none

/-- `__lt__` tells two different rules apart in neither direction. -/
def Ties (rule other : SChainRule) : Prop :=
  rule.port = other.port ∧ (Clash rule.firstIp other.firstIp ∨
    rule.firstIp = other.firstIp ∧ Clash rule.lastIp other.lastIp)

theorem eq_iff {rule other : SChainRule} : rule.eq other = true ↔ rule = other := by
  unfold eq
  rw [SChainRule.ext_iff]
  simp [and_assoc]

section Compare

variable (operator : Operator) {rule other : SChainRule}

theorem compareTuple_ports (apart : rule.port ≠ other.port) :
    compareTuple operator rule.items other.items = .ok (operator.holds rule.key other.key) := by
  unfold items compareTuple key
  rw [if_neg (by simpa using apart), Operator.holds_of_ne operator apart]
  rfl

theorem compareTuple_firstIps (ports : rule.port = other.port)
    (apart : rule.firstIp ≠ other.firstIp) : compareTuple operator rule.items other.items =
      (Item.ofText? rule.firstIp).compare operator (.ofText? other.firstIp) := by
  have items : Item.ofText? rule.firstIp ≠ .ofText? other.firstIp :=
    fun same => apart (Item.ofText?_injective same)
  simp [SChainRule.items, compareTuple, ports, items]

theorem compareTuple_lastIps (ports : rule.port = other.port)
    (firstIps : rule.firstIp = other.firstIp) (apart : rule.lastIp ≠ other.lastIp) :
    compareTuple operator rule.items other.items =
      (Item.ofText? rule.lastIp).compare operator (.ofText? other.lastIp) := by
  have items : Item.ofText? rule.lastIp ≠ .ofText? other.lastIp :=
    fun same => apart (Item.ofText?_injective same)
  simp [SChainRule.items, compareTuple, ports, firstIps, items]

/-- The tuples of comparable rules are compared as the rules are ordered. -/
theorem compareTuple_of_comparable (comparable : rule.Comparable other) :
    compareTuple operator rule.items other.items = .ok (operator.holds rule.key other.key) := by
  by_cases ports : rule.port = other.port
  swap
  · exact compareTuple_ports operator ports
  rcases comparable with apart | ⟨apart, given, otherGiven⟩ | ⟨firstIps, apart, given, otherGiven⟩
  · exact absurd ports apart
  · obtain ⟨ip, isIp⟩ := Option.isSome_iff_exists.mp given
    obtain ⟨otherIp, isOther⟩ := Option.isSome_iff_exists.mp otherGiven
    rw [compareTuple_firstIps operator ports apart]
    unfold key
    rw [ports, Operator.holds_of_eq, Operator.holds_of_ne operator
      (address_injective.ne apart), isIp, isOther]
    exact congrArg Except.ok (operator.holds_coe ip otherIp).symm
  · obtain ⟨ip, isIp⟩ := Option.isSome_iff_exists.mp given
    obtain ⟨otherIp, isOther⟩ := Option.isSome_iff_exists.mp otherGiven
    rw [compareTuple_lastIps operator ports firstIps apart]
    unfold key
    rw [ports, firstIps, Operator.holds_of_eq, Operator.holds_of_eq, isIp, isOther]
    exact congrArg Except.ok (operator.holds_coe ip otherIp).symm

/-- Where an address is missing in the first field in which two rules differ, their tuples
cannot be compared. -/
theorem compareTuple_of_not_comparable (apart : rule ≠ other)
    (incomparable : ¬ rule.Comparable other) :
    compareTuple operator rule.items other.items = .error .notSupported := by
  have missing {first second : Option Text} (distinct : first ≠ second)
      (absent : ¬ (first.isSome = true ∧ second.isSome = true)) :
      (Item.ofText? first).compare operator (.ofText? second) = .error .notSupported := by
    cases first with
    | none => rfl
    | some text =>
        cases second with
        | none => rfl
        | some other => exact absurd ⟨rfl, rfl⟩ absent
  have ports : rule.port = other.port := by_contra fun ports => incomparable (.inl ports)
  by_cases firstIps : rule.firstIp = other.firstIp
  · have lastIps : rule.lastIp ≠ other.lastIp :=
      fun lastIps => apart (SChainRule.ext ports firstIps lastIps)
    rw [compareTuple_lastIps operator ports firstIps lastIps]
    exact missing lastIps fun given => incomparable (.inr (.inr ⟨firstIps, lastIps, given⟩))
  · rw [compareTuple_firstIps operator ports firstIps]
    exact missing firstIps fun given => incomparable (.inr (.inl ⟨firstIps, given⟩))

end Compare

/-! ### Agreement -/

section Agreement

variable {rule other : SChainRule}

theorem lt_self : rule.lt rule = true := by
  simp [lt]

theorem getD_lt_getD {first second : Option Text} (apart : first ≠ second)
    (unclashed : ¬ Clash first second) :
    first.getD [] < second.getD [] ↔ address first < address second := by
  cases first with
  | none =>
      cases second with
      | none => exact absurd rfl apart
      | some second =>
          have filled : second ≠ [] := fun empty => unclashed (.inl ⟨rfl, congrArg some empty⟩)
          obtain ⟨symbol, rest, rfl⟩ := List.exists_cons_of_ne_nil filled
          simp [address]
  | some first =>
      cases second with
      | none => simp [address]
      | some second => exact WithBot.coe_lt_coe.symm

theorem lt_iff_precedes (apart : rule ≠ other) (untied : ¬ rule.Ties other) :
    rule.lt other = true ↔ Precedes rule other := by
  unfold lt Precedes key
  rw [Prod.Lex.toLex_lt_toLex, Prod.Lex.toLex_lt_toLex]
  by_cases ports : rule.port = other.port
  swap
  · simp [ports]
  by_cases firstIps : rule.firstIp = other.firstIp
  · have lastIps : rule.lastIp ≠ other.lastIp :=
      fun lastIps => apart (SChainRule.ext ports firstIps lastIps)
    have unclashed : ¬ Clash rule.lastIp other.lastIp :=
      fun clash => untied ⟨ports, .inr ⟨firstIps, clash⟩⟩
    simp [ports, firstIps, lastIps, getD_lt_getD lastIps unclashed]
  · have unclashed : ¬ Clash rule.firstIp other.firstIp :=
      fun clash => untied ⟨ports, .inl clash⟩
    simp [ports, firstIps, getD_lt_getD firstIps unclashed, address_injective.eq_iff]

theorem Clash.missing {first second : Option Text} (clash : Clash first second) :
    ¬ (first.isSome = true ∧ second.isSome = true) := by
  rcases clash with ⟨rfl, rfl⟩ | ⟨rfl, rfl⟩
  · exact fun given => Bool.false_ne_true given.1
  · exact fun given => Bool.false_ne_true given.2

theorem Clash.ne {first second : Option Text} (clash : Clash first second) : first ≠ second := by
  rcases clash with ⟨rfl, rfl⟩ | ⟨rfl, rfl⟩ <;> exact nofun

theorem Comparable.ne (comparable : rule.Comparable other) : rule ≠ other := by
  rintro rfl
  rcases comparable with apart | ⟨apart, _⟩ | ⟨_, apart, _⟩ <;> exact apart rfl

theorem Comparable.untied (comparable : rule.Comparable other) : ¬ rule.Ties other := by
  rintro ⟨ports, clash | ⟨firstIps, clash⟩⟩
  · rcases comparable with apart | ⟨_, given⟩ | ⟨same, _⟩
    · exact apart ports
    · exact clash.missing given
    · exact clash.ne same
  · rcases comparable with apart | ⟨apart, _⟩ | ⟨_, _, given⟩
    · exact apart ports
    · exact apart firstIps
    · exact clash.missing given

theorem agrees_of_comparable (comparable : rule.Comparable other) :
    Agrees operators eq Precedes rule other where
  lt := ⟨_, rfl, lt_iff_precedes comparable.ne comparable.untied⟩
  le := by
    refine ⟨_, compareTuple_of_comparable .le comparable, ?_⟩
    rw [Operator.holds, decide_eq_true_iff, le_iff_lt_or_eq, key_injective.eq_iff]
    rfl
  gt := by
    refine ⟨_, compareTuple_of_comparable .gt comparable, ?_⟩
    rw [Operator.holds, decide_eq_true_iff]
    rfl
  ge := by
    refine ⟨_, compareTuple_of_comparable .ge comparable, ?_⟩
    rw [Operator.holds, decide_eq_true_iff, le_iff_lt_or_eq, key_injective.eq_iff, eq_comm]
    rfl
  eq := eq_iff

/-- On rules that are not comparable the operators agree with no strict order. -/
theorem comparable_of_agrees {order : SChainRule → SChainRule → Prop}
    (irrefl : ∀ rule, ¬ order rule rule) (agrees : Agrees operators eq order rule other) :
    rule.Comparable other := by
  by_contra incomparable
  by_cases same : rule = other
  · subst same
    obtain ⟨holds, answered, correct⟩ := agrees.lt
    have isLess : holds = rule.lt rule := (Except.ok.inj answered).symm
    exact irrefl rule (correct.mp (isLess.trans lt_self))
  · obtain ⟨holds, answered, _⟩ := agrees.le
    cases (compareTuple_of_not_comparable .le same incomparable).symm.trans answered

end Agreement

/-! ### Sorting -/

/-- `sorted` gives the same for the same rules in whatever order they come. -/
def SortsAlike (rules : Set SChainRule) : Prop :=
  ∀ first second : List SChainRule, (∀ rule ∈ first, rule ∈ rules) → first.Perm second →
    sorted first = sorted second

theorem Ties.lt_eq_false {rule other : SChainRule} (ties : rule.Ties other) :
    rule.lt other = false := by
  have unordered {first second : Option Text} (clash : Clash first second) :
      ¬ first.getD [] < second.getD [] := by
    rcases clash with ⟨rfl, rfl⟩ | ⟨rfl, rfl⟩ <;> simp
  obtain ⟨ports, clash | ⟨firstIps, clash⟩⟩ := ties
  · simp [lt, ports, clash.ne, unordered clash]
  · simp [lt, ports, firstIps, clash.ne, unordered clash]

theorem Ties.ne {rule other : SChainRule} (ties : rule.Ties other) : rule ≠ other := by
  rintro rfl
  obtain ⟨_, clash | ⟨_, clash⟩⟩ := ties <;> exact clash.ne rfl

theorem Ties.symm {rule other : SChainRule} (ties : rule.Ties other) : other.Ties rule := by
  have flipped {first second : Option Text} (clash : Clash first second) :
      Clash second first := clash.symm.imp And.symm And.symm
  exact ⟨ties.1.symm, ties.2.imp flipped fun same => ⟨same.1.symm, flipped same.2⟩⟩

/-- Where no rules tie, every answer of `__lt__` tells how two rules may stand, be they equal
or not. -/
theorem sound_of_untied {rules : Set SChainRule}
    (untied : ∀ rule ∈ rules, ∀ other ∈ rules, ¬ rule.Ties other) :
    Sound (fun rule other => !other.lt rule) (fun rule other => rule.key ≤ other.key)
      (· ∈ rules) where
  trans _ _ _ := le_trans
  yes rule other inside otherInside unordered := by
    have unordered : other.lt rule ≠ true := by simpa using unordered
    apply not_lt.mp
    intro above
    have apart : other ≠ rule := by
      rintro rfl
      exact unordered lt_self
    exact unordered ((lt_iff_precedes apart (untied other otherInside rule inside)).mpr above)
  no rule other inside otherInside ordered := by
    have ordered : other.lt rule = true := by simpa using ordered
    by_cases same : other = rule
    · rw [same]
    · exact ((lt_iff_precedes same (untied other otherInside rule inside)).mp ordered).le

theorem sorted_pair {rule other : SChainRule} (unordered : other.lt rule = false) :
    sorted [rule, other] = [rule, other] := by
  simp [sorted, List.mergeSort, unordered]

theorem sortsAlike_iff {rules : Set SChainRule} :
    SortsAlike rules ↔ ∀ rule ∈ rules, ∀ other ∈ rules, ¬ rule.Ties other := by
  constructor
  · intro alike rule inside other otherInside ties
    have same := alike [rule, other] [other, rule] (by simp [inside, otherInside])
      (List.Perm.swap other rule [])
    rw [sorted_pair ties.symm.lt_eq_false, sorted_pair ties.lt_eq_false] at same
    exact ties.ne (List.cons.inj same).1
  · intro untied first second inside same
    exact mergeSort_eq_of_perm (sound_of_untied untied)
      (fun _ _ below above => key_injective (le_antisymm below above)) inside same

/-- The operators on two rules are those of one strict total order if these are comparable, and
of no strict total order otherwise. Sorting depends on the rules alone where none of them tie. -/
theorem operators_agree_iff (rule other : SChainRule) (rules : Set SChainRule) :
    (Agrees operators eq Precedes rule other ↔ rule.Comparable other) ∧
    (∀ order : SChainRule → SChainRule → Prop, IsStrictTotalOrder SChainRule order →
      Agrees operators eq order rule other → rule.Comparable other) ∧
    IsStrictTotalOrder SChainRule Precedes ∧
    (SortsAlike rules ↔ ∀ rule ∈ rules, ∀ other ∈ rules, ¬ rule.Ties other) := by
  refine ⟨⟨?_, agrees_of_comparable⟩, ?_, inferInstance, sortsAlike_iff⟩
  · intro agrees
    exact comparable_of_agrees (fun rule => irrefl (r := Precedes) rule) agrees
  · intro order strict agrees
    exact comparable_of_agrees (fun rule => irrefl rule) agrees

def openRule : SChainRule :=
  new 10000 none none

def hostRule (ip : Text) : SChainRule :=
  new 10000 (some ip) none

/-- Hosts are ordered by their addresses, and an open rule ties with none of them. -/
theorem operators_agree_iff_hosts :
    Agrees operators eq Precedes (hostRule "1.1.1.1".toList) (hostRule "1.1.1.2".toList) ∧
      SortsAlike {openRule, hostRule "1.1.1.1".toList} := by
  obtain ⟨agree, _, _, sorts⟩ := operators_agree_iff (hostRule "1.1.1.1".toList)
    (hostRule "1.1.1.2".toList) {openRule, hostRule "1.1.1.1".toList}
  constructor
  · apply agree.mpr
    exact .inr (.inl ⟨by decide, rfl, rfl⟩)
  · apply sorts.mpr
    intro rule inside other otherInside ties
    rcases inside with rfl | rfl <;> rcases otherInside with rfl | rfl
    all_goals
      obtain ⟨_, clash | ⟨_, clash⟩⟩ := ties <;>
        simp [Clash, openRule, hostRule, new, isFalsy] at clash

/-- A rule is less than itself, and an open rule cannot be asked whether it is at most a
host's. -/
theorem operators_disagree :
    operators.lt openRule openRule = .ok true ∧
      operators.le openRule (hostRule "1.1.1.1".toList) = .error .notSupported ∧
      ¬ ∃ order : SChainRule → SChainRule → Prop, IsStrictTotalOrder SChainRule order ∧
        (∀ rule other, Agrees operators eq order rule other) ∧ SortsAlike Set.univ := by
  refine ⟨rfl, rfl, ?_⟩
  intro ⟨order, strict, agrees, _⟩
  obtain ⟨holds, answered, correct⟩ := (agrees openRule openRule).lt
  have isLess : holds = true := (Except.ok.inj answered).symm
  exact irrefl (r := order) openRule (correct.mp isLess)

end SChainRule

end SkaleAdmin.Firewall
