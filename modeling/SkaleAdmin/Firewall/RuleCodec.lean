import SkaleAdmin.Firewall.Iptables

/-! What the admin reads back from the rules that it writes, and which rules of
others it can read. -/

namespace SkaleAdmin.Firewall

open Ipv4 PyText

namespace IptablesController

section Encoding

def portRule (port : Int) : RuleD where
  protocol := some "tcp".toList
  tcp := some { dport := some (.text (str port)) }
  target := some (.name "ACCEPT".toList)

def hostRule (port : Int) (network : Text) : RuleD :=
  { portRule port with src := some network }

def rangeRule (port : Int) (firstIp lastIp : Text) : RuleD :=
  { portRule port with
    iprange := some { srcRange := some (.text (firstIp ++ '-' :: lastIp)) } }

/-- The three shapes of the rules that the admin writes. -/
inductive Spelled : SChainRule → RuleD → Prop
  | port {rule : SChainRule} (source : rule.firstIp = none) :
      Spelled rule (portRule rule.port)
  | host {rule : SChainRule} {ip : Text} {network : Network}
      (source : rule.firstIp = some ip)
      (alone : rule.lastIp = none ∨ rule.lastIp = some ip)
      (parsed : parseNetwork ip = some network) :
      Spelled rule (hostRule rule.port network.str)
  | range {rule : SChainRule} {firstIp lastIp : Text}
      (first : rule.firstIp = some firstIp) (last : rule.lastIp = some lastIp)
      (different : firstIp ≠ lastIp) :
      Spelled rule (rangeRule rule.port firstIp lastIp)

theorem toIpNetwork_eq_ok {ip text : Text} :
    toIpNetwork ip = .ok text ↔
      ∃ network, parseNetwork ip = some network ∧ text = network.str := by
  unfold toIpNetwork
  cases parseNetwork ip with
  | none => simp
  | some network => simp [eq_comm]

theorem schainRuleToRuleD_eq_ok {rule : SChainRule} {ruleD : RuleD} :
    schainRuleToRuleD rule = .ok ruleD ↔ Spelled rule ruleD := by
  obtain ⟨port, firstIp, lastIp, filled⟩ := rule
  have hosted : ∀ {ip : Text}, (toIpNetwork ip >>= fun network =>
      Pure.pure (hostRule port network)) = Except.ok ruleD →
      ∃ network, parseNetwork ip = some network ∧
        ruleD = hostRule port network.str := by
    intro ip spelled
    cases parsed : toIpNetwork ip with
    | error error =>
        rw [parsed] at spelled
        cases spelled
    | ok text =>
        obtain ⟨network, found, rfl⟩ := toIpNetwork_eq_ok.mp parsed
        rw [parsed] at spelled
        cases spelled
        exact ⟨network, found, rfl⟩
  constructor
  · intro spelled
    unfold schainRuleToRuleD at spelled
    split at spelled
    · rename_i none
      cases none
      cases spelled
      exact .port rfl
    · rename_i ip first last
      cases first
      cases last
      obtain ⟨network, parsed, rfl⟩ := hosted spelled
      exact .host rfl (.inl rfl) parsed
    · rename_i first last firstIs lastIs
      cases firstIs
      cases lastIs
      split at spelled
      · rename_i same
        subst same
        obtain ⟨network, parsed, rfl⟩ := hosted spelled
        exact .host rfl (.inr rfl) parsed
      · rename_i different
        cases spelled
        exact .range rfl rfl different
  · intro spelled
    cases spelled with
    | port source =>
        cases source
        rfl
    | @host ip network source alone parsed =>
        cases source
        have written : toIpNetwork ip = .ok network.str :=
          toIpNetwork_eq_ok.mpr ⟨network, parsed, rfl⟩
        rcases alone with alone | alone <;> cases alone
        · simp only [schainRuleToRuleD, written]
          rfl
        · simp only [schainRuleToRuleD, written, if_pos]
          rfl
    | range first last different =>
        cases first
        cases last
        simp only [schainRuleToRuleD, if_neg different]
        rfl

variable {rule : SChainRule} {ruleD : RuleD}

theorem Spelled.dport (spelled : Spelled rule ruleD) :
    ruleD.dport = some (.text (str rule.port)) := by
  cases spelled <;> rfl

theorem Spelled.isManageable (spelled : Spelled rule ruleD) :
    isManageable ruleD = .ok true := by
  have number : isLikeNumber ruleD.dport = .ok true := by
    rw [spelled.dport]
    simp [isLikeNumber, parseInt_str]
  have target : ruleD.protocol = some "tcp".toList ∧
      ruleD.target = some (.name "ACCEPT".toList) := by
    cases spelled <;> exact ⟨rfl, rfl⟩
  unfold IptablesController.isManageable
  rw [number, target.1, target.2]
  rfl

theorem Spelled.portOf (spelled : Spelled rule ruleD) :
    portOf ruleD = .ok rule.port := by
  unfold IptablesController.portOf
  rw [spelled.dport]
  simp [parseInt_str]

end Encoding

section Reading

/-- The texts between which the admin takes the sources of a rule to be: a range of
two ends, a single address, or none. -/
inductive ReadsSource (ruleD : RuleD) : Option Text × Option Text → Prop
  | range {iprange : IprangeMatch} {firstIp lastIp : Text}
      (given : ruleD.iprange = some iprange)
      (ends : iprange.srcRange = some (.text (firstIp ++ '-' :: lastIp)))
      (firstPlain : '-' ∉ firstIp) (lastPlain : '-' ∉ lastIp) :
      ReadsSource ruleD (some firstIp, some lastIp)
  | single {ip : Text} {network : Network}
      (noRange : ruleD.iprange.filter (· ≠ {}) = none)
      (given : ruleD.src = some ip) (filled : ip ≠ [])
      (parsed : parseNetwork ip = some network) (alone : network.prefixLength = 32) :
      ReadsSource ruleD (some network.address.str, none)
  | anyone (noRange : ruleD.iprange.filter (· ≠ {}) = none)
      (noSource : isFalsy ruleD.src = true) :
      ReadsSource ruleD (none, none)

theorem bind_eq_ok {α β : Type} {first : Except FirewallError α}
    {next : α → Except FirewallError β} {result : β} :
    (first >>= next) = .ok result ↔
      ∃ given, first = .ok given ∧ next given = .ok result := by
  cases first with
  | error error => simp [Bind.bind, Except.bind]
  | ok given => simp [Bind.bind, Except.bind]

theorem splitSrcRange_eq_ok {range : Option Value} {firstIp lastIp : Text} :
    splitSrcRange range = .ok (firstIp, lastIp) ↔
      range = some (.text (firstIp ++ '-' :: lastIp)) ∧ '-' ∉ firstIp ∧
        '-' ∉ lastIp := by
  cases range with
  | none => simp [splitSrcRange]
  | some value =>
      cases value with
      | texts texts => simp [splitSrcRange]
      | text text =>
          simp only [Option.some.injEq, Value.text.injEq, ← splitOn_eq_pair]
          simp only [splitSrcRange]
          split
          · rename_i pieces
            simp [pieces]
          · rename_i other
            constructor
            · intro absurdity
              cases absurdity
            · intro split
              exact absurd split (other _ _)

theorem fromIpNetwork_eq_ok {ip text : Text} :
    fromIpNetwork ip = .ok text ↔
      ∃ network, parseNetwork ip = some network ∧ network.prefixLength = 32 ∧
        text = network.address.str := by
  unfold fromIpNetwork
  cases parseNetwork ip with
  | none => simp
  | some network =>
      by_cases alone : network.prefixLength = 32
      · simp [alone, eq_comm]
      · simp [alone]

theorem readsSource_of_sourceIps {ruleD : RuleD} {ips : Option Text × Option Text}
    (read : sourceIps ruleD = .ok ips) : ReadsSource ruleD ips := by
  unfold sourceIps at read
  split at read
  · rename_i iprange kept
    obtain ⟨⟨firstIp, lastIp⟩, split, rest⟩ := bind_eq_ok.mp read
    obtain ⟨ends, firstPlain, lastPlain⟩ := splitSrcRange_eq_ok.mp split
    cases rest
    exact .range (Option.filter_eq_some_iff.mp kept).1 ends firstPlain lastPlain
  · rename_i symbol ip noRange given
    obtain ⟨text, single, rest⟩ := bind_eq_ok.mp read
    obtain ⟨network, parsed, alone, rfl⟩ := fromIpNetwork_eq_ok.mp single
    cases rest
    exact .single noRange given (List.cons_ne_nil _ _) parsed alone
  · rename_i noRange other
    cases read
    apply ReadsSource.anyone noRange
    cases source : ruleD.src with
    | none => rfl
    | some text =>
        cases text with
        | nil => rfl
        | cons symbol ip => exact (other symbol ip source).elim

theorem sourceIps_of_readsSource {ruleD : RuleD} {ips : Option Text × Option Text}
    (reads : ReadsSource ruleD ips) : sourceIps ruleD = .ok ips := by
  cases reads with
  | @range iprange firstIp lastIp given ends firstPlain lastPlain =>
      have filled : iprange ≠ {} := by
        intro empty
        rw [empty] at ends
        cases ends
      have split : splitSrcRange iprange.srcRange = .ok (firstIp, lastIp) :=
        splitSrcRange_eq_ok.mpr ⟨ends, firstPlain, lastPlain⟩
      have kept : (some iprange).filter (· ≠ {}) = some iprange :=
        Option.filter_some_pos (by simp [filled])
      simp only [sourceIps, given, kept, split]
      rfl
  | @single ip network noRange given filled parsed alone =>
      cases ip with
      | nil => exact absurd rfl filled
      | cons symbol ip =>
          have read : fromIpNetwork (symbol :: ip) = .ok network.address.str :=
            fromIpNetwork_eq_ok.mpr ⟨network, parsed, alone, rfl⟩
          simp only [sourceIps, noRange, given, read]
          rfl
  | anyone noRange noSource =>
      unfold sourceIps
      rw [noRange]
      cases source : ruleD.src with
      | none => rfl
      | some text =>
          cases text with
          | nil => rfl
          | cons symbol ip =>
              rw [source] at noSource
              cases noSource

theorem sourceIps_eq_ok {ruleD : RuleD} {ips : Option Text × Option Text} :
    sourceIps ruleD = .ok ips ↔ ReadsSource ruleD ips :=
  ⟨readsSource_of_sourceIps, sourceIps_of_readsSource⟩

/-- The rule of an sChain that the admin takes a rule of the chain for. -/
def readRule (ruleD : RuleD) : Option SChainRule :=
  match isManageable ruleD, ruleDToSchainRule ruleD with
  | .ok true, .ok rule => some rule
  | _, _ => none

theorem readRule_eq_some {ruleD : RuleD} {rule : SChainRule} :
    readRule ruleD = some rule ↔
      isManageable ruleD = .ok true ∧ ruleDToSchainRule ruleD = .ok rule := by
  unfold readRule
  split <;> simp_all

theorem ruleDToSchainRule_eq_ok {ruleD : RuleD} {rule : SChainRule} :
    ruleDToSchainRule ruleD = .ok rule ↔
      ∃ firstIp lastIp port, ReadsSource ruleD (firstIp, lastIp) ∧
        portOf ruleD = .ok port ∧ rule = .new port firstIp lastIp := by
  unfold ruleDToSchainRule
  constructor
  · intro read
    obtain ⟨⟨firstIp, lastIp⟩, source, rest⟩ := bind_eq_ok.mp read
    obtain ⟨port, number, rest⟩ := bind_eq_ok.mp rest
    cases rest
    exact ⟨firstIp, lastIp, port, sourceIps_eq_ok.mp source, number, rfl⟩
  · rintro ⟨firstIp, lastIp, port, source, number, rfl⟩
    rw [sourceIps_eq_ok.mpr source]
    simp only [number]
    rfl

/-- The port is not negated, and a rule that the admin takes for its own has a source
that it can read. -/
structure Legible (ruleD : RuleD) : Prop where
  dport : ∀ texts, ruleD.dport ≠ some (.texts texts)
  source : isManageable ruleD = .ok true → ∃ ips, ReadsSource ruleD ips

theorem exists_isManageable {ruleD : RuleD}
    (plain : ∀ texts, ruleD.dport ≠ some (.texts texts)) :
    ∃ answer, isManageable ruleD = .ok answer := by
  unfold isManageable
  cases number : ruleD.dport with
  | none => exact ⟨_, rfl⟩
  | some value =>
      cases value with
      | text text => exact ⟨_, rfl⟩
      | texts texts => exact absurd number (plain texts)

theorem plain_of_isManageable {ruleD : RuleD} {answer : Bool}
    (manageable : isManageable ruleD = .ok answer) (texts : List Text) :
    ruleD.dport ≠ some (.texts texts) := by
  intro negated
  unfold isManageable at manageable
  rw [negated] at manageable
  cases manageable

theorem exists_portOf {ruleD : RuleD} (manageable : isManageable ruleD = .ok true) :
    ∃ port, portOf ruleD = .ok port := by
  obtain ⟨number, like, rest⟩ := bind_eq_ok.mp manageable
  have numeric : number = true := by
    simp only [Pure.pure, Except.pure, Except.ok.injEq, Bool.and_eq_true] at rest
    exact rest.2
  subst numeric
  unfold portOf
  cases dport : ruleD.dport with
  | none =>
      rw [dport] at like
      cases like
  | some value =>
      rw [dport] at like
      cases value with
      | texts texts => cases like
      | text text =>
          cases parsed : parseInt 10 text with
          | none => simp [isLikeNumber, parsed] at like
          | some port => exact ⟨port, by simp [parsed]⟩

theorem exists_ruleDToSchainRule {ruleD : RuleD} (legible : Legible ruleD)
    (manageable : isManageable ruleD = .ok true) :
    ∃ rule, ruleDToSchainRule ruleD = .ok rule := by
  obtain ⟨⟨firstIp, lastIp⟩, source⟩ := legible.source manageable
  obtain ⟨port, number⟩ := exists_portOf manageable
  exact ⟨_, ruleDToSchainRule_eq_ok.mpr ⟨firstIp, lastIp, port, source, number, rfl⟩⟩

theorem manageableRules_of_legible {chain : List RuleD}
    (legible : ∀ ruleD ∈ chain, Legible ruleD) :
    manageableRules chain = .ok (chain.filterMap readRule) := by
  induction chain with
  | nil => rfl
  | cons ruleD rest ih =>
      have restRead := ih fun other member => legible other (by simp [member])
      have head := legible ruleD (by simp)
      obtain ⟨answer, manageable⟩ := exists_isManageable head.dport
      unfold manageableRules
      rw [manageable, restRead]
      cases answer with
      | false =>
          have unread : readRule ruleD = none := by simp [readRule, manageable]
          rw [List.filterMap_cons_none unread]
          rfl
      | true =>
          obtain ⟨rule, read⟩ := exists_ruleDToSchainRule head manageable
          rw [List.filterMap_cons_some (readRule_eq_some.mpr ⟨manageable, read⟩), read]
          rfl

theorem legible_of_manageableRules {chain : List RuleD} {rules : List SChainRule}
    (read : manageableRules chain = .ok rules) : ∀ ruleD ∈ chain, Legible ruleD := by
  induction chain generalizing rules with
  | nil => simp
  | cons ruleD rest ih =>
      unfold manageableRules at read
      obtain ⟨answer, manageable, read⟩ := bind_eq_ok.mp read
      have head : ∀ {others : List SChainRule}, manageableRules rest = .ok others →
          (answer = true → ∃ ips, ReadsSource ruleD ips) →
          ∀ other ∈ ruleD :: rest, Legible other := by
        intro others restRead source other member
        rcases List.mem_cons.mp member with rfl | member
        · refine ⟨plain_of_isManageable manageable, ?_⟩
          intro isTrue
          rw [manageable] at isTrue
          exact source (Except.ok.inj isTrue)
        · exact ih restRead other member
      cases answer with
      | false => exact head read fun absurdity => by cases absurdity
      | true =>
          obtain ⟨rule, decoded, read⟩ := bind_eq_ok.mp read
          obtain ⟨others, restRead, _⟩ := bind_eq_ok.mp read
          obtain ⟨firstIp, lastIp, _, source, _, _⟩ := ruleDToSchainRule_eq_ok.mp decoded
          exact head restRead fun _ => ⟨_, source⟩

end Reading

section ReadBack

variable {rule other : SChainRule} {ruleD : RuleD}

theorem Spelled.unique {ruleD' : RuleD} (spelled : Spelled rule ruleD)
    (again : Spelled rule ruleD') : ruleD = ruleD' := by
  have first := schainRuleToRuleD_eq_ok.mpr spelled
  rw [schainRuleToRuleD_eq_ok.mpr again] at first
  exact (Except.ok.inj first).symm

theorem Spelled.port_of_read (spelled : Spelled rule ruleD)
    (read : readRule ruleD = some other) : other.port = rule.port := by
  obtain ⟨_, _, port, _, number, rfl⟩ :=
    ruleDToSchainRule_eq_ok.mp (readRule_eq_some.mp read).2
  rw [spelled.portOf] at number
  rw [SChainRule.new_port]
  exact (Except.ok.inj number).symm

theorem ends_of_split {firstIp lastIp firstRead lastRead : Text}
    (same : firstIp ++ '-' :: lastIp = firstRead ++ '-' :: lastRead)
    (firstPlain : '-' ∉ firstRead) (lastPlain : '-' ∉ lastRead) :
    firstRead = firstIp ∧ lastRead = lastIp := by
  have split := splitOn_eq_pair.mpr ⟨same, firstPlain, lastPlain⟩
  rw [List.splitOn_append_cons_self] at split
  have wholeFirst : ['-'].intercalate (firstIp.splitOn '-') = firstIp :=
    List.intercalate_splitOn '-'
  have wholeLast : ['-'].intercalate (lastIp.splitOn '-') = lastIp :=
    List.intercalate_splitOn '-'
  cases front : firstIp.splitOn '-' with
  | nil => exact absurd front (List.splitOn_ne_nil _ _)
  | cons piece pieces =>
      cases back : lastIp.splitOn '-' with
      | nil => exact absurd back (List.splitOn_ne_nil _ _)
      | cons next others =>
          rw [front, back] at split
          have lengths := congrArg List.length split
          simp only [List.length_append, List.length_cons, List.length_nil] at lengths
          obtain rfl : pieces = [] := List.eq_nil_of_length_eq_zero (by omega)
          obtain rfl : others = [] := List.eq_nil_of_length_eq_zero (by omega)
          rw [front] at wholeFirst
          rw [back] at wholeLast
          simp only [List.cons_append, List.nil_append, List.cons.injEq] at split
          rw [← wholeFirst, ← wholeLast, split.1, split.2.1]
          exact ⟨by simp, by simp⟩

theorem spelled_new_port (port : Int) :
    Spelled (.new port none none) (portRule port) := by
  have spelled : Spelled (.new port none none) _ := .port (SChainRule.new_firstIp ..)
  rwa [SChainRule.new_port] at spelled

theorem spelled_new_host (port : Int) {ip : Text} {network : Network}
    (parsed : parseNetwork ip = some network) (filled : ip ≠ []) :
    Spelled (.new port (some ip) none) (hostRule port network.str) := by
  have missing : isFalsy none = true := rfl
  have alone :=
    SChainRule.new_lastIp_of_missing port (isFalsy_of_ne_nil filled) missing
  have spelled : Spelled (.new port (some ip) none) _ :=
    .host (SChainRule.new_firstIp ..) (.inr alone) parsed
  rwa [SChainRule.new_port] at spelled

theorem spelled_new_range (port : Int) {firstIp lastIp : Text}
    (different : firstIp ≠ lastIp)
    (filled : isFalsy (some firstIp) = false → isFalsy (some lastIp) = false) :
    Spelled (.new port (some firstIp) (some lastIp))
      (rangeRule port firstIp lastIp) := by
  have spelled : Spelled (.new port (some firstIp) (some lastIp)) _ :=
    .range (SChainRule.new_firstIp ..) (SChainRule.new_lastIp_of_given port filled)
      different
  rwa [SChainRule.new_port] at spelled

/-- What is read from a rule that the admin writes is written as the same rule. -/
theorem Spelled.read_spelled (spelled : Spelled rule ruleD)
    (read : readRule ruleD = some other) : Spelled other ruleD := by
  have port := spelled.port_of_read read
  obtain ⟨firstIp, lastIp, _, source, _, rfl⟩ :=
    ruleDToSchainRule_eq_ok.mp (readRule_eq_some.mp read).2
  rw [SChainRule.new_port] at port
  subst port
  cases spelled with
  | port _ =>
      cases source with
      | range given => cases given
      | single _ given => cases given
      | anyone => exact spelled_new_port _
  | @host ip network _ _ parsed =>
      cases source with
      | range given => cases given
      | anyone _ noSource =>
          change isFalsy (some network.str) = true at noSource
          rw [isFalsy_of_ne_nil (networkStr_ne_nil network)] at noSource
          cases noSource
      | @single _ found _ given _ reparsed short =>
          cases given
          obtain rfl : network = found := by
            rw [parseNetwork_str] at reparsed
            exact Option.some.inj reparsed
          have spelled := spelled_new_host rule.port
            (parseNetwork_addressStr network.address) (addressStr_ne_nil _)
          have host : network.address.host = network := Network.ext rfl short.symm
          rwa [host] at spelled
  | @range first last firstIs lastIs different =>
      cases source with
      | single noRange => simp [rangeRule] at noRange
      | anyone noRange => simp [rangeRule] at noRange
      | range given ends firstPlain lastPlain =>
          cases given
          obtain ⟨rfl, rfl⟩ :=
            ends_of_split (Value.text.inj (Option.some.inj ends)) firstPlain lastPlain
          have filled := rule.filled
          rw [firstIs, lastIs] at filled
          exact spelled_new_range _ different filled

theorem readRule_portRule (port : Int) :
    readRule (portRule port) = some (.new port none none) := by
  have spelled := spelled_new_port port
  have number := spelled.portOf
  rw [SChainRule.new_port] at number
  refine readRule_eq_some.mpr ⟨spelled.isManageable, ruleDToSchainRule_eq_ok.mpr
    ⟨none, none, port, .anyone rfl rfl, number, rfl⟩⟩

theorem readRule_hostRule (port : Int) (address : Address) :
    readRule (hostRule port address.host.str) =
      some (.new port (some address.str) none) := by
  have spelled := spelled_new_host port (parseNetwork_addressStr address)
    (addressStr_ne_nil address)
  have number := spelled.portOf
  rw [SChainRule.new_port] at number
  have source : ReadsSource (hostRule port address.host.str)
      (some address.host.address.str, none) :=
    .single rfl rfl (networkStr_ne_nil _) (parseNetwork_str _) rfl
  exact readRule_eq_some.mpr ⟨spelled.isManageable, ruleDToSchainRule_eq_ok.mpr
    ⟨some address.str, none, port, source, number, rfl⟩⟩

theorem readRule_rangeRule (port : Int) {first last : Address}
    (different : first ≠ last) :
    readRule (rangeRule port first.str last.str) =
      some (.new port (some first.str) (some last.str)) := by
  have apart : first.str ≠ last.str := fun same =>
    different (addressStr_injective same)
  have spelled := spelled_new_range port apart
    fun _ => isFalsy_of_ne_nil (addressStr_ne_nil last)
  have number := spelled.portOf
  rw [SChainRule.new_port] at number
  have source : ReadsSource (rangeRule port first.str last.str)
      (some first.str, some last.str) :=
    .range rfl rfl (notMem_addressStr (by decide) (by decide))
      (notMem_addressStr (by decide) (by decide))
  exact readRule_eq_some.mpr ⟨spelled.isManageable, ruleDToSchainRule_eq_ok.mpr
    ⟨some first.str, some last.str, port, source, number, rfl⟩⟩

theorem legible_of_readRule (read : readRule ruleD = some rule) : Legible ruleD := by
  obtain ⟨manageable, decoded⟩ := readRule_eq_some.mp read
  obtain ⟨firstIp, lastIp, _, source, _, _⟩ := ruleDToSchainRule_eq_ok.mp decoded
  exact ⟨plain_of_isManageable manageable, fun _ => ⟨_, source⟩⟩

end ReadBack

end IptablesController

end SkaleAdmin.Firewall
