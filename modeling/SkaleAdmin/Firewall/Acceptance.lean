import SkaleAdmin.Firewall.Convergence

/-! Which packets a chain accepts after a `sync`. -/

namespace SkaleAdmin.Firewall

open IptablesController Ipv4 PyText

/-- A TCP packet; `meets` tells the other matches that it meets. -/
structure Packet where
  source : Address
  dport : Nat
  meets : Text → Field → Prop

/-- A mark in front of the text of an option negates it. -/
def Value.Matches (holds : Text → Prop) : Value → Prop
  | .text option => holds option
  | .texts [mark, option] => mark = ['!'] ∧ ¬ holds option
  | .texts _ => False

namespace Packet

variable (packet : Packet)

def MeetsProtocol : Text → Prop
  | '!' :: protocol => protocol ≠ "tcp".toList
  | protocol => protocol = "tcp".toList

def MeetsPorts (text : Text) : Prop :=
  match text.splitOn ':' with
  | [port] => parseInt 10 port = some (packet.dport : Int)
  | [first, last] => ∃ low high, parseInt 10 first = some low ∧
      parseInt 10 last = some high ∧ low ≤ packet.dport ∧ packet.dport ≤ high
  | _ => False

def MeetsNetwork : Text → Prop
  | '!' :: text => ∃ network, parseNetwork text = some network ∧
      ¬ network.Contains packet.source
  | text => ∃ network, parseNetwork text = some network ∧
      network.Contains packet.source

def MeetsRange (text : Text) : Prop :=
  ∃ firstIp lastIp first last, text.splitOn '-' = [firstIp, lastIp] ∧
    parseAddress firstIp = some first ∧ parseAddress lastIp = some last ∧
    first.toNat ≤ packet.source.toNat ∧ packet.source.toNat ≤ last.toNat

end Packet

structure RuleD.Accepts (ruleD : RuleD) (packet : Packet) : Prop where
  target : ruleD.target = some (.name "ACCEPT".toList)
  protocol : ∀ protocol, ruleD.protocol = some protocol → Packet.MeetsProtocol protocol
  dport : ∀ value, ruleD.dport = some value → value.Matches packet.MeetsPorts
  tcp : ∀ tcp, ruleD.tcp = some tcp → ∀ option ∈ tcp.others,
    packet.meets "tcp".toList (.options [option])
  src : ∀ text, ruleD.src = some text → packet.MeetsNetwork text
  srcRange : ∀ iprange, ruleD.iprange = some iprange →
    ∀ value, iprange.srcRange = some value → value.Matches packet.MeetsRange
  iprange : ∀ iprange, ruleD.iprange = some iprange → ∀ option ∈ iprange.others,
    packet.meets "iprange".toList (.options [option])
  others : ∀ other ∈ ruleD.others, packet.meets other.1 other.2

section Accepts

variable {packet : Packet} {port : Nat}

theorem meetsPorts_str :
    packet.MeetsPorts (PyText.str (port : Nat)) ↔ port = packet.dport := by
  have whole : (PyText.str (port : Nat)).splitOn ':' = [PyText.str (port : Nat)] :=
    List.splitOn_eq_singleton (notMem_str_of_not_isDigit (by decide))
  unfold Packet.MeetsPorts
  rw [whole]
  simp only [parseInt_str, Option.some.injEq]
  exact Int.ofNat_inj

theorem meetsNetwork_hostStr {address : Address} :
    packet.MeetsNetwork address.host.str ↔ packet.source = address := by
  have plain : ∀ text : Text, text ≠ '!' :: text.tail →
      (packet.MeetsNetwork text ↔ ∃ network, parseNetwork text = some network ∧
        network.Contains packet.source) := by
    intro text unmarked
    unfold Packet.MeetsNetwork
    split
    · exact absurd rfl unmarked
    · exact Iff.rfl
  have unmarked : address.host.str ≠ '!' :: address.host.str.tail := by
    intro marked
    have first := addressStr_ne_nil address
    unfold Network.str at marked
    cases text : address.host.address.str with
    | nil => exact first text
    | cons symbol rest =>
        rw [text] at marked
        have mark : '!' ∈ address.host.address.str := by
          rw [text, (List.cons.inj marked).1]
          exact List.mem_cons_self
        exact notMem_addressStr (by decide) (by decide) mark
  rw [plain _ unmarked, parseNetwork_str]
  simp [Address.host_contains]

theorem meetsRange_str {first last : Address} :
    packet.MeetsRange (first.str ++ '-' :: last.str) ↔
      first.toNat ≤ packet.source.toNat ∧ packet.source.toNat ≤ last.toNat := by
  have split : (first.str ++ '-' :: last.str).splitOn '-' = [first.str, last.str] :=
    splitOn_eq_pair.mpr ⟨rfl, notMem_addressStr (by decide) (by decide),
      notMem_addressStr (by decide) (by decide)⟩
  unfold Packet.MeetsRange
  rw [split]
  constructor
  · rintro ⟨_, _, _, _, ⟨⟩, firstRead, lastRead, within⟩
    rw [parseAddress_str] at firstRead lastRead
    cases firstRead
    cases lastRead
    exact within
  · intro within
    exact ⟨_, _, first, last, rfl, parseAddress_str _, parseAddress_str _, within⟩

theorem accepts_portRule :
    (portRule port).Accepts packet ↔ port = packet.dport := by
  constructor
  · intro accepts
    exact meetsPorts_str.mp (accepts.dport _ rfl)
  · intro same
    have reached := meetsPorts_str.mpr same
    constructor
    case target => rfl
    case protocol =>
      rintro protocol ⟨⟩
      rfl
    case dport =>
      rintro value ⟨⟩
      exact reached
    case tcp =>
      rintro tcp ⟨⟩ option member
      cases member
    case src => rintro text ⟨⟩
    case srcRange => rintro iprange ⟨⟩
    case iprange => rintro iprange ⟨⟩
    case others =>
      intro other member
      cases member

theorem accepts_hostRule {address : Address} :
    (hostRule port address.host.str).Accepts packet ↔
      port = packet.dport ∧ packet.source = address := by
  constructor
  · intro accepts
    exact ⟨meetsPorts_str.mp (accepts.dport _ rfl),
      meetsNetwork_hostStr.mp (accepts.src _ rfl)⟩
  · rintro ⟨same, source⟩
    have plain := accepts_portRule.mpr same
    refine { plain with src := ?_ }
    rintro text ⟨⟩
    exact meetsNetwork_hostStr.mpr source

theorem accepts_rangeRule {first last : Address} :
    (rangeRule port first.str last.str).Accepts packet ↔
      port = packet.dport ∧
        first.toNat ≤ packet.source.toNat ∧ packet.source.toNat ≤ last.toNat := by
  constructor
  · intro accepts
    exact ⟨meetsPorts_str.mp (accepts.dport _ rfl),
      meetsRange_str.mp (accepts.srcRange _ rfl _ rfl)⟩
  · rintro ⟨same, within⟩
    have plain := accepts_portRule.mpr same
    refine { plain with srcRange := ?_, iprange := ?_ }
    · rintro iprange ⟨⟩ value ⟨⟩
      exact meetsRange_str.mpr within
    · rintro iprange ⟨⟩ option member
      cases member

theorem accepts_ruleD {source : Source} :
    (source.ruleD port).Accepts packet ↔
      port = packet.dport ∧ source.Admits packet.source := by
  cases source with
  | anyone =>
      rw [Source.ruleD, accepts_portRule]
      simp [Source.Admits]
  | single address => exact accepts_hostRule
  | range first last =>
      by_cases same : first = last
      · subst same
        rw [Source.ruleD, if_pos rfl, accepts_hostRule]
        refine and_congr_right fun _ => ?_
        constructor
        · rintro rfl
          exact ⟨Nat.le_refl _, Nat.le_refl _⟩
        · rintro ⟨lower, upper⟩
          exact Address.toNat_injective (Nat.le_antisymm upper lower)
      · rw [Source.ruleD, if_neg same]
        exact accepts_rangeRule

end Accepts

namespace SChainRuleController

/-- Who may reach a port: everyone a public port, the other nodes an internal one, and the
sync agents those for catching up. -/
def Allows (controller : SChainRuleController) (port : Nat) (source : Address) : Prop :=
  port ∈ controller.publicPorts ∨
    (port ∈ controller.internalPorts ∧ source.str ∈ controller.nodeIps ∧
      some source.str ≠ controller.ownIp) ∨
    (port ∈ controller.syncAgentPorts ∧
      ∃ first last : Address, ⟨first.str, last.str⟩ ∈ controller.syncIpRanges ∧
        first.toNat ≤ source.toNat ∧ source.toNat ≤ last.toNat)

/-- All that accepts packets for ports in the range is written by the admin, and what is
not expected is there once. -/
structure AcceptsOwnOnly (controller : SChainRuleController) (chain : Chain) : Prop where
  own : ∀ ruleD ∈ chain, controller.manager.isForeign ruleD = false ∨
      (∃ packet : Packet, controller.manager.InRange packet.dport ∧
        ruleD.Accepts packet) →
    ∃ (port : Nat) (source : Source), ruleD = source.ruleD port
  once : ∀ ruleD ∈ chain, controller.manager.isForeign ruleD = false →
    (∀ rule ∈ controller.expected, ruleD ≠ rule.ruleD) → chain.count ruleD = 1

variable {controller : SChainRuleController} {chain : Chain} {port : Nat}

theorem allows_iff {source : Address} :
    controller.Allows port source ↔
      ∃ granted, controller.Grants port granted ∧ granted.Admits source := by
  constructor
  · rintro (open' | ⟨internal, listed, other⟩ | ⟨served, first, last, listed, within⟩)
    · exact ⟨.anyone, .anyone open', trivial⟩
    · exact ⟨.single source, .node listed other internal, rfl⟩
    · exact ⟨.range first last, .syncAgent listed served, within⟩
  · rintro ⟨granted, grants, admits⟩
    cases grants with
    | anyone open' => exact .inl open'
    | node listed other internal =>
        cases admits
        exact .inr (.inl ⟨internal, listed, other⟩)
    | @syncAgent first last listed served =>
        exact .inr (.inr ⟨served, first, last, listed, admits⟩)

theorem AcceptsOwnOnly.ruleD_of_managed {ruleD : RuleD} {rule : SChainRule}
    (only : controller.AcceptsOwnOnly chain) (member : ruleD ∈ chain)
    (managed : controller.manager.managed ruleD = some rule) :
    Spelled rule ruleD := by
  obtain ⟨port, source, rfl⟩ := only.own ruleD member
    (.inl (SChainFirewallManager.isForeign_of_managed managed))
  have read := (SChainFirewallManager.managed_eq_some.mp managed).1
  rw [source.readRule_ruleD] at read
  obtain rfl := Option.some.inj read
  exact source.spelled_rule port

theorem AcceptsOwnOnly.settled (only : controller.AcceptsOwnOnly chain)
    (addressed : controller.Addressed) :
    controller.manager.Settled controller.expected chain := by
  intro ruleD member rule managed unwanted
  refine ⟨only.ruleD_of_managed member managed, ?_⟩
  apply only.once ruleD member (SChainFirewallManager.isForeign_of_managed managed)
  rintro other wanted rfl
  rw [(wants_expected addressed other wanted).2] at managed
  exact unwanted (Option.some.inj managed ▸ wanted)

end SChainRuleController

section Sync

variable {controller : SChainRuleController} {order : SetOrder SChainRule}
  {chain : Chain}

theorem configured_of_sync
    (returns : (runOn (controller.sync order) chain).1 = .value ()) :
    controller.isConfigured = true := by
  cases configured : controller.isConfigured with
  | true => rfl
  | false =>
      have refused : controller.sync order = Interaction.Procedure.raise
          (.notInitialized controller.getMissing) := by
        unfold SChainRuleController.sync SChainRuleController.expectedRules
          SChainRuleController.configuredOnly
        rw [configured]
        rfl
      rw [refused] at returns
      cases returns

/-- After a `sync`, the chain has for the range what the admin writes for the rules that
it expects. -/
theorem ruleD_of_updated {added removed : List SChainRule} {ruleD : RuleD}
    {rule : SChainRule} (addressed : controller.Addressed)
    (only : controller.AcceptsOwnOnly chain)
    (difference :
      controller.manager.Difference controller.expected chain added removed)
    (member : ruleD ∈ updated added removed chain)
    (managed : controller.manager.managed ruleD = some rule) : ruleD = rule.ruleD := by
  rcases mem_of_mem_updated member with inside | ⟨other, addition, rfl⟩
  · exact (SChainRule.ruleD_of_spelled (only.ruleD_of_managed inside managed)).symm
  · have wanted := ((difference.mem_added other).mp addition).1
    rw [(SChainRuleController.wants_expected addressed other wanted).2] at managed
    rw [Option.some.inj managed]

theorem accepts_updated_iff {added removed : List SChainRule} {packet : Packet}
    (addressed : controller.Addressed) (only : controller.AcceptsOwnOnly chain)
    (difference :
      controller.manager.Difference controller.expected chain added removed)
    (inside : controller.manager.InRange packet.dport) :
    (∃ ruleD ∈ updated added removed chain, ruleD.Accepts packet) ↔
      controller.Allows packet.dport packet.source := by
  have wants := SChainRuleController.wants_expected addressed
  have held := SChainFirewallManager.held_updated wants (only.settled addressed)
    difference
  rw [SChainRuleController.allows_iff]
  constructor
  · rintro ⟨ruleD, member, accepts⟩
    have taken : ∃ rule, controller.manager.managed ruleD = some rule := by
      rcases mem_of_mem_updated member with present | ⟨rule, addition, rfl⟩
      · obtain ⟨port, source, rfl⟩ := only.own ruleD present
          (.inr ⟨packet, inside, accepts⟩)
        obtain ⟨rfl, _⟩ := accepts_ruleD.mp accepts
        refine ⟨_, SChainFirewallManager.managed_eq_some.mpr
          ⟨source.readRule_ruleD _, ?_⟩⟩
        rwa [Source.rule_port]
      · exact ⟨rule, (wants rule ((difference.mem_added rule).mp addition).1).2⟩
    obtain ⟨rule, managed⟩ := taken
    obtain rfl := ruleD_of_updated addressed only difference member managed
    have wanted := (held rule).mp
      (SChainFirewallManager.mem_held.mpr ⟨rule.ruleD, member, managed⟩)
    obtain ⟨port, source, grants, rfl⟩ :=
      (SChainRuleController.mem_expected addressed).mp wanted
    rw [Source.rule_ruleD] at accepts
    obtain ⟨rfl, admits⟩ := accepts_ruleD.mp accepts
    exact ⟨source, grants, admits⟩
  · rintro ⟨source, grants, admits⟩
    have wanted : source.rule packet.dport ∈ controller.expected :=
      (SChainRuleController.mem_expected addressed).mpr
        ⟨packet.dport, source, grants, rfl⟩
    obtain ⟨ruleD, member, managed⟩ :=
      SChainFirewallManager.mem_held.mp ((held _).mpr wanted)
    refine ⟨ruleD, member, ?_⟩
    rw [ruleD_of_updated addressed only difference member managed, Source.rule_ruleD]
    exact accepts_ruleD.mpr ⟨rfl, admits⟩

/-- A `sync` returns with exactly the allowed packets accepted where the controller is
configured and can read the rules of others. -/
theorem sync_controls_access_iff (addressed : controller.Addressed)
    (only : controller.AcceptsOwnOnly chain) :
    ((runOn (controller.sync order) chain).1 = .value () ∧
        ∀ packet : Packet, controller.basePort.getD 0 ≤ packet.dport →
          packet.dport < controller.basePort.getD 0 + controller.portsPerSchain →
          ((∃ ruleD ∈ (runOn (controller.sync order) chain).2, ruleD.Accepts packet) ↔
            controller.Allows packet.dport packet.source)) ↔
      controller.isConfigured = true ∧ ∀ ruleD ∈ chain, Legible ruleD := by
  constructor
  · rintro ⟨returns, _⟩
    have configured := configured_of_sync returns
    exact ⟨configured, legible_of_sync configured returns⟩
  · rintro ⟨configured, legible⟩
    have writable : ∀ rule ∈ controller.manager.held chain,
        rule ∉ controller.expected → Spelled rule rule.ruleD := by
      intro rule held _
      obtain ⟨ruleD, member, managed⟩ := SChainFirewallManager.mem_held.mp held
      have spelled := only.ruleD_of_managed member managed
      rwa [SChainRule.ruleD_of_spelled spelled]
    obtain ⟨returns, _, added, removed, difference, same⟩ :=
      runOn_sync order configured addressed legible writable
    refine ⟨returns, ?_⟩
    intro packet lower upper
    rw [same]
    exact accepts_updated_iff addressed only difference
      (SChainRuleController.inRange_iff.mpr ⟨lower, upper⟩)

theorem usedChain_acceptsOwnOnly : pairController.AcceptsOwnOnly usedChain where
  own ruleD member _ := by
    simp only [usedChain, List.mem_cons, List.not_mem_nil, or_false] at member
    rcases member with rfl | rfl
    · exact ⟨22, .anyone, rfl⟩
    · exact ⟨10005, .single ⟨9, 9, 9, 9⟩, rfl⟩
  once ruleD member _ _ := by
    simp only [usedChain, List.mem_cons, List.not_mem_nil, or_false] at member
    rcases member with rfl | rfl <;> decide +kernel

theorem usedChain_controls_access :
    (runOn (pairController.sync listOrder) usedChain).1 = .value () ∧
      ∀ packet : Packet, 10000 ≤ packet.dport → packet.dport < 10000 + 64 →
        ((∃ ruleD ∈ (runOn (pairController.sync listOrder) usedChain).2,
            ruleD.Accepts packet) ↔
          pairController.Allows packet.dport packet.source) := by
  exact (sync_controls_access_iff pairController_addressed
    usedChain_acceptsOwnOnly).mpr ⟨rfl, usedChain_legible⟩

theorem networkRule_acceptsOwnOnly : pairController.AcceptsOwnOnly [networkRule] where
  own ruleD member opens := by
    obtain rfl := List.mem_singleton.mp member
    rcases opens with managed | ⟨packet, inside, accepts⟩
    · exact absurd managed (by decide)
    · have port : 22 = packet.dport := meetsPorts_str.mp (accepts.dport _ rfl)
      rw [← port] at inside
      exact absurd inside (by decide)
  once ruleD member managed _ := by
    obtain rfl := List.mem_singleton.mp member
    exact absurd managed (by decide)

theorem sync_can_open_nothing :
    ¬ ∀ (controller : SChainRuleController) (order : SetOrder SChainRule) (chain : Chain),
      controller.Addressed → controller.AcceptsOwnOnly chain →
        ∀ packet : Packet, controller.basePort.getD 0 ≤ packet.dport →
          packet.dport < controller.basePort.getD 0 + controller.portsPerSchain →
          ((∃ ruleD ∈ (runOn (controller.sync order) chain).2, ruleD.Accepts packet) ↔
            controller.Allows packet.dport packet.source) := by
  intro claim
  let packet : Packet := ⟨secondNode, 10003, fun _ _ => True⟩
  have opens := (claim pairController listOrder [networkRule] pairController_addressed
    networkRule_acceptsOwnOnly packet (by decide) (by decide)).mpr (.inl (by decide))
  have unchanged : (runOn (pairController.sync listOrder) [networkRule]).2 =
      [networkRule] := by
    rw [Tenancy.sync_of_configured rfl, runOn_updateRules_of_error networkRule_unread]
  rw [unchanged] at opens
  obtain ⟨ruleD, member, accepts⟩ := opens
  obtain rfl := List.mem_singleton.mp member
  have port : 22 = packet.dport := meetsPorts_str.mp (accepts.dport _ rfl)
  exact absurd port (by decide)

end Sync

end SkaleAdmin.Firewall
