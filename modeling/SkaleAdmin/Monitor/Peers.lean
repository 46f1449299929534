import SkaleAdmin.Config.Agreement
import SkaleAdmin.Config.GeneratedReaders
import SkaleAdmin.Firewall.Acceptance
import SkaleAdmin.Monitor.FirewallPass

/-! The nodes of a chain at each other's ports: what the config of one lists and what the
firewall of the other lets through. -/

namespace SkaleAdmin.Monitor

open PyText PyValue Config Ipv4
open Firewall (SChainRule SChainRuleController SkaledPorts Packet SetOrder runOn)
open Firewall.IptablesController (Legible Spelled)

variable {Bytes : Type} {libraries : Libraries Bytes} {skale : Skale Bytes}
  {schainName : Text} {peers : List (ManagerNode Bytes)}

/-! ### What the nodes are listed with -/

/-- A node has IPv4 addresses and its chains have their ports from its own port on. -/
structure Reachable (libraries : Libraries Bytes) (peers : List (ManagerNode Bytes)) :
    Prop where
  address : ∀ peer ∈ peers, ∃ address : Address, libraries.ipFromBytes peer.ip = address.str
  basePort : ∀ peer ∈ peers, ∀ schainName basePort,
    libraries.getSchainBasePortOnNode peer.schains schainName peer.port = .ok basePort →
    0 < basePort

def Lists (config : Json.Value) (nodeId : Int) (ip : Text) (basePort : Int) : Prop :=
  ∃ items item,
    (getItem "skaleConfig" config >>= getItem "sChain" >>= getItem "nodes") =
      .ok (.arr items) ∧
    item ∈ items ∧ getItem "nodeID" item = .ok (.num nodeId) ∧
    getItem "ip" item = .ok (.str ip) ∧ getItem "basePort" item = .ok (.num basePort)

theorem lists_of_fields {chain : ChainArguments Bytes} {node : NodeArguments}
    {config : Json.Value} {nodeInfo : Dict} {nodes : List PyValue.Value} {nodeId : Int}
    {ip : Text} {basePort : Int}
    (fields : ConfigFields libraries chain node config nodeInfo nodes)
    (lists : Lists config nodeId ip basePort) :
    ∃ peer ∈ chain.schainNodesWithSchains, peer.id = nodeId ∧
      libraries.ipFromBytes peer.ip = ip ∧
      libraries.getSchainBasePortOnNode peer.schains chain.schain.name peer.port =
        .ok basePort := by
  obtain ⟨items, item, found, member, idItem, ipItem, portItem⟩ := lists
  obtain ⟨items', found', sameLength, shown⟩ := fields.exists_items
  obtain rfl := Json.Value.arr.inj (eq_of_ok found' found)
  obtain ⟨position, inside, rfl⟩ := List.mem_iff_getElem.mp member
  obtain ⟨item, there, shows⟩ := shown position
    (chain.schainNodesWithSchains.get ⟨position, sameLength ▸ inside⟩)
    (List.getElem?_eq_getElem _)
  rw [List.getElem?_eq_getElem inside] at there
  obtain rfl := Option.some.inj there
  obtain ⟨basePort', ported, portItem'⟩ := shows.basePort
  obtain rfl := Json.Value.num.inj (eq_of_ok portItem portItem')
  exact ⟨_, List.getElem_mem _, Json.Value.num.inj (eq_of_ok idItem shows.nodeId),
    Json.Value.str.inj (eq_of_ok ipItem shows.ip), ported⟩

theorem exists_lists {chain : ChainArguments Bytes} {node : NodeArguments}
    {config : Json.Value} {nodeInfo : Dict} {nodes : List PyValue.Value}
    {peer : ManagerNode Bytes}
    (fields : ConfigFields libraries chain node config nodeInfo nodes)
    (member : peer ∈ chain.schainNodesWithSchains) :
    ∃ basePort, libraries.getSchainBasePortOnNode peer.schains chain.schain.name peer.port =
        .ok basePort ∧ Lists config peer.id (libraries.ipFromBytes peer.ip) basePort := by
  obtain ⟨items, found, _, shown⟩ := fields.exists_items
  obtain ⟨position, there⟩ := List.mem_iff_getElem?.mp member
  obtain ⟨item, listed, shows⟩ := shown position peer there
  obtain ⟨basePort, ported, portItem⟩ := shows.basePort
  exact ⟨basePort, ported, items, item, found, List.mem_of_getElem? listed, shows.nodeId,
    shows.ip, portItem⟩

/-! ### The controller that a generated config makes -/

structure OffsetsBySource (portsPerSchain : Nat) where
  everyone : List (Fin portsPerSchain)
  nodes : List (Fin portsPerSchain)
  syncAgents : List (Fin portsPerSchain)

/-- `internal_ports`, `public_ports` and the ports of the sync agents. -/
def offsetsBySource {portsPerSchain : Nat} (ports : SkaledPorts portsPerSchain) :
    OffsetsBySource portsPerSchain where
  everyone := [ports.HTTP_JSON, ports.HTTPS_JSON, ports.WS_JSON, ports.WSS_JSON,
    ports.INFO_HTTP_JSON]
  nodes := [ports.CATCHUP, ports.PROPOSAL, ports.BINARY_CONSENSUS, ports.ZMQ_BROADCAST,
    ports.IMA_RPC]
  syncAgents := [ports.CATCHUP, ports.ZMQ_BROADCAST]

theorem mem_portAt {controller : SChainRuleController}
    {offsets : List (Fin controller.portsPerSchain)} {basePort port : Nat}
    {offset : Fin controller.portsPerSchain} (based : controller.basePort = some basePort)
    (same : port = basePort + offset) :
    port ∈ offsets.map controller.portAt ↔ offset ∈ offsets := by
  subst same
  have injective : Function.Injective controller.portAt := by
    intro first second same
    exact Fin.ext (Nat.add_left_cancel same)
  have there : basePort + offset.val = controller.portAt offset := by
    rw [SChainRuleController.portAt, based]
    rfl
  rw [there, List.mem_map_of_injective injective]

/-- What `configure` leaves of a config of a chain's node. -/
structure Configured (controller : SChainRuleController) (basePort : Nat) (ownIp : Text)
    (nodeIps : List Text) (ranges : List Config.IpRange) : Prop where
  basePort : controller.basePort = some basePort
  ownIp : controller.ownIp = some ownIp
  nodeIps : controller.nodeIps = nodeIps
  syncIpRanges : controller.syncIpRanges = ranges.map fun range => ⟨range.startIp, range.endIp⟩

theorem configured_fresh {basePort : Nat} {ownIp : Text} {nodeIps : List Text}
    (based : 0 < basePort) (named : ownIp ≠ []) (grouped : nodeIps ≠ [])
    (ranges : List Config.IpRange) (controller : SChainRuleController) :
    Configured (RuleArguments.fresh
      { basePort := some basePort, ownIp := some ownIp, nodeIps
        syncIpRanges := ranges.map fun range => ⟨range.startIp, range.endIp⟩ } controller)
      basePort ownIp nodeIps ranges := by
  have filled := Firewall.isFalsy_of_ne_nil named
  constructor
  · simp [RuleArguments.fresh, SChainRuleController.configure]
    omega
  · simp [RuleArguments.fresh, SChainRuleController.configure, filled]
  · simp [RuleArguments.fresh, SChainRuleController.configure, grouped]
  · simp [RuleArguments.fresh, SChainRuleController.configure]

/-- Who may reach the port of an offset on a node of the chain. -/
def Admitted (libraries : Libraries Bytes) (peers : List (ManagerNode Bytes))
    (own : ManagerNode Bytes) (ranges : List Config.IpRange) {portsPerSchain : Nat}
    (ports : SkaledPorts portsPerSchain) (offset : Fin portsPerSchain) (source : Address) :
    Prop :=
  offset ∈ (offsetsBySource ports).everyone ∨
    (offset ∈ (offsetsBySource ports).nodes ∧
      source.str ≠ libraries.ipFromBytes own.ip ∧
      ∃ peer ∈ peers, libraries.ipFromBytes peer.ip = source.str) ∨
    (offset ∈ (offsetsBySource ports).syncAgents ∧
      ∃ first last : Address, ⟨first.str, last.str⟩ ∈ ranges ∧
        first.toNat ≤ source.toNat ∧ source.toNat ≤ last.toNat)

section Configured

variable {controller : SChainRuleController} {basePort : Nat} {own : ManagerNode Bytes}
  {ranges : List Config.IpRange}

theorem allows_iff_admitted {source : Address} {port : Nat}
    {offset : Fin controller.portsPerSchain}
    (configured : Configured controller basePort (libraries.ipFromBytes own.ip)
      (peers.map fun peer => libraries.ipFromBytes peer.ip) ranges)
    (same : port = basePort + offset) :
    controller.Allows port source ↔
      Admitted libraries peers own ranges controller.portAllocation offset source := by
  have inside : ∀ offsets : List (Fin controller.portsPerSchain),
      port ∈ offsets.map controller.portAt ↔ offset ∈ offsets :=
    fun offsets => mem_portAt configured.basePort same
  unfold SChainRuleController.Allows SChainRuleController.publicPorts
    SChainRuleController.internalPorts SChainRuleController.syncAgentPorts
  rw [inside, inside, inside, configured.nodeIps, configured.ownIp,
    configured.syncIpRanges]
  unfold Admitted
  refine or_congr Iff.rfl (or_congr (and_congr_right fun _ => ?_)
    (and_congr_right fun _ => ?_))
  · rw [List.mem_map, and_comm]
    refine and_congr ?_ Iff.rfl
    rw [ne_eq, Option.some.injEq]
  · refine exists_congr fun first => exists_congr fun last => and_congr ?_ Iff.rfl
    rw [List.mem_map]
    constructor
    · rintro ⟨⟨startIp, endIp⟩, member, equal⟩
      cases equal
      exact member
    · intro member
      exact ⟨_, member, rfl⟩

theorem addressed_of_configured
    (configured : Configured controller basePort (libraries.ipFromBytes own.ip)
      (peers.map fun peer => libraries.ipFromBytes peer.ip) ranges)
    (reachable : Reachable libraries peers)
    (addressed : ∀ range ∈ ranges, ∃ first last : Address, range = ⟨first.str, last.str⟩) :
    controller.Addressed := by
  constructor
  · intro ip member
    rw [configured.nodeIps] at member
    obtain ⟨peer, listed, rfl⟩ := List.mem_map.mp member
    exact reachable.address peer listed
  · intro range member
    rw [configured.syncIpRanges] at member
    obtain ⟨held, listed, rfl⟩ := List.mem_map.mp member
    obtain ⟨first, last, rfl⟩ := addressed held listed
    exact ⟨first, last, rfl⟩

theorem sync_admits
    (configured : Configured controller basePort (libraries.ipFromBytes own.ip)
      (peers.map fun peer => libraries.ipFromBytes peer.ip) ranges)
    (reachable : Reachable libraries peers)
    (addressed : ∀ range ∈ ranges, ∃ first last : Address, range = ⟨first.str, last.str⟩)
    (based : 0 < basePort) (grouped : peers ≠ [])
    (order : SetOrder SChainRule) {chain : Firewall.Chain}
    (only : controller.AcceptsOwnOnly chain) (legible : ∀ ruleD ∈ chain, Legible ruleD) :
    (runOn (controller.sync order) chain).1 = .value () ∧
      ∀ (packet : Packet) (offset : Fin controller.portsPerSchain),
        packet.dport = basePort + offset →
        ((∃ ruleD ∈ (runOn (controller.sync order) chain).2, ruleD.Accepts packet) ↔
          Admitted libraries peers own ranges controller.portAllocation offset
            packet.source) := by
  have addressedAll := addressed_of_configured configured reachable addressed
  have ready : controller.isConfigured = true := by
    simp only [SChainRuleController.isConfigured, configured.basePort, configured.nodeIps,
      Option.getD_some, ne_eq, List.map_eq_nil_iff, decide_eq_true_eq]
    exact ⟨by omega, grouped⟩
  have writable : ∀ rule ∈ controller.manager.held chain,
      rule ∉ controller.expected → Spelled rule rule.ruleD := by
    intro rule held _
    obtain ⟨ruleD, member, managed⟩ := Firewall.SChainFirewallManager.mem_held.mp held
    have spelled := only.ruleD_of_managed member managed
    rwa [SChainRule.ruleD_of_spelled spelled]
  obtain ⟨returns, _, added, removed, difference, left⟩ :=
    Firewall.runOn_sync order ready addressedAll legible writable
  refine ⟨returns, ?_⟩
  intro packet offset same
  rw [left, Firewall.accepts_updated_iff addressedAll only difference,
    allows_iff_admitted configured same]
  refine SChainRuleController.inRange_iff.mpr ?_
  rw [configured.basePort, Option.getD_some]
  have bounded := offset.isLt
  omega

end Configured

/-! ### Two nodes -/

section Nodes

variable {sources otherSources : ConfigSources} {generation rotationId : Nat}
  {node : LocalNode} {config : SChainConfig} {document : GeneratedConfig}
  {own : ManagerNode Bytes}

theorem namedArguments_of_generated {files : Directory Text} {upstream : Bool}
    {ranges : List Config.IpRange} (documented : NodeInfoDocumented libraries)
    (unshadowed : Unshadowed sources) (consistent : Consistent skale schainName peers)
    (reachable : Reachable libraries peers)
    (generated : generateSchainConfigWithSkale libraries sources skale schainName
      generation rotationId node = .ok config)
    (regular : node.syncNode = false) (member : own ∈ peers) (same : own.id = node.id)
    (written : document.entries = config.toDict)
    (named : namedConfig files upstream = .ok (.obj document.document.fields))
    (ranged : externalRanges files = .ok ranges) :
    ∃ (schain : SchainStructure) (basePort : Nat),
      skale.getByName schainName = .ok schain ∧ 0 < basePort ∧
      libraries.getSchainBasePortOnNode own.schains schain.name own.port =
        .ok (basePort : Int) ∧
      namedArguments files upstream = .ok (some
        { basePort := some basePort
          ownIp := some (libraries.ipFromBytes own.ip)
          nodeIps := peers.map fun peer => libraries.ipFromBytes peer.ip
          syncIpRanges := ranges.map fun range => ⟨range.startIp, range.endIp⟩ }) := by
  obtain ⟨chain, arguments, asked, askedOf, generated⟩ := exists_asked_of_generate generated
  obtain ⟨nodeInfo, nodes, fields⟩ :=
    configFields_of_generate documented unshadowed generated written
  have samePeers := consistent.asked_peers asked
  have ported := consistent.basePort_of_asked askedOf regular member same
  have positive := reachable.basePort own member _ _ ported
  obtain ⟨basePort, based⟩ := Int.eq_ofNat_of_zero_le positive.le
  rw [based] at ported positive
  refine ⟨chain.schain, basePort, asked.schain, by omega, ported, ?_⟩
  have ips : (peers.map fun peer => Json.Value.str (libraries.ipFromBytes peer.ip)).mapM
      RuleArguments.nodeIpOf = some (peers.map fun peer => libraries.ipFromBytes peer.ip) := by
    clear consistent reachable samePeers member
    induction peers with
    | nil => rfl
    | cons peer peers ih =>
        rw [List.map_cons, List.mapM_cons, ih]
        rfl
  have nodeIps := fields.getNodeIpsFromConfig_eq
  have ownIp := fields.getOwnIpFromConfig_eq (samePeers ▸ consistent.distinct)
    (samePeers ▸ member) (same.trans askedOf.nodeId.symm)
  have port := fields.getBasePortFromConfig_eq
  rw [samePeers] at nodeIps
  rw [based] at port
  refine bind_eq_ok.mpr ⟨_, named, bind_eq_ok.mpr ⟨_, port, bind_eq_ok.mpr ⟨_, nodeIps,
    bind_eq_ok.mpr ⟨_, ownIp, bind_eq_ok.mpr ⟨_, ranged, ?_⟩⟩⟩⟩⟩
  refine congrArg Except.ok ?_
  unfold RuleArguments.ofValues
  rw [ips]
  rfl

/-- Where a node of the chain is listed, in the config of any other node, its firewall lets
the nodes of the chain through after a `sync` with its own config, and nobody else but at
the public ports and the sync agents at theirs. -/
theorem listed_ports_admit_peers {files : Directory Text} {upstream : Bool}
    {ranges : List Config.IpRange} {other : LocalNode} {otherConfig : SChainConfig}
    {otherDocument : GeneratedConfig} {otherGeneration otherRotationId : Nat} {ip : Text}
    {basePort : Int} (documented : NodeInfoDocumented libraries)
    (unshadowed : Unshadowed sources) (otherUnshadowed : Unshadowed otherSources)
    (consistent : Consistent skale schainName peers) (reachable : Reachable libraries peers)
    (generated : generateSchainConfigWithSkale libraries sources skale schainName
      generation rotationId node = .ok config)
    (regular : node.syncNode = false) (member : own ∈ peers) (same : own.id = node.id)
    (written : document.entries = config.toDict)
    (named : namedConfig files upstream = .ok (.obj document.document.fields))
    (ranged : externalRanges files = .ok ranges)
    (addressed : ∀ range ∈ ranges, ∃ first last : Address, range = ⟨first.str, last.str⟩)
    (otherGenerated : generateSchainConfigWithSkale libraries otherSources skale schainName
      otherGeneration otherRotationId other = .ok otherConfig)
    (otherWritten : otherDocument.entries = otherConfig.toDict)
    (lists : Lists (.obj otherDocument.document.fields) node.id ip basePort) :
    ip = libraries.ipFromBytes own.ip ∧
      ∃ arguments, namedArguments files upstream = .ok (some arguments) ∧
        ∀ (controller : SChainRuleController) (order : SetOrder SChainRule)
          (chain : Firewall.Chain),
          (arguments.fresh controller).AcceptsOwnOnly chain →
          (∀ ruleD ∈ chain, Legible ruleD) →
          (runOn ((arguments.fresh controller).sync order) chain).1 = .value () ∧
            ∀ (packet : Packet) (offset : Fin controller.portsPerSchain),
              (packet.dport : Int) = basePort + offset →
              ((∃ ruleD ∈ (runOn ((arguments.fresh controller).sync order) chain).2,
                  ruleD.Accepts packet) ↔
                Admitted libraries peers own ranges controller.portAllocation offset
                  packet.source) := by
  obtain ⟨schain, ownPort, schainAsked, based, ported, arguments⟩ :=
    namedArguments_of_generated documented unshadowed consistent reachable generated regular
      member same written named ranged
  obtain ⟨chain, otherArguments, asked, _, otherGenerated⟩ :=
    exists_asked_of_generate otherGenerated
  obtain ⟨nodeInfo, nodes, fields⟩ :=
    configFields_of_generate documented otherUnshadowed otherGenerated otherWritten
  obtain ⟨peer, listed, sameId, sameIp, peerPort⟩ := lists_of_fields fields lists
  rw [consistent.asked_peers asked] at listed
  obtain rfl := List.inj_on_of_nodup_map consistent.distinct listed member
    (sameId.trans same.symm)
  rw [eq_of_ok schainAsked asked.schain] at peerPort
  obtain rfl := eq_of_ok ported peerPort
  have grouped : peers ≠ [] := List.ne_nil_of_mem member
  have listedIps : (peers.map fun peer => libraries.ipFromBytes peer.ip) ≠ [] :=
    List.map_eq_nil_iff.not.mpr grouped
  have ownNamed : libraries.ipFromBytes peer.ip ≠ [] := by
    obtain ⟨address, text⟩ := reachable.address peer member
    rw [text]
    exact addressStr_ne_nil address
  refine ⟨sameIp.symm, _, arguments, ?_⟩
  intro controller order chain only legible
  have configured := configured_fresh based ownNamed listedIps ranges controller
  obtain ⟨returns, admits⟩ :=
    sync_admits configured reachable addressed based grouped order only legible
  refine ⟨returns, ?_⟩
  intro packet offset there
  exact admits packet offset (by omega)

theorem pair_reachable : Reachable pairLibraries [firstManagerNode, secondManagerNode] where
  address peer _ := ⟨peer.ip, rfl⟩
  basePort peer member schainName basePort ported := by
    have placed : ∃ index : Nat, basePort = peer.port + index * 64 := by
      unfold pairLibraries at ported
      dsimp only at ported
      split at ported
      · rename_i index _
        exact ⟨index, (Except.ok.inj ported).symm⟩
      · cases ported
    obtain ⟨index, rfl⟩ := placed
    simp only [List.mem_cons, List.not_mem_nil, or_false] at member
    rcases member with rfl | rfl <;> simp only [firstManagerNode, secondManagerNode] <;> omega

/-- The first node lists the second one at port 10000. -/
theorem pair_listed_ports_admit_peers : ∃ files arguments,
    namedArguments files false = .ok (some arguments) ∧
      ∀ (controller : SChainRuleController) (order : SetOrder SChainRule)
        (chain : Firewall.Chain),
        (arguments.fresh controller).AcceptsOwnOnly chain →
        (∀ ruleD ∈ chain, Legible ruleD) →
        ∀ (packet : Packet) (offset : Fin controller.portsPerSchain),
          (packet.dport : Int) = 10000 + offset →
          ((∃ ruleD ∈ (runOn ((arguments.fresh controller).sync order) chain).2,
              ruleD.Accepts packet) ↔
            Admitted pairLibraries [firstManagerNode, secondManagerNode] secondManagerNode []
              controller.portAllocation offset packet.source) := by
  obtain ⟨config, document, generated, written⟩ := exists_document second_generates
  obtain ⟨otherConfig, otherDocument, otherGenerated, otherWritten⟩ :=
    exists_document first_generates
  obtain ⟨chain, _, asked, _, otherGeneratedFrom⟩ := exists_asked_of_generate otherGenerated
  obtain ⟨_, _, fields⟩ :=
    configFields_of_generate pair_documented pair_unshadowed otherGeneratedFrom otherWritten
  have consistent := pair_consistent "demo".toList
  have member : secondManagerNode ∈ [firstManagerNode, secondManagerNode] :=
    List.mem_cons_of_mem _ List.mem_cons_self
  obtain ⟨basePort, ported, lists⟩ := exists_lists fields
    (show secondManagerNode ∈ _ from consistent.asked_peers asked ▸ member)
  have saved : namedConfig [(.skaled, document.document.text)] false =
      .ok (.obj document.document.fields) := skaledConfig_of_saved document
  obtain ⟨_, arguments, named, admits⟩ :=
    listed_ports_admit_peers pair_documented pair_unshadowed pair_unshadowed consistent
      pair_reachable generated rfl member rfl written saved (externalRanges_of_saved document)
      (fun range inside => absurd inside List.not_mem_nil) otherGenerated otherWritten lists
  rw [show chain.schain = smallSchain "demo" from (Except.ok.inj asked.schain).symm] at ported
  obtain rfl := Except.ok.inj ported
  refine ⟨_, arguments, named, ?_⟩
  intro controller order chain only legible packet offset there
  exact (admits controller order chain only legible).2 packet offset there

end Nodes

end SkaleAdmin.Monitor
