import SkaleAdmin.Config.GeneratedAlike
import SkaleAdmin.Config.GeneratedConfig
import SkaleAdmin.Firewall.Convergence

/-! `generate_schain_config_with_skale` on the nodes of one chain. -/

namespace SkaleAdmin.Config

open PyText PyValue

variable {Bytes : Type} {libraries : Libraries Bytes} {sources : ConfigSources}
  {skale : Skale Bytes} {schainName : Text} {generation rotationId : Nat}

/-! ### What a node is told of the chain -/

structure Asked (skale : Skale Bytes) (schainName : Text) (generation rotationId : Nat)
    (chain : ChainArguments Bytes) : Prop where
  nodes : skale.getSchainNodesWithSchains schainName = .ok chain.schainNodesWithSchains
  schain : skale.getByName schainName = .ok chain.schain
  nodeGroups : skale.getPreviousSchainGroups schainName = .ok chain.nodeGroups
  isOwnerContract :
    skale.isAddressContract chain.schain.mainnetOwner = .ok chain.isOwnerContract
  commonBlsPublicKeys :
    skale.getCommonBlsPublicKey schainName = .ok chain.commonBlsPublicKeys
  skaleManagerOpts : chain.skaleManagerOpts = skale.skaleManagerOpts
  generation : chain.generation = generation
  rotationId : chain.rotationId = rotationId

structure AskedOf (libraries : Libraries Bytes) (skale : Skale Bytes)
    (chain : ChainArguments Bytes) (node : LocalNode) (arguments : NodeArguments) :
    Prop where
  nodeId : arguments.nodeId = node.id
  syncNode : arguments.syncNode = node.syncNode
  secretKeyShare : arguments.secretKeyShare = node.secretKeyShare
  ecdsaKeyName : arguments.ecdsaKeyName = node.ecdsaKeyName
  basePort : node.syncNode = false → ∃ schains port,
    skale.getSchainsForNode node.id = .ok schains ∧
      skale.nodesGet node.id = .ok (arguments.nodeName, port) ∧
      libraries.getSchainBasePortOnNode schains chain.schain.name port =
        .ok arguments.schainBasePort

theorem Asked.unique {chain other : ChainArguments Bytes}
    (asked : Asked skale schainName generation rotationId chain)
    (again : Asked skale schainName generation rotationId other) : other = chain := by
  have sameNodes := eq_of_ok asked.nodes again.nodes
  have sameSchain := eq_of_ok asked.schain again.schain
  have sameGroups := eq_of_ok asked.nodeGroups again.nodeGroups
  have sameOwner := eq_of_ok asked.isOwnerContract (sameSchain ▸ again.isOwnerContract)
  have sameKeys := eq_of_ok asked.commonBlsPublicKeys again.commonBlsPublicKeys
  have sameOpts := again.skaleManagerOpts.trans asked.skaleManagerOpts.symm
  have sameGeneration := again.generation.trans asked.generation.symm
  have sameRotation := again.rotationId.trans asked.rotationId.symm
  cases other
  simp only at sameNodes sameSchain sameGroups sameOwner sameKeys sameOpts sameGeneration
  simp only at sameRotation
  rw [sameNodes, sameSchain, sameGroups, sameOwner, sameKeys, sameOpts, sameGeneration,
    sameRotation]

theorem exists_asked_of_generate {node : LocalNode} {config : SChainConfig}
    (generated : generateSchainConfigWithSkale libraries sources skale schainName
      generation rotationId node = .ok config) :
    ∃ chain arguments, Asked skale schainName generation rotationId chain ∧
      AskedOf libraries skale chain node arguments ∧
      generateSchainConfig libraries sources chain arguments = .ok config := by
  obtain ⟨nodes, nodesAsked, generated⟩ := bind_eq_ok.mp generated
  obtain ⟨schains, schainsAsked, generated⟩ := bind_eq_ok.mp generated
  obtain ⟨schain, schainAsked, generated⟩ := bind_eq_ok.mp generated
  obtain ⟨⟨name, port⟩, nodeAsked, generated⟩ := bind_eq_ok.mp generated
  obtain ⟨groups, groupsAsked, generated⟩ := bind_eq_ok.mp generated
  obtain ⟨owner, ownerAsked, generated⟩ := bind_eq_ok.mp generated
  obtain ⟨keys, keysAsked, generated⟩ := bind_eq_ok.mp generated
  have asked : Asked skale schainName generation rotationId {
      schain, rotationId, generation
      schainNodesWithSchains := nodes
      nodeGroups := groups
      isOwnerContract := owner
      skaleManagerOpts := skale.skaleManagerOpts
      commonBlsPublicKeys := keys } :=
    ⟨nodesAsked, schainAsked, groupsAsked, ownerAsked, keysAsked, rfl, rfl, rfl⟩
  cases mode : node.syncNode with
  | true =>
      simp only [mode, if_true] at generated
      refine ⟨_, _, asked, ⟨rfl, mode.symm, rfl, rfl, ?_⟩, generated⟩
      intro regular
      rw [mode] at regular
      cases regular
  | false =>
      simp only [mode, Bool.false_eq_true, if_false] at generated
      obtain ⟨basePort, ported, generated⟩ := bind_eq_ok.mp generated
      exact ⟨_, _, asked, ⟨rfl, mode.symm, rfl, rfl,
        fun _ => ⟨schains, port, schainsAsked, nodeAsked, ported⟩⟩, generated⟩

/-- All nodes of a chain, those that only follow it among them, generate one config but for
the section on the node itself, the BLS public keys in the list and the limit of the
consensus storage; the nodes that take part in it and hold the same keys agree on these
two as well. -/
theorem generated_configs_agree {node other : LocalNode} {config otherConfig : SChainConfig}
    (generated : generateSchainConfigWithSkale libraries sources skale schainName
      generation rotationId node = .ok config)
    (otherGenerated : generateSchainConfigWithSkale libraries sources skale schainName
      generation rotationId other = .ok otherConfig) :
    otherConfig = { config with
      skaleConfig := { config.skaleConfig with
        nodeInfo := otherConfig.skaleConfig.nodeInfo
        schainInfo := { config.skaleConfig.schainInfo with
          nodes := otherConfig.skaleConfig.schainInfo.nodes
          maxConsensusStorageBytes :=
            otherConfig.skaleConfig.schainInfo.maxConsensusStorageBytes } } } ∧
      (node.syncNode = false → other.syncNode = false →
        getBlsPublicKeys (other.secretKeyShare rotationId) =
          getBlsPublicKeys (node.secretKeyShare rotationId) →
        otherConfig.skaleConfig.schainInfo = config.skaleConfig.schainInfo) := by
  obtain ⟨chain, arguments, asked, askedOf, generated⟩ := exists_asked_of_generate generated
  obtain ⟨chain', arguments', asked', askedOf', otherGenerated⟩ :=
    exists_asked_of_generate otherGenerated
  obtain rfl := asked.unique asked'
  refine ⟨generateSchainConfig_alike generated otherGenerated, ?_⟩
  intro regular otherRegular sameKeys
  refine generateSchainConfig_schainInfo (askedOf.syncNode.trans regular)
    (askedOf'.syncNode.trans otherRegular) ?_ generated otherGenerated
  rw [askedOf.secretKeyShare, askedOf'.secretKeyShare, asked.rotationId]
  exact sameKeys

/-! ### A chain of two nodes -/

section Samples

def firstPublicKey : Text :=
  "0x79be667ef9dcbbac55a06295ce870b07029bfcdb2dce28d959f2815b16f81798".toList ++
    "483ada7726a3c4655da4fbfc0e1108a8fd17b448a68554199c47d08ffb10d4b8".toList

def secondPublicKey : Text :=
  "0xc6047f9441ed7d6d3045406e95c07cd85c778e4b8cef3ca7abac09b95c709ee5".toList ++
    "1ae168fea63dc339a3c58419466ceaeef7f632653266d0e1236431a950cfe52a".toList

def firstOwner : Text :=
  "0x7E5F4552091A69125d5DfCb7b8C2659029395Bdf".toList

def secondOwner : Text :=
  "0x2B5AD5c4795c026514f8317c7a215E218DcCD6cF".toList

def zeroAddress : Text :=
  "0x0000000000000000000000000000000000000000".toList

def contractAt (contractAddress : Text) (balance : Int) : Dict :=
  [(.str contractAddress, .dict [(.str "balance".toList, .str (PyText.str balance)),
    (.str "code".toList, .str "0x".toList)])]

def pairGenerators : PredeployedGenerators where
  proxyAdmin contractAddress _ := contractAt contractAddress 0
  etherbase contractAddress _ _ _ _ balance := contractAt contractAddress balance
  marionette contractAddress _ _ _ _ _ _ := contractAt contractAddress 0
  fileStorage contractAddress _ _ _ _ _ := contractAt contractAddress 0
  configController contractAddress _ _ _ := contractAt contractAddress 0
  multiSigWallet contractAddress _ := contractAt contractAddress 0
  context contractAddress _ _ := contractAt contractAddress 0
  etherbaseImplementationAddress := "0xd3ba3e0000000000000000000000000000000000".toList
  marionetteImplementationAddress := "0xd3C0deFaCe000000000000000000000000000000".toList
  filestorageImplementationAddress := "0xd3002000000000000000000000000000000000D4".toList
  configControllerAddress := "0xD2002000000000000000000000000000000000d2".toList
  configControllerImplementationAddress := "0xD2002000000000000000000000000000000000d3".toList
  multisigwalletAddress := "0xD244519000000000000000000000000000000000".toList
  contextAddress := "0xD2000000000000000000000000000000000000D2".toList
  messageProxyForSchainAddress := "0xd2AAa00100000000000000000000000000000000".toList
  filestorageVersion := "1.0.0".toList

def pairLibraries : Libraries Ipv4.Address where
  nodeInfoToDict nodeId name basePort :=
    [(.str "nodeID".toList, .int nodeId), (.str "nodeName".toList, .str name),
      (.str "basePort".toList, .int basePort),
      (.str "httpRpcPort".toList, .int (basePort + 3)),
      (.str "httpsRpcPort".toList, .int (basePort + 8)),
      (.str "wsRpcPort".toList, .int (basePort + 2)),
      (.str "wssRpcPort".toList, .int (basePort + 7)),
      (.str "infoHttpRpcPort".toList, .int (basePort + 9))]
  imaMonitoringPort := 6
  getSchainBasePortOnNode schains schainName nodePort :=
    match schains.findIdx? fun schain => schain.name = schainName with
    | some index => .ok (nodePort + index * 64)
    | none => .error .shape
  ipFromBytes := Ipv4.Address.str
  publicKeyToAddress publicKey :=
    if publicKey = firstPublicKey then firstOwner else secondOwner
  toChecksumAddress := id
  keccakHex _ := "3a784687a2b2ff9a2c72e22b001d33d9f2e2155a7858ff663b0990d35f14745d".toList
  etherbaseAddress := "0xd2bA3e0000000000000000000000000000000000".toList
  marionetteAddress := "0xD2c0DeFACe000000000000000000000000000000".toList
  filestorageAddress := "0xD3002000000000000000000000000000000000d3".toList
  zeroAddress
  generateContracts _ _ _ := []
  predeployed := pairGenerators

def limitsOf (limits : List (String × Int)) : PyValue.Value :=
  .dict [(.str "small".toList, .dict [(.str "default".toList,
    .dict (limits.map fun limit => (.str limit.1.toList, .int limit.2)))])]

def abiOf (contracts : List (Text × Text)) : PyValue.Value :=
  .dict (contracts.map fun contract =>
    (.str (contract.1 ++ "_address".toList), .str zeroAddress))

def pairSources : ConfigSources where
  baseConfig := some
    [(.str "sealEngine".toList, .str "NoProof".toList), (.str "params".toList, .dict []),
      (.str "unddos".toList, .dict []), (.str "genesis".toList, .dict []),
      (.str "accounts".toList, .dict [])]
  staticParams := .dict [
    (.str "schain".toList, .dict [(.str "snapshotIntervalSec".toList, .int 0)]),
    (.str "schain_cmd".toList, .list [.str "-v 3".toList]),
    (.str "node".toList, .dict [(.str "common".toList, .dict []),
      (.str "small".toList, .dict [(.str "minCacheSize".toList, .int 1000)])])]
  resourceAllocation := .dict [(.str "schain".toList, .dict [
    (.str "volume_limits".toList, limitsOf [("max_consensus_storage_bytes", 4),
      ("max_skaled_leveldb_storage_bytes", 3), ("max_file_storage_bytes", 2),
      ("max_reserved_storage_bytes", 1)]),
    (.str "leveldb_limits".toList, limitsOf [("contract_storage", 2), ("db_storage", 1)])])]
  mainnetImaAbi := abiOf mainnetImaContracts
  schainImaAbi := abiOf schainImaContracts
  precompiledContracts := []
  staticGroups := none
  staticAccounts := some (.dict [(.str "accounts".toList, .dict [])])

def smallSchain (name : String) : SchainStructure where
  name := name.toList
  partOfNode := 1
  mainnetOwner := firstOwner
  originator := zeroAddress
  allocationTypeName := "default".toList
  multitransactionMode := false

def firstManagerNode : ManagerNode Ipv4.Address where
  id := 0
  name := "first".toList
  ip := Firewall.firstNode
  publicIp := Firewall.firstNode
  port := 10000
  publicKey := firstPublicKey
  schains := [smallSchain "other", smallSchain "demo"]

def secondManagerNode : ManagerNode Ipv4.Address where
  id := 1
  name := "second".toList
  ip := Firewall.secondNode
  publicIp := Firewall.secondNode
  port := 10000
  publicKey := secondPublicKey
  schains := [smallSchain "demo"]

def pairSkale : Skale Ipv4.Address where
  getSchainNodesWithSchains _ := .ok [firstManagerNode, secondManagerNode]
  getSchainsForNode nodeId :=
    .ok (if nodeId = 0 then firstManagerNode.schains else secondManagerNode.schains)
  getByName _ := .ok (smallSchain "demo")
  nodesGet nodeId :=
    .ok (if nodeId = 0 then ("first".toList, 10000) else ("second".toList, 10000))
  getPreviousSchainGroups _ := .ok []
  isAddressContract _ := .ok false
  skaleManagerOpts := { schainsInternalAddress := zeroAddress, nodesAddress := zeroAddress }
  getCommonBlsPublicKey _ := .ok [.int 1, .int 2, .int 3, .int 4]

def pairNode (nodeId : Int) (keyShareName : String) : LocalNode where
  id := nodeId
  schainBasePort := -1
  ecdsaKeyName := some "NEK:1".toList
  secretKeyShare _ := some (.dict [
    (.str "key_share_name".toList, .str keyShareName.toList), (.str "t".toList, .int 2),
    (.str "public_key".toList, .list [.str "1".toList, .str "2".toList, .str "3".toList,
      .str "4".toList]),
    (.str "bls_public_keys".toList,
      .list [.str "1:2:3:4".toList, .str "5:6:7:8".toList])])
  certFile := "cert".toList
  keyFile := "key".toList

def firstLocalNode : LocalNode :=
  pairNode 0 "BLS_KEY:SCHAIN_ID:1:NODE_ID:0:DKG_ID:0"

def secondLocalNode : LocalNode :=
  pairNode 1 "BLS_KEY:SCHAIN_ID:1:NODE_ID:1:DKG_ID:0"

def generatesDocument (evaluated : Evaluated SChainConfig) : Bool :=
  match evaluated with
  | .ok config => (image (.dict config.toDict)).isWellFormed
  | .error _ => false

theorem exists_document {evaluated : Evaluated SChainConfig}
    (holds : generatesDocument evaluated = true) :
    ∃ (config : SChainConfig) (document : GeneratedConfig),
      evaluated = .ok config ∧ document.entries = config.toDict := by
  cases evaluated with
  | ok config =>
      have wellFormed : (image (.dict config.toDict)).WellFormed :=
        Json.wellFormed_of_isWellFormed holds
      exact ⟨config, ⟨_, wellFormed⟩, rfl, rfl⟩
  | error error => cases holds

theorem first_generates : generatesDocument (generateSchainConfigWithSkale pairLibraries
    pairSources pairSkale "demo".toList 0 0 firstLocalNode) = true := by
  decide +kernel

theorem second_generates : generatesDocument (generateSchainConfigWithSkale pairLibraries
    pairSources pairSkale "demo".toList 0 0 secondLocalNode) = true := by
  decide +kernel

theorem pairNode_keys (nodeId : Int) (keyShareName : String) (rotationId : Nat) :
    getBlsPublicKeys ((pairNode nodeId keyShareName).secretKeyShare rotationId) =
      .ok [.str "1:2:3:4".toList, .str "5:6:7:8".toList] :=
  rfl

theorem pair_configs_agree : ∃ config otherConfig,
    generateSchainConfigWithSkale pairLibraries pairSources pairSkale "demo".toList 0 0
        firstLocalNode = .ok config ∧
      generateSchainConfigWithSkale pairLibraries pairSources pairSkale "demo".toList 0 0
        secondLocalNode = .ok otherConfig ∧
      otherConfig.skaleConfig.schainInfo = config.skaleConfig.schainInfo := by
  obtain ⟨config, _, generated, _⟩ := exists_document first_generates
  obtain ⟨otherConfig, _, otherGenerated, _⟩ := exists_document second_generates
  exact ⟨config, otherConfig, generated, otherGenerated,
    (generated_configs_agree generated otherGenerated).2 rfl rfl
      ((pairNode_keys ..).trans (pairNode_keys ..).symm)⟩

end Samples

/-! ### What the contracts answer of a node -/

variable {peers : List (ManagerNode Bytes)} {node : LocalNode}

/-- The list of the chain's nodes and what is answered about a node agree. -/
structure Consistent (skale : Skale Bytes) (schainName : Text)
    (peers : List (ManagerNode Bytes)) : Prop where
  listed : skale.getSchainNodesWithSchains schainName = .ok peers
  distinct : (peers.map ManagerNode.id).Nodup
  schains : ∀ peer ∈ peers, skale.getSchainsForNode peer.id = .ok peer.schains
  port : ∀ peer ∈ peers, ∃ name, skale.nodesGet peer.id = .ok (name, peer.port)

theorem Consistent.asked_peers {chain : ChainArguments Bytes}
    (consistent : Consistent skale schainName peers)
    (asked : Asked skale schainName generation rotationId chain) :
    chain.schainNodesWithSchains = peers :=
  eq_of_ok consistent.listed asked.nodes

theorem Consistent.basePort_of_asked {chain : ChainArguments Bytes} {arguments : NodeArguments}
    (consistent : Consistent skale schainName peers)
    (askedOf : AskedOf libraries skale chain node arguments)
    (regular : node.syncNode = false) {own : ManagerNode Bytes}
    (member : own ∈ peers) (same : own.id = node.id) :
    libraries.getSchainBasePortOnNode own.schains chain.schain.name own.port =
      .ok arguments.schainBasePort := by
  obtain ⟨schains, port, schainsAsked, nodeAsked, ported⟩ := askedOf.basePort regular
  obtain ⟨name, nodeTold⟩ := consistent.port own member
  rw [same] at nodeTold
  have samePort : port = own.port := congrArg Prod.snd (eq_of_ok nodeTold nodeAsked)
  have sameSchains : schains = own.schains :=
    eq_of_ok (same ▸ consistent.schains own member) schainsAsked
  rwa [samePort, sameSchains] at ported

theorem pair_consistent (schainName : Text) :
    Consistent pairSkale schainName [firstManagerNode, secondManagerNode] where
  listed := rfl
  distinct := by decide
  schains peer member := by
    simp only [List.mem_cons, List.not_mem_nil, or_false] at member
    rcases member with rfl | rfl <;> rfl
  port peer member := by
    simp only [List.mem_cons, List.not_mem_nil, or_false] at member
    rcases member with rfl | rfl
    · exact ⟨_, rfl⟩
    · exact ⟨_, rfl⟩

end SkaleAdmin.Config
