import SkaleAdmin.Config.GeneratedAlike
import SkaleAdmin.Library.JsonRoundTrip

/-! What is read back from a generated config. -/

namespace SkaleAdmin.Config

open PyText PyValue

variable {Bytes : Type} {libraries : Libraries Bytes} {sources : ConfigSources}

/-! ### Fields of a document -/

theorem getItem_image {entries : Dict} {name : String} {value : PyValue.Value}
    (wellFormed : (image (.dict entries)).WellFormed)
    (member : (Key.str name.toList, value) ∈ entries) :
    getItem name (image (.dict entries)) = .ok (image value) ∧
      (image value).WellFormed := by
  rw [image] at wellFormed ⊢
  cases wellFormed with
  | obj _ distinct each =>
      have held := mem_imageEntries member
      have found : (imageEntries entries).lookup name.toList = some (image value) :=
        Json.lookup_of_mem distinct held
      refine ⟨?_, each _ held⟩
      rw [getItem, found]

theorem wellFormed_item {items : List PyValue.Value} {item : PyValue.Value}
    (wellFormed : (image (.list items)).WellFormed) (member : item ∈ items) :
    (image item).WellFormed := by
  rw [image, imageItems_eq_map] at wellFormed
  cases wellFormed with
  | arr _ each => exact each _ (List.mem_map_of_mem member)

/-! ### The nodes of the chain -/

/-- What `NodeInfo.to_dict` writes of its three fields. -/
structure NodeInfoDocumented (libraries : Libraries Bytes) : Prop where
  nodeId : ∀ nodeId name basePort,
    (Key.str "nodeID".toList, PyValue.Value.int nodeId) ∈
      libraries.nodeInfoToDict nodeId name basePort
  basePort : ∀ nodeId name basePort,
    (Key.str "basePort".toList, PyValue.Value.int basePort) ∈
      libraries.nodeInfoToDict nodeId name basePort

/-- The entry of a node in the list, at its index in the group. -/
structure Describes (libraries : Libraries Bytes) (schainName : Text) (index : Nat)
    (node : ManagerNode Bytes) (fields : Dict) : Prop where
  nodeId : (Key.str "nodeID".toList, PyValue.Value.int node.id) ∈ fields
  basePort : ∃ basePort,
    libraries.getSchainBasePortOnNode node.schains schainName node.port = .ok basePort ∧
      (Key.str "basePort".toList, PyValue.Value.int basePort) ∈ fields
  ip : (Key.str "ip".toList, PyValue.Value.str (libraries.ipFromBytes node.ip)) ∈ fields
  owner : (Key.str "owner".toList,
    PyValue.Value.str (libraries.publicKeyToAddress node.publicKey)) ∈ fields
  schainIndex : (Key.str "schainIndex".toList, PyValue.Value.int index) ∈ fields

theorem mem_dropKey {key : Key} {entries : Dict} {entry : Key × PyValue.Value}
    (member : entry ∈ entries) (apart : entry.1 ≠ key) : entry ∈ dropKey key entries := by
  unfold dropKey
  cases popped : pop key entries with
  | none => exact member
  | some found => exact mem_of_pop popped member apart

theorem keys_ownFields (info : SChainNodeInfo) :
    info.ownFields.map Prod.fst = [.str "publicKey".toList, .str "owner".toList,
      .str "schainIndex".toList, .str "ip".toList, .str "publicIP".toList] :=
  rfl

theorem keys_parsePublicKeyInfo {blsPublicKey : Text} {publicKeyInfo : Dict}
    (parsed : parsePublicKeyInfo blsPublicKey = .ok publicKeyInfo) :
    publicKeyInfo.map Prod.fst = [.str "blsPublicKey0".toList,
      .str "blsPublicKey1".toList, .str "blsPublicKey2".toList,
      .str "blsPublicKey3".toList] := by
  unfold parsePublicKeyInfo at parsed
  split at parsed
  · obtain rfl := Except.ok.inj parsed
    rfl
  · cases parsed

theorem mem_toDict_of_nodeInfo {info : SChainNodeInfo} {fields : Dict}
    {entry : Key × PyValue.Value} (written : info.toDict libraries = .ok fields)
    (member : entry ∈ libraries.nodeInfoToDict info.nodeId info.name info.basePort)
    (kept : entry.1 = .str "nodeID".toList ∨ entry.1 = .str "basePort".toList) :
    entry ∈ fields := by
  obtain ⟨publicKeyInfo, parsed, written⟩ := bind_eq_ok.mp written
  obtain rfl := Except.ok.inj written
  refine mem_update_of_notMem (mem_update_of_notMem (mem_dropKey member ?_) ?_) ?_
  · rcases kept with same | same <;> rw [same] <;> decide
  · rw [keys_parsePublicKeyInfo parsed]
    rcases kept with same | same <;> rw [same] <;> decide
  · rw [keys_ownFields]
    rcases kept with same | same <;> rw [same] <;> decide

theorem mem_toDict_of_ownFields {info : SChainNodeInfo} {fields : Dict}
    {entry : Key × PyValue.Value} (written : info.toDict libraries = .ok fields)
    (member : entry ∈ info.ownFields) : entry ∈ fields := by
  obtain ⟨publicKeyInfo, _, written⟩ := bind_eq_ok.mp written
  obtain rfl := Except.ok.inj written
  refine mem_update_of_mem ?_ member
  rw [keys_ownFields]
  decide

theorem exists_keys_of_generate {schainName : Text} {nodes : List (ManagerNode Bytes)}
    {secretKeyShare : Option PyValue.Value} {syncNode : Bool}
    {entries : List PyValue.Value}
    (generated : generateSchainNodes libraries nodes schainName secretKeyShare syncNode =
      .ok entries) :
    ∃ blsPublicKeys, generateSchainNodesFrom libraries schainName 1 nodes blsPublicKeys =
      .ok entries := by
  cases syncNode with
  | true => exact ⟨_, generated⟩
  | false =>
      obtain ⟨blsPublicKeys, _, generated⟩ := bind_eq_ok.mp generated
      exact ⟨blsPublicKeys, generated⟩

theorem describes_of_generate (documented : NodeInfoDocumented libraries)
    {schainName : Text} {first : Nat} {nodes : List (ManagerNode Bytes)}
    {blsPublicKeys entries : List PyValue.Value}
    (generated : generateSchainNodesFrom libraries schainName first nodes blsPublicKeys =
      .ok entries) :
    entries.length = nodes.length ∧ ∀ (position : Nat) (node : ManagerNode Bytes),
      nodes[position]? = some node →
      ∃ fields, entries[position]? = some (.dict fields) ∧
        Describes libraries schainName (first + position) node fields := by
  induction nodes generalizing first blsPublicKeys entries with
  | nil =>
      obtain rfl := Except.ok.inj generated
      refine ⟨rfl, ?_⟩
      rintro position node ⟨⟩
  | cons node nodes ih =>
      cases blsPublicKeys with
      | nil => cases generated
      | cons blsPublicKey blsPublicKeys =>
          obtain ⟨basePort, ported, generated⟩ := bind_eq_ok.mp generated
          obtain ⟨keyText, keyed, generated⟩ := bind_eq_ok.mp generated
          obtain ⟨fields, written, generated⟩ := bind_eq_ok.mp generated
          obtain ⟨rest, later, generated⟩ := bind_eq_ok.mp generated
          obtain rfl := Except.ok.inj generated
          obtain ⟨sameLength, described⟩ := ih later
          refine ⟨congrArg (· + 1) sameLength, ?_⟩
          intro position other found
          cases position with
          | zero =>
              obtain rfl := Option.some.inj found
              refine ⟨fields, rfl, ?_⟩
              constructor
              case nodeId =>
                exact mem_toDict_of_nodeInfo written (documented.nodeId ..) (.inl rfl)
              case basePort =>
                exact ⟨basePort, ported, mem_toDict_of_nodeInfo written
                  (documented.basePort ..) (.inr rfl)⟩
              case ip =>
                exact mem_toDict_of_ownFields written (by simp [SChainNodeInfo.ownFields])
              case owner =>
                exact mem_toDict_of_ownFields written (by simp [SChainNodeInfo.ownFields])
              case schainIndex =>
                exact mem_toDict_of_ownFields written (by simp [SChainNodeInfo.ownFields])
          | succ position =>
              obtain ⟨others, there, describes⟩ := described position other found
              refine ⟨others, there, ?_⟩
              rw [show first + (position + 1) = first + 1 + position by omega]
              exact describes

/-! ### The wallets -/

theorem mem_numbered {label : Text} {first : Nat} {values : List PyValue.Value}
    {entries numberedEntries : Dict} {entry : Key × PyValue.Value}
    (numbers : numbered label first values entries = .ok numberedEntries)
    (member : entry ∈ entries)
    (apart : ∀ i : Nat, entry.1 ≠ .str (label ++ PyText.str (i : Int))) :
    entry ∈ numberedEntries := by
  induction values generalizing first entries with
  | nil =>
      obtain rfl := Except.ok.inj numbers
      exact member
  | cons value values ih =>
      obtain ⟨_, _, numbers⟩ := bind_eq_ok.mp numbers
      exact ih numbers (mem_assign_of_ne member (apart first))

theorem exists_keyShareName {secretKeyShare : Option PyValue.Value}
    {certFile keyFile : Text} {nodesInSchain : Nat}
    {commonBlsPublicKeys : List PyValue.Value} {wallets : Dict}
    (generated : generateWalletsConfig secretKeyShare certFile keyFile false nodesInSchain
      commonBlsPublicKeys = .ok wallets) :
    ∃ data keyShareName ima, secretKeyShare = some data ∧
      itemOf data "key_share_name".toList = .ok keyShareName ∧
      (Key.str "ima".toList, PyValue.Value.dict ima) ∈ wallets ∧
      (Key.str "keyShareName".toList, keyShareName) ∈ ima := by
  obtain ⟨formattedCommonPk, _, generated⟩ := bind_eq_ok.mp generated
  cases secretKeyShare with
  | none => cases generated
  | some data =>
      obtain ⟨keyShareName, named, generated⟩ := bind_eq_ok.mp generated
      obtain ⟨t, _, generated⟩ := bind_eq_ok.mp generated
      obtain ⟨_, _, generated⟩ := bind_eq_ok.mp generated
      obtain ⟨publicKeys, _, generated⟩ := bind_eq_ok.mp generated
      obtain ⟨ima, numbers, generated⟩ := bind_eq_ok.mp generated
      obtain rfl := Except.ok.inj generated
      refine ⟨data, keyShareName, ima, rfl, named, List.mem_singleton_self _, ?_⟩
      refine mem_numbered numbers (mem_update_of_mem ?_ List.mem_cons_self) ?_
      · change [Key.str "keyShareName".toList, .str "t".toList, .str "certFile".toList,
          .str "keyFile".toList].Nodup
        decide
      · intro i same
        cases same

/-! ### The sections of a config -/

/-- The fields of `NodeInfo` that are read back. -/
def nodeInfoNames : List String :=
  ["nodeID", "basePort", "httpRpcPort", "wsRpcPort", "httpsRpcPort", "wssRpcPort",
    "infoHttpRpcPort"]

/-- The static parameters do not name fields of other meaning. -/
structure Unshadowed (sources : ConfigSources) : Prop where
  nodeInfo : ∀ schainType staticNodeInfo,
    getStaticNodeInfo sources schainType = .ok staticNodeInfo →
    ∀ name ∈ ["ecdsaKeyName", "wallets", "imaMonitoringPort"] ++ nodeInfoNames,
      Key.str name.toList ∉ staticNodeInfo.map Prod.fst
  schainInfo : ∀ schainName staticSchainInfo,
    getStaticSchainInfo sources schainName = .ok staticSchainInfo →
    Key.str "nodes".toList ∉ staticSchainInfo.map Prod.fst

section Sections

variable {chain : ChainArguments Bytes} {node : NodeArguments} {config : SChainConfig}

def ownFieldKeys : List Key :=
  [.str "imaMessageProxySChain".toList, .str "imaMessageProxyMainNet".toList,
    .str "ecdsaKeyName".toList, .str "wallets".toList, .str "imaMonitoringPort".toList,
    .str "skale-manager".toList, .str "syncNode".toList, .str "info-acceptors".toList]

theorem keys_currentOwnFields (info : CurrentNodeInfo) (imaMonitoringPort : Int) :
    (info.ownFields imaMonitoringPort).map Prod.fst = ownFieldKeys :=
  rfl

theorem ownFieldKeys_nodup : ownFieldKeys.Nodup := by
  decide

theorem mem_currentNodeInfo {info : CurrentNodeInfo} {entry : Key × PyValue.Value}
    (member : entry ∈ update (libraries.nodeInfoToDict info.nodeId info.name info.basePort)
      (update (info.ownFields libraries.imaMonitoringPort) info.staticNodeInfo))
    (options : entry.1 ∉ [Key.str "archiveMode".toList, .str "syncFromCatchup".toList]) :
    entry ∈ info.toDict libraries := by
  simp only [List.mem_cons, List.not_mem_nil, or_false, not_or] at options
  unfold CurrentNodeInfo.toDict
  dsimp only
  split
  · exact mem_assign_of_ne (mem_assign_of_ne member options.1) options.2
  · exact member

theorem ownFieldKeys_apart : ∀ key ∈ ownFieldKeys,
    key ∉ [Key.str "archiveMode".toList, .str "syncFromCatchup".toList] := by
  decide

theorem mem_currentNodeInfo_of_ownFields {info : CurrentNodeInfo}
    {entry : Key × PyValue.Value}
    (member : entry ∈ info.ownFields libraries.imaMonitoringPort)
    (unshadowed : entry.1 ∉ info.staticNodeInfo.map Prod.fst) :
    entry ∈ info.toDict libraries := by
  have own : entry.1 ∈ ownFieldKeys := List.mem_map_of_mem member
  have distinct : ((info.ownFields libraries.imaMonitoringPort).map Prod.fst).Nodup := by
    rw [keys_currentOwnFields]
    exact ownFieldKeys_nodup
  exact mem_currentNodeInfo (mem_update_of_mem (nodup_keys_update distinct)
    (mem_update_of_notMem member unshadowed)) (ownFieldKeys_apart _ own)

theorem nodeInfoNames_apart :
    (∀ name ∈ nodeInfoNames, Key.str name.toList ∉
      ownFieldKeys) ∧
      ∀ name ∈ nodeInfoNames, Key.str name.toList ∉
        [Key.str "archiveMode".toList, .str "syncFromCatchup".toList] := by
  decide

theorem mem_currentNodeInfo_of_nodeInfo {info : CurrentNodeInfo} {name : String}
    {value : PyValue.Value}
    (member : (Key.str name.toList, value) ∈
      libraries.nodeInfoToDict info.nodeId info.name info.basePort)
    (named : name ∈ nodeInfoNames)
    (unshadowed : Key.str name.toList ∉ info.staticNodeInfo.map Prod.fst) :
    (Key.str name.toList, value) ∈ info.toDict libraries := by
  refine mem_currentNodeInfo (mem_update_of_notMem member ?_) ?_
  · rw [mem_keys_update, keys_currentOwnFields]
    rintro (own | shadowed)
    · exact nodeInfoNames_apart.1 name named own
    · exact unshadowed shadowed
  · exact nodeInfoNames_apart.2 name named

theorem mem_schainInfo_nodes {info : SChainInfo}
    (unshadowed : Key.str "nodes".toList ∉ info.staticSchainInfo.map Prod.fst) :
    (Key.str "nodes".toList, PyValue.Value.list info.nodes) ∈ info.toDict :=
  mem_update_of_notMem (by simp) unshadowed

/-- What the readers of a config come upon: the section of the node and the list of the
chain's nodes. -/
structure ConfigFields (libraries : Libraries Bytes) (chain : ChainArguments Bytes)
    (node : NodeArguments) (config : Json.Value) (nodeInfo : Dict)
    (nodes : List PyValue.Value) : Prop where
  infoItem : (getItem "skaleConfig" config >>= getItem "nodeInfo") =
    .ok (image (.dict nodeInfo))
  infoWellFormed : (image (.dict nodeInfo)).WellFormed
  nodesItem : (getItem "skaleConfig" config >>= getItem "sChain" >>= getItem "nodes") =
    .ok (image (.list nodes))
  nodesWellFormed : (image (.list nodes)).WellFormed
  nodeId : (Key.str "nodeID".toList, PyValue.Value.int node.nodeId) ∈ nodeInfo
  basePort : (Key.str "basePort".toList, PyValue.Value.int node.schainBasePort) ∈ nodeInfo
  others : ∀ name ∈ nodeInfoNames, ∀ value,
    (Key.str name.toList, value) ∈
      libraries.nodeInfoToDict node.nodeId node.nodeName node.schainBasePort →
    (Key.str name.toList, value) ∈ nodeInfo
  ecdsaKeyName : (Key.str "ecdsaKeyName".toList,
    PyValue.Value.str (node.ecdsaKeyName.getD [])) ∈ nodeInfo
  imaMonitoringPort : (Key.str "imaMonitoringPort".toList,
    PyValue.Value.int (node.schainBasePort + libraries.imaMonitoringPort)) ∈ nodeInfo
  wallets : ∃ wallets,
    generateWalletsConfig (node.secretKeyShare chain.rotationId) node.certFile node.keyFile
      node.syncNode chain.schainNodesWithSchains.length chain.commonBlsPublicKeys =
        .ok wallets ∧
      (Key.str "wallets".toList, PyValue.Value.dict wallets) ∈ nodeInfo
  length : nodes.length = chain.schainNodesWithSchains.length
  entries : ∀ (position : Nat) (peer : ManagerNode Bytes),
    chain.schainNodesWithSchains[position]? = some peer →
    ∃ fields, nodes[position]? = some (.dict fields) ∧
      Describes libraries chain.schain.name (1 + position) peer fields

theorem configFields_of_generate (documented : NodeInfoDocumented libraries)
    (unshadowed : Unshadowed sources)
    (generated : generateSchainConfig libraries sources chain node = .ok config)
    {document : GeneratedConfig} (written : document.entries = config.toDict) :
    ∃ nodeInfo nodes, ConfigFields libraries chain node (.obj document.document.fields)
      nodeInfo nodes := by
  obtain ⟨_, _, _, _, _, parts⟩ := configParts_of_generate generated
  obtain ⟨schainType, staticNodeInfo, info, _, statics, informed, nodeInfo⟩ :=
    parts.nodeInfo
  obtain ⟨staticSchainInfo, schainNodes, schainStatics, listed, schainInfo⟩ :=
    parts.schainInfo
  obtain ⟨_, _, _, _, _, sameNodes, _, sameStatics⟩ := infoParts_of_generate schainInfo
  have whole : (image (.dict config.toDict)).WellFormed := written ▸ document.wellFormed
  have same : Json.Value.obj document.document.fields = image (.dict config.toDict) := by
    rw [← written]
    rfl
  have skaleMember : (Key.str "skaleConfig".toList,
      PyValue.Value.dict config.skaleConfig.toDict) ∈ config.toDict := by
    simp [SChainConfig.toDict]
  obtain ⟨skaleItem, skaleWellFormed⟩ := getItem_image whole skaleMember
  have infoMember : (Key.str "nodeInfo".toList,
      PyValue.Value.dict config.skaleConfig.nodeInfo) ∈ config.skaleConfig.toDict := by
    simp [SkaleConfig.toDict]
  obtain ⟨infoItem, infoWellFormed⟩ := getItem_image skaleWellFormed infoMember
  have chainMember : (Key.str "sChain".toList,
      PyValue.Value.dict config.skaleConfig.schainInfo.toDict) ∈
        config.skaleConfig.toDict := by
    simp [SkaleConfig.toDict]
  obtain ⟨chainItem, chainWellFormed⟩ := getItem_image skaleWellFormed chainMember
  have nodesMember : (Key.str "nodes".toList, PyValue.Value.list schainNodes) ∈
      config.skaleConfig.schainInfo.toDict := by
    rw [← sameNodes]
    exact mem_schainInfo_nodes (sameStatics ▸ unshadowed.schainInfo _ _ schainStatics)
  obtain ⟨nodesItem, nodesWellFormed⟩ := getItem_image chainWellFormed nodesMember
  obtain ⟨wallets, walleted, informed⟩ := bind_eq_ok.mp informed
  obtain ⟨_, _, informed⟩ := bind_eq_ok.mp informed
  obtain ⟨_, _, informed⟩ := bind_eq_ok.mp informed
  obtain rfl := Except.ok.inj informed
  obtain ⟨sameLength, described⟩ := describes_of_generate documented
    (exists_keys_of_generate listed).choose_spec
  have own : ∀ name ∈ nodeInfoNames, ∀ value,
      (Key.str name.toList, value) ∈
        libraries.nodeInfoToDict node.nodeId node.nodeName node.schainBasePort →
      (Key.str name.toList, value) ∈ config.skaleConfig.nodeInfo := by
    intro name named value member
    rw [nodeInfo]
    exact mem_currentNodeInfo_of_nodeInfo member named
      (unshadowed.nodeInfo _ _ statics name (List.mem_append_right _ named))
  refine ⟨config.skaleConfig.nodeInfo, schainNodes, ?_⟩
  constructor
  case infoItem =>
    rw [same]
    exact bind_eq_ok.mpr ⟨_, skaleItem, infoItem⟩
  case infoWellFormed => exact infoWellFormed
  case nodesItem =>
    rw [same]
    exact bind_eq_ok.mpr ⟨_, bind_eq_ok.mpr ⟨_, skaleItem, chainItem⟩, nodesItem⟩
  case nodesWellFormed => exact nodesWellFormed
  case nodeId =>
    exact own "nodeID" (by simp [nodeInfoNames]) _ (documented.nodeId ..)
  case basePort =>
    exact own "basePort" (by simp [nodeInfoNames]) _ (documented.basePort ..)
  case others => exact own
  case ecdsaKeyName =>
    rw [nodeInfo]
    exact mem_currentNodeInfo_of_ownFields (by simp [CurrentNodeInfo.ownFields])
      (unshadowed.nodeInfo _ _ statics "ecdsaKeyName" (by simp))
  case imaMonitoringPort =>
    rw [nodeInfo]
    exact mem_currentNodeInfo_of_ownFields (by simp [CurrentNodeInfo.ownFields])
      (unshadowed.nodeInfo _ _ statics "imaMonitoringPort" (by simp))
  case wallets =>
    rw [nodeInfo]
    exact ⟨wallets, walleted, mem_currentNodeInfo_of_ownFields
      (by simp [CurrentNodeInfo.ownFields])
      (unshadowed.nodeInfo _ _ statics "wallets" (by simp))⟩
  case length => exact sameLength
  case entries => exact described

end Sections

end SkaleAdmin.Config
