import SkaleAdmin.Config.Agreement
import SkaleAdmin.Config.GeneratedReaders
import SkaleAdmin.Firewall.Convergence

/-! `core/schains/ima.py`: the environment of the IMA container, read from the config that
the node has generated. -/

namespace SkaleAdmin.Core

open PyText Config Json
open Firewall (SkaledPorts)

/-! ### The environment -/

/-- The paths and the endpoints of `tools.configs`. -/
structure ImaConfigs where
  schainConfigDir (schainName : Text) : Text
  abiFilepath : Text
  mainnetImaAbiFilepath : Text
  getSchainImaAbiFilepath (schainName : Text) : Text
  imaStateContainerPath : Text
  imaNetworkBrowserFilepath : Text
  endpoint : Text
  sgxServerUrl : Text
  sgxSslKeyFilepath : Text
  sgxSslCertFilepath : Text
  redisUri : Text

structure ImaEnv where
  schainDir : Text
  managerAbiPath : Text
  mainnetProxyPath : Text
  schainProxyPath : Text
  stateFile : Text
  networkBrowserDataPath : Text
  schainName : Text
  schainRpcUrl : Text
  mainnetRpcUrl : Text
  nodeNumber : Int
  nodesCount : Nat
  sgxUrl : Text
  ecdsaKeyName : Value
  blsKeyName : Value
  sgxSslKeyPath : Text
  sgxSslCertPath : Text
  nodeAddress : Value
  tmUrlMainnet : Text
  cidMainNet : Int
  cidSchain : Text
  monitoringPort : Value
  timeFraming : Int
  rpcPort : Int

/-- `None` where no node has the id. -/
def getCurrentNodeFromNodes (nodeId : Value) : List Value → Evaluated Value
  | [] => .ok .null
  | node :: nodes => do
      if equal (← getItem "nodeID" node) nodeId then return node
      else getCurrentNodeFromNodes nodeId nodes

def schainIndexToNodeNumber (node : Value) : Evaluated Int := do
  return (← toInt (← getItem "schainIndex" node)) - 1

def getSchainPortsFromConfig (config : Value) : Evaluated (List (String × Int)) :=
  match config with
  | .null => .ok []
  | config => do
      let nodeInfo ← getItem "nodeInfo" (← getItem "skaleConfig" config)
      return [("http", ← toInt (← getItem "httpRpcPort" nodeInfo)),
        ("ws", ← toInt (← getItem "wsRpcPort" nodeInfo)),
        ("https", ← toInt (← getItem "httpsRpcPort" nodeInfo)),
        ("wss", ← toInt (← getItem "wssRpcPort" nodeInfo)),
        ("info_http", ← toInt (← getItem "infoHttpRpcPort" nodeInfo))]

def getLocalhostHttpEndpoint (config : Value) : Evaluated Text := do
  match (← getSchainPortsFromConfig config).lookup "http" with
  | some http => return "http://127.0.0.1:".toList ++ str http
  | none => throw .shape

/-- `base_port + offset`. -/
def addOffset (offset : Nat) : Value → Evaluated Int
  | .num basePort => .ok (basePort + offset)
  | .bool basePort => .ok ((if basePort then 1 else 0) + offset)
  | _ => .error .shape

def len : Value → Evaluated Nat
  | .arr items => .ok items.length
  | .obj fields => .ok fields.length
  | .str text => .ok text.length
  | _ => .error .shape

section Environment

variable {Bytes : Type} (libraries : Libraries Bytes) {portsPerSchain : Nat}
  (ports : SkaledPorts portsPerSchain) (configs : ImaConfigs)

def getImaRpcPort (config : Value) : Evaluated Int := do
  addOffset ports.IMA_RPC (← getBasePortFromConfig config)

/-- The config is read anew for the ports, from the same files. -/
def getImaEnv (files : Directory Text) (schainName : Text) (mainnetChainId timeFrame : Int) :
    Evaluated ImaEnv := do
  let schainConfig ← skaledConfig files
  let nodeInfo ← getItem "nodeInfo" (← getItem "skaleConfig" schainConfig)
  let blsKeyName ←
    getItem "keyShareName" (← getItem "ima" (← getItem "wallets" nodeInfo))
  let schainNodes ← getItem "sChain" (← getItem "skaleConfig" schainConfig)
  let nodes ← getItem "nodes" schainNodes
  let publicNodeInfo ←
    getCurrentNodeFromNodes (← getItem "nodeID" nodeInfo) (← iterate nodes)
  let schainIndex ← schainIndexToNodeNumber publicNodeInfo
  let nodeAddress ← getItem "owner" publicNodeInfo
  return {
    schainDir := configs.schainConfigDir schainName
    managerAbiPath := configs.abiFilepath
    mainnetProxyPath := configs.mainnetImaAbiFilepath
    schainProxyPath := configs.getSchainImaAbiFilepath schainName
    stateFile := configs.imaStateContainerPath
    schainName
    schainRpcUrl := ← getLocalhostHttpEndpoint schainConfig
    mainnetRpcUrl := configs.endpoint
    nodeNumber := schainIndex
    nodesCount := ← len nodes
    sgxUrl := configs.sgxServerUrl
    ecdsaKeyName := ← getItem "ecdsaKeyName" nodeInfo
    blsKeyName
    sgxSslKeyPath := configs.sgxSslKeyFilepath
    sgxSslCertPath := configs.sgxSslCertFilepath
    nodeAddress
    tmUrlMainnet := configs.redisUri
    cidMainNet := mainnetChainId
    cidSchain := getChainId libraries schainName
    monitoringPort := ← getItem "imaMonitoringPort" nodeInfo
    rpcPort := ← getImaRpcPort ports schainConfig
    timeFraming := timeFrame
    networkBrowserDataPath := configs.imaNetworkBrowserFilepath }

end Environment

/-! ### The own entry -/

section Own

open PyValue (Key)

variable {Bytes : Type} {libraries : Libraries Bytes} {schainName : Text}
  {peers : List (ManagerNode Bytes)} {items : List Json.Value}

theorem getCurrentNodeFromNodes_of_shown {first : Nat}
    (sameLength : items.length = peers.length)
    (shown : ∀ (position : Nat) (peer : ManagerNode Bytes),
      peers[position]? = some peer →
      ∃ item, items[position]? = some item ∧
        Shown libraries schainName (first + position) peer item)
    (distinct : (peers.map ManagerNode.id).Nodup) {position : Nat}
    {own : ManagerNode Bytes} (found : peers[position]? = some own) :
    ∃ item, getCurrentNodeFromNodes (.num own.id) items = .ok item ∧
      Shown libraries schainName (first + position) own item := by
  induction peers generalizing items first position with
  | nil => cases found
  | cons peer peers ih =>
      cases items with
      | nil => cases sameLength
      | cons item items =>
          obtain ⟨_, there, shows⟩ := shown 0 peer rfl
          obtain rfl := Option.some.inj there
          rw [List.map_cons, List.nodup_cons] at distinct
          have step : getCurrentNodeFromNodes (.num own.id) (item :: items) =
              if equal (.num peer.id) (.num own.id) then .ok item
              else getCurrentNodeFromNodes (.num own.id) items := by
            rw [getCurrentNodeFromNodes, shows.nodeId]
            rfl
          cases position with
          | zero =>
              obtain rfl := Option.some.inj found
              exact ⟨item, step.trans (if_pos ((equal_num ..).mpr rfl)), shows⟩
          | succ position =>
              have later : own ∈ peers := List.mem_of_getElem? found
              have apart : peer.id ≠ own.id := by
                intro same
                exact distinct.1 (same ▸ List.mem_map_of_mem later)
              rw [step, if_neg (fun same => apart ((equal_num ..).mp same)),
                show first + (position + 1) = first + 1 + position by omega]
              refine ih (Nat.succ.inj sameLength) ?_ distinct.2 found
              intro position peer found
              obtain ⟨item, there, shows⟩ := shown (position + 1) peer found
              refine ⟨item, there, ?_⟩
              rwa [show first + 1 + position = first + (position + 1) by omega]

def portFields {portsPerSchain : Nat} (ports : SkaledPorts portsPerSchain) :
    List (String × Fin portsPerSchain) :=
  [("httpRpcPort", ports.HTTP_JSON), ("wsRpcPort", ports.WS_JSON),
    ("httpsRpcPort", ports.HTTPS_JSON), ("wssRpcPort", ports.WSS_JSON),
    ("infoHttpRpcPort", ports.INFO_HTTP_JSON)]

/-- What `NodeInfo.to_dict` writes of the ports. -/
def PortsDocumented (libraries : Libraries Bytes) {portsPerSchain : Nat}
    (ports : SkaledPorts portsPerSchain) : Prop :=
  ∀ nodeId name basePort, ∀ field ∈ portFields ports,
    (Key.str field.1.toList, PyValue.Value.int (basePort + (field.2.val : Int))) ∈
      libraries.nodeInfoToDict nodeId name basePort

variable {portsPerSchain : Nat} {ports : SkaledPorts portsPerSchain}
  {chain : ChainArguments Bytes} {node : NodeArguments} {config : Json.Value}
  {nodeInfo : Dict} {nodes : List PyValue.Value}

theorem portFields_named {field : String × Fin portsPerSchain}
    (member : field ∈ portFields ports) : field.1 ∈ nodeInfoNames := by
  simp only [portFields, List.mem_cons, List.not_mem_nil, or_false] at member
  rcases member with rfl | rfl | rfl | rfl | rfl <;> simp [nodeInfoNames]

theorem getItem_port (portsDocumented : PortsDocumented libraries ports)
    (fields : ConfigFields libraries chain node config nodeInfo nodes)
    {field : String × Fin portsPerSchain} (member : field ∈ portFields ports) :
    getItem field.1 (PyValue.image (.dict nodeInfo)) =
      .ok (.num (node.schainBasePort + (field.2.val : Int))) := by
  have written := portsDocumented node.nodeId node.nodeName node.schainBasePort _ member
  have held := fields.others field.1 (portFields_named member) _ written
  exact (getItem_image fields.infoWellFormed held).1

theorem getSchainPortsFromConfig_of_fields
    (portsDocumented : PortsDocumented libraries ports)
    (fields : ConfigFields libraries chain node config nodeInfo nodes) :
    getSchainPortsFromConfig config = .ok
      [("http", node.schainBasePort + (ports.HTTP_JSON.val : Int)),
        ("ws", node.schainBasePort + (ports.WS_JSON.val : Int)),
        ("https", node.schainBasePort + (ports.HTTPS_JSON.val : Int)),
        ("wss", node.schainBasePort + (ports.WSS_JSON.val : Int)),
        ("info_http", node.schainBasePort + (ports.INFO_HTTP_JSON.val : Int))] := by
  obtain ⟨skaleConfig, skaleItem, infoItem⟩ := bind_eq_ok.mp fields.infoItem
  have port : ∀ field ∈ portFields ports, _ := fun _ member =>
    getItem_port portsDocumented fields member
  have http := port ("httpRpcPort", ports.HTTP_JSON) (by simp [portFields])
  have ws := port ("wsRpcPort", ports.WS_JSON) (by simp [portFields])
  have https := port ("httpsRpcPort", ports.HTTPS_JSON) (by simp [portFields])
  have wss := port ("wssRpcPort", ports.WSS_JSON) (by simp [portFields])
  have infoHttp := port ("infoHttpRpcPort", ports.INFO_HTTP_JSON) (by simp [portFields])
  have skaled : config ≠ .null := by
    rintro rfl
    cases skaleItem
  unfold getSchainPortsFromConfig
  split
  · exact absurd rfl skaled
  · exact bind_eq_ok.mpr ⟨_, skaleItem, bind_eq_ok.mpr ⟨_, infoItem,
      bind_eq_ok.mpr ⟨_, http, bind_eq_ok.mpr ⟨_, rfl,
      bind_eq_ok.mpr ⟨_, ws, bind_eq_ok.mpr ⟨_, rfl,
      bind_eq_ok.mpr ⟨_, https, bind_eq_ok.mpr ⟨_, rfl,
      bind_eq_ok.mpr ⟨_, wss, bind_eq_ok.mpr ⟨_, rfl,
      bind_eq_ok.mpr ⟨_, infoHttp, bind_eq_ok.mpr ⟨_, rfl, rfl⟩⟩⟩⟩⟩⟩⟩⟩⟩⟩⟩⟩

/-- A node of the chain finds itself in its config: the IMA container is told the node's
place in the group, its owner, its keys and its ports. -/
theorem getImaEnv_of_generated {sources : ConfigSources} {skale : Skale Bytes}
    {generation rotationId : Nat} {node : LocalNode} {config : SChainConfig}
    {document : GeneratedConfig} {files : Directory Text} {position : Nat}
    {own : ManagerNode Bytes} (configs : ImaConfigs) (mainnetChainId timeFrame : Int)
    (documented : NodeInfoDocumented libraries)
    (portsDocumented : PortsDocumented libraries ports) (unshadowed : Unshadowed sources)
    (consistent : Consistent skale schainName peers)
    (generated : generateSchainConfigWithSkale libraries sources skale schainName
      generation rotationId node = .ok config)
    (regular : node.syncNode = false) (found : peers[position]? = some own)
    (same : own.id = node.id) (written : document.entries = config.toDict)
    (saved : skaledConfig files = .ok (.obj document.document.fields)) :
    ∃ schain basePort secretKeyShare keyShareName,
      skale.getByName schainName = .ok schain ∧
      libraries.getSchainBasePortOnNode own.schains schain.name own.port = .ok basePort ∧
      node.secretKeyShare rotationId = some secretKeyShare ∧
      itemOf secretKeyShare "key_share_name".toList = .ok keyShareName ∧
      getImaEnv libraries ports configs files schainName mainnetChainId timeFrame = .ok {
        schainDir := configs.schainConfigDir schainName
        managerAbiPath := configs.abiFilepath
        mainnetProxyPath := configs.mainnetImaAbiFilepath
        schainProxyPath := configs.getSchainImaAbiFilepath schainName
        stateFile := configs.imaStateContainerPath
        networkBrowserDataPath := configs.imaNetworkBrowserFilepath
        schainName
        schainRpcUrl :=
          "http://127.0.0.1:".toList ++ str (basePort + (ports.HTTP_JSON.val : Int))
        mainnetRpcUrl := configs.endpoint
        nodeNumber := position
        nodesCount := peers.length
        sgxUrl := configs.sgxServerUrl
        ecdsaKeyName := .str (node.ecdsaKeyName.getD [])
        blsKeyName := PyValue.image keyShareName
        sgxSslKeyPath := configs.sgxSslKeyFilepath
        sgxSslCertPath := configs.sgxSslCertFilepath
        nodeAddress := .str (libraries.publicKeyToAddress own.publicKey)
        tmUrlMainnet := configs.redisUri
        cidMainNet := mainnetChainId
        cidSchain := getChainId libraries schainName
        monitoringPort := .num (basePort + libraries.imaMonitoringPort)
        timeFraming := timeFrame
        rpcPort := basePort + (ports.IMA_RPC.val : Int) } := by
  obtain ⟨chain, arguments, asked, askedOf, generated⟩ := exists_asked_of_generate generated
  obtain ⟨nodeInfo, nodes, fields⟩ :=
    configFields_of_generate documented unshadowed generated written
  have samePeers := consistent.asked_peers asked
  have member : own ∈ peers := List.mem_of_getElem? found
  have ported := consistent.basePort_of_asked askedOf regular member same
  obtain ⟨wallets, walleted, walletsMember⟩ := fields.wallets
  rw [askedOf.syncNode, regular, askedOf.secretKeyShare, asked.rotationId] at walleted
  obtain ⟨secretKeyShare, keyShareName, ima, shared, keyNamed, imaMember, nameMember⟩ :=
    exists_keyShareName walleted
  obtain ⟨walletsItem, walletsWellFormed⟩ := getItem_image fields.infoWellFormed walletsMember
  obtain ⟨imaItem, imaWellFormed⟩ := getItem_image walletsWellFormed imaMember
  have nameItem := (getItem_image imaWellFormed nameMember).1
  obtain ⟨items, list, sameLength, shown⟩ := fields.exists_items
  rw [samePeers] at sameLength shown
  obtain ⟨item, current, shows⟩ :=
    getCurrentNodeFromNodes_of_shown sameLength shown consistent.distinct found
  obtain ⟨schain, schainItem, nodesItem⟩ := bind_eq_ok.mp list
  obtain ⟨skaleConfig, skaleItem, schainItem⟩ := bind_eq_ok.mp schainItem
  obtain ⟨skaleConfig', skaleItem', infoItem⟩ := bind_eq_ok.mp fields.infoItem
  obtain rfl := eq_of_ok skaleItem skaleItem'
  have idItem := (getItem_image fields.infoWellFormed fields.nodeId).1
  rw [askedOf.nodeId, ← same] at idItem
  have number : schainIndexToNodeNumber item = .ok (position : Int) := by
    refine bind_eq_ok.mpr ⟨_, shows.schainIndex, bind_eq_ok.mpr ⟨_, rfl, ?_⟩⟩
    refine congrArg Except.ok ?_
    omega
  have endpoint : getLocalhostHttpEndpoint (.obj document.document.fields) =
      .ok ("http://127.0.0.1:".toList ++
        str (arguments.schainBasePort + (ports.HTTP_JSON.val : Int))) :=
    bind_eq_ok.mpr ⟨_, getSchainPortsFromConfig_of_fields portsDocumented fields, rfl⟩
  have keyItem := (getItem_image fields.infoWellFormed fields.ecdsaKeyName).1
  rw [askedOf.ecdsaKeyName] at keyItem
  have monitoringItem := (getItem_image fields.infoWellFormed fields.imaMonitoringPort).1
  have rpcPort : getImaRpcPort ports (.obj document.document.fields) =
      .ok (arguments.schainBasePort + (ports.IMA_RPC.val : Int)) :=
    bind_eq_ok.mpr ⟨_, fields.getBasePortFromConfig_eq, rfl⟩
  refine ⟨chain.schain, arguments.schainBasePort, secretKeyShare, keyShareName, asked.schain,
    ported, shared, keyNamed, ?_⟩
  refine bind_eq_ok.mpr ⟨_, saved, bind_eq_ok.mpr ⟨_, skaleItem, bind_eq_ok.mpr
    ⟨_, infoItem, bind_eq_ok.mpr ⟨_, walletsItem, bind_eq_ok.mpr ⟨_, imaItem, bind_eq_ok.mpr
    ⟨_, nameItem, bind_eq_ok.mpr ⟨_, skaleItem, bind_eq_ok.mpr ⟨_, schainItem,
    bind_eq_ok.mpr ⟨_, nodesItem, bind_eq_ok.mpr ⟨_, idItem, bind_eq_ok.mpr ⟨_, rfl,
    bind_eq_ok.mpr ⟨_, current, bind_eq_ok.mpr ⟨_, number, bind_eq_ok.mpr
    ⟨_, shows.owner, ?_⟩⟩⟩⟩⟩⟩⟩⟩⟩⟩⟩⟩⟩⟩
  refine bind_eq_ok.mpr ⟨_, endpoint, bind_eq_ok.mpr ⟨_, rfl, bind_eq_ok.mpr ⟨_, keyItem,
    bind_eq_ok.mpr ⟨_, monitoringItem, bind_eq_ok.mpr ⟨_, rpcPort, ?_⟩⟩⟩⟩⟩
  rw [sameLength]
  rfl

theorem pair_portsDocumented : PortsDocumented pairLibraries Firewall.samplePorts := by
  intro nodeId name basePort field member
  simp only [portFields, List.mem_cons, List.not_mem_nil, or_false] at member
  rcases member with rfl | rfl | rfl | rfl | rfl <;>
    simp [pairLibraries, Firewall.samplePorts]

def pairConfigs : ImaConfigs where
  schainConfigDir schainName := "/skale_node_data/schains/".toList ++ schainName
  abiFilepath := "/skale_vol/contracts_info/manager.json".toList
  mainnetImaAbiFilepath := "/skale_vol/contracts_info/ima.json".toList
  getSchainImaAbiFilepath _ := "/skale_vol/contracts_info/schain_ima_abi.json".toList
  imaStateContainerPath := "/ima-state".toList
  imaNetworkBrowserFilepath := "/network_browser.json".toList
  endpoint := "http://127.0.0.1:8545".toList
  sgxServerUrl := "https://127.0.0.1:1026".toList
  sgxSslKeyFilepath := "/sgx.key".toList
  sgxSslCertFilepath := "/sgx.crt".toList
  redisUri := "redis://@127.0.0.1:6379".toList

/-- The second node of the chain is node number 1 of two. -/
theorem pair_getImaEnv : ∃ files env,
    getImaEnv pairLibraries Firewall.samplePorts pairConfigs files "demo".toList 1 5 =
        .ok env ∧
      env.nodeNumber = 1 ∧ env.nodesCount = 2 ∧ env.nodeAddress = .str secondOwner ∧
      env.rpcPort = 10010 := by
  obtain ⟨config, document, generated, written⟩ := exists_document second_generates
  obtain ⟨schain, basePort, _, _, schainAsked, ported, _, _, evaluated⟩ :=
    getImaEnv_of_generated pairConfigs 1 5 pair_documented pair_portsDocumented pair_unshadowed
      (pair_consistent _) generated rfl (show [firstManagerNode, secondManagerNode][1]? =
        some secondManagerNode from rfl) rfl written (skaledConfig_of_saved document)
  obtain rfl := Except.ok.inj schainAsked
  obtain rfl := Except.ok.inj ported
  have owner : pairLibraries.publicKeyToAddress secondManagerNode.publicKey =
      secondOwner := by
    decide +kernel
  exact ⟨_, _, evaluated, rfl, rfl, congrArg Value.str owner, rfl⟩

end Own

/-! ### The environment of the container -/

/-- `to_dict`; `spell` is `str` on what was read from the config. -/
def ImaEnv.toDict (self : ImaEnv) (spell : Value → Text) : List (Text × Text) :=
  [("SCHAIN_DIR".toList, self.schainDir),
    ("MANAGER_ABI_PATH".toList, self.managerAbiPath),
    ("MAINNET_PROXY_PATH".toList, self.mainnetProxyPath),
    ("SCHAIN_PROXY_PATH".toList, self.schainProxyPath),
    ("STATE_FILE".toList, self.stateFile),
    ("SCHAIN_NAME".toList, self.schainName),
    ("SCHAIN_RPC_URL".toList, self.schainRpcUrl),
    ("MAINNET_RPC_URL".toList, self.mainnetRpcUrl),
    ("NODE_NUMBER".toList, str self.nodeNumber),
    ("NODES_COUNT".toList, str (self.nodesCount : Int)),
    ("SGX_URL".toList, self.sgxUrl),
    ("ECDSA_KEY_NAME".toList, spell self.ecdsaKeyName),
    ("BLS_KEY_NAME".toList, spell self.blsKeyName),
    ("SGX_SSL_KEY_PATH".toList, self.sgxSslKeyPath),
    ("SGX_SSL_CERT_PATH".toList, self.sgxSslCertPath),
    ("NODE_ADDRESS".toList, spell self.nodeAddress),
    ("TM_URL_MAIN_NET".toList, self.tmUrlMainnet),
    ("CID_MAIN_NET".toList, str self.cidMainNet),
    ("CID_SCHAIN".toList, self.cidSchain),
    ("MONITORING_PORT".toList, spell self.monitoringPort),
    ("RPC_PORT".toList, str self.rpcPort),
    ("TIME_FRAMING".toList, str self.timeFraming),
    ("IMA_NETWORK_BROWSER_DATA_PATH".toList, self.networkBrowserDataPath)]

def formatEnvironment (environment : List (Text × Text)) : List Text :=
  environment.map fun entry => entry.1 ++ '=' :: entry.2

/-- The first entry that starts with the name counts, up to a second `=`. -/
def getContainerEnvValue (env : List Text) (envOption : Text) : Evaluated (Option Text) :=
  match env.find? fun entry => envOption.isPrefixOf entry with
  | none => .ok none
  | some entry =>
      match entry.splitOn '=' with
      | _ :: value :: _ => .ok (some value)
      | _ => .error .shape

/-- `int(None)` raises as well. -/
def getImaContainerTimeFrame (env : List Text) : Evaluated Int := do
  match ← getContainerEnvValue env "TIME_FRAMING".toList with
  | none => throw .shape
  | some text =>
      match parseInt 10 text with
      | some timeFrame => return timeFrame
      | none => throw .shape

section TimeFrame

theorem find?_of_unique {α : Type} {items : List α} {test : α → Bool} {item : α}
    (member : item ∈ items) (passes : test item = true)
    (unique : ∀ other ∈ items, test other = true → other = item) :
    items.find? test = some item := by
  cases found : items.find? test with
  | none => exact absurd passes (List.find?_eq_none.mp found item member)
  | some other =>
      rw [unique other (List.mem_of_find?_eq_some found) (List.find?_some found)]

/-- A name that is not one of two beginnings of one another does not begin the entry. -/
theorem not_isPrefixOf_entry {option key value : Text} (first : ¬ option <+: key)
    (second : ¬ key <+: option) : option.isPrefixOf (key ++ '=' :: value) = false := by
  apply Bool.eq_false_of_not_eq_true
  intro begins
  have whole := List.isPrefixOf_iff_prefix.mp begins
  rcases List.prefix_or_prefix_of_prefix whole (List.prefix_append key _) with one | other
  · exact first one
  · exact second other

def otherNames : List Text :=
  ["SCHAIN_DIR", "MANAGER_ABI_PATH", "MAINNET_PROXY_PATH", "SCHAIN_PROXY_PATH",
    "STATE_FILE", "SCHAIN_NAME", "SCHAIN_RPC_URL", "MAINNET_RPC_URL", "NODE_NUMBER",
    "NODES_COUNT", "SGX_URL", "ECDSA_KEY_NAME", "BLS_KEY_NAME", "SGX_SSL_KEY_PATH",
    "SGX_SSL_CERT_PATH", "NODE_ADDRESS", "TM_URL_MAIN_NET", "CID_MAIN_NET", "CID_SCHAIN",
    "MONITORING_PORT", "RPC_PORT", "IMA_NETWORK_BROWSER_DATA_PATH"].map String.toList

theorem otherNames_apart : ∀ name ∈ otherNames,
    ¬ "TIME_FRAMING".toList <+: name ∧ ¬ name <+: "TIME_FRAMING".toList := by
  decide

theorem toDict_cases (env : ImaEnv) (spell : Value → Text) :
    ∀ entry ∈ env.toDict spell,
      entry = ("TIME_FRAMING".toList, str env.timeFraming) ∨ entry.1 ∈ otherNames := by
  unfold ImaEnv.toDict
  simp only [List.forall_mem_cons, otherNames]
  simp

/-- Whatever else the image sets, and in whatever order, the time frame that the container
was started with is read back. -/
theorem getImaContainerTimeFrame_of_started {env : ImaEnv} {spell : Value → Text}
    {others started : List Text}
    (foreign : ∀ other ∈ others, "TIME_FRAMING".toList.isPrefixOf other = false)
    (merged : started.Perm (formatEnvironment (env.toDict spell) ++ others)) :
    getImaContainerTimeFrame started = .ok env.timeFraming := by
  have given : "TIME_FRAMING".toList ++ '=' :: str env.timeFraming ∈ started := by
    refine merged.mem_iff.mpr (List.mem_append_left _ ?_)
    refine List.mem_map.mpr ⟨("TIME_FRAMING".toList, str env.timeFraming), ?_, rfl⟩
    simp [ImaEnv.toDict]
  have unique : ∀ entry ∈ started, "TIME_FRAMING".toList.isPrefixOf entry = true →
      entry = "TIME_FRAMING".toList ++ '=' :: str env.timeFraming := by
    intro entry member begins
    rcases List.mem_append.mp (merged.mem_iff.mp member) with own | other
    · obtain ⟨⟨name, value⟩, listed, rfl⟩ := List.mem_map.mp own
      rcases toDict_cases env spell _ listed with same | named
      · cases same
        rfl
      · have apart := otherNames_apart name named
        rw [not_isPrefixOf_entry apart.1 apart.2] at begins
        cases begins
    · rw [foreign entry other] at begins
      cases begins
  have found := find?_of_unique given (List.isPrefixOf_iff_prefix.mpr ⟨_, rfl⟩) unique
  have absent : '=' ∉ str env.timeFraming := by
    intro member
    rcases mem_str member with digit | sign
    · revert digit
      decide
    · revert sign
      decide
  have split : ("TIME_FRAMING".toList ++ '=' :: str env.timeFraming).splitOn '=' =
      ["TIME_FRAMING".toList, str env.timeFraming] :=
    splitOn_eq_pair.mpr ⟨rfl, by decide, absent⟩
  have value : getContainerEnvValue started "TIME_FRAMING".toList =
      .ok (some (str env.timeFraming)) := by
    unfold getContainerEnvValue
    rw [found]
    dsimp only
    rw [split]
  refine bind_eq_ok.mpr ⟨_, value, ?_⟩
  dsimp only
  rw [parseInt_str]
  rfl

def sampleEnv : ImaEnv where
  schainDir := pairConfigs.schainConfigDir "demo".toList
  managerAbiPath := pairConfigs.abiFilepath
  mainnetProxyPath := pairConfigs.mainnetImaAbiFilepath
  schainProxyPath := pairConfigs.getSchainImaAbiFilepath "demo".toList
  stateFile := pairConfigs.imaStateContainerPath
  networkBrowserDataPath := pairConfigs.imaNetworkBrowserFilepath
  schainName := "demo".toList
  schainRpcUrl := "http://127.0.0.1:10003".toList
  mainnetRpcUrl := pairConfigs.endpoint
  nodeNumber := 1
  nodesCount := 2
  sgxUrl := pairConfigs.sgxServerUrl
  ecdsaKeyName := .str "NEK:1".toList
  blsKeyName := .str "BLS_KEY:SCHAIN_ID:1:NODE_ID:1:DKG_ID:0".toList
  sgxSslKeyPath := pairConfigs.sgxSslKeyFilepath
  sgxSslCertPath := pairConfigs.sgxSslCertFilepath
  nodeAddress := .str secondOwner
  tmUrlMainnet := pairConfigs.redisUri
  cidMainNet := 1
  cidSchain := "0x3a784687a2b2f".toList
  monitoringPort := .num 10006
  timeFraming := 5
  rpcPort := 10010

/-- `str` on texts and integers. -/
def spellText : Value → Text
  | .str text => text
  | .num value => str value
  | _ => []

theorem sampleEnv_timeFrame : getImaContainerTimeFrame
    ("PATH=/usr/bin".toList :: formatEnvironment (sampleEnv.toDict spellText)) = .ok 5 := by
  have foreign : ∀ other ∈ ["PATH=/usr/bin".toList],
      "TIME_FRAMING".toList.isPrefixOf other = false := by
    decide
  have merged : ("PATH=/usr/bin".toList ::
      formatEnvironment (sampleEnv.toDict spellText)).Perm
        (formatEnvironment (sampleEnv.toDict spellText) ++ ["PATH=/usr/bin".toList]) :=
    (List.perm_append_singleton ..).symm
  have read := getImaContainerTimeFrame_of_started foreign merged
  exact read

end TimeFrame

end SkaleAdmin.Core
