import SkaleAdmin.Config.Generator
import SkaleAdmin.Config.StaticGroups

/-! `generate_schain_config` and the functions under it.  What they take from libraries
and read from files is a parameter. -/

namespace SkaleAdmin.Config

open PyText PyValue

abbrev Dict := List (Key × PyValue.Value)

/-! ### Python on values -/

/-- `entries[key]`. -/
def Dict.item (entries : Dict) (key : Text) : Evaluated PyValue.Value :=
  match entries.lookup (.str key) with
  | some value => .ok value
  | none => .error .shape

def asDict : PyValue.Value → Evaluated Dict
  | .dict entries => .ok entries
  | _ => .error .shape

def asInt : PyValue.Value → Evaluated Int
  | .int value => .ok value
  | _ => .error .shape

def asText : PyValue.Value → Evaluated Text
  | .str text => .ok text
  | _ => .error .shape

def asList : PyValue.Value → Evaluated (List PyValue.Value)
  | .list items => .ok items
  | _ => .error .shape

/-- `value[key]`. -/
def itemOf (value : PyValue.Value) (key : Text) : Evaluated PyValue.Value := do
  (← asDict value).item key

/-- `bool(value)`. -/
def isTrue : PyValue.Value → Bool
  | .none | .bool false | .int 0 | .str [] | .list [] | .tuple [] | .dict [] => false
  | _ => true

/-- `str(value)` of a text or of an integer. -/
def strOf : PyValue.Value → Evaluated Text
  | .str text => .ok text
  | .int value => .ok (PyText.str value)
  | _ => .error .shape

/-! ### What is not in the repository -/

/-- `SchainStructure`, with the name of its allocation type in small letters. -/
structure SchainStructure where
  name : Text
  partOfNode : Int
  mainnetOwner : Text
  originator : Text
  allocationTypeName : Text
  multitransactionMode : Bool

structure ManagerNode (Bytes : Type) where
  id : Int
  name : Text
  ip : Bytes
  publicIp : Bytes
  port : Int
  publicKey : Text
  schains : List SchainStructure

/-- The generators of the predeployed contracts, which lay out their accounts, and the
addresses that come with them. -/
structure PredeployedGenerators where
  proxyAdmin (contractAddress ownerAddress : Text) : Dict
  etherbase (contractAddress implementationAddress schainOwner : Text)
    (etherManagers : List Text) (proxyAdminAddress : Text) (balance : Int) : Dict
  marionette (contractAddress implementationAddress proxyAdminAddress schainOwner marionette
    owner ima : Text) : Dict
  fileStorage (contractAddress implementationAddress schainOwner proxyAdminAddress : Text)
    (allocatedStorage : PyValue.Value) (version : Text) : Dict
  configController (contractAddress implementationAddress schainOwner
    proxyAdminAddress : Text) : Dict
  multiSigWallet (contractAddress : Text) (originatorAddresses : List Text) : Dict
  context (contractAddress schainOwner schainName : Text) : Dict
  etherbaseImplementationAddress : Text
  marionetteImplementationAddress : Text
  filestorageImplementationAddress : Text
  configControllerAddress : Text
  configControllerImplementationAddress : Text
  multisigwalletAddress : Text
  contextAddress : Text
  messageProxyForSchainAddress : Text
  /-- `version('filestorage_predeployed')`. -/
  filestorageVersion : Text

structure Libraries (Bytes : Type) where
  nodeInfoToDict (nodeId : Int) (name : Text) (basePort : Int) : Dict
  imaMonitoringPort : Int
  getSchainBasePortOnNode (schains : List SchainStructure) (schainName : Text)
    (nodePort : Int) : Evaluated Int
  ipFromBytes : Bytes → Text
  publicKeyToAddress : Text → Text
  toChecksumAddress : Text → Text
  /-- The digest of `keccak` in hexadecimal digits. -/
  keccakHex : Text → Text
  etherbaseAddress : Text
  marionetteAddress : Text
  filestorageAddress : Text
  zeroAddress : Text
  generateContracts (ownerAddress schainName : Text) (contractsOnMainnet : PyValue.Value) :
    Dict
  predeployed : PredeployedGenerators

structure ConfigSources where
  /-- `None` where the base config cannot be read. -/
  baseConfig : Option Dict
  /-- The section of the environment. -/
  staticParams : PyValue.Value
  resourceAllocation : PyValue.Value
  mainnetImaAbi : PyValue.Value
  schainImaAbi : PyValue.Value
  precompiledContracts : Dict
  staticGroups : Option Json.Value
  staticAccounts : Option PyValue.Value

/-! ### `core/schains/limits.py` -/

inductive SchainType where
  | test
  | test4
  | large
  | medium
  | small
  | syncNode
  deriving DecidableEq

def SchainType.name : SchainType → Text
  | test => "test".toList
  | test4 => "test4".toList
  | large => "large".toList
  | medium => "medium".toList
  | small => "small".toList
  | syncNode => "sync_node".toList

def getSchainType (schainPartOfNode : Int) : Evaluated SchainType :=
  if schainPartOfNode = 0 then .ok .test
  else if schainPartOfNode = 32 then .ok .test4
  else if schainPartOfNode = 128 then .ok .large
  else if schainPartOfNode = 16 then .ok .medium
  else if schainPartOfNode = 1 then .ok .small
  else if schainPartOfNode = 314 then .ok .syncNode
  else .error .shape

/-- The limit of the chain's container, of the metric. -/
def getSchainLimit (sources : ConfigSources) (schainType : SchainType) (metric : Text) :
    Evaluated PyValue.Value := do
  let container ← itemOf sources.resourceAllocation "schain".toList
  itemOf (← itemOf container metric) schainType.name

def getFsAllocatedStorage (sources : ConfigSources) (schainType : SchainType)
    (allocationTypeName : Text) : Evaluated PyValue.Value := do
  let volumeLimits ← itemOf
    (← getSchainLimit sources schainType "volume_limits".toList) allocationTypeName
  itemOf volumeLimits "max_file_storage_bytes".toList

/-! ### `static_params.py` -/

/-- `True` and `False` are integers. -/
def getSchainStaticParam (staticParamSchain : PyValue.Value) (schainName : Text) :
    Evaluated PyValue.Value :=
  match staticParamSchain with
  | .int value => .ok (.int value)
  | .bool value => .ok (.bool value)
  | .dict entries =>
      match entries.lookup (.str schainName) with
      | some value => .ok value
      | none => .ok ((entries.lookup (.str "default".toList)).getD .none)
  | _ => .error .shape

def getStaticSchainInfo (sources : ConfigSources) (schainName : Text) :
    Evaluated Dict := do
  let staticParamsSchain ← asDict (← itemOf sources.staticParams "schain".toList)
  staticParamsSchain.foldlM (fun processedParams param => do
    let value ← getSchainStaticParam param.2 schainName
    return assign param.1 value processedParams) []

def getStaticNodeInfo (sources : ConfigSources) (schainType : SchainType) :
    Evaluated Dict := do
  let node ← itemOf sources.staticParams "node".toList
  let common ← asDict (← itemOf node "common".toList)
  let own ← asDict (← itemOf node schainType.name)
  return update common own

/-! ### `contract_settings.py` -/

def schainImaContracts : List (Text × Text) := [
  ("token_manager_eth".toList, "TokenManagerEth".toList),
  ("token_manager_erc20".toList, "TokenManagerERC20".toList),
  ("token_manager_erc721".toList, "TokenManagerERC721".toList),
  ("token_manager_erc1155".toList, "TokenManagerERC1155".toList),
  ("token_manager_erc721_with_metadata".toList, "TokenManagerERC721WithMetadata".toList),
  ("message_proxy_chain".toList, "MessageProxyForSchain".toList),
  ("token_manager_linker".toList, "TokenManagerLinker".toList),
  ("community_locker".toList, "CommunityLocker".toList),
  ("eth_erc20".toList, "EthERC20".toList)]

def mainnetImaContracts : List (Text × Text) := [
  ("message_proxy_mainnet".toList, "MessageProxyForMainnet".toList),
  ("linker".toList, "Linker".toList),
  ("deposit_box_eth".toList, "DepositBoxEth".toList),
  ("deposit_box_erc20".toList, "DepositBoxERC20".toList),
  ("deposit_box_erc721".toList, "DepositBoxERC721".toList),
  ("deposit_box_erc1155".toList, "DepositBoxERC1155".toList)]

def getAddressFromAbiData (abiData : PyValue.Value) (name : Text) :
    Evaluated PyValue.Value :=
  itemOf abiData (name ++ "_address".toList)

/-- One round of the loop over the contracts of the two chains. -/
def addImaContractsAddresses (contracts : List (Text × Text)) (abiData : PyValue.Value)
    (addresses : Dict) : Evaluated Dict :=
  contracts.foldlM (fun addresses contract => do
    let address ← getAddressFromAbiData abiData contract.1
    return assign (.str contract.2) address addresses) addresses

def generateImaContractsAddresses (schainImaAbi mainnetImaAbi : PyValue.Value) :
    Evaluated Dict := do
  let addresses ← addImaContractsAddresses schainImaContracts schainImaAbi []
  addImaContractsAddresses mainnetImaContracts mainnetImaAbi addresses

def generateContractSettings (sources : ConfigSources) (onChainOwner : Text) :
    Evaluated ContractSettings := do
  let imaContractsAddresses ←
    generateImaContractsAddresses sources.schainImaAbi sources.mainnetImaAbi
  return {
    common := [(.str "enableContractLogMessages".toList, .bool true)]
    ima := update [(.str "ownerAddress".toList, .str onChainOwner)] imaContractsAddresses }

/-! ### `node_info.py` -/

structure SkaleManagerOpts where
  schainsInternalAddress : Text
  nodesAddress : Text

def SkaleManagerOpts.toDict (self : SkaleManagerOpts) : Dict :=
  [(.str "SchainsInternal".toList, .str self.schainsInternalAddress),
    (.str "Nodes".toList, .str self.nodesAddress)]

structure CurrentNodeInfo where
  nodeId : Int
  name : Text
  basePort : Int
  imaMessageProxySchain : PyValue.Value
  imaMessageProxyMainnet : PyValue.Value
  ecdsaKeyName : Text
  wallets : Dict
  skaleManagerOpts : SkaleManagerOpts
  staticNodeInfo : Dict
  syncNode : Bool
  archive : PyValue.Value
  catchup : PyValue.Value

/-- The fields of `CurrentNodeInfo` beside those of `NodeInfo`. -/
def CurrentNodeInfo.ownFields (self : CurrentNodeInfo) (imaMonitoringPort : Int) : Dict :=
  [(.str "imaMessageProxySChain".toList, self.imaMessageProxySchain),
    (.str "imaMessageProxyMainNet".toList, self.imaMessageProxyMainnet),
    (.str "ecdsaKeyName".toList, .str self.ecdsaKeyName),
    (.str "wallets".toList, .dict self.wallets),
    (.str "imaMonitoringPort".toList, .int (self.basePort + imaMonitoringPort)),
    (.str "skale-manager".toList, .dict self.skaleManagerOpts.toDict),
    (.str "syncNode".toList, .bool self.syncNode),
    (.str "info-acceptors".toList, .int 1)]

section Libraries

variable {Bytes : Type} (libraries : Libraries Bytes)

def CurrentNodeInfo.toDict (self : CurrentNodeInfo) : Dict :=
  let nodeInfo := update (libraries.nodeInfoToDict self.nodeId self.name self.basePort)
    (update (self.ownFields libraries.imaMonitoringPort) self.staticNodeInfo)
  if self.syncNode then
    assign (.str "syncFromCatchup".toList) self.catchup
      (assign (.str "archiveMode".toList) self.archive nodeInfo)
  else
    nodeInfo

/-- `wallets['ima'][prefix + str(i)] = str(value)` for each of the values. -/
def numbered (label : Text) : Nat → List PyValue.Value → Dict → Evaluated Dict
  | _, [], entries => .ok entries
  | i, value :: values, entries => do
      let text ← strOf value
      numbered label (i + 1) values
        (assign (.str (label ++ PyText.str (i : Int))) (.str text) entries)

/-- `secretKeyShare` is the file of the rotation. -/
def generateWalletsConfig (secretKeyShare : Option PyValue.Value) (certFile keyFile : Text)
    (syncNode : Bool) (nodesInSchain : Nat)
    (commonBlsPublicKeys : List PyValue.Value) : Evaluated Dict := do
  let formattedCommonPk ← numbered "commonBLSPublicKey".toList 0 commonBlsPublicKeys []
  let ima := update [(.str "n".toList, .int nodesInSchain)] formattedCommonPk
  if syncNode then
    return [(.str "ima".toList, .dict ima)]
  else
    match secretKeyShare with
    | none => .error .fileNotFound
    | some secretKeyShareConfig =>
        let keyShareName ← itemOf secretKeyShareConfig "key_share_name".toList
        let t ← itemOf secretKeyShareConfig "t".toList
        let ima := update ima [
          (.str "keyShareName".toList, keyShareName), (.str "t".toList, t),
          (.str "certFile".toList, .str certFile), (.str "keyFile".toList, .str keyFile)]
        let publicKeys ← asList (← itemOf secretKeyShareConfig "public_key".toList)
        let ima ← numbered "BLSPublicKey".toList 0 publicKeys ima
        return [(.str "ima".toList, .dict ima)]

/-! ### `schain_node.py` -/

/-- `bls_public_key.split(':')`, of which the first four parts are taken. -/
def parsePublicKeyInfo (blsPublicKey : Text) : Evaluated Dict :=
  match blsPublicKey.splitOn ':' with
  | first :: second :: third :: fourth :: _ =>
      .ok [(.str "blsPublicKey0".toList, .str first),
        (.str "blsPublicKey1".toList, .str second),
        (.str "blsPublicKey2".toList, .str third),
        (.str "blsPublicKey3".toList, .str fourth)]
  | _ => .error .shape

structure SChainNodeInfo where
  nodeId : Int
  name : Text
  basePort : Int
  publicKey : Text
  blsPublicKey : Text
  owner : Text
  schainIndex : Nat
  ip : Text
  publicIp : Text

def SChainNodeInfo.ownFields (self : SChainNodeInfo) : Dict :=
  [(.str "publicKey".toList, .str self.publicKey),
    (.str "owner".toList, .str self.owner),
    (.str "schainIndex".toList, .int self.schainIndex),
    (.str "ip".toList, .str self.ip),
    (.str "publicIP".toList, .str self.publicIp)]

/-- `d.pop(key, None)`, without what it returns. -/
def dropKey (key : Key) (entries : Dict) : Dict :=
  ((pop key entries).map Prod.snd).getD entries

def SChainNodeInfo.toDict (self : SChainNodeInfo) : Evaluated Dict := do
  let nodeInfo := dropKey (.str "infoHttpRpcPort".toList)
    (libraries.nodeInfoToDict self.nodeId self.name self.basePort)
  let publicKeyInfo ← parsePublicKeyInfo self.blsPublicKey
  return update (update nodeInfo publicKeyInfo) self.ownFields

/-- The node of index `i` in the group; the keys are those that are left. -/
def generateSchainNodesFrom (schainName : Text) :
    Nat → List (ManagerNode Bytes) → List PyValue.Value → Evaluated (List PyValue.Value)
  | _, [], _ => .ok []
  | _, _ :: _, [] => .error .shape
  | i, node :: nodes, blsPublicKey :: blsPublicKeys => do
      let basePort ← libraries.getSchainBasePortOnNode node.schains schainName node.port
      let nodeInfo ← SChainNodeInfo.toDict libraries {
        name := node.name
        nodeId := node.id
        basePort
        blsPublicKey := ← asText blsPublicKey
        schainIndex := i
        ip := libraries.ipFromBytes node.ip
        publicKey := node.publicKey
        publicIp := libraries.ipFromBytes node.publicIp
        owner := libraries.publicKeyToAddress node.publicKey }
      let schainNodes ← generateSchainNodesFrom schainName (i + 1) nodes blsPublicKeys
      return .dict nodeInfo :: schainNodes

def getBlsPublicKeys (secretKeyShare : Option PyValue.Value) :
    Evaluated (List PyValue.Value) :=
  match secretKeyShare with
  | none => .error .fileNotFound
  | some data => do asList (← itemOf data "bls_public_keys".toList)

def generateSchainNodes (schainNodesWithSchains : List (ManagerNode Bytes))
    (schainName : Text) (secretKeyShare : Option PyValue.Value) (syncNode : Bool) :
    Evaluated (List PyValue.Value) := do
  let blsPublicKeys ←
    if syncNode then
      .ok (List.replicate schainNodesWithSchains.length (.str "0:0:1:0".toList))
    else getBlsPublicKeys secretKeyShare
  generateSchainNodesFrom libraries schainName 1 schainNodesWithSchains blsPublicKeys

/-! ### `schain_info.py` -/

def maxConsensusStorageInfValue : Int := 1000000000000000000

/-- The four limits that `SChainInfo(**volume_limits)` takes. -/
def volumeLimit (volumeLimits : Dict) (name : Text) : Evaluated Int := do
  if volumeLimits.length = 4 then asInt (← volumeLimits.item name) else .error .shape

def generateSchainInfo (sources : ConfigSources) (schainId : Int) (schain : SchainStructure)
    (onChainEtherbase : Text) (staticSchainInfo nodeGroups : Dict)
    (nodes : List PyValue.Value) (syncNode : Bool) (archive : PyValue.Value) :
    Evaluated SChainInfo := do
  let schainType ← getSchainType schain.partOfNode
  let limits ← asDict (← itemOf
    (← getSchainLimit sources schainType "volume_limits".toList) schain.allocationTypeName)
  let volumeLimits :=
    if syncNode ∧ isTrue archive then
      assign (.str "max_consensus_storage_bytes".toList)
        (.int maxConsensusStorageInfValue) limits
    else limits
  let leveldbLimits ← itemOf
    (← getSchainLimit sources schainType "leveldb_limits".toList) schain.allocationTypeName
  let contractStorageLimit ← asInt (← itemOf leveldbLimits "contract_storage".toList)
  let dbStorageLimit ← asInt (← itemOf leveldbLimits "db_storage".toList)
  return {
    schainId
    name := schain.name
    blockAuthor := onChainEtherbase
    contractStorageLimit
    dbStorageLimit
    nodeGroups
    nodes
    multitransactionMode := schain.multitransactionMode
    staticSchainInfo
    maxConsensusStorageBytes :=
      ← volumeLimit volumeLimits "max_consensus_storage_bytes".toList
    maxSkaledLeveldbStorageBytes :=
      ← volumeLimit volumeLimits "max_skaled_leveldb_storage_bytes".toList
    maxFileStorageBytes := ← volumeLimit volumeLimits "max_file_storage_bytes".toList
    maxReservedStorageBytes :=
      ← volumeLimit volumeLimits "max_reserved_storage_bytes".toList }

/-! ### `accounts.py`, `predeployed.py` and `precompiled.py` -/

def schainOwnerAlloc : Int := 1000000000000000000000000000000

def nodeOwnerAlloc : Int := 1000000000000000000000000000000

def generateAccount (balance : Int) : PyValue.Value :=
  .dict [(.str "balance".toList, .str (PyText.str balance))]

def addToAccounts (accounts : Dict) (address : Text) (account : PyValue.Value) : Dict :=
  assign (.str (libraries.toChecksumAddress address)) account accounts

def generateOwnerAccounts (onChainOwner originatorAddress : Text)
    (schainNodes : List (ManagerNode Bytes)) (generation : Nat) : Dict :=
  let accounts :=
    if 1 ≤ generation then
      addToAccounts libraries [] originatorAddress (generateAccount schainOwnerAlloc)
    else
      addToAccounts libraries [] onChainOwner (generateAccount schainOwnerAlloc)
  schainNodes.foldl (fun accounts node =>
    addToAccounts libraries accounts (libraries.publicKeyToAddress node.publicKey)
      (generateAccount nodeOwnerAlloc)) accounts

def proxyAdminPredeployedAddress : Text :=
  "0xD1000000000000000000000000000000000000D1".toList

def etherbaseAlloc : Int :=
  57896044618658097711785492504343953926634992332820282019728792003956564819967

/-- `generate_v1_predeployed_contracts`, with the storage that is allocated for files. -/
def generateV1PredeployedContracts (allocatedStorage : PyValue.Value)
    (onChainOwner mainnetOwner originatorAddress schainName : Text) : Dict :=
  let generators := libraries.predeployed
  let proxyAdminPredeployed :=
    generators.proxyAdmin proxyAdminPredeployedAddress onChainOwner
  let etherbasePredeployed := generators.etherbase libraries.etherbaseAddress
    generators.etherbaseImplementationAddress onChainOwner
    [generators.messageProxyForSchainAddress] proxyAdminPredeployedAddress etherbaseAlloc
  let marionettePredeployed := generators.marionette libraries.marionetteAddress
    generators.marionetteImplementationAddress proxyAdminPredeployedAddress mainnetOwner
    onChainOwner generators.multisigwalletAddress generators.messageProxyForSchainAddress
  let filestoragePredeployed := generators.fileStorage libraries.filestorageAddress
    generators.filestorageImplementationAddress onChainOwner proxyAdminPredeployedAddress
    allocatedStorage generators.filestorageVersion
  let configControllerPredeployed := generators.configController
    generators.configControllerAddress generators.configControllerImplementationAddress
    onChainOwner proxyAdminPredeployedAddress
  let multisigwalletPredeployed :=
    generators.multiSigWallet generators.multisigwalletAddress [originatorAddress]
  let contextPredeployed :=
    generators.context generators.contextAddress onChainOwner schainName
  [proxyAdminPredeployed, etherbasePredeployed, marionettePredeployed,
    filestoragePredeployed, configControllerPredeployed, multisigwalletPredeployed,
    contextPredeployed].foldl update []

def generatePredeployedAccounts (sources : ConfigSources) (schain : SchainStructure)
    (schainType : SchainType) (schainNodes : List (ManagerNode Bytes))
    (onChainOwner mainnetOwner originatorAddress : Text) (generation : Nat) :
    Evaluated Dict := do
  let predeployedSection := update
    (generateOwnerAccounts libraries onChainOwner originatorAddress schainNodes generation)
    (libraries.generateContracts onChainOwner schain.name sources.mainnetImaAbi)
  if 1 ≤ generation then
    let allocatedStorage ←
      getFsAllocatedStorage sources schainType schain.allocationTypeName
    return update predeployedSection (generateV1PredeployedContracts libraries
      allocatedStorage onChainOwner mainnetOwner originatorAddress schain.name)
  else
    return predeployedSection

/-- `handle_precompiled_permissions` on one permission. -/
def handlePermission (onChainOwner : Text) : PyValue.Value → PyValue.Value
  | .str permission =>
      if permission = "fs".toList then .str libraries.filestorageAddress
      else if permission = "schainOwner".toList then .str onChainOwner
      else .str permission
  | permission => permission

/-- One precompiled contract; what restricts the access to it is rewritten in place. -/
def preparePrecompiled (onChainOwner : Text) (precompiled : PyValue.Value) :
    Evaluated PyValue.Value := do
  let entries ← asDict precompiled
  let own ← asDict (← entries.item "precompiled".toList)
  match own.lookup (.str "restrictAccess".toList) with
  | none => return precompiled
  | some restrictAccess =>
      if isTrue restrictAccess then
        let permissions ← asList restrictAccess
        return .dict (assign (.str "precompiled".toList)
          (.dict (assign (.str "restrictAccess".toList)
            (.list (permissions.map (handlePermission libraries onChainOwner))) own))
          entries)
      else
        return precompiled

/-- The keys of a file are texts. -/
def addressOf : Key → Evaluated Text
  | .str address => .ok address
  | .int _ => .error .shape

def generatePrecompiledAccounts (sources : ConfigSources) (onChainOwner : Text) :
    Evaluated Dict :=
  sources.precompiledContracts.foldlM (fun accounts precompiled => do
    let address ← addressOf precompiled.1
    let account ← preparePrecompiled libraries onChainOwner precompiled.2
    return addToAccounts libraries accounts address account) []

/-! ### `generator.py` -/

def getOnChainOwner (schain : SchainStructure) (generation : Nat)
    (isOwnerContract : Bool) : Text :=
  if !isOwnerContract then schain.mainnetOwner
  else if 1 ≤ generation then libraries.marionetteAddress
  else schain.mainnetOwner

def getOnChainEtherbase (schain : SchainStructure) (generation : Nat) : Text :=
  if 1 ≤ generation then libraries.etherbaseAddress else schain.mainnetOwner

def getChainId (schainName : Text) : Text :=
  '0' :: 'x' :: (libraries.keccakHex schainName).take 13

def getSchainId (schainName : Text) : Evaluated Int :=
  match parseInt 16 (getChainId libraries schainName) with
  | some schainId => .ok schainId
  | none => .error .shape

def getSchainIdForChain (schainName : Text) (generation : Nat) : Evaluated Int :=
  if 2 ≤ generation then getSchainId libraries schainName else .ok 1

def getSchainOriginator (schain : SchainStructure) : Text :=
  if schain.originator = libraries.zeroAddress then schain.mainnetOwner
  else schain.originator

/-- The arguments of `generate_schain_config` that every node of a chain has alike. -/
structure ChainArguments (Bytes : Type) where
  schain : SchainStructure
  rotationId : Nat
  schainNodesWithSchains : List (ManagerNode Bytes)
  nodeGroups : Dict
  generation : Nat
  isOwnerContract : Bool
  skaleManagerOpts : SkaleManagerOpts
  commonBlsPublicKeys : List PyValue.Value

structure NodeArguments where
  nodeId : Int
  nodeName : Text
  ecdsaKeyName : Option Text
  schainBasePort : Int
  syncNode : Bool := false
  archive : PyValue.Value := .none
  catchup : PyValue.Value := .none
  /-- The files `secret_key_{rotation_id}.json`. -/
  secretKeyShare : Nat → Option PyValue.Value
  certFile : Text
  keyFile : Text

variable (sources : ConfigSources)

def generateCurrentNodeInfo (chain : ChainArguments Bytes) (node : NodeArguments)
    (staticNodeInfo : Dict) : Evaluated CurrentNodeInfo := do
  let wallets ← generateWalletsConfig (node.secretKeyShare chain.rotationId) node.certFile
    node.keyFile node.syncNode chain.schainNodesWithSchains.length chain.commonBlsPublicKeys
  return {
    nodeId := node.nodeId
    name := node.nodeName
    basePort := node.schainBasePort
    ecdsaKeyName := node.ecdsaKeyName.getD []
    wallets
    skaleManagerOpts := chain.skaleManagerOpts
    syncNode := node.syncNode
    archive := node.archive
    catchup := node.catchup
    staticNodeInfo
    imaMessageProxySchain :=
      ← itemOf sources.schainImaAbi "message_proxy_chain_address".toList
    imaMessageProxyMainnet :=
      ← itemOf sources.mainnetImaAbi "message_proxy_mainnet_address".toList }

def generateSkaleSection (chain : ChainArguments Bytes) (node : NodeArguments)
    (onChainEtherbase onChainOwner : Text) (schainId : Int) (nodeGroups : Dict) :
    Evaluated SkaleConfig := do
  let contractSettings ← generateContractSettings sources onChainOwner
  let schainType ← getSchainType chain.schain.partOfNode
  let staticNodeInfo ← getStaticNodeInfo sources schainType
  let staticSchainInfo ← getStaticSchainInfo sources chain.schain.name
  let nodeInfo ← generateCurrentNodeInfo sources chain node staticNodeInfo
  let schainNodes ← generateSchainNodes libraries chain.schainNodesWithSchains
    chain.schain.name (node.secretKeyShare chain.rotationId) node.syncNode
  let schainInfo ← generateSchainInfo sources schainId chain.schain onChainEtherbase
    staticSchainInfo nodeGroups schainNodes node.syncNode node.archive
  return {
    contractSettings
    nodeInfo := nodeInfo.toDict libraries
    schainInfo }

def generateAccounts (chain : ChainArguments Bytes) (onChainOwner : Text)
    (baseConfig : Dict) : Evaluated Dict := do
  match sources.staticAccounts with
  | some staticAccounts => asDict (← itemOf staticAccounts "accounts".toList)
  | none =>
      let schainType ← getSchainType chain.schain.partOfNode
      let predeployedAccounts ← generatePredeployedAccounts libraries sources chain.schain
        schainType chain.schainNodesWithSchains onChainOwner chain.schain.mainnetOwner
        (getSchainOriginator libraries chain.schain) chain.generation
      let precompiledAccounts ←
        generatePrecompiledAccounts libraries sources onChainOwner
      let baseAccounts ← asDict (← baseConfig.item "accounts".toList)
      return update (update baseAccounts predeployedAccounts) precompiledAccounts

def generateSchainConfig (chain : ChainArguments Bytes) (node : NodeArguments) :
    Evaluated SChainConfig := do
  let onChainEtherbase := getOnChainEtherbase libraries chain.schain chain.generation
  let onChainOwner :=
    getOnChainOwner libraries chain.schain chain.generation chain.isOwnerContract
  let _ ← getSchainType chain.schain.partOfNode
  let schainId ← getSchainIdForChain libraries chain.schain.name chain.generation
  match sources.baseConfig with
  | none => .error .fileNotFound
  | some baseConfig =>
      let legacyGroups ← staticGroups sources.staticGroups
      let nodeGroups := generatedNodeGroups chain.nodeGroups legacyGroups
      let skaleConfig ← generateSkaleSection libraries sources chain node onChainEtherbase
        onChainOwner schainId nodeGroups
      let accounts ← generateAccounts libraries sources chain onChainOwner baseConfig
      let sealEngine ← asText (← baseConfig.item "sealEngine".toList)
      let params ← asDict (← baseConfig.item "params".toList)
      let unddos ← asDict (← baseConfig.item "unddos".toList)
      let genesis ← asDict (← baseConfig.item "genesis".toList)
      return {
        sealEngine
        params := update params
          [(.str "chainID".toList, .str (getChainId libraries chain.schain.name))]
        unddos
        genesis
        accounts
        skaleConfig }

/-! ### `generate_schain_config_with_skale` -/

structure Skale (Bytes : Type) where
  getSchainNodesWithSchains (schainName : Text) : Evaluated (List (ManagerNode Bytes))
  getSchainsForNode (nodeId : Int) : Evaluated (List SchainStructure)
  getByName (schainName : Text) : Evaluated SchainStructure
  /-- The name and the port of a node. -/
  nodesGet (nodeId : Int) : Evaluated (Text × Int)
  getPreviousSchainGroups (schainName : Text) : Evaluated Dict
  isAddressContract (address : Text) : Evaluated Bool
  skaleManagerOpts : SkaleManagerOpts
  getCommonBlsPublicKey (schainName : Text) : Evaluated (List PyValue.Value)

structure LocalNode where
  id : Int
  /-- `node_config.schain_base_port`. -/
  schainBasePort : Int
  ecdsaKeyName : Option Text
  syncNode : Bool := false
  archive : PyValue.Value := .none
  catchup : PyValue.Value := .none
  secretKeyShare : Nat → Option PyValue.Value
  certFile : Text
  keyFile : Text

variable (skale : Skale Bytes)

def generateSchainConfigWithSkale (schainName : Text) (generation rotationId : Nat)
    (node : LocalNode) : Evaluated SChainConfig := do
  let schainNodesWithSchains ← skale.getSchainNodesWithSchains schainName
  let schainsOnNode ← skale.getSchainsForNode node.id
  let schain ← skale.getByName schainName
  let (nodeName, nodePort) ← skale.nodesGet node.id
  let nodeGroups ← skale.getPreviousSchainGroups schainName
  let isOwnerContract ← skale.isAddressContract schain.mainnetOwner
  let commonBlsPublicKeys ← skale.getCommonBlsPublicKey schainName
  let schainBasePort ←
    if node.syncNode then .ok node.schainBasePort
    else libraries.getSchainBasePortOnNode schainsOnNode schain.name nodePort
  generateSchainConfig libraries sources
    { schain, rotationId, schainNodesWithSchains, nodeGroups, generation, isOwnerContract
      skaleManagerOpts := skale.skaleManagerOpts
      commonBlsPublicKeys }
    { nodeId := node.id
      nodeName
      ecdsaKeyName := node.ecdsaKeyName
      schainBasePort
      syncNode := node.syncNode
      archive := node.archive
      catchup := node.catchup
      secretKeyShare := node.secretKeyShare
      certFile := node.certFile
      keyFile := node.keyFile }

end Libraries

end SkaleAdmin.Config
