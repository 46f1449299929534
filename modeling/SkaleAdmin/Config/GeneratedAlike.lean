import SkaleAdmin.Config.Generation

/-! What the nodes of a chain generate alike. -/

namespace SkaleAdmin.Config

open PyText PyValue

variable {Bytes : Type} (libraries : Libraries Bytes) (sources : ConfigSources)

/-! ### The parts of a generated config -/

/-- How the sections of `skaleConfig` came about. -/
structure SectionParts (chain : ChainArguments Bytes) (node : NodeArguments)
    (onChainEtherbase onChainOwner : Text) (schainId : Int) (nodeGroups : Dict)
    (config : SkaleConfig) : Prop where
  contractSettings :
    generateContractSettings sources onChainOwner = .ok config.contractSettings
  nodeInfo : ∃ schainType staticNodeInfo info,
    getSchainType chain.schain.partOfNode = .ok schainType ∧
      getStaticNodeInfo sources schainType = .ok staticNodeInfo ∧
      generateCurrentNodeInfo sources chain node staticNodeInfo = .ok info ∧
      config.nodeInfo = info.toDict libraries
  schainInfo : ∃ staticSchainInfo schainNodes,
    getStaticSchainInfo sources chain.schain.name = .ok staticSchainInfo ∧
      generateSchainNodes libraries chain.schainNodesWithSchains chain.schain.name
        (node.secretKeyShare chain.rotationId) node.syncNode = .ok schainNodes ∧
      generateSchainInfo sources schainId chain.schain onChainEtherbase staticSchainInfo
        nodeGroups schainNodes node.syncNode node.archive = .ok config.schainInfo

structure ConfigParts (chain : ChainArguments Bytes) (node : NodeArguments)
    (config : SChainConfig) : Prop where
  base : ∃ baseConfig, sources.baseConfig = some baseConfig ∧
    generateAccounts libraries sources chain
      (getOnChainOwner libraries chain.schain chain.generation chain.isOwnerContract)
      baseConfig = .ok config.accounts ∧
    (baseConfig.item "sealEngine".toList >>= asText) = .ok config.sealEngine ∧
    (∃ params, (baseConfig.item "params".toList >>= asDict) = .ok params ∧
      config.params = update params
        [(.str "chainID".toList, .str (getChainId libraries chain.schain.name))]) ∧
    (baseConfig.item "unddos".toList >>= asDict) = .ok config.unddos ∧
    (baseConfig.item "genesis".toList >>= asDict) = .ok config.genesis
  skaleConfig : ∃ schainId legacyGroups,
    getSchainIdForChain libraries chain.schain.name chain.generation = .ok schainId ∧
      staticGroups sources.staticGroups = .ok legacyGroups ∧
      SectionParts libraries sources chain node
        (getOnChainEtherbase libraries chain.schain chain.generation)
        (getOnChainOwner libraries chain.schain chain.generation chain.isOwnerContract)
        schainId (generatedNodeGroups chain.nodeGroups legacyGroups) config.skaleConfig

variable {libraries sources} {chain : ChainArguments Bytes} {node : NodeArguments}

theorem sectionParts_of_generate {onChainEtherbase onChainOwner : Text} {schainId : Int}
    {nodeGroups : Dict} {config : SkaleConfig}
    (generated : generateSkaleSection libraries sources chain node onChainEtherbase
      onChainOwner schainId nodeGroups = .ok config) :
    SectionParts libraries sources chain node onChainEtherbase onChainOwner schainId
      nodeGroups config := by
  obtain ⟨settings, contractSettings, generated⟩ := bind_eq_ok.mp generated
  obtain ⟨schainType, typed, generated⟩ := bind_eq_ok.mp generated
  obtain ⟨staticNodeInfo, nodeStatics, generated⟩ := bind_eq_ok.mp generated
  obtain ⟨staticSchainInfo, schainStatics, generated⟩ := bind_eq_ok.mp generated
  obtain ⟨info, nodeInfo, generated⟩ := bind_eq_ok.mp generated
  obtain ⟨schainNodes, nodes, generated⟩ := bind_eq_ok.mp generated
  obtain ⟨schainInfo, generatedInfo, generated⟩ := bind_eq_ok.mp generated
  obtain rfl := Except.ok.inj generated
  exact ⟨contractSettings, ⟨_, _, _, typed, nodeStatics, nodeInfo, rfl⟩,
    ⟨_, _, schainStatics, nodes, generatedInfo⟩⟩

theorem configParts_of_generate {config : SChainConfig}
    (generated : generateSchainConfig libraries sources chain node = .ok config) :
    ConfigParts libraries sources chain node config := by
  obtain ⟨_, _, generated⟩ := bind_eq_ok.mp generated
  obtain ⟨schainId, identified, generated⟩ := bind_eq_ok.mp generated
  cases based : sources.baseConfig with
  | none =>
      rw [based] at generated
      cases generated
  | some baseConfig =>
      rw [based] at generated
      obtain ⟨legacyGroups, legacy, generated⟩ := bind_eq_ok.mp generated
      obtain ⟨skaleConfig, skaleSection, generated⟩ := bind_eq_ok.mp generated
      obtain ⟨accounts, accounted, generated⟩ := bind_eq_ok.mp generated
      obtain ⟨engine, sealed, generated⟩ := bind_eq_ok.mp generated
      obtain ⟨sealEngine, sealText, generated⟩ := bind_eq_ok.mp generated
      obtain ⟨given, held, generated⟩ := bind_eq_ok.mp generated
      obtain ⟨params, parameters, generated⟩ := bind_eq_ok.mp generated
      obtain ⟨ddos, ddosHeld, generated⟩ := bind_eq_ok.mp generated
      obtain ⟨unddos, protection, generated⟩ := bind_eq_ok.mp generated
      obtain ⟨origin, originHeld, generated⟩ := bind_eq_ok.mp generated
      obtain ⟨genesis, beginning, generated⟩ := bind_eq_ok.mp generated
      obtain rfl := Except.ok.inj generated
      exact ⟨⟨baseConfig, based, accounted, bind_eq_ok.mpr ⟨_, sealed, sealText⟩,
          ⟨params, bind_eq_ok.mpr ⟨_, held, parameters⟩, rfl⟩,
          bind_eq_ok.mpr ⟨_, ddosHeld, protection⟩,
          bind_eq_ok.mpr ⟨_, originHeld, beginning⟩⟩,
        ⟨schainId, legacyGroups, identified, legacy, sectionParts_of_generate skaleSection⟩⟩

/-! ### Two nodes of a chain -/

section Alike

variable {other : NodeArguments}

theorem eq_of_ok {α : Type} {evaluated : Evaluated α} {first second : α}
    (firstOk : evaluated = .ok first) (secondOk : evaluated = .ok second) :
    second = first :=
  Except.ok.inj (secondOk.symm.trans firstOk)

theorem volumeLimit_assign {limits : Dict} {value : PyValue.Value} {name : Text}
    {limit other : Int} (apart : name ≠ "max_consensus_storage_bytes".toList)
    {changed unchanged : Prop} [Decidable changed] [Decidable unchanged]
    (first : volumeLimit (if changed then
      assign (.str "max_consensus_storage_bytes".toList) value limits else limits) name =
        .ok limit)
    (second : volumeLimit (if unchanged then
      assign (.str "max_consensus_storage_bytes".toList) value limits else limits) name =
        .ok other) : other = limit := by
  have held : ∀ {entries : Dict} {found : Int},
      (entries = assign (.str "max_consensus_storage_bytes".toList) value limits ∨
        entries = limits) → volumeLimit entries name = .ok found →
      (limits.item name >>= asInt) = .ok found := by
    rintro entries found same limited
    unfold volumeLimit at limited
    split at limited
    · rcases same with rfl | rfl
      · unfold Dict.item at limited ⊢
        rwa [lookup_assign_of_ne (fun same => apart (Key.str.inj same))] at limited
      · exact limited
    · cases limited
  have either : ∀ (condition : Prop) [Decidable condition],
      (if condition then assign (.str "max_consensus_storage_bytes".toList) value limits
        else limits) = assign (.str "max_consensus_storage_bytes".toList) value limits ∨
      (if condition then assign (.str "max_consensus_storage_bytes".toList) value limits
        else limits) = limits := by
    intro condition _
    split
    · exact .inl rfl
    · exact .inr rfl
  exact eq_of_ok (held (either changed) first) (held (either unchanged) second)

def schainLimits (sources : ConfigSources) (schain : SchainStructure) :
    Evaluated (Dict × Int × Int) := do
  let schainType ← getSchainType schain.partOfNode
  let limits ← asDict (← itemOf
    (← getSchainLimit sources schainType "volume_limits".toList) schain.allocationTypeName)
  let leveldbLimits ← itemOf
    (← getSchainLimit sources schainType "leveldb_limits".toList) schain.allocationTypeName
  let contractStorageLimit ← asInt (← itemOf leveldbLimits "contract_storage".toList)
  let dbStorageLimit ← asInt (← itemOf leveldbLimits "db_storage".toList)
  return (limits, contractStorageLimit, dbStorageLimit)

structure InfoParts (sources : ConfigSources) (schainId : Int) (schain : SchainStructure)
    (onChainEtherbase : Text) (staticSchainInfo nodeGroups : Dict)
    (nodes : List PyValue.Value) (syncNode : Bool) (archive : PyValue.Value)
    (info : SChainInfo) : Prop where
  limits : ∃ limits : Dict,
    schainLimits sources schain =
      .ok (limits, info.contractStorageLimit, info.dbStorageLimit) ∧
    (∀ volumeLimits, volumeLimits =
        (if syncNode ∧ isTrue archive then
          assign (.str "max_consensus_storage_bytes".toList)
            (.int maxConsensusStorageInfValue) limits
        else limits) →
      volumeLimit volumeLimits "max_consensus_storage_bytes".toList =
        .ok info.maxConsensusStorageBytes ∧
      volumeLimit volumeLimits "max_skaled_leveldb_storage_bytes".toList =
        .ok info.maxSkaledLeveldbStorageBytes ∧
      volumeLimit volumeLimits "max_file_storage_bytes".toList =
        .ok info.maxFileStorageBytes ∧
      volumeLimit volumeLimits "max_reserved_storage_bytes".toList =
        .ok info.maxReservedStorageBytes)
  given : info.schainId = schainId ∧ info.name = schain.name ∧
    info.blockAuthor = onChainEtherbase ∧ info.nodeGroups = nodeGroups ∧
    info.nodes = nodes ∧ info.multitransactionMode = schain.multitransactionMode ∧
    info.staticSchainInfo = staticSchainInfo

theorem infoParts_of_generate {schainId : Int} {schain : SchainStructure}
    {onChainEtherbase : Text} {staticSchainInfo nodeGroups : Dict}
    {nodes : List PyValue.Value} {syncNode : Bool} {archive : PyValue.Value}
    {info : SChainInfo}
    (generated : generateSchainInfo sources schainId schain onChainEtherbase
      staticSchainInfo nodeGroups nodes syncNode archive = .ok info) :
    InfoParts sources schainId schain onChainEtherbase staticSchainInfo nodeGroups nodes
      syncNode archive info := by
  obtain ⟨schainType, typed, generated⟩ := bind_eq_ok.mp generated
  obtain ⟨volumes, volumed, generated⟩ := bind_eq_ok.mp generated
  obtain ⟨entry, allocated, generated⟩ := bind_eq_ok.mp generated
  obtain ⟨limits, limited, generated⟩ := bind_eq_ok.mp generated
  obtain ⟨databases, based, generated⟩ := bind_eq_ok.mp generated
  obtain ⟨leveldbLimits, leveldb, generated⟩ := bind_eq_ok.mp generated
  obtain ⟨contracts, contracted, generated⟩ := bind_eq_ok.mp generated
  obtain ⟨contractStorageLimit, contractStorage, generated⟩ := bind_eq_ok.mp generated
  obtain ⟨storage, stored, generated⟩ := bind_eq_ok.mp generated
  obtain ⟨dbStorageLimit, dbStorage, generated⟩ := bind_eq_ok.mp generated
  obtain ⟨consensus, first, generated⟩ := bind_eq_ok.mp generated
  obtain ⟨skaled, second, generated⟩ := bind_eq_ok.mp generated
  obtain ⟨files, third, generated⟩ := bind_eq_ok.mp generated
  obtain ⟨reserved, fourth, generated⟩ := bind_eq_ok.mp generated
  obtain rfl := Except.ok.inj generated
  refine ⟨⟨limits, ?_, ?_⟩, rfl, rfl, rfl, rfl, rfl, rfl, rfl⟩
  · exact bind_eq_ok.mpr ⟨_, typed, bind_eq_ok.mpr ⟨_, volumed, bind_eq_ok.mpr
      ⟨_, allocated, bind_eq_ok.mpr ⟨_, limited, bind_eq_ok.mpr ⟨_, based, bind_eq_ok.mpr
      ⟨_, leveldb, bind_eq_ok.mpr ⟨_, contracted, bind_eq_ok.mpr ⟨_, contractStorage,
      bind_eq_ok.mpr ⟨_, stored, bind_eq_ok.mpr ⟨_, dbStorage, rfl⟩⟩⟩⟩⟩⟩⟩⟩⟩⟩
  · rintro volumeLimits rfl
    exact ⟨first, second, third, fourth⟩

theorem generateSchainInfo_alike {schainId : Int} {schain : SchainStructure}
    {onChainEtherbase : Text} {staticSchainInfo nodeGroups : Dict}
    {nodes otherNodes : List PyValue.Value} {syncNode otherSyncNode : Bool}
    {archive otherArchive : PyValue.Value} {info otherInfo : SChainInfo}
    (generated : generateSchainInfo sources schainId schain onChainEtherbase
      staticSchainInfo nodeGroups nodes syncNode archive = .ok info)
    (otherGenerated : generateSchainInfo sources schainId schain onChainEtherbase
      staticSchainInfo nodeGroups otherNodes otherSyncNode otherArchive = .ok otherInfo) :
    otherInfo = { info with
      nodes := otherInfo.nodes
      maxConsensusStorageBytes := otherInfo.maxConsensusStorageBytes } := by
  obtain ⟨⟨limits, limited, volumes⟩, id, name, author, groups, _, mode, statics⟩ :=
    infoParts_of_generate generated
  obtain ⟨⟨limits', limited', volumes'⟩, id', name', author', groups', _, mode',
    statics'⟩ := infoParts_of_generate otherGenerated
  obtain ⟨sameLimits, sameStorages⟩ := Prod.mk.inj (eq_of_ok limited limited')
  obtain ⟨sameContracts, sameDb⟩ := Prod.mk.inj sameStorages
  subst sameLimits
  obtain ⟨_, skaled, files, reserved⟩ := volumes _ rfl
  obtain ⟨_, skaled', files', reserved'⟩ := volumes' _ rfl
  have sameSkaled := volumeLimit_assign (by decide) skaled skaled'
  have sameFiles := volumeLimit_assign (by decide) files files'
  have sameReserved := volumeLimit_assign (by decide) reserved reserved'
  cases otherInfo
  simp only [SChainInfo.mk.injEq, true_and]
  exact ⟨id'.trans id.symm, name'.trans name.symm, author'.trans author.symm, sameContracts,
    sameDb, sameSkaled, sameFiles, sameReserved, groups'.trans groups.symm,
    statics'.trans statics.symm, mode'.trans mode.symm⟩

/-- The configs of two nodes of a chain differ in the sections on the nodes themselves, in
the BLS public keys of the list and in the limit of the consensus storage. -/
theorem generateSchainConfig_alike {config otherConfig : SChainConfig}
    (generated : generateSchainConfig libraries sources chain node = .ok config)
    (otherGenerated :
      generateSchainConfig libraries sources chain other = .ok otherConfig) :
    otherConfig = { config with
      skaleConfig := { config.skaleConfig with
        nodeInfo := otherConfig.skaleConfig.nodeInfo
        schainInfo := { config.skaleConfig.schainInfo with
          nodes := otherConfig.skaleConfig.schainInfo.nodes
          maxConsensusStorageBytes :=
            otherConfig.skaleConfig.schainInfo.maxConsensusStorageBytes } } } := by
  obtain ⟨⟨baseConfig, based, accounts, sealEngine, ⟨params, held, parameters⟩, unddos,
    genesis⟩, schainId, legacyGroups, identified, legacy, parts⟩ :=
    configParts_of_generate generated
  obtain ⟨⟨baseConfig', based', accounts', sealEngine', ⟨params', held', parameters'⟩,
    unddos', genesis'⟩, schainId', legacyGroups', identified', legacy', parts'⟩ :=
    configParts_of_generate otherGenerated
  obtain rfl := Option.some.inj (based'.symm.trans based)
  obtain rfl := eq_of_ok identified identified'
  obtain rfl := eq_of_ok legacy legacy'
  obtain rfl := eq_of_ok held held'
  obtain ⟨staticSchainInfo, schainNodes, statics, _, schainInfo⟩ := parts.schainInfo
  obtain ⟨staticSchainInfo', schainNodes', statics', _, schainInfo'⟩ := parts'.schainInfo
  obtain rfl := eq_of_ok statics statics'
  have sameInfo := generateSchainInfo_alike schainInfo schainInfo'
  have sameSettings := eq_of_ok parts.contractSettings parts'.contractSettings
  have sameAccounts := eq_of_ok accounts accounts'
  have sameSeal := eq_of_ok sealEngine sealEngine'
  have sameUnddos := eq_of_ok unddos unddos'
  have sameGenesis := eq_of_ok genesis genesis'
  have sameParams : otherConfig.params = config.params := parameters'.trans parameters.symm
  obtain ⟨otherSeal, otherParams, otherUnddos, otherGenesis, otherAccounts, otherSettings,
    otherNodeInfo, otherInfo⟩ := otherConfig
  simp only at sameInfo sameSettings sameAccounts sameSeal sameUnddos sameGenesis sameParams
  rw [← sameInfo, sameSettings, sameAccounts, sameSeal, sameUnddos, sameGenesis, sameParams]

/-- Nodes that take part in the chain and hold the same BLS public keys generate the same
section on it. -/
theorem generateSchainConfig_schainInfo {config otherConfig : SChainConfig}
    (regular : node.syncNode = false) (otherRegular : other.syncNode = false)
    (sameKeys : getBlsPublicKeys (other.secretKeyShare chain.rotationId) =
      getBlsPublicKeys (node.secretKeyShare chain.rotationId))
    (generated : generateSchainConfig libraries sources chain node = .ok config)
    (otherGenerated :
      generateSchainConfig libraries sources chain other = .ok otherConfig) :
    otherConfig.skaleConfig.schainInfo = config.skaleConfig.schainInfo := by
  obtain ⟨_, schainId, legacyGroups, identified, legacy, parts⟩ :=
    configParts_of_generate generated
  obtain ⟨_, schainId', legacyGroups', identified', legacy', parts'⟩ :=
    configParts_of_generate otherGenerated
  obtain rfl := eq_of_ok identified identified'
  obtain rfl := eq_of_ok legacy legacy'
  obtain ⟨staticSchainInfo, schainNodes, statics, nodes, schainInfo⟩ := parts.schainInfo
  obtain ⟨staticSchainInfo', schainNodes', statics', nodes', schainInfo'⟩ :=
    parts'.schainInfo
  obtain rfl := eq_of_ok statics statics'
  have sameNodes : schainNodes' = schainNodes := by
    unfold generateSchainNodes at nodes nodes'
    rw [otherRegular, sameKeys] at nodes'
    rw [regular] at nodes
    exact eq_of_ok nodes nodes'
  subst sameNodes
  unfold generateSchainInfo at schainInfo schainInfo'
  rw [otherRegular] at schainInfo'
  rw [regular] at schainInfo
  simp only [Bool.false_eq_true, false_and, if_false] at schainInfo schainInfo'
  exact eq_of_ok schainInfo schainInfo'

end Alike

end SkaleAdmin.Config
