import SkaleAdmin.Config.GeneratedConfig

/-! The sections of a generated config and the node groups in it. -/

namespace SkaleAdmin.Config

open PyText PyValue

structure ContractSettings where
  common : List (Key × PyValue.Value)
  ima : List (Key × PyValue.Value)

def ContractSettings.toDict (self : ContractSettings) : List (Key × PyValue.Value) :=
  [(.str "common".toList, .dict self.common), (.str "IMA".toList, .dict self.ima)]

structure SChainInfo where
  schainId : Int
  name : Text
  blockAuthor : Text
  contractStorageLimit : Int
  dbStorageLimit : Int
  maxConsensusStorageBytes : Int
  maxSkaledLeveldbStorageBytes : Int
  maxFileStorageBytes : Int
  maxReservedStorageBytes : Int
  nodeGroups : List (Key × PyValue.Value)
  nodes : List PyValue.Value
  staticSchainInfo : List (Key × PyValue.Value)
  multitransactionMode : Bool

/-- The static parameters come last and take the place of fields of their names. -/
def SChainInfo.toDict (self : SChainInfo) : List (Key × PyValue.Value) :=
  update [
    (.str "schainID".toList, .int self.schainId),
    (.str "schainName".toList, .str self.name),
    (.str "blockAuthor".toList, .str self.blockAuthor),
    (.str "contractStorageLimit".toList, .int self.contractStorageLimit),
    (.str "dbStorageLimit".toList, .int self.dbStorageLimit),
    (.str "maxConsensusStorageBytes".toList, .int self.maxConsensusStorageBytes),
    (.str "maxSkaledLeveldbStorageBytes".toList, .int self.maxSkaledLeveldbStorageBytes),
    (.str "maxFileStorageBytes".toList, .int self.maxFileStorageBytes),
    (.str "maxReservedStorageBytes".toList, .int self.maxReservedStorageBytes),
    (.str "nodeGroups".toList, .dict self.nodeGroups),
    (.str "multiTransactionMode".toList, .bool self.multitransactionMode),
    (.str "nodes".toList, .list self.nodes)] self.staticSchainInfo

/-- `nodeInfo` is the dictionary of the node's own section. -/
structure SkaleConfig where
  contractSettings : ContractSettings
  nodeInfo : List (Key × PyValue.Value)
  schainInfo : SChainInfo

def SkaleConfig.toDict (self : SkaleConfig) : List (Key × PyValue.Value) :=
  [(.str "contractSettings".toList, .dict self.contractSettings.toDict),
    (.str "nodeInfo".toList, .dict self.nodeInfo),
    (.str "sChain".toList, .dict self.schainInfo.toDict)]

structure SChainConfig where
  sealEngine : Text
  params : List (Key × PyValue.Value)
  unddos : List (Key × PyValue.Value)
  genesis : List (Key × PyValue.Value)
  accounts : List (Key × PyValue.Value)
  skaleConfig : SkaleConfig

def SChainConfig.toDict (self : SChainConfig) : List (Key × PyValue.Value) :=
  [(.str "sealEngine".toList, .str self.sealEngine),
    (.str "params".toList, .dict self.params),
    (.str "unddos".toList, .dict self.unddos),
    (.str "genesis".toList, .dict self.genesis),
    (.str "accounts".toList, .dict self.accounts),
    (.str "skaleConfig".toList, .dict self.skaleConfig.toDict)]

/-- `node_groups.update(legacy_groups)`: the groups of the rotation history, some of which
the static groups replace. -/
def generatedNodeGroups (nodeGroups legacyGroups : List (Key × PyValue.Value)) :
    List (Key × PyValue.Value) :=
  update nodeGroups legacyGroups

/-- The groups of a config in memory have their rotation ids as keys, so that a config with
any group is not plain. -/
theorem toDict_not_plain {config : SChainConfig}
    {nodeGroups legacyGroups : List (Key × PyValue.Value)} {rotationId : Int}
    (own : Key.str "nodeGroups".toList ∉
      config.skaleConfig.schainInfo.staticSchainInfo.map Prod.fst)
    (groups : config.skaleConfig.schainInfo.nodeGroups =
      generatedNodeGroups nodeGroups legacyGroups)
    (member : Key.int rotationId ∈ nodeGroups.map Prod.fst ∨
      Key.int rotationId ∈ legacyGroups.map Prod.fst) :
    plainEntries config.toDict = false := by
  apply Bool.eq_false_of_not_eq_true
  intro isPlain
  have skaleConfig := (plainEntries_iff.mp isPlain
    (.str "skaleConfig".toList, .dict config.skaleConfig.toDict) (by simp [SChainConfig.toDict])).2
  have schain := (plainEntries_iff.mp skaleConfig
    (.str "sChain".toList, .dict config.skaleConfig.schainInfo.toDict)
    (by simp [SkaleConfig.toDict])).2
  have listed : (Key.str "nodeGroups".toList,
      Value.dict config.skaleConfig.schainInfo.nodeGroups) ∈
        config.skaleConfig.schainInfo.toDict := by
    refine mem_update_of_notMem ?_ own
    simp
  have groupsPlain := (plainEntries_iff.mp schain _ listed).2
  rw [groups] at groupsPlain
  obtain ⟨group, held⟩ := exists_mem_update member
  obtain ⟨⟨name, key⟩, _⟩ := plainEntries_iff.mp groupsPlain _ held
  cases key

end SkaleAdmin.Config
