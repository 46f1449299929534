import SkaleAdmin.Config.Agreement
import SkaleAdmin.Config.GeneratedFields
import Mathlib.Data.List.Forall2

/-! The readers of `core.schains.config.helper` on a generated config. -/

namespace SkaleAdmin.Config

open PyText PyValue

variable {Bytes : Type} {libraries : Libraries Bytes} {chain : ChainArguments Bytes}
  {node : NodeArguments} {config : Json.Value} {nodeInfo : Dict}
  {nodes : List PyValue.Value}

structure Shown (libraries : Libraries Bytes) (schainName : Text) (index : Nat)
    (peer : ManagerNode Bytes) (item : Json.Value) : Prop where
  nodeId : getItem "nodeID" item = .ok (.num peer.id)
  basePort : ∃ basePort,
    libraries.getSchainBasePortOnNode peer.schains schainName peer.port = .ok basePort ∧
      getItem "basePort" item = .ok (.num basePort)
  ip : getItem "ip" item = .ok (.str (libraries.ipFromBytes peer.ip))
  owner : getItem "owner" item = .ok (.str (libraries.publicKeyToAddress peer.publicKey))
  schainIndex : getItem "schainIndex" item = .ok (.num index)

theorem shown_of_describes {schainName : Text} {index : Nat} {peer : ManagerNode Bytes}
    {fields : Dict} (describes : Describes libraries schainName index peer fields)
    (wellFormed : (image (.dict fields)).WellFormed) :
    Shown libraries schainName index peer (image (.dict fields)) := by
  obtain ⟨basePort, ported, member⟩ := describes.basePort
  exact {
    nodeId := (getItem_image wellFormed describes.nodeId).1
    basePort := ⟨basePort, ported, (getItem_image wellFormed member).1⟩
    ip := (getItem_image wellFormed describes.ip).1
    owner := (getItem_image wellFormed describes.owner).1
    schainIndex := (getItem_image wellFormed describes.schainIndex).1 }

namespace ConfigFields

variable (fields : ConfigFields libraries chain node config nodeInfo nodes)

include fields

theorem exists_items :
    ∃ items, (getItem "skaleConfig" config >>= getItem "sChain" >>= getItem "nodes") =
        .ok (.arr items) ∧
      items.length = chain.schainNodesWithSchains.length ∧
      ∀ (position : Nat) (peer : ManagerNode Bytes),
        chain.schainNodesWithSchains[position]? = some peer →
        ∃ item, items[position]? = some item ∧
          Shown libraries chain.schain.name (1 + position) peer item := by
  refine ⟨nodes.map image, ?_, ?_, ?_⟩
  · rw [fields.nodesItem, image, imageItems_eq_map]
  · rw [List.length_map, fields.length]
  · intro position peer found
    obtain ⟨entries, there, describes⟩ := fields.entries position peer found
    refine ⟨image (.dict entries), ?_, ?_⟩
    · rw [List.getElem?_map, there]
      rfl
    · exact shown_of_describes describes
        (wellFormed_item fields.nodesWellFormed (List.mem_of_getElem? there))

theorem getBasePortFromConfig_eq :
    getBasePortFromConfig config = .ok (.num node.schainBasePort) := by
  obtain ⟨skaleConfig, skaleItem, infoItem⟩ := bind_eq_ok.mp fields.infoItem
  exact bind_eq_ok.mpr ⟨_, skaleItem, bind_eq_ok.mpr ⟨_, infoItem,
    (getItem_image fields.infoWellFormed fields.basePort).1⟩⟩

end ConfigFields

/-! ### The list as a whole -/

abbrev Stand (libraries : Libraries Bytes) (schainName : Text)
    (peers : List (ManagerNode Bytes)) (items : List Json.Value) : Prop :=
  List.Forall₂ (fun peer item => ∃ index, Shown libraries schainName index peer item)
    peers items

theorem stand_of_shown {schainName : Text} {peers : List (ManagerNode Bytes)}
    {items : List Json.Value} (sameLength : items.length = peers.length)
    (shown : ∀ (position : Nat) (peer : ManagerNode Bytes),
      peers[position]? = some peer →
      ∃ item, items[position]? = some item ∧
        Shown libraries schainName (1 + position) peer item) :
    Stand libraries schainName peers items := by
  refine List.forall₂_iff_get.mpr ⟨sameLength.symm, ?_⟩
  intro position inPeers inItems
  obtain ⟨item, there, shows⟩ := shown position peers[position]
    (List.getElem?_eq_getElem inPeers)
  rw [List.getElem?_eq_getElem inItems] at there
  obtain rfl := Option.some.inj there
  exact ⟨_, shows⟩

theorem mapM_ip {schainName : Text} {peers : List (ManagerNode Bytes)}
    {items : List Json.Value} (stand : Stand libraries schainName peers items) :
    items.mapM (getItem "ip") =
      .ok (peers.map fun peer => Json.Value.str (libraries.ipFromBytes peer.ip)) := by
  induction stand with
  | nil => rfl
  | cons shows _ ih =>
      obtain ⟨_, shows⟩ := shows
      rw [List.mapM_cons, shows.ip, ih]
      rfl

theorem equal_num (first second : Int) :
    Json.equal (.num first) (.num second) = true ↔ first = second := by
  simp [Json.equal]

/-- Where the ids are distinct, the own entry is found. -/
theorem firstOwnIp_of_stand {schainName : Text} {peers : List (ManagerNode Bytes)}
    {items : List Json.Value} (stand : Stand libraries schainName peers items)
    (distinct : (peers.map ManagerNode.id).Nodup) {own : ManagerNode Bytes}
    (member : own ∈ peers) :
    firstOwnIp (.num own.id) items = .ok (.str (libraries.ipFromBytes own.ip)) := by
  induction stand with
  | nil => cases member
  | @cons peer item peers items shows _ ih =>
      obtain ⟨_, shows⟩ := shows
      rw [List.map_cons, List.nodup_cons] at distinct
      rw [firstOwnIp, shows.nodeId]
      change (if Json.equal (.num peer.id) (.num own.id) then getItem "ip" item
        else firstOwnIp (.num own.id) items) = _
      rcases List.mem_cons.mp member with rfl | later
      · rw [if_pos ((equal_num ..).mpr rfl), shows.ip]
      · have apart : peer.id ≠ own.id := by
          intro same
          exact distinct.1 (same ▸ List.mem_map_of_mem later)
        rw [if_neg (fun same => apart ((equal_num ..).mp same))]
        exact ih distinct.2 later

namespace ConfigFields

variable (fields : ConfigFields libraries chain node config nodeInfo nodes)

include fields

theorem getNodeIpsFromConfig_eq :
    getNodeIpsFromConfig config = .ok (chain.schainNodesWithSchains.map fun peer =>
      Json.Value.str (libraries.ipFromBytes peer.ip)) := by
  obtain ⟨items, found, sameLength, shown⟩ := fields.exists_items
  obtain ⟨schain, schainItem, nodesItem⟩ := bind_eq_ok.mp found
  obtain ⟨skaleConfig, skaleItem, schainItem⟩ := bind_eq_ok.mp schainItem
  have listed : (do
      let schain ← getItem "sChain" (← getItem "skaleConfig" config)
      let schainNodesConfig ← iterate (← getItem "nodes" schain)
      schainNodesConfig.mapM (getItem "ip")) = Except.ok
        (chain.schainNodesWithSchains.map fun peer =>
          Json.Value.str (libraries.ipFromBytes peer.ip)) :=
    bind_eq_ok.mpr ⟨_, skaleItem, bind_eq_ok.mpr ⟨_, schainItem, bind_eq_ok.mpr
      ⟨_, nodesItem, mapM_ip (stand_of_shown sameLength shown)⟩⟩⟩
  cases config with
  | null => cases skaleItem
  | bool _ => exact listed
  | num _ => exact listed
  | str _ => exact listed
  | arr _ => exact listed
  | obj _ => exact listed

theorem getOwnIpFromConfig_eq
    (distinct : (chain.schainNodesWithSchains.map ManagerNode.id).Nodup)
    {own : ManagerNode Bytes} (member : own ∈ chain.schainNodesWithSchains)
    (same : own.id = node.nodeId) :
    getOwnIpFromConfig config = .ok (.str (libraries.ipFromBytes own.ip)) := by
  obtain ⟨items, found, sameLength, shown⟩ := fields.exists_items
  obtain ⟨schain, schainItem, nodesItem⟩ := bind_eq_ok.mp found
  obtain ⟨skaleConfig, skaleItem, schainItem⟩ := bind_eq_ok.mp schainItem
  obtain ⟨skaleConfig', skaleItem', infoItem⟩ := bind_eq_ok.mp fields.infoItem
  obtain rfl := eq_of_ok skaleItem skaleItem'
  have own := firstOwnIp_of_stand (stand_of_shown sameLength shown) distinct member
  rw [same] at own
  exact bind_eq_ok.mpr ⟨_, skaleItem, bind_eq_ok.mpr ⟨_, schainItem, bind_eq_ok.mpr
    ⟨_, nodesItem, bind_eq_ok.mpr ⟨_, infoItem, bind_eq_ok.mpr
      ⟨_, (getItem_image fields.infoWellFormed fields.nodeId).1, own⟩⟩⟩⟩⟩

end ConfigFields

/-! ### The chain of two nodes -/

theorem pair_documented : NodeInfoDocumented pairLibraries where
  nodeId nodeId name basePort := by simp [pairLibraries]
  basePort nodeId name basePort := by simp [pairLibraries]

theorem pair_unshadowed : Unshadowed pairSources where
  nodeInfo schainType staticNodeInfo statics := by
    cases schainType with
    | small =>
        obtain rfl := Except.ok.inj statics
        decide
    | test | test4 | large | medium | syncNode => cases statics
  schainInfo schainName staticSchainInfo statics := by
    obtain rfl := Except.ok.inj statics
    decide

theorem skaledConfig_of_saved (document : GeneratedConfig) :
    skaledConfig [(.skaled, document.document.text)] =
      .ok (.obj document.document.fields) := by
  have loaded := Json.loads_dumps document.document.wellFormed
  have read : Directory.read [(FileName.skaled, document.document.text)] .skaled =
      some (Json.dumps (.obj document.document.fields)) := rfl
  unfold skaledConfig skaledConfigExists readJson
  rw [read]
  dsimp only
  rw [loaded]
  rfl

theorem externalRanges_of_saved (document : GeneratedConfig) :
    externalRanges [(.skaled, document.document.text)] = .ok [] := by
  change (Except.ok (List.mergeSort [] IpRange.le) : Evaluated _) = .ok []
  rw [List.mergeSort_nil]

end SkaleAdmin.Config
