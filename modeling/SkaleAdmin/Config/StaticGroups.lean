import SkaleAdmin.Config.Checks
import SkaleAdmin.Library.PyValue
import SkaleAdmin.Library.JsonRoundTrip
import SkaleAdmin.Library.PyNumerals
import Mathlib.Data.List.Forall2

/-! The static node groups of a chain, whose keys are made integers. -/

namespace SkaleAdmin.Config

open PyText PyValue

/-! ### `static_groups` -/

/-- `RotationNodeData(*node_info)`, which has three fields. -/
def rotationNodeData : PyValue.Value → Evaluated PyValue.Value
  | .list [index, nodeId, publicKey] => .ok (.tuple [index, nodeId, publicKey])
  | _ => .error .shape

/-- `int(key)`. -/
def keyToInt : Key → Evaluated Int
  | .int value => .ok value
  | .str text =>
      match parseInt 10 text with
      | some value => .ok value
      | none => .error .shape

/-- The loop over `node_ids_string`, which changes `prepared_nodes` in place. -/
def prepareNodes : List Key → List (Key × PyValue.Value) →
    Evaluated (List (Key × PyValue.Value))
  | [], preparedNodes => .ok preparedNodes
  | nodeIdString :: nodeIdsString, preparedNodes =>
      match pop nodeIdString preparedNodes with
      | none => .error .shape
      | some (nodeInfo, preparedNodes) => do
          let data ← rotationNodeData nodeInfo
          let nodeId ← keyToInt nodeIdString
          prepareNodes nodeIdsString (assign (.int nodeId) data preparedNodes)

/-- The nodes of a group are changed where they stand in it. -/
def prepareGroup : PyValue.Value → Evaluated PyValue.Value
  | .dict data =>
      match data.lookup (.str "nodes".toList) with
      | some (.dict nodes) => do
          let preparedNodes ← prepareNodes (nodes.map Prod.fst) nodes
          return .dict (assign (.str "nodes".toList) (.dict preparedNodes) data)
      | _ => .error .shape
  | _ => .error .shape

/-- The loop over `groups.items()`. -/
def prepareGroups : List (Key × PyValue.Value) → List (Key × PyValue.Value) →
    Evaluated (List (Key × PyValue.Value))
  | [], preparedGroups => .ok preparedGroups
  | (plainRotationId, data) :: groups, preparedGroups => do
      let rotationId ← keyToInt plainRotationId
      let group ← prepareGroup data
      prepareGroups groups (assign (.int rotationId) group preparedGroups)

/-- `file` is what `read_json` makes of the file, if there is one. -/
def staticGroups : Option Json.Value → Evaluated (List (Key × PyValue.Value))
  | none => .ok []
  | some file =>
      match ofJson file with
      | .dict groups => prepareGroups groups []
      | _ => .error .shape

/-! ### What the groups of a file become -/

/-- A node of the file and its entry: the key is made an integer, the data a tuple. -/
structure SameNode (node : Text × Json.Value) (entry : Key × PyValue.Value) : Prop where
  key : ∃ nodeId : Int, node.1 = str nodeId ∧ entry.1 = .int nodeId
  data : ∃ index nodeId publicKey, node.2 = .arr [index, nodeId, publicKey] ∧
    entry.2 = .tuple [ofJson index, ofJson nodeId, ofJson publicKey]

structure SameField (field : Text × Json.Value) (entry : Key × PyValue.Value) : Prop where
  key : entry.1 = .str field.1
  value : field.1 ≠ "nodes".toList → entry.2 = ofJson field.2
  nodes : field.1 = "nodes".toList → ∃ nodes entries, field.2 = .obj nodes ∧
    entry.2 = .dict entries ∧ List.Forall₂ SameNode nodes entries

structure SameGroup (group : Text × Json.Value) (entry : Key × PyValue.Value) : Prop where
  key : ∃ rotationId : Int, group.1 = str rotationId ∧ entry.1 = .int rotationId
  fields : ∃ fields entries, group.2 = .obj fields ∧ entry.2 = .dict entries ∧
    List.Forall₂ SameField fields entries

theorem imageEntries_of_forall₂ {Same : Text × Json.Value → Key × PyValue.Value → Prop}
    (alike : ∀ field entry, Same field entry →
      entry.1.name = field.1 ∧ image entry.2 = field.2)
    {fields : List (Text × Json.Value)} {entries : List (Key × PyValue.Value)}
    (same : List.Forall₂ Same fields entries) : imageEntries entries = fields := by
  induction same with
  | nil => rfl
  | cons first _ ih =>
      obtain ⟨name, value⟩ := alike _ _ first
      rw [imageEntries, name, value, ih]

theorem SameNode.image {node : Text × Json.Value} {entry : Key × PyValue.Value}
    (same : SameNode node entry) : entry.1.name = node.1 ∧ image entry.2 = node.2 := by
  obtain ⟨⟨nodeId, key, name⟩, index, number, publicKey, data, value⟩ := same
  refine ⟨?_, ?_⟩
  · rw [key, name]
    rfl
  · rw [data, value]
    simp only [PyValue.image, imageItems, image_ofJson]

theorem SameField.image {field : Text × Json.Value} {entry : Key × PyValue.Value}
    (same : SameField field entry) : entry.1.name = field.1 ∧ image entry.2 = field.2 := by
  refine ⟨?_, ?_⟩
  · rw [same.key]
    rfl
  · by_cases named : field.1 = "nodes".toList
    · obtain ⟨nodes, entries, data, value, alike⟩ := same.nodes named
      rw [data, value, PyValue.image, imageEntries_of_forall₂ (fun _ _ => SameNode.image) alike]
    · rw [same.value named, image_ofJson]

theorem SameGroup.image {group : Text × Json.Value} {entry : Key × PyValue.Value}
    (same : SameGroup group entry) : entry.1.name = group.1 ∧ image entry.2 = group.2 := by
  obtain ⟨⟨rotationId, key, name⟩, fields, entries, data, value, alike⟩ := same
  refine ⟨?_, ?_⟩
  · rw [key, name]
    rfl
  · rw [data, value, PyValue.image, imageEntries_of_forall₂ (fun _ _ => SameField.image) alike]

/-! ### The groups of a file -/

def IsCanonical (text : Text) : Prop :=
  ∃ value : Int, text = str value

/-- A node has the three fields of `RotationNodeData`. -/
def IsNode (node : Text × Json.Value) : Prop :=
  IsCanonical node.1 ∧ ∃ index nodeId publicKey, node.2 = .arr [index, nodeId, publicKey]

def IsGroup (group : Text × Json.Value) : Prop :=
  IsCanonical group.1 ∧ ∃ fields nodes, group.2 = .obj fields ∧
    ("nodes".toList, .obj nodes) ∈ fields ∧ ∀ node ∈ nodes, IsNode node

theorem int_mem_keys {Same : Text × Json.Value → Key × PyValue.Value → Prop}
    (keyed : ∀ field entry, Same field entry →
      ∃ value : Int, field.1 = str value ∧ entry.1 = .int value)
    {fields : List (Text × Json.Value)} {entries : List (Key × PyValue.Value)}
    (same : List.Forall₂ Same fields entries) {value : Int}
    (member : .int value ∈ entries.map Prod.fst) : str value ∈ fields.map Prod.fst := by
  induction same with
  | nil => cases member
  | cons first _ ih =>
      obtain ⟨other, key, name⟩ := keyed _ _ first
      rw [List.map_cons, List.mem_cons] at member ⊢
      rcases member with same | member
      · rw [name] at same
        cases same
        exact .inl key.symm
      · exact .inr (ih member)

theorem int_notMem_ofJsonFields (value : Int) (fields : List (Text × Json.Value)) :
    .int value ∉ (ofJsonFields fields).map Prod.fst := by
  induction fields with
  | nil => nofun
  | cons field fields ih =>
      intro member
      rw [ofJsonFields, List.map_cons, List.mem_cons] at member
      rcases member with same | member
      · cases same
      · exact ih member

theorem prepareNodes_step {done nodes : List (Text × Json.Value)}
    {entries : List (Key × PyValue.Value)} (prepared : List.Forall₂ SameNode done entries)
    (areNodes : ∀ node ∈ nodes, IsNode node)
    (distinct : ((done ++ nodes).map Prod.fst).Nodup) :
    ∃ preparedNodes,
      prepareNodes ((ofJsonFields nodes).map Prod.fst) (ofJsonFields nodes ++ entries) =
        .ok preparedNodes ∧
      List.Forall₂ SameNode (done ++ nodes) preparedNodes := by
  induction nodes generalizing done entries with
  | nil =>
      rw [List.append_nil]
      exact ⟨entries, rfl, prepared⟩
  | cons node nodes ih =>
      obtain ⟨⟨nodeId, key⟩, index, number, publicKey, data⟩ :=
        areNodes node List.mem_cons_self
      have fresh : .int nodeId ∉ (ofJsonFields nodes ++ entries).map Prod.fst := by
        rw [List.map_append, List.mem_append]
        rintro (member | member)
        · exact int_notMem_ofJsonFields nodeId nodes member
        · have known := int_mem_keys (fun _ _ same => same.key) prepared member
          rw [List.map_append, List.nodup_append'] at distinct
          rw [← key] at known
          exact distinct.2.2 known (by simp)
      have split : done ++ node :: nodes = done ++ [node] ++ nodes := by simp
      rw [split] at distinct ⊢
      have same : SameNode node
          (.int nodeId, .tuple [ofJson index, ofJson number, ofJson publicKey]) :=
        ⟨⟨nodeId, key, rfl⟩, index, number, publicKey, data, rfl⟩
      obtain ⟨preparedNodes, run, alike⟩ := ih
        (List.rel_append prepared (.cons same .nil))
        (fun other member => areNodes other (List.mem_cons_of_mem _ member)) distinct
      refine ⟨preparedNodes, ?_, alike⟩
      rw [ofJsonFields, List.map_cons, List.cons_append, prepareNodes, pop_head]
      have shaped : rotationNodeData (ofJson node.2) =
          .ok (.tuple [ofJson index, ofJson number, ofJson publicKey]) := by
        rw [data]
        rfl
      have read : keyToInt (.str node.1) = .ok nodeId := by
        simp only [keyToInt, key, parseInt_str]
      simp only [shaped, read, bind, Except.bind]
      rw [assign_of_notMem fresh, List.append_assoc]
      exact run

theorem prepareNodes_nodes {nodes : List (Text × Json.Value)}
    (areNodes : ∀ node ∈ nodes, IsNode node) (distinct : (nodes.map Prod.fst).Nodup) :
    ∃ preparedNodes,
      prepareNodes ((ofJsonFields nodes).map Prod.fst) (ofJsonFields nodes) =
        .ok preparedNodes ∧
      List.Forall₂ SameNode nodes preparedNodes := by
  have run := prepareNodes_step .nil areNodes distinct
  rw [List.append_nil, List.nil_append] at run
  exact run

theorem sameField_of_ne {fields : List (Text × Json.Value)}
    (others : "nodes".toList ∉ fields.map Prod.fst) :
    List.Forall₂ SameField fields (ofJsonFields fields) := by
  induction fields with
  | nil => exact .nil
  | cons field fields ih =>
      rw [List.map_cons, List.mem_cons, not_or] at others
      refine .cons ⟨rfl, fun _ => rfl, ?_⟩ (ih others.2)
      exact fun named => absurd named.symm others.1

theorem assign_nodes {fields nodes : List (Text × Json.Value)}
    {preparedNodes : List (Key × PyValue.Value)} (distinct : (fields.map Prod.fst).Nodup)
    (member : ("nodes".toList, .obj nodes) ∈ fields)
    (prepared : List.Forall₂ SameNode nodes preparedNodes) :
    List.Forall₂ SameField fields
      (assign (.str "nodes".toList) (.dict preparedNodes) (ofJsonFields fields)) := by
  induction fields with
  | nil => cases member
  | cons field fields ih =>
      obtain ⟨name, value⟩ := field
      rw [List.map_cons, List.nodup_cons] at distinct
      rw [ofJsonFields, assign]
      by_cases named : name = "nodes".toList
      · subst named
        rw [if_pos rfl]
        have here : value = .obj nodes := by
          rcases List.mem_cons.mp member with same | later
          · cases same
            rfl
          · exact absurd (List.mem_map.mpr ⟨_, later, rfl⟩) distinct.1
        refine .cons ⟨rfl, fun apart => absurd rfl apart, ?_⟩ (sameField_of_ne distinct.1)
        exact fun _ => ⟨nodes, preparedNodes, here, rfl, prepared⟩
      · have apart : Key.str name ≠ .str "nodes".toList := fun same => named (Key.str.inj same)
        rw [if_neg apart]
        have later : ("nodes".toList, .obj nodes) ∈ fields := by
          rcases List.mem_cons.mp member with same | later
          · cases same
            exact absurd rfl named
          · exact later
        exact .cons ⟨rfl, fun _ => rfl, fun same => absurd same named⟩ (ih distinct.2 later)

theorem prepareGroup_fields {fields nodes : List (Text × Json.Value)}
    (wellFormed : (Json.Value.obj fields).WellFormed)
    (member : ("nodes".toList, .obj nodes) ∈ fields)
    (areNodes : ∀ node ∈ nodes, IsNode node) :
    ∃ entries, prepareGroup (ofJson (.obj fields)) = .ok (.dict entries) ∧
      List.Forall₂ SameField fields entries := by
  cases wellFormed with
  | obj _ distinct each =>
      have nodesWellFormed := each _ member
      cases nodesWellFormed with
      | obj _ distinctNodes _ =>
          obtain ⟨preparedNodes, run, alike⟩ := prepareNodes_nodes areNodes distinctNodes
          refine ⟨_, ?_, assign_nodes distinct member alike⟩
          have found : (ofJsonFields fields).lookup (.str "nodes".toList) =
              some (.dict (ofJsonFields nodes)) := by
            rw [lookup_ofJsonFields_str, Json.lookup_of_mem distinct member]
            rfl
          rw [ofJson, prepareGroup, found]
          simp only [run, bind, Except.bind]
          rfl

theorem prepareGroups_step {done groups : List (Text × Json.Value)}
    {entries : List (Key × PyValue.Value)} (prepared : List.Forall₂ SameGroup done entries)
    (areGroups : ∀ group ∈ groups, IsGroup group)
    (wellFormed : ∀ group ∈ groups, Json.Value.WellFormed group.2)
    (distinct : ((done ++ groups).map Prod.fst).Nodup) :
    ∃ preparedGroups, prepareGroups (ofJsonFields groups) entries = .ok preparedGroups ∧
      List.Forall₂ SameGroup (done ++ groups) preparedGroups := by
  induction groups generalizing done entries with
  | nil =>
      rw [List.append_nil]
      exact ⟨entries, rfl, prepared⟩
  | cons group groups ih =>
      obtain ⟨⟨rotationId, key⟩, fields, nodes, data, member, areNodes⟩ :=
        areGroups group List.mem_cons_self
      have here := wellFormed group List.mem_cons_self
      rw [data] at here
      obtain ⟨prepared_, run, alike⟩ := prepareGroup_fields here member areNodes
      have fresh : .int rotationId ∉ entries.map Prod.fst := by
        intro taken
        have known := int_mem_keys (fun _ _ same => same.key) prepared taken
        rw [List.map_append, List.nodup_append'] at distinct
        rw [← key] at known
        exact distinct.2.2 known (by simp)
      have split : done ++ group :: groups = done ++ [group] ++ groups := by simp
      rw [split] at distinct ⊢
      have same : SameGroup group (.int rotationId, .dict prepared_) :=
        ⟨⟨rotationId, key, rfl⟩, fields, prepared_, data, rfl, alike⟩
      obtain ⟨preparedGroups, runRest, alikeRest⟩ := ih
        (List.rel_append prepared (.cons same .nil))
        (fun other later => areGroups other (List.mem_cons_of_mem _ later))
        (fun other later => wellFormed other (List.mem_cons_of_mem _ later)) distinct
      refine ⟨preparedGroups, ?_, alikeRest⟩
      have read : keyToInt (.str group.1) = .ok rotationId := by
        simp only [keyToInt, key, parseInt_str]
      rw [← data] at run
      rw [ofJsonFields, prepareGroups]
      simp only [read, run, bind, Except.bind]
      rw [assign_of_notMem fresh]
      exact runRest

/-- `static_groups` keeps the groups of the file, with integers as keys: what it returns
is written as the file was. -/
theorem staticGroups_preserved (groups : List (Text × Json.Value))
    (wellFormed : (Json.Value.obj groups).WellFormed)
    (areGroups : ∀ group ∈ groups, IsGroup group) :
    ∃ preparedGroups, staticGroups (some (.obj groups)) = .ok preparedGroups ∧
      List.Forall₂ SameGroup groups preparedGroups ∧
      image (.dict preparedGroups) = .obj groups ∧
      Json.loads (Json.dumps (image (.dict preparedGroups))) = some (.obj groups) := by
  cases wellFormed with
  | obj _ distinct each =>
      obtain ⟨preparedGroups, run, alike⟩ := prepareGroups_step .nil areGroups each distinct
      have same : image (.dict preparedGroups) = .obj groups :=
        congrArg Json.Value.obj (imageEntries_of_forall₂ (fun _ _ => SameGroup.image) alike)
      refine ⟨preparedGroups, run, alike, same, ?_⟩
      rw [same]
      exact Json.loads_dumps (.obj groups distinct each)

def oneGroup : List (Text × Json.Value) :=
  [("1".toList, .obj [("finish_ts".toList, .null), ("nodes".toList, .obj [
    ("0".toList, .arr [.num 0, .num 159, .str "0xgd".toList]),
    ("4".toList, .arr [.num 4, .num 31, .str "0x5d".toList])])])]

theorem oneGroup_wellFormed : (Json.Value.obj oneGroup).WellFormed :=
  Json.wellFormed_of_isWellFormed (by decide)

theorem oneGroup_preserved :
    ∃ preparedGroups, staticGroups (some (.obj oneGroup)) = .ok preparedGroups ∧
      List.Forall₂ SameGroup oneGroup preparedGroups ∧
      image (.dict preparedGroups) = .obj oneGroup ∧
      Json.loads (Json.dumps (image (.dict preparedGroups))) = some (.obj oneGroup) := by
  apply staticGroups_preserved oneGroup oneGroup_wellFormed
  intro group listed
  rw [oneGroup, List.mem_singleton] at listed
  subst listed
  refine ⟨⟨1, rfl⟩, _, _, rfl, List.mem_cons_of_mem _ List.mem_cons_self, ?_⟩
  intro node member
  simp only [List.mem_cons, List.not_mem_nil, or_false] at member
  rcases member with rfl | rfl
  · exact ⟨⟨0, rfl⟩, _, _, _, rfl⟩
  · exact ⟨⟨4, rfl⟩, _, _, _, rfl⟩

end SkaleAdmin.Config
