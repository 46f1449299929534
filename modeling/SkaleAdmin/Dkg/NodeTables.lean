import SkaleAdmin.Dkg.Client

/-! The maps between the indices and the ids of the nodes of a group, as `init_dkg_client`
fills them. -/

namespace SkaleAdmin.Dkg

open PyText

/-- What `init_dkg_client` hands to `DKGClient`; `node_id_dkg` is -1 until the node is met. -/
structure NodeTables where
  nodeIdDkg : Int := -1
  publicKeys : List (Option Text)
  nodeIdsContract : Nat → Option Nat := fun _ => none
  nodeIdsDkg : Nat → Option Nat := fun _ => none

def NodeTables.enter (nodeId : Nat) (tables : NodeTables) (i : Nat) (node : SchainNode) :
    NodeTables where
  nodeIdDkg := if node.id = nodeId then i else tables.nodeIdDkg
  nodeIdsContract := Function.update tables.nodeIdsContract node.id (some i)
  nodeIdsDkg := Function.update tables.nodeIdsDkg i (some node.id)
  publicKeys := tables.publicKeys.set i (some node.publicKey)

def enterNodes (schainName : String) (nodeId : Nat) :
    Nat → List (Option SchainNode) → NodeTables → Except PyError NodeTables
  | _, [], tables => .ok tables
  | _, none :: _, _ =>
      .error (.dkgError
        s!"sChain: {schainName}: Initialization failed, node info is empty.")
  | i, some node :: rest, tables =>
      enterNodes schainName nodeId (i + 1) rest (tables.enter nodeId i node)

def initDkgClient (schainName : String) (schainNodes : List (Option SchainNode))
    (nodeId : Nat) : Except PyError NodeTables := do
  let tables ← enterNodes schainName nodeId 0 schainNodes
    { publicKeys := List.replicate schainNodes.length none }
  if tables.nodeIdDkg = -1 then
    .error (.dkgError
      s!"sChain: {schainName}: {nodeId} Initialization failed, nodeID not found for schain.")
  else
    .ok tables

namespace NodeTables

structure Reflects (tables : NodeTables) (nodeId : Nat) (nodes : List SchainNode) (left : Nat) :
    Prop where
  ids : ∀ i, tables.nodeIdsDkg i = nodes[i]?.map SchainNode.id
  indices : ∀ id i, tables.nodeIdsContract id = some i ↔ nodes[i]?.map SchainNode.id = some id
  own : ∀ i : Nat, tables.nodeIdDkg = i ↔ nodes[i]?.map SchainNode.id = some nodeId
  keys : tables.publicKeys =
    nodes.map (fun node => some node.publicKey) ++ List.replicate left none

variable {tables : NodeTables} {nodeId left : Nat} {nodes : List SchainNode}

theorem reflects_start : Reflects { publicKeys := List.replicate left none } nodeId [] left where
  ids _ := rfl
  indices _ _ := by simp
  own i := by simp only [List.getElem?_nil, Option.map_none, reduceCtorEq]
  keys := rfl

/-- The id of an entry among `nodes` and one more. -/
theorem getElem?_snoc_id (node : SchainNode) (i id : Nat) :
    (nodes ++ [node])[i]?.map SchainNode.id = some id ↔
      nodes[i]?.map SchainNode.id = some id ∨ i = nodes.length ∧ node.id = id := by
  rcases Nat.lt_trichotomy i nodes.length with below | rfl | above
  · rw [List.getElem?_append_left below]
    simp [below.ne]
  · simp
  · have beyond : (nodes ++ [node]).length ≤ i := by
      rw [List.length_append]
      exact above
    rw [List.getElem?_eq_none beyond, List.getElem?_eq_none above.le]
    simp [above.ne']

theorem Reflects.enter (reflects : tables.Reflects nodeId nodes (left + 1)) {node : SchainNode}
    (fresh : node.id ∉ nodes.map SchainNode.id) :
    (tables.enter nodeId nodes.length node).Reflects nodeId (nodes ++ [node]) left := by
  have unmet : ∀ i : Nat, nodes[i]?.map SchainNode.id ≠ some node.id := by
    intro i met
    obtain ⟨other, found, same⟩ := Option.map_eq_some_iff.mp met
    exact fresh (List.mem_map.mpr ⟨other, List.mem_of_getElem? found, same⟩)
  refine ⟨?ids, ?indices, ?own, ?keys⟩
  case ids =>
    intro i
    apply Option.ext
    intro id
    change Function.update tables.nodeIdsDkg nodes.length (some node.id) i = some id ↔ _
    rw [getElem?_snoc_id]
    by_cases last : i = nodes.length
    · subst last
      simp
    · rw [Function.update_of_ne last, reflects.ids]
      simp [last]
  case indices =>
    intro id i
    change Function.update tables.nodeIdsContract node.id (some nodes.length) id = some i ↔ _
    rw [getElem?_snoc_id]
    by_cases same : id = node.id
    · subst same
      rw [Function.update_self]
      simp [unmet i, eq_comm]
    · rw [Function.update_of_ne same, reflects.indices]
      simp [Ne.symm same]
  case own =>
    intro i
    change (if node.id = nodeId then (nodes.length : Int) else tables.nodeIdDkg) = i ↔ _
    rw [getElem?_snoc_id]
    split
    · rename_i same
      subst same
      simp only [unmet i, false_or, and_true]
      omega
    · rename_i apart
      rw [reflects.own]
      simp [apart]
  case keys =>
    change tables.publicKeys.set nodes.length (some node.publicKey) = _
    rw [reflects.keys]
    simp [List.replicate_succ]

theorem enterNodes_reflects (schainName : String) {rest : List SchainNode}
    (reflects : tables.Reflects nodeId nodes rest.length)
    (distinct : ((nodes ++ rest).map SchainNode.id).Nodup) :
    ∃ filled, enterNodes schainName nodeId nodes.length (rest.map some) tables = .ok filled ∧
      filled.Reflects nodeId (nodes ++ rest) 0 := by
  induction rest generalizing nodes tables with
  | nil =>
      rw [List.append_nil]
      exact ⟨tables, rfl, reflects⟩
  | cons node rest ih =>
      have fresh : node.id ∉ nodes.map SchainNode.id := by
        rw [List.map_append, List.nodup_append'] at distinct
        intro member
        exact distinct.2.2 member (by simp)
      have split : nodes ++ node :: rest = nodes ++ [node] ++ rest := by simp
      rw [split] at distinct ⊢
      obtain ⟨filled, entered, reflectsAll⟩ := ih (reflects.enter fresh) distinct
      rw [List.length_append] at entered
      exact ⟨filled, entered, reflectsAll⟩

/-- The two maps are inverse to each other, between the indices of `nodes` and their ids. -/
structure Inverse (tables : NodeTables) (nodes : List SchainNode) : Prop where
  inverse : ∀ id i, tables.nodeIdsContract id = some i ↔ tables.nodeIdsDkg i = some id
  indices : ∀ i, (tables.nodeIdsDkg i).isSome ↔ i < nodes.length
  ids : ∀ id, (tables.nodeIdsContract id).isSome ↔ id ∈ nodes.map SchainNode.id

theorem Reflects.inverse (reflects : tables.Reflects nodeId nodes left) :
    tables.Inverse nodes where
  inverse id i := by rw [reflects.indices, reflects.ids]
  indices i := by
    rw [reflects.ids, Option.isSome_map]
    simp
  ids id := by
    rw [Option.isSome_iff_exists]
    constructor
    · intro ⟨i, found⟩
      obtain ⟨node, at', same⟩ := Option.map_eq_some_iff.mp ((reflects.indices id i).mp found)
      exact List.mem_map.mpr ⟨node, List.mem_of_getElem? at', same⟩
    · intro member
      obtain ⟨node, member, same⟩ := List.mem_map.mp member
      obtain ⟨i, at'⟩ := List.mem_iff_getElem?.mp member
      refine ⟨i, (reflects.indices id i).mpr ?_⟩
      rw [at', Option.map_some, same]

structure Makes {n : Nat} (tables : NodeTables) (client : DKGClient n) : Prop where
  node : tables.nodeIdDkg = client.nodeIdDkg.val
  ids : ∀ index : Fin n, tables.nodeIdsDkg index = some (client.group.nodeIdsDkg index)
  keys : tables.publicKeys = client.publicKeys.map some

theorem Makes.nodeIdsContract {client : DKGClient nodes.length} (makes : tables.Makes client)
    (inverse : tables.Inverse nodes) (id : Nat) :
    tables.nodeIdsContract id = (client.group.nodeIdsContract id).map Fin.val := by
  apply Option.ext
  intro i
  rw [inverse.inverse, Option.map_eq_some_iff]
  constructor
  · intro found
    have bound : i < nodes.length := (inverse.indices i).mp (by rw [found]; rfl)
    refine ⟨⟨i, bound⟩, ?_, rfl⟩
    rw [Group.nodeIdsContract_eq_some]
    exact Option.some.inj ((makes.ids ⟨i, bound⟩).symm.trans found)
  · rintro ⟨index, found, rfl⟩
    rw [makes.ids, Group.nodeIdsContract_eq_some.mp found]

theorem initDkgClient_reflects (schainName : String)
    (distinct : (nodes.map SchainNode.id).Nodup)
    (member : nodeId ∈ nodes.map SchainNode.id) :
    ∃ tables, initDkgClient schainName (nodes.map some) nodeId = .ok tables ∧
      tables.Reflects nodeId nodes 0 := by
  have start : Reflects { publicKeys := List.replicate nodes.length none } nodeId []
      nodes.length := reflects_start
  obtain ⟨tables, entered, reflects⟩ :=
    enterNodes_reflects schainName start (by simpa using distinct)
  refine ⟨tables, ?_, reflects⟩
  obtain ⟨i, found⟩ := Option.isSome_iff_exists.mp ((reflects.inverse.ids nodeId).mpr member)
  have own : tables.nodeIdDkg = i :=
    (reflects.own i).mpr ((reflects.indices nodeId i).mp found)
  have entered' : enterNodes schainName nodeId 0 (nodes.map some)
      { publicKeys := List.replicate (nodes.map some).length none } = .ok tables := by
    rw [List.length_map]
    exact entered
  have met : tables.nodeIdDkg ≠ -1 := by omega
  simp only [initDkgClient, entered', Bind.bind, Except.bind, if_neg met]

end NodeTables

end SkaleAdmin.Dkg
