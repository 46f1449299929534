import SkaleAdmin.Core.Register
import SkaleAdmin.Library.Interleaving
import Mathlib.Data.List.Nodup
import Mathlib.Order.Basic

/-! Calls of `Node.register` that may be interrupted anywhere. -/

namespace SkaleAdmin.Core

open Interaction PyText
open Interaction.Procedure (Sketch sketch_bind sketch_pure sketch_raise sketch_invoke
  sketch_attempt)

/-! ### The contract -/

section Contract

variable {Bytes PublicKey : Type} [DecidableEq Bytes]

/-- A name or an ip that is taken is rejected. -/
def accepts (nodes : List (NodeData Bytes PublicKey)) (node : NodeData Bytes PublicKey) : Bool :=
  nodes.all fun other => other.name ≠ node.name && other.ip ≠ node.ip

def nodeNameToIndex (nodes : List (NodeData Bytes PublicKey)) (name : Text) : Nat :=
  (nodes.findIdx? fun node => node.name = name).getD 0

/-- No two nodes of the contract share a name. -/
def Distinct (nodes : List (NodeData Bytes PublicKey)) : Prop :=
  (nodes.map NodeData.name).Nodup

variable {nodes : List (NodeData Bytes PublicKey)} {node : NodeData Bytes PublicKey}

theorem ne_of_accepts (accepted : accepts nodes node = true) {other : NodeData Bytes PublicKey}
    (member : other ∈ nodes) : other.name ≠ node.name := by
  have apart := List.all_eq_true.mp accepted other member
  rw [Bool.and_eq_true, decide_eq_true_eq] at apart
  exact apart.1

theorem distinct_append (distinct : Distinct nodes) (accepted : accepts nodes node = true) :
    Distinct (nodes ++ [node]) := by
  unfold Distinct at *
  rw [List.map_append, List.nodup_append]
  refine ⟨distinct, List.nodup_singleton _, ?_⟩
  intro name member other last
  obtain ⟨earlier, listed, rfl⟩ := List.mem_map.mp member
  rw [List.map_singleton, List.mem_singleton] at last
  rw [last]
  exact ne_of_accepts accepted listed

omit [DecidableEq Bytes] in
theorem nodeNameToIndex_eq (distinct : Distinct nodes) {nodeId : Nat}
    (found : nodes[nodeId]? = some node) : nodeNameToIndex nodes node.name = nodeId := by
  obtain ⟨within, same⟩ := List.getElem?_eq_some_iff.mp found
  have first : nodes.findIdx? (fun other => other.name = node.name) = some nodeId := by
    rw [List.findIdx?_eq_some_iff_getElem]
    refine ⟨within, ?_, ?_⟩
    · simp [same]
    · intro other before
      have apart := List.pairwise_iff_getElem.mp distinct other nodeId
        (by simpa using Nat.lt_trans before within) (by simpa using within) before
      simpa [same] using apart
  rw [nodeNameToIndex, first]
  rfl

end Contract

/-! ### The world of the calls -/

/-- `pending` are the transactions of calls that did not wait for them to the end; they may
be mined later. -/
structure NodeWorld (Bytes PublicKey : Type) where
  nodes : List (NodeData Bytes PublicKey)
  pending : List (NodeData Bytes PublicKey) := []
  config : NodeConfig := {}
  /-- How many `create_node` transactions of `register` succeeded. -/
  created : Nat := 0
  responses : List Response := []

/-- Others register nodes, and transactions that are pending are mined or rejected. -/
inductive NodeMove (Bytes PublicKey : Type) where
  | register (node : NodeData Bytes PublicKey)
  | mine (position : Nat)

section World

variable {Bytes PublicKey Address : Type} [DecidableEq Bytes]

def NodeWorld.move (world : NodeWorld Bytes PublicKey) :
    NodeMove Bytes PublicKey → Option (NodeWorld Bytes PublicKey)
  | .register node =>
      if accepts world.nodes node then some { world with nodes := world.nodes ++ [node] }
      else none
  | .mine position =>
      match world.pending[position]? with
      | none => none
      | some node =>
          let pending := world.pending.eraseIdx position
          if accepts world.nodes node then
            some { world with
              pending, nodes := world.nodes ++ [node], created := world.created + 1 }
          else
            some { world with pending }

/-- A call that does not fail answers as the world is. -/
def replyOf {α : Type} (value : α) : Except NodeError α → Except NodeError α
  | .ok _ => .ok value
  | .error error => .error error

/-- A call that does not fail changes the world. -/
def changeOf {α : Type} (world changed : NodeWorld Bytes PublicKey) :
    Except NodeError α → NodeWorld Bytes PublicKey
  | .ok _ => changed
  | .error _ => world

def Node.data (self : Node Bytes PublicKey Address) (ip name : Text) :
    NodeData Bytes PublicKey where
  name := name
  ip := self.conversions.ipToBytes ip
  publicKey := self.publicKey

/-- `InvalidNodeIdError` is raised for the nodes that the contract does not have. -/
def NodeWorld.serveNodesGet (world : NodeWorld Bytes PublicKey) (nodeId : Nat) :
    Except NodeError (NodeData Bytes PublicKey) →
      Option (Except NodeError (NodeData Bytes PublicKey))
  | .ok _ => some ((world.nodes[nodeId]?).elim (.error .invalidNodeIdError) .ok)
  | .error .invalidNodeIdError =>
      if world.nodes[nodeId]?.isSome then none else some (.error .invalidNodeIdError)
  | .error error => some (.error error)

/-- A transaction that was sent may still be pending when the call fails, unless it was
rejected. -/
def NodeWorld.serveCreateNode (world : NodeWorld Bytes PublicKey)
    (node : NodeData Bytes PublicKey) :
    Except NodeError Unit → Option (Except NodeError Unit × NodeWorld Bytes PublicKey)
  | .ok () =>
      if accepts world.nodes node then
        some (.ok (), { world with nodes := world.nodes ++ [node], created := world.created + 1 })
      else
        none
  | .error .transactionLogicError => some (.error .transactionLogicError, world)
  | .error error => some (.error error, { world with pending := world.pending ++ [node] })

def NodeWorld.serve (self : Node Bytes PublicKey Address) (world : NodeWorld Bytes PublicKey) :
    (query : NodeQuery) → Except NodeError (query.Reply Bytes PublicKey) →
      Option (Except NodeError (query.Reply Bytes PublicKey) × NodeWorld Bytes PublicKey)
  | .getId, proposed => some (replyOf world.config.id proposed, world)
  | .setId nodeId, proposed =>
      some (proposed, changeOf world
        { world with config := { world.config with id := some nodeId } } proposed)
  | .setName nodeName, proposed =>
      some (proposed, changeOf world
        { world with config := { world.config with name := some nodeName } } proposed)
  | .setIp ip, proposed =>
      some (proposed, changeOf world
        { world with config := { world.config with ip := some ip } } proposed)
  | .all, proposed => some (replyOf world.config proposed, world)
  | .nodeNameToIndex name, proposed =>
      some (replyOf (nodeNameToIndex world.nodes name) proposed, world)
  | .nodesGet nodeId, proposed =>
      (world.serveNodesGet nodeId proposed).map fun answer => (answer, world)
  | .checkRequiredBalance, proposed => some (proposed, world)
  | .isNodeNameAvailable name, proposed =>
      some (replyOf (world.nodes.all fun node => node.name ≠ name) proposed, world)
  | .isNodeIpAvailable ip, proposed =>
      some (replyOf
        (world.nodes.all fun node => node.ip ≠ self.conversions.ipToBytes ip) proposed, world)
  | .createNode ip name _, proposed => world.serveCreateNode (self.data ip name) proposed
  | .updateMonitoringServices _ _, proposed => some (proposed, world)
  | .respond response, proposed =>
      some (proposed, changeOf world
        { world with responses := world.responses ++ [response] } proposed)

variable [DecidableEq Address]

def Node.handle (self : Node Bytes PublicKey Address) (ip name : Text) (options : Options) :
    NodeM Bytes PublicKey Unit := do
  let response ← self.register ip name options
  call (.respond response)

/-- The requests have the same name, ip and wallet; `stop` interrupts one anywhere. -/
def Node.host (self : Node Bytes PublicKey Address) (ip name : Text) :
    Host (nodeInterface Bytes PublicKey) (NodeWorld Bytes PublicKey)
      (NodeMove Bytes PublicKey) Options (Outcome NodeError Unit × Unit) where
  move := NodeWorld.move
  serve query proposed world := world.serve self query proposed
  job options := self.handle ip name options ()

/-! ### What holds between the calls -/

section Invariant

omit [DecidableEq Bytes] [DecidableEq Address]

/-- The contract has a node with the name and the wallet under the id. -/
def IsNodeAt (self : Node Bytes PublicKey Address) (name : Text) (nodeId : Nat)
    (world : NodeWorld Bytes PublicKey) : Prop :=
  ∃ node, world.nodes[nodeId]? = some node ∧ node.name = name ∧
    self.conversions.publicKeyToAddress node.publicKey = self.address

def Owned (self : Node Bytes PublicKey Address) (name : Text)
    (world : NodeWorld Bytes PublicKey) : Prop :=
  ∃ nodeId, IsNodeAt self name nodeId world

/-- The config has the id of the node. -/
def Stored (self : Node Bytes PublicKey Address) (name : Text)
    (world : NodeWorld Bytes PublicKey) : Prop :=
  ∃ nodeId, world.config.id = some nodeId ∧ IsNodeAt self name nodeId world

structure Safe (own : Node Bytes PublicKey Address) (name : Text)
    (world : NodeWorld Bytes PublicKey) : Prop where
  distinct : Distinct world.nodes
  pending : ∀ node ∈ world.pending, node.name = name
  once : world.created ≤ 1
  taken : 0 < world.created → ∃ node ∈ world.nodes, node.name = name
  stored : ∀ data, .ok data ∈ world.responses → Stored own name world

/-- The contract loses no node, and the id in the config stays. -/
structure Grows (world world' : NodeWorld Bytes PublicKey) : Prop where
  nodes : world.nodes <+: world'.nodes
  id : world'.config.id = world.config.id

def Lasting (assertion : NodeWorld Bytes PublicKey → Prop) : Prop :=
  ∀ ⦃world world' : NodeWorld Bytes PublicKey⦄,
    Grows world world' → assertion world → assertion world'

variable {self : Node Bytes PublicKey Address} {ip name : Text} {nodeId : Nat}
  {world world' : NodeWorld Bytes PublicKey} {node : NodeData Bytes PublicKey}

theorem lasting_true : Lasting fun _ : NodeWorld Bytes PublicKey => True :=
  fun _ _ _ _ => trivial

theorem lasting_of_fact {fact : Prop} {assertion : NodeWorld Bytes PublicKey → Prop}
    (lasting : Lasting assertion) : Lasting fun world => fact → assertion world :=
  fun _ _ grows holds known => lasting grows (holds known)

theorem lasting_getElem : Lasting fun world => world.nodes[nodeId]? = some node := by
  intro world world' grows found
  obtain ⟨within, _⟩ := List.getElem?_eq_some_iff.mp found
  obtain ⟨more, split⟩ := grows.nodes
  rw [← split, List.getElem?_append_left within]
  exact found

theorem lasting_isNodeAt : Lasting (IsNodeAt self name nodeId) := by
  rintro world world' grows ⟨node, found, named⟩
  exact ⟨node, lasting_getElem grows found, named⟩

theorem lasting_owned : Lasting (Owned self name) := by
  rintro world world' grows ⟨nodeId, isNode⟩
  exact ⟨nodeId, lasting_isNodeAt grows isNode⟩

theorem lasting_stored : Lasting (Stored self name) := by
  rintro world world' grows ⟨nodeId, saved, isNode⟩
  refine ⟨nodeId, ?_, lasting_isNodeAt grows isNode⟩
  rw [grows.id]
  exact saved

theorem grows_append (nodes : List (NodeData Bytes PublicKey))
    (same : world'.nodes = world.nodes ++ nodes) (id : world'.config.id = world.config.id) :
    Grows world world' :=
  ⟨⟨nodes, same.symm⟩, id⟩

/-- Nothing has changed that `Safe` speaks of. -/
structure Quiet (world world' : NodeWorld Bytes PublicKey) : Prop where
  nodes : world'.nodes = world.nodes
  pending : world'.pending = world.pending
  created : world'.created = world.created
  responses : world'.responses = world.responses
  id : world'.config.id = world.config.id

theorem Quiet.refl (world : NodeWorld Bytes PublicKey) : Quiet world world :=
  ⟨rfl, rfl, rfl, rfl, rfl⟩

theorem Quiet.grows (quiet : Quiet world world') : Grows world world' :=
  grows_append [] (by simp [quiet.nodes]) quiet.id

theorem Safe.of_quiet (safe : Safe self name world) (quiet : Quiet world world') :
    Safe self name world' where
  distinct := by
    rw [quiet.nodes]
    exact safe.distinct
  pending := by
    rw [quiet.pending]
    exact safe.pending
  once := by
    rw [quiet.created]
    exact safe.once
  taken := by
    rw [quiet.created, quiet.nodes]
    exact safe.taken
  stored data := by
    rw [quiet.responses]
    intro answered
    exact lasting_stored quiet.grows (safe.stored data answered)

/-- The transaction that creates the node can only succeed while none has its name. -/
theorem Safe.unregistered [DecidableEq Bytes] (safe : Safe self name world)
    (accepted : accepts world.nodes node = true) (named : node.name = name) :
    world.created = 0 := by
  by_contra created
  obtain ⟨other, member, same⟩ := safe.taken (Nat.pos_of_ne_zero created)
  exact ne_of_accepts accepted member (same.trans named.symm)

theorem Safe.append [DecidableEq Bytes] (safe : Safe self name world)
    (accepted : accepts world.nodes node = true) (nodes : world'.nodes = world.nodes ++ [node])
    (id : world'.config.id = world.config.id)
    (pending : ∀ other ∈ world'.pending, other ∈ world.pending)
    (responses : world'.responses = world.responses)
    (created : world'.created = world.created ∨
      world'.created = world.created + 1 ∧ node.name = name) :
    Safe self name world' where
  distinct := by
    rw [nodes]
    exact distinct_append safe.distinct accepted
  pending other member := safe.pending other (pending other member)
  once := by
    rcases created with same | ⟨more, named⟩
    · rw [same]
      exact safe.once
    · exact Nat.le_of_eq (by rw [more, safe.unregistered accepted named])
  taken positive := by
    rw [nodes]
    rcases created with same | ⟨_, named⟩
    · rw [same] at positive
      obtain ⟨other, member, taken⟩ := safe.taken positive
      exact ⟨other, List.mem_append_left _ member, taken⟩
    · exact ⟨node, List.mem_append_right _ (List.mem_singleton_self node), named⟩
  stored data := by
    rw [responses]
    intro answered
    exact lasting_stored (grows_append [node] nodes id) (safe.stored data answered)

end Invariant

/-! ### What a move or a call does -/

section Steps

variable {self : Node Bytes PublicKey Address} {ip name : Text}
  {world world' : NodeWorld Bytes PublicKey}

omit [DecidableEq Address]

theorem moved_grows {move : NodeMove Bytes PublicKey} (taken : world.move move = some world') :
    Grows world world' := by
  cases move with
  | register node =>
      rw [NodeWorld.move] at taken
      split at taken
      · cases taken
        exact grows_append [node] rfl rfl
      · cases taken
  | mine position =>
      rw [NodeWorld.move] at taken
      split at taken
      · cases taken
      · rename_i node _
        split at taken
        · cases taken
          exact grows_append [node] rfl rfl
        · cases taken
          exact grows_append [] (List.append_nil _).symm rfl

theorem moved_safe {move : NodeMove Bytes PublicKey} (safe : Safe self name world)
    (taken : world.move move = some world') : Safe self name world' := by
  cases move with
  | register node =>
      rw [NodeWorld.move] at taken
      split at taken
      · rename_i accepted
        cases taken
        exact safe.append accepted rfl rfl (fun _ member => member) rfl (.inl rfl)
      · cases taken
  | mine position =>
      rw [NodeWorld.move] at taken
      split at taken
      · cases taken
      · rename_i node waiting
        have named := safe.pending node (List.mem_of_getElem? waiting)
        split at taken
        · rename_i accepted
          cases taken
          exact safe.append accepted rfl rfl (fun _ member => List.mem_of_mem_eraseIdx member)
            rfl (.inr ⟨rfl, named⟩)
        · cases taken
          exact {
            distinct := safe.distinct
            pending := fun other member =>
              safe.pending other (List.mem_of_mem_eraseIdx member)
            once := safe.once
            taken := safe.taken
            stored := safe.stored }

def NodeQuery.isPlain : NodeQuery → Bool
  | .setId _ | .createNode _ _ _ | .respond _ => false
  | _ => true

theorem quiet_of_plain {query : NodeQuery} (plain : query.isPlain = true)
    {proposed answer : Except NodeError (query.Reply Bytes PublicKey)}
    (served : world.serve self query proposed = some (answer, world')) :
    Quiet world world' := by
  have same : ∀ {given : Except NodeError (query.Reply Bytes PublicKey)},
      some (given, world) = some (answer, world') → Quiet world world' := by
    intro given equal
    cases equal
    exact .refl world
  cases query with
  | setId nodeId => cases plain
  | createNode ip name options => cases plain
  | respond response => cases plain
  | setName nodeName =>
      cases proposed with
      | ok reply =>
          cases served
          exact ⟨rfl, rfl, rfl, rfl, rfl⟩
      | error error =>
          cases served
          exact .refl world
  | setIp ip =>
      cases proposed with
      | ok reply =>
          cases served
          exact ⟨rfl, rfl, rfl, rfl, rfl⟩
      | error error =>
          cases served
          exact .refl world
  | nodesGet nodeId =>
      obtain ⟨given, _, equal⟩ := Option.map_eq_some_iff.mp served
      exact same (congrArg some equal)
  | _ => exact same served

theorem created_safe (safe : Safe self name world)
    {proposed answer : Except NodeError Unit}
    (served : world.serveCreateNode (self.data ip name) proposed = some (answer, world')) :
    Safe self name world' ∧ ∀ reply, answer = .ok reply → Owned self name world' := by
  cases proposed with
  | ok reply =>
      rw [NodeWorld.serveCreateNode] at served
      split at served
      · rename_i accepted
        cases served
        refine ⟨safe.append accepted rfl rfl (fun _ member => member) rfl (.inr ⟨rfl, rfl⟩), ?_⟩
        intro _ _
        exact ⟨world.nodes.length, self.data ip name, by simp, rfl, rfl⟩
      · cases served
  | error error =>
      have sent : Safe self name
          { world with pending := world.pending ++ [self.data ip name] } := by
        refine { safe with pending := ?_ }
        intro node member
        rcases List.mem_append.mp member with earlier | last
        · exact safe.pending node earlier
        · rw [List.mem_singleton.mp last]
          rfl
      cases error with
      | transactionLogicError =>
          cases served
          exact ⟨safe, nofun⟩
      | invalidNodeIdError =>
          cases served
          exact ⟨sent, nofun⟩
      | otherError =>
          cases served
          exact ⟨sent, nofun⟩

end Steps

/-! ### The outline of a request -/

section Outline

variable {self : Node Bytes PublicKey Address} {ip name : Text} {options : Options}

/-- What the code relies on after it, where the invariant is kept and nothing is assumed. -/
abbrev Keeps {α : Type} (self : Node Bytes PublicKey Address)
    (ip name : Text) (before : NodeWorld Bytes PublicKey → Prop) (body : NodeM Bytes PublicKey α)
    (value : α → NodeWorld Bytes PublicKey → Prop) : Prop :=
  Sketch (self.host ip name) {} (Safe self name) before body value fun _ _ => True

theorem Lasting.stable {assertion : NodeWorld Bytes PublicKey → Prop}
    (lasting : Lasting assertion) :
    (self.host ip name).Stable {} (Safe self name) assertion := by
  intro world moved move _ holds _ taken
  exact lasting (moved_grows taken) holds

variable {before : NodeWorld Bytes PublicKey → Prop}

theorem keeps_call {query : NodeQuery} (plain : query.isPlain = true) (lasting : Lasting before)
    {value : query.Reply Bytes PublicKey → NodeWorld Bytes PublicKey → Prop}
    (valueLasting : ∀ reply, Lasting (value reply))
    (answers : ∀ world proposed reply world', Safe self name world → before world' →
      world.serve self query proposed = some (.ok reply, world') → value reply world') :
    Keeps self ip name before (call query) value := by
  apply sketch_invoke lasting.stable
  · intro world world' proposed answer safe holds _ served
    have quiet := quiet_of_plain plain served
    refine ⟨safe.of_quiet quiet, ?_⟩
    cases answer with
    | ok reply => exact answers world proposed reply world' safe (lasting quiet.grows holds) served
    | error error => trivial
  · intro reply
    exact (valueLasting reply).stable
  · intro _
    exact Host.stable_true

theorem keeps_plain {query : NodeQuery} (plain : query.isPlain = true)
    (lasting : Lasting before) :
    Keeps self ip name before (call query) fun _ => before :=
  keeps_call plain lasting (fun _ => lasting) fun _ _ _ _ _ holds _ => holds

theorem keeps_bind {α β : Type} {first : NodeM Bytes PublicKey β}
    {next : β → NodeM Bytes PublicKey α}
    {value : α → NodeWorld Bytes PublicKey → Prop}
    (middle : β → NodeWorld Bytes PublicKey → Prop)
    (keeps : Keeps self ip name before first middle)
    (rest : ∀ result, Keeps self ip name (middle result) (next result) value) :
    Keeps self ip name before (first >>= next) value :=
  sketch_bind keeps rest fun _ => Host.stable_true

theorem keeps_pure {α : Type} {result : α} {value : α → NodeWorld Bytes PublicKey → Prop}
    (lasting : Lasting before) (ends : ∀ world, before world → value result world) :
    Keeps self ip name before (pure result) value :=
  sketch_pure lasting.stable fun world _ => ends world

theorem getNodeData_keeps (nodeId : Nat) :
    Keeps self ip name (fun _ => True) (Node.getNodeData nodeId) fun result world =>
      ∀ node, result = some node → world.nodes[nodeId]? = some node := by
  have lasting : ∀ result : Option (NodeData Bytes PublicKey),
      Lasting fun world => ∀ node, result = some node → world.nodes[nodeId]? = some node :=
    fun _ _ _ grows holds node same => lasting_getElem grows (holds node same)
  apply sketch_attempt fun _ _ => True
  · apply keeps_bind fun node world => world.nodes[nodeId]? = some node
    · apply keeps_call rfl lasting_true fun _ => lasting_getElem
      intro world proposed reply world' _ _ served
      have quiet := quiet_of_plain rfl served
      obtain ⟨given, answered, same⟩ := Option.map_eq_some_iff.mp served
      cases same
      rw [NodeWorld.serveNodesGet.eq_def] at answered
      cases proposed with
      | ok other =>
          cases found : world.nodes[nodeId]? with
          | none => simp [found] at answered
          | some node => simpa [found] using answered
      | error error => cases error <;> simp at answered
    · intro node
      apply keeps_pure lasting_getElem
      rintro world found other ⟨⟩
      exact found
  · intro error clause handled
    cases error with
    | invalidNodeIdError =>
        cases handled
        exact keeps_pure lasting_true nofun
    | transactionLogicError => cases handled
    | otherError => cases handled
  · intro _ _ _ _
    trivial
  · intro result
    exact (lasting result).stable
  · intro _
    exact Host.stable_true

def OwnedIf (self : Node Bytes PublicKey Address) (name : Text) (nodeId : Int)
    (world : NodeWorld Bytes PublicKey) : Prop :=
  0 ≤ nodeId → Owned self name world

theorem getNodeIdFromContracts_keeps :
    Keeps self ip name (fun _ => True) (self.getNodeIdFromContracts name ip)
      (OwnedIf self name) := by
  apply keeps_bind _ (keeps_plain rfl lasting_true)
  intro nodeId
  apply keeps_bind _ (getNodeData_keeps nodeId)
  intro result
  cases result with
  | none =>
      apply keeps_pure
      · intro world world' _ _ node absurdity
        cases absurdity
      · intro world _ negative
        exact absurd negative (by decide)
  | some node =>
      have lasting : Lasting fun world : NodeWorld Bytes PublicKey =>
          ∀ other, some node = some other → world.nodes[nodeId]? = some other :=
        fun _ _ grows holds other same => lasting_getElem grows (holds other same)
      change Keeps self ip name _ (if self.isOwn name ip node then pure _ else pure _) _
      split
      · rename_i own
        apply keeps_pure lasting
        intro world found _
        have same := of_decide_eq_true own
        exact ⟨nodeId, node, found node rfl, same.2.1.symm, same.1⟩
      · apply keeps_pure lasting
        intro world _ negative
        exact absurd negative (by decide)

theorem createNode_keeps :
    Keeps self ip name (fun _ => True) (Node.createNode ip name options)
      fun created world => created = true → Owned self name world := by
  have lasting : ∀ created : Bool, Lasting fun world => created = true → Owned self name world :=
    fun _ => lasting_of_fact lasting_owned
  apply sketch_attempt fun _ _ => True
  · apply keeps_bind fun _ => Owned self name
    · apply sketch_invoke Host.stable_true
      · intro world world' proposed answer safe _ _ served
        obtain ⟨safe', owned⟩ := created_safe safe served
        refine ⟨safe', ?_⟩
        cases answer with
        | ok reply => exact owned reply rfl
        | error error => trivial
      · intro _
        exact lasting_owned.stable
      · intro _
        exact Host.stable_true
    · intro _
      exact keeps_pure lasting_owned fun _ owned _ => owned
  · intro error clause handled
    cases error with
    | transactionLogicError =>
        cases handled
        exact keeps_pure lasting_true nofun
    | invalidNodeIdError => cases handled
    | otherError => cases handled
  · intro _ _ _ _
    trivial
  · intro created
    exact (lasting created).stable
  · intro _
    exact Host.stable_true

theorem createNodeOnContracts_keeps :
    Keeps self ip name (fun _ => True) (Node.createNodeOnContracts ip name options)
      (OwnedIf self name) := by
  apply keeps_bind _ createNode_keeps
  intro created
  cases created with
  | true =>
      apply keeps_bind fun _ => Owned self name
      · apply Sketch.strengthen (keeps_plain rfl lasting_owned)
        · exact (lasting_of_fact lasting_owned).stable
        · intro world _ owned
          exact owned rfl
      · intro nodeId
        exact keeps_pure lasting_owned fun _ owned _ => owned
  | false =>
      apply keeps_pure (lasting_of_fact lasting_owned)
      intro world _ negative
      exact absurd negative (by decide)

def Truthful (self : Node Bytes PublicKey Address) (name : Text) (response : Response)
    (world : NodeWorld Bytes PublicKey) : Prop :=
  ∀ data, response = .ok data → Stored self name world

theorem saveNode_keeps :
    Keeps self ip name (Owned self name) (Node.saveNode name ip options)
      (Truthful self name) := by
  apply keeps_bind fun nodeId => IsNodeAt self name nodeId
  · apply keeps_call rfl lasting_owned fun _ => lasting_isNodeAt
    intro world proposed reply world' safe owned served
    cases proposed with
    | error error => cases served
    | ok other =>
        cases served
        obtain ⟨nodeId, node, found, named, own⟩ := owned
        have index := nodeNameToIndex_eq safe.distinct found
        rw [named] at index
        exact ⟨node, by rw [index, found], named, own⟩
  intro nodeId
  apply keeps_bind fun _ => Stored self name
  · apply sketch_invoke lasting_isNodeAt.stable
    · intro world world' proposed answer safe isNode _ served
      cases proposed with
      | error error =>
          cases served
          exact ⟨safe, trivial⟩
      | ok reply =>
          cases served
          have stored : Stored self name
              { world with config := { world.config with id := some nodeId } } :=
            ⟨nodeId, rfl, isNode⟩
          exact ⟨{ safe with stored := fun _ _ => stored }, stored⟩
    · intro _
      exact lasting_stored.stable
    · intro _
      exact Host.stable_true
  intro _
  apply keeps_bind _ (keeps_plain rfl lasting_stored)
  intro _
  apply keeps_bind _ (keeps_plain rfl lasting_stored)
  intro _
  apply keeps_bind _ (keeps_plain rfl lasting_stored)
  intro configId
  apply keeps_bind _ (keeps_plain rfl lasting_stored)
  intro _
  apply keeps_bind _ (keeps_plain rfl lasting_stored)
  intro data
  exact keeps_pure lasting_stored fun _ stored _ _ => stored

theorem keeps_error (errMsg : Text) (lasting : Lasting before) :
    Keeps self ip name before (pure (.error errMsg)) (Truthful self name) :=
  keeps_pure lasting fun _ _ _ absurdity => nomatch absurdity

theorem createAndSave_keeps :
    Keeps self ip name (fun _ => True) (Node.createAndSave ip name options)
      (Truthful self name) := by
  apply keeps_bind _ (keeps_plain rfl lasting_true)
  intro balance
  split
  · exact keeps_error _ lasting_true
  apply keeps_bind _ (keeps_plain rfl lasting_true)
  intro nameAvailable
  split
  · exact keeps_error _ lasting_true
  apply keeps_bind _ (keeps_plain rfl lasting_true)
  intro ipAvailable
  split
  · exact keeps_error _ lasting_true
  apply keeps_bind _ createNodeOnContracts_keeps
  intro nodeId
  split
  · exact keeps_error _ (lasting_of_fact lasting_owned)
  · rename_i positive
    apply Sketch.strengthen saveNode_keeps (lasting_of_fact lasting_owned).stable
    intro world _ owned
    exact owned (Int.not_lt.mp positive)

theorem register_keeps :
    Keeps self ip name (fun _ => True) (self.register ip name options)
      (Truthful self name) := by
  apply keeps_bind _ (keeps_plain rfl lasting_true)
  intro configId
  split
  · apply keeps_bind _ (keeps_plain rfl lasting_true)
    intro nodeId
    exact keeps_error _ lasting_true
  · apply keeps_bind _ getNodeIdFromContracts_keeps
    intro nodeId
    split
    · apply Sketch.strengthen createAndSave_keeps (lasting_of_fact lasting_owned).stable
      intro _ _ _
      trivial
    · rename_i positive
      apply Sketch.strengthen saveNode_keeps (lasting_of_fact lasting_owned).stable
      intro world _ owned
      exact owned (Int.not_lt.mp positive)

theorem handle_keeps :
    Keeps self ip name (fun _ => True) (self.handle ip name options) fun _ _ => True := by
  apply keeps_bind _ register_keeps
  intro response
  have lasting : Lasting (Truthful self name response) :=
    fun _ _ grows truthful data same => lasting_stored grows (truthful data same)
  apply sketch_invoke lasting.stable
  · intro world world' proposed answer safe truthful _ served
    cases proposed with
    | error error =>
        cases served
        exact ⟨safe, trivial⟩
    | ok reply =>
        cases served
        refine ⟨{ safe with stored := ?_ }, trivial⟩
        intro data answered
        rcases List.mem_append.mp answered with earlier | last
        · exact safe.stored data earlier
        · exact truthful data (List.mem_singleton.mp last).symm
  · intro _
    exact Host.stable_true
  · intro _
    exact Host.stable_true

end Outline

/-- No request has been made yet; others may have registered nodes. -/
structure Untouched (world : NodeWorld Bytes PublicKey) : Prop where
  distinct : Distinct world.nodes
  pending : world.pending = []
  created : world.created = 0
  responses : world.responses = []

/-- However the requests are interrupted, the node is created once, and a request that
reports success has stored the id that the contract has for its name and wallet. -/
theorem register_crashSafe (self : Node Bytes PublicKey Address) (ip name : Text)
    (world : NodeWorld Bytes PublicKey) (untouched : Untouched world)
    (labels : List (Label (nodeInterface Bytes PublicKey) (NodeMove Bytes PublicKey) Options)) :
    Transition.Always (self.host ip name).step
      (fun config => config.world.created ≤ 1 ∧
        ∀ data, .ok data ∈ config.world.responses →
          ∃ nodeId node, config.world.config.id = some nodeId ∧
            config.world.nodes[nodeId]? = some node ∧ node.name = name ∧
            self.conversions.publicKeyToAddress node.publicKey = self.address ∧
            nodeNameToIndex config.world.nodes name = nodeId)
      { world } labels := by
  have start : Safe self name world := {
    distinct := untouched.distinct
    pending := by simp [untouched.pending]
    once := by simp [untouched.created]
    taken := by simp [untouched.created]
    stored := by simp [untouched.responses] }
  apply Host.always_of_outlines ?_ id ?_ ?_ start
    (Transition.eachStep_of_mem (fun config label _ => Host.meets_default config label) _)
  · intro world world' move safe _ taken
    exact moved_safe safe taken
  · intro world options safe _
    exact ⟨safe, fun _ => True, _, trivial, handle_keeps⟩
  · intro config safe
    refine ⟨safe.once, ?_⟩
    intro data answered
    obtain ⟨nodeId, saved, node, found, named, own⟩ := safe.stored data answered
    have index := nodeNameToIndex_eq safe.distinct found
    rw [named] at index
    exact ⟨nodeId, node, saved, found, named, own, index⟩

end World

/-! ### A request that is interrupted after the transaction -/

def sampleNode : Node (List Nat) Nat Nat where
  conversions := {
    ipToBytes := fun ip => (ip.splitOn '.').map fun part => ((parseInt 10 part).getD 0).toNat
    ipFromBytes := fun bytes => ".".toList.intercalate (bytes.map fun byte => str byte)
    publicKeyToAddress := fun publicKey => publicKey + 1 }
  publicKey := 2

def otherNode : NodeWorld (List Nat) Nat where
  nodes := [{ name := "first".toList, ip := [10, 0, 0, 1], publicKey := 1 }]

def unfailing : (query : NodeQuery) → Except NodeError (query.Reply (List Nat) Nat)
  | .getId => .ok none
  | .all => .ok {}
  | .nodeNameToIndex _ => .ok 0
  | .nodesGet _ => .ok { name := [], ip := [], publicKey := 0 }
  | .checkRequiredBalance | .isNodeNameAvailable _ | .isNodeIpAvailable _ => .ok true
  | .setId _ | .setName _ | .setIp _ | .createNode _ _ _ | .updateMonitoringServices _ _
  | .respond _ => .ok ()

def sampleOptions : Options where
  publicIp := "10.0.0.2".toList
  port := 10000
  domainName := "node".toList

def interruptedLabels :
    List (Label (nodeInterface (List Nat) Nat) (NodeMove (List Nat) Nat) Options) :=
  [.start sampleOptions] ++ List.replicate 7 (.call unfailing) ++
    [.stop, .start sampleOptions] ++ List.replicate 11 (.call unfailing)

theorem interrupted_crashSafe :
    ∃ last, Transition.play (sampleNode.host "10.0.0.2".toList "second".toList).step
        { world := otherNode } interruptedLabels = some last ∧
      last.world.created = 1 ∧
      ∃ nodeId node, last.world.config.id = some nodeId ∧
        last.world.nodes[nodeId]? = some node ∧ node.name = "second".toList ∧
        sampleNode.conversions.publicKeyToAddress node.publicKey = sampleNode.address ∧
        nodeNameToIndex last.world.nodes "second".toList = nodeId := by
  have ends : (Transition.play (sampleNode.host "10.0.0.2".toList "second".toList).step
      { world := otherNode } interruptedLabels).map
        (fun last => (last.world.created, last.world.responses)) =
      some (1, [.ok ⟨some 1, some "second".toList, some "10.0.0.2".toList⟩]) := by decide
  obtain ⟨last, played, same⟩ := Option.map_eq_some_iff.mp ends
  rw [Prod.mk.injEq] at same
  have safe := (register_crashSafe sampleNode "10.0.0.2".toList "second".toList otherNode
    ⟨List.nodup_singleton _, rfl, rfl, rfl⟩ interruptedLabels).at_play played
  refine ⟨last, played, same.1, safe.2 ⟨some 1, some "second".toList,
    some "10.0.0.2".toList⟩ ?_⟩
  rw [same.2]
  exact List.mem_singleton_self _

end SkaleAdmin.Core
