import SkaleAdmin.Library.Interleaving
import SkaleAdmin.Library.PyText
import Mathlib.Data.Char
import Mathlib.Data.List.Lex

/-! A pass of the cleaner, and the contracts while it goes on. -/

namespace SkaleAdmin.Cleaner

open Interaction PyText
open Interaction.Procedure (Sketch attempt sketch_pure sketch_bind sketch_invoke
  sketch_attempt)

/-- What a call raises. -/
inductive CleanerError where
  | otherError (message : String)

inductive CleanerQuery where
  | listSchainsDir
  | getAllSchainContainers
  | getSchainsNames
  | getSchainsForNode (nodeId : Nat)
  | isSchainExist (schainName : Text)
  | isRotationActive (schainName : Text)
  | getNodeIdsForSchain (schainName : Text)
  | removeSchain (schainName : Text)

@[reducible] def CleanerQuery.Reply : CleanerQuery → Type
  | listSchainsDir | getAllSchainContainers | getSchainsNames
  | getSchainsForNode _ => List Text
  | isSchainExist _ | isRotationActive _ => Bool
  | getNodeIdsForSchain _ => List Nat
  | removeSchain _ => Unit

abbrev cleanerInterface : Interface :=
  fallible CleanerQuery CleanerQuery.Reply CleanerError

abbrev CleanerM (α : Type) := Procedure cleanerInterface Unit CleanerError α

abbrev invoke (query : CleanerQuery) : CleanerM query.Reply :=
  Procedure.invoke query

/-- `text.replace(pattern, '', 1)`. -/
def removeFirst (pattern : Text) : Text → Text
  | [] => []
  | symbol :: rest =>
      if pattern.isPrefixOf (symbol :: rest) then (symbol :: rest).drop pattern.length
      else symbol :: removeFirst pattern rest

def getSchainsWithContainers : CleanerM (List Text) := do
  let names ← invoke .getAllSchainContainers
  return names.map (removeFirst "skale_schain_".toList)

/-- `sorted(merged_unique(..))`. -/
def getSchainsOnNode : CleanerM (List Text) := do
  let schainsWithDirs ← invoke .listSchainsDir
  let schainsWithContainer ← getSchainsWithContainers
  let schainsActiveRecords ← invoke .getSchainsNames
  let merged := (schainsWithDirs ++ schainsWithContainer ++ schainsActiveRecords).eraseDups
  return merged.mergeSort fun first second => first ≤ second

section Node

variable (nodeId : Nat)

def isNodePartOfChain (schainName : Text) : CleanerM Bool := do
  if ← invoke (.isSchainExist schainName) then
    let nodeIds ← invoke (.getNodeIdsForSchain schainName)
    return decide (nodeId ∈ nodeIds)
  else
    return false

def ensureSchainRemoved (schainName : Text) : CleanerM Unit := do
  if ← invoke (.isSchainExist schainName) then
    if ← invoke (.isRotationActive schainName) then
      return
    else
      if ← isNodePartOfChain nodeId schainName then return
      else invoke (.removeSchain schainName)
  else
    invoke (.removeSchain schainName)

def cleanOne (schainNamesOnContracts : List Text) (schainName : Text) :
    CleanerM Unit :=
  if schainName ∈ schainNamesOnContracts then pure ()
  else attempt (ensureSchainRemoved nodeId schainName) fun _ => some (pure ())

def cleanEach (schainNamesOnContracts : List Text) : List Text → CleanerM Unit
  | [] => pure ()
  | schainName :: rest => do
      cleanOne nodeId schainNamesOnContracts schainName
      cleanEach schainNamesOnContracts rest

def monitor : CleanerM Unit := do
  let schainsOnNode ← getSchainsOnNode
  let schainNamesOnContracts ← invoke (.getSchainsForNode nodeId)
  cleanEach nodeId schainNamesOnContracts schainsOnNode

end Node

/-! ### The contracts -/

structure Chain where
  nodes : List Nat
  rotationActive : Bool

structure Contracts where
  chains : List (Text × Chain)
  distinct : (chains.map Prod.fst).Nodup

namespace Contracts

variable (contracts : Contracts)

def find (schainName : Text) : Option Chain :=
  contracts.chains.lookup schainName

def schainsForNode (nodeId : Nat) : List Text :=
  (contracts.chains.filter fun entry => nodeId ∈ entry.2.nodes).map Prod.fst

def hasNode (schainName : Text) (nodeId : Nat) : Bool :=
  match contracts.find schainName with
  | some chain => nodeId ∈ chain.nodes
  | none => false

/-- The chain exists, and the node is in its group or it is rotated. -/
def serves (schainName : Text) (nodeId : Nat) : Bool :=
  match contracts.find schainName with
  | some chain => nodeId ∈ chain.nodes || chain.rotationActive
  | none => false

end Contracts

/-- `removed` lists the chains for which `remove_schain` was called. -/
structure CleanerWorld where
  contracts : Contracts
  removed : List Text := []

namespace CleanerWorld

def called (query : CleanerQuery) (world : CleanerWorld) : CleanerWorld :=
  match query with
  | .removeSchain schainName => { world with removed := schainName :: world.removed }
  | _ => world

def serve (query : CleanerQuery) (proposed : Except CleanerError query.Reply)
    (world : CleanerWorld) :
    Option (Except CleanerError query.Reply × CleanerWorld) :=
  let next := world.called query
  match query, proposed with
  | _, .error error => some (.error error, next)
  | .getSchainsForNode nodeId, .ok _ =>
      some (.ok (world.contracts.schainsForNode nodeId), next)
  | .isSchainExist schainName, .ok _ =>
      some (.ok (world.contracts.find schainName).isSome, next)
  | .isRotationActive schainName, .ok _ =>
      some (.ok ((world.contracts.find schainName).any Chain.rotationActive), next)
  | .getNodeIdsForSchain schainName, .ok _ =>
      some (.ok (((world.contracts.find schainName).map Chain.nodes).getD []), next)
  | _, .ok reply => some (.ok reply, next)

end CleanerWorld

/-- The contracts may change at any time. -/
def cleanerHost (nodeId : Nat) :
    Host cleanerInterface CleanerWorld Contracts Unit
      (Outcome CleanerError Unit × Unit) where
  move world contracts := some { world with contracts }
  serve := CleanerWorld.serve
  job _ := monitor nodeId ()

abbrev served (schainName : Text) (nodeId : Nat) :
    Host.Discipline cleanerInterface CleanerWorld Contracts Unit where
  move _ contracts := contracts.serves schainName nodeId = true

/-- Where the group of the chain is asked for, the node is in it. -/
def groupHolds (schainName : Text) (nodeId : Nat) (query : CleanerQuery)
    (_ : Except CleanerError query.Reply) (world : CleanerWorld) : Bool :=
  match query with
  | .getNodeIdsForSchain asked =>
      asked != schainName || world.contracts.hasNode schainName nodeId
  | _ => true

abbrev grouped (schainName : Text) (nodeId : Nat) :
    Host.Discipline cleanerInterface CleanerWorld Contracts Unit :=
  .ofTest (groupHolds schainName nodeId)

/-! ### Removals -/

/-- The chain is served and has not been removed. -/
structure Spared (schainName : Text) (nodeId : Nat) (world : CleanerWorld) : Prop where
  serves : world.contracts.serves schainName nodeId = true
  unremoved : schainName ∉ world.removed

section Removals

variable {schainName : Text} {nodeId : Nat} {α β : Type}
  {world world' : CleanerWorld} {query : CleanerQuery}
  {proposed answer : Except CleanerError query.Reply}

theorem serve_called
    (taken : world.serve query proposed = some (answer, world')) :
    world' = world.called query := by
  unfold CleanerWorld.serve at taken
  split at taken
  all_goals
    cases taken
    rfl

theorem Spared.called (spared : Spared schainName nodeId world)
    (other : query ≠ .removeSchain schainName) :
    Spared schainName nodeId (world.called query) := by
  cases query with
  | removeSchain name =>
      refine ⟨spared.serves, ?_⟩
      intro removed
      rcases List.mem_cons.mp removed with rfl | before
      · exact other rfl
      · exact spared.unremoved before
  | _ => exact spared

/-- What is known of a result while the chain is spared. -/
def Sees (schainName : Text) (nodeId : Nat) (body : CleanerM α) (after : α → Prop) :
    Prop :=
  Sketch (cleanerHost nodeId) ((served schainName nodeId).and (grouped schainName nodeId))
    (Spared schainName nodeId) (fun _ => True) body (fun result _ => after result)
    fun _ _ => True

theorem sees_pure {result : α} {after : α → Prop} (known : after result) :
    Sees schainName nodeId (pure result) after :=
  sketch_pure Host.stable_true fun _ _ _ => known

theorem sees_bind {first : CleanerM β} {next : β → CleanerM α} {middle : β → Prop}
    {after : α → Prop} (sees : Sees schainName nodeId first middle)
    (rest : ∀ result, middle result → Sees schainName nodeId (next result) after) :
    Sees schainName nodeId (first >>= next) after := by
  refine sketch_bind sees (fun result => ?_) fun _ => Host.stable_true
  apply Host.Outline.of_fact (fun world known => known)
  intro known
  exact Sketch.strengthen (rest result known) (Host.stable_const _) fun _ _ _ => trivial

theorem sees_invoke {after : query.Reply → Prop}
    (other : query ≠ .removeSchain schainName)
    (shown : ∀ {world world'} {proposed : Except CleanerError query.Reply} {reply},
      Spared schainName nodeId world →
      groupHolds schainName nodeId query proposed world = true →
      CleanerWorld.serve query proposed world = some (.ok reply, world') →
      after reply) :
    Sees schainName nodeId (invoke query) after := by
  apply sketch_invoke Host.stable_true
  · intro world world' proposed answer spared _ allowed taken
    refine ⟨serve_called taken ▸ spared.called other, ?_⟩
    cases answer with
    | ok reply => exact shown spared allowed.2 taken
    | error error => trivial
  · intro reply
    exact Host.stable_const _
  · intro error
    exact Host.stable_true

theorem sees_any (other : query ≠ .removeSchain schainName) :
    Sees schainName nodeId (invoke query) fun _ => True :=
  sees_invoke other fun _ _ _ => trivial

theorem sees_ite {condition : CleanerM Bool} {positive negative : CleanerM α}
    {middle : Bool → Prop} {after : α → Prop}
    (evaluates : Sees schainName nodeId condition middle)
    (whenTrue : middle true → Sees schainName nodeId positive after)
    (whenFalse : middle false → Sees schainName nodeId negative after) :
    Sees schainName nodeId (do if ← condition then positive else negative) after := by
  refine sees_bind evaluates fun holds known => ?_
  cases holds with
  | true => exact whenTrue known
  | false => exact whenFalse known

/-! ### Answers about the chain -/

theorem exists_chain (serves : world.contracts.serves schainName nodeId = true) :
    ∃ chain, world.contracts.find schainName = some chain := by
  unfold Contracts.serves at serves
  cases found : world.contracts.find schainName with
  | none => simp [found] at serves
  | some chain => exact ⟨chain, rfl⟩

theorem sees_isSchainExist :
    Sees schainName nodeId (invoke (.isSchainExist schainName))
      fun exist => exist = true := by
  apply sees_invoke (by simp)
  intro world world' proposed reply spared _ taken
  obtain ⟨chain, found⟩ := exists_chain spared.serves
  cases proposed with
  | error error => cases taken
  | ok given =>
      obtain ⟨answered, _⟩ := Prod.mk.inj (Option.some.inj taken)
      rw [← Except.ok.inj answered, found]
      rfl

theorem sees_getNodeIdsForSchain :
    Sees schainName nodeId (invoke (.getNodeIdsForSchain schainName))
      fun nodeIds => nodeId ∈ nodeIds := by
  apply sees_invoke (by simp)
  intro world world' proposed reply spared holds taken
  obtain ⟨chain, found⟩ := exists_chain spared.serves
  cases proposed with
  | error error => cases taken
  | ok given =>
      obtain ⟨answered, _⟩ := Prod.mk.inj (Option.some.inj taken)
      rw [← Except.ok.inj answered, found]
      simpa [groupHolds, Contracts.hasNode, found] using holds

theorem sees_isNodePartOfChain :
    Sees schainName nodeId (isNodePartOfChain nodeId schainName)
      fun included => included = true := by
  apply sees_ite sees_isSchainExist
  · intro _
    exact sees_bind sees_getNodeIdsForSchain fun nodeIds known =>
      sees_pure (decide_eq_true known)
  · rintro ⟨⟩

theorem sees_membership (name : Text) :
    Sees schainName nodeId (isNodePartOfChain nodeId name) fun _ => True := by
  apply sees_ite (sees_any (by simp))
  · intro _
    exact sees_bind (sees_any (by simp)) fun _ _ => sees_pure trivial
  · intro _
    exact sees_pure trivial

theorem sees_ensureSchainRemoved (name : Text) :
    Sees schainName nodeId (ensureSchainRemoved nodeId name) fun _ => True := by
  by_cases same : name = schainName
  · subst same
    apply sees_ite sees_isSchainExist
    · intro _
      apply sees_ite (sees_any (by simp))
      · intro _
        exact sees_pure trivial
      · intro _
        apply sees_ite sees_isNodePartOfChain
        · intro _
          exact sees_pure trivial
        · rintro ⟨⟩
    · rintro ⟨⟩
  · have other : CleanerQuery.removeSchain name ≠ .removeSchain schainName := by
      simpa using same
    apply sees_ite (sees_any (by simp))
    · intro _
      apply sees_ite (sees_any (by simp))
      · intro _
        exact sees_pure trivial
      · intro _
        apply sees_ite (sees_membership name)
        · intro _
          exact sees_pure trivial
        · intro _
          exact sees_any other
    · intro _
      exact sees_any other

theorem sees_cleanOne (schainNamesOnContracts : List Text) (name : Text) :
    Sees schainName nodeId (cleanOne nodeId schainNamesOnContracts name)
      fun _ => True := by
  unfold cleanOne
  split
  · exact sees_pure trivial
  · apply sketch_attempt _ (sees_ensureSchainRemoved name)
    · rintro error clause ⟨⟩
      exact sees_pure trivial
    · rintro error ⟨⟩
    · intro result
      exact Host.stable_true
    · intro error
      exact Host.stable_true

theorem sees_cleanEach (schainNamesOnContracts schainNames : List Text) :
    Sees schainName nodeId (cleanEach nodeId schainNamesOnContracts schainNames)
      fun _ => True := by
  induction schainNames with
  | nil => exact sees_pure trivial
  | cons name rest ih =>
      exact sees_bind (sees_cleanOne schainNamesOnContracts name) fun _ _ => ih

theorem sees_getSchainsOnNode :
    Sees schainName nodeId getSchainsOnNode fun _ => True := by
  have containers : Sees schainName nodeId getSchainsWithContainers fun _ => True :=
    sees_bind (sees_any (by simp)) fun _ _ => sees_pure trivial
  refine sees_bind (sees_any (by simp)) fun _ _ => ?_
  refine sees_bind containers fun _ _ => ?_
  exact sees_bind (sees_any (by simp)) fun _ _ => sees_pure trivial

theorem sees_monitor : Sees schainName nodeId (monitor nodeId) fun _ => True := by
  refine sees_bind sees_getSchainsOnNode fun schainsOnNode _ => ?_
  exact sees_bind (sees_any (by simp)) fun names _ => sees_cleanEach names schainsOnNode

end Removals

/-- While the contracts serve a chain from the node, passes of the cleaner do not remove
it if the node is in its group wherever a pass asks for that. -/
theorem served_schain_spared (schainName : Text) (nodeId : Nat) (contracts : Contracts)
    (serves : contracts.serves schainName nodeId = true)
    (labels : List (Label cleanerInterface Contracts Unit))
    (all : Transition.EachStep (cleanerHost nodeId).step
      (served schainName nodeId).Meets { world := { contracts } } labels)
    (holds : Transition.EachStep (cleanerHost nodeId).step
      (grouped schainName nodeId).Meets { world := { contracts } } labels) :
    Transition.Always (cleanerHost nodeId).step
      (fun config => schainName ∉ config.world.removed) { world := { contracts } }
      labels := by
  have meets := (all.and holds).mono fun config label both =>
    Host.meets_and both.1 both.2
  have start : Spared schainName nodeId { contracts } := ⟨serves, by simp⟩
  apply Host.always_of_outlines ?_ id ?_ ?_ start meets
  · rintro world world' contracts' spared allowed ⟨⟩
    exact ⟨allowed.1, spared.unremoved⟩
  · intro world job spared _
    exact ⟨spared, _, _, trivial, sees_monitor⟩
  · intro config spared
    exact spared.unremoved

/-! ### A chain that is rotated twice -/

def rotatedName : Text := "schain".toList

def contractsOf (node : Nat) (rotationActive : Bool) : Contracts where
  chains := [(rotatedName, { nodes := [node], rotationActive })]
  distinct := by simp

def onNode : (query : CleanerQuery) → Except CleanerError query.Reply
  | .listSchainsDir => .ok [rotatedName]
  | .getAllSchainContainers | .getSchainsNames | .getSchainsForNode _
  | .getNodeIdsForSchain _ => .ok []
  | .isSchainExist _ | .isRotationActive _ => .ok true
  | .removeSchain _ => .ok ()

def pass (calls : Nat) : List (Label cleanerInterface Contracts Unit) :=
  .start () :: List.replicate calls (.call onNode)

/-- The chain is rotated into the group of the node in the middle of a pass, which then asks
for the group, and out of it again before the next one. -/
def rotatedPasses : List (Label cleanerInterface Contracts Unit) :=
  pass 4 ++ .move (contractsOf 1 false) :: List.replicate 4 (.call onNode) ++
    .move (contractsOf 2 true) :: pass 6

theorem rotated_schain_spared :
    (Transition.play (cleanerHost 1).step
      { world := { contracts := contractsOf 2 true } } rotatedPasses).isSome = true ∧
    Transition.Always (cleanerHost 1).step
      (fun config => rotatedName ∉ config.world.removed)
      { world := { contracts := contractsOf 2 true } } rotatedPasses :=
  ⟨by decide +kernel, served_schain_spared rotatedName 1 (contractsOf 2 true) (by decide)
    rotatedPasses (by decide +kernel) (by decide +kernel)⟩

/-- The chain is rotated into the group of the node when the pass asks for rotations, and
out of it again when the pass asks for the group. -/
theorem served_schain_can_be_removed :
    ¬ ∀ (schainName : Text) (nodeId : Nat) (contracts : Contracts)
      (labels : List (Label cleanerInterface Contracts Unit)),
      contracts.serves schainName nodeId = true →
      Transition.EachStep (cleanerHost nodeId).step
        (served schainName nodeId).Meets { world := { contracts } } labels →
      Transition.Always (cleanerHost nodeId).step
        (fun config => schainName ∉ config.world.removed) { world := { contracts } }
        labels := by
  intro claim
  let labels := pass 4 ++ .move (contractsOf 1 false) ::
    List.replicate 2 (.call onNode) ++ .move (contractsOf 2 true) ::
    List.replicate 3 (.call onNode)
  have all : Transition.EachStep (cleanerHost 1).step (served rotatedName 1).Meets
      { world := { contracts := contractsOf 2 true } } labels := by decide +kernel
  have played : (Transition.play (cleanerHost 1).step
      { world := { contracts := contractsOf 2 true } } labels).map
      (fun config => config.world.removed) = some [rotatedName] := by decide +kernel
  obtain ⟨config, reached, removed⟩ := Option.map_eq_some_iff.mp played
  have spared := (claim rotatedName 1 (contractsOf 2 true) labels (by decide) all).at_play
    reached
  rw [removed] at spared
  exact spared (List.mem_singleton_self _)

end SkaleAdmin.Cleaner
