import SkaleAdmin.Library.Interaction
import SkaleAdmin.Library.PyText

/-! `Node.register` and the calls that it makes. -/

namespace SkaleAdmin.Core

open Interaction PyText
open Interaction.Procedure (attempt raise)

structure NodeData (Bytes PublicKey : Type) where
  name : Text
  ip : Bytes
  publicKey : PublicKey
  deriving DecidableEq

structure Conversions (Bytes PublicKey Address : Type) where
  ipToBytes : Text → Bytes
  ipFromBytes : Bytes → Text
  /-- `to_checksum_address(public_key_to_address(public_key))`. -/
  publicKeyToAddress : PublicKey → Address

/-- The file `node_config.json`. -/
structure NodeConfig where
  id : Option Nat := none
  name : Option Text := none
  ip : Option Text := none
  deriving DecidableEq

/-- The arguments of `register` apart from the name and the ip. -/
structure Options where
  publicIp : Text
  port : Int
  domainName : Text
  gasLimit : Option Nat := none
  gasPrice : Option Nat := none
  skipDryRun : Bool := false

/-- `_ok` and `_error`. -/
inductive Response where
  | ok (data : NodeConfig)
  | error (errMsg : Text)
  deriving DecidableEq

inductive NodeError where
  | transactionLogicError
  | invalidNodeIdError
  | otherError

inductive NodeQuery where
  | getId
  | setId (nodeId : Nat)
  | setName (nodeName : Text)
  | setIp (ip : Text)
  | all
  | nodeNameToIndex (name : Text)
  | nodesGet (nodeId : Nat)
  | checkRequiredBalance
  | isNodeNameAvailable (name : Text)
  | isNodeIpAvailable (ip : Text)
  | createNode (ip name : Text) (options : Options)
  | updateMonitoringServices (publicIp : Text) (nodeId : Option Nat)
  /-- What was returned reaches the caller. -/
  | respond (response : Response)

section

variable {Bytes PublicKey Address : Type}

@[reducible] def NodeQuery.Reply (Bytes PublicKey : Type) : NodeQuery → Type
  | getId => Option Nat
  | all => NodeConfig
  | nodeNameToIndex _ => Nat
  | nodesGet _ => NodeData Bytes PublicKey
  | checkRequiredBalance | isNodeNameAvailable _ | isNodeIpAvailable _ => Bool
  | _ => Unit

abbrev nodeInterface (Bytes PublicKey : Type) : Interface :=
  fallible NodeQuery (NodeQuery.Reply Bytes PublicKey) NodeError

abbrev NodeM (Bytes PublicKey : Type) := Procedure (nodeInterface Bytes PublicKey) Unit NodeError

def call (query : NodeQuery) : NodeM Bytes PublicKey (query.Reply Bytes PublicKey) :=
  Procedure.invoke query

structure Node (Bytes PublicKey Address : Type) where
  conversions : Conversions Bytes PublicKey Address
  publicKey : PublicKey

namespace Node

variable (self : Node Bytes PublicKey Address)

def address : Address :=
  self.conversions.publicKeyToAddress self.publicKey

def getNodeData (nodeId : Nat) : NodeM Bytes PublicKey (Option (NodeData Bytes PublicKey)) :=
  attempt (some <$> call (.nodesGet nodeId)) fun
    | .invalidNodeIdError => some (pure none)
    | _ => none

variable [DecidableEq Address]

/-- The node of the contract is this one. -/
def isOwn (name ip : Text) (nodeData : NodeData Bytes PublicKey) : Bool :=
  self.conversions.publicKeyToAddress nodeData.publicKey = self.address ∧
    name = nodeData.name ∧ ip = self.conversions.ipFromBytes nodeData.ip

def getNodeIdFromContracts (name ip : Text) : NodeM Bytes PublicKey Int := do
  let nodeId ← call (.nodeNameToIndex name)
  match ← getNodeData nodeId with
  | none => return -1
  | some nodeData =>
      if self.isOwn name ip nodeData then
        return nodeId
      else
        return -1

/-- Answers whether the transaction got through. -/
def createNode (ip name : Text) (options : Options) : NodeM Bytes PublicKey Bool :=
  attempt (do
    call (.createNode ip name options)
    return true) fun
    | .transactionLogicError => some (pure false)
    | _ => none

def createNodeOnContracts (ip name : Text) (options : Options) : NodeM Bytes PublicKey Int := do
  if ← createNode ip name options then
    let nodeId ← call (.nodeNameToIndex name)
    return nodeId
  else
    return -1

def saveNode (name ip : Text) (options : Options) : NodeM Bytes PublicKey Response := do
  let nodeId ← call (.nodeNameToIndex name)
  call (.setId nodeId)
  call (.setName name)
  call (.setIp ip)
  let configId ← call .getId
  call (.updateMonitoringServices options.publicIp configId)
  let data ← call .all
  return .ok data

def createAndSave (ip name : Text) (options : Options) : NodeM Bytes PublicKey Response := do
  if !(← call .checkRequiredBalance) then
    return .error "Insufficient funds, re-check your wallet".toList
  else if !(← call (.isNodeNameAvailable name)) then
    return .error ("Node name is already taken: ".toList ++ name)
  else if !(← call (.isNodeIpAvailable ip)) then
    return .error ("Node IP is already taken: ".toList ++ ip)
  else
    let nodeId ← createNodeOnContracts ip name options
    if nodeId < 0 then
      return .error ("Node registration failed: ".toList ++ ip ++ ":".toList ++
        str options.port ++ ", name: ".toList ++ name)
    else
      saveNode name ip options

def register (ip name : Text) (options : Options) : NodeM Bytes PublicKey Response := do
  if (← call .getId).isSome then
    let nodeId ← call .getId
    return .error ("Node is already installed on this machine. Node ID: ".toList ++
      (nodeId.elim "None".toList fun nodeId => str nodeId))
  else
    let nodeId ← self.getNodeIdFromContracts name ip
    if nodeId < 0 then
      createAndSave ip name options
    else
      saveNode name ip options

end Node

end

end SkaleAdmin.Core
