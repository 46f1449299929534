import SkaleAdmin.Config.FileManager
import SkaleAdmin.Web.SChainRecord
import Mathlib.Data.Char
import Mathlib.Data.List.Lex

/-! The checks of an sChain as far as they read its configuration directory:
what they ask of the host, of containers and of the network is a parameter. -/

namespace SkaleAdmin.Config

open PyText Json

/-- `shape` stands for the `KeyError`, `TypeError`, `ValueError` and
`AttributeError` that content of an unexpected shape leads to. -/
inductive CheckError where
  | decode
  | fileNotFound
  | shape
  deriving DecidableEq

abbrev Evaluated := Except CheckError

theorem bind_eq_ok {α β : Type} {first : Evaluated α} {next : α → Evaluated β}
    {value : β} :
    first >>= next = .ok value ↔
      ∃ middle, first = .ok middle ∧ next middle = .ok value := by
  cases first with
  | ok middle =>
      constructor
      · intro evaluated
        exact ⟨middle, rfl, evaluated⟩
      · rintro ⟨_, ⟨⟩, evaluated⟩
        exact evaluated
  | error error =>
      constructor
      · rintro ⟨⟩
      · rintro ⟨_, ⟨⟩, _⟩

/-! ### Python on decoded values -/

/-- `value[key]`. -/
def getItem (key : String) : Value → Evaluated Value
  | .obj fields =>
      match fields.lookup key.toList with
      | some value => .ok value
      | none => .error .shape
  | _ => .error .shape

/-- `value.get(key, default)`. -/
def getOr (key : String) (default : Value) : Value → Evaluated Value
  | .obj fields => .ok ((fields.lookup key.toList).getD default)
  | _ => .error .shape

/-- `for item in value`. -/
def iterate : Value → Evaluated (List Value)
  | .arr items => .ok items
  | .obj fields => .ok (fields.map fun field => .str field.1)
  | .str text => .ok (text.map fun symbol => .str [symbol])
  | _ => .error .shape

def truthy : Value → Bool
  | .null => false
  | .bool value => value
  | .num value => value ≠ 0
  | .str text => !text.isEmpty
  | .arr items => !items.isEmpty
  | .obj fields => !fields.isEmpty

/-- `int(value)`. -/
def toInt : Value → Evaluated Int
  | .num value => .ok value
  | .bool value => .ok (if value then 1 else 0)
  | .str text =>
      match parseInt 10 text with
      | some value => .ok value
      | none => .error .shape
  | _ => .error .shape

/-- `set(items)`; lists and dictionaries cannot be members. -/
def setOf (items : List Value) : Evaluated (List Value) :=
  if items.all fun item => match item with
      | .arr _ | .obj _ => false
      | _ => true
  then .ok items else .error .shape

def sameSet (first second : List Value) : Bool :=
  (first.all fun item => second.any (equal item)) &&
    second.all fun item => first.any (equal item)

/-! ### `core.schains.config.helper` and `core.schains.config.main` -/

def getNodeIpsFromConfig (config : Value) : Evaluated (List Value) :=
  match config with
  | .null => .ok []
  | config => do
      let chain ← getItem "sChain" (← getItem "skaleConfig" config)
      let schainNodesConfig ← iterate (← getItem "nodes" chain)
      schainNodesConfig.mapM (getItem "ip")

def getBasePortFromConfig (config : Value) : Evaluated Value := do
  getItem "basePort" (← getItem "nodeInfo" (← getItem "skaleConfig" config))

def firstOwnIp (ownId : Value) : List Value → Evaluated Value
  | [] => .ok .null
  | nodeData :: rest => do
      if equal (← getItem "nodeID" nodeData) ownId then getItem "ip" nodeData
      else firstOwnIp ownId rest

def getOwnIpFromConfig (config : Value) : Evaluated Value := do
  let skaleConfig ← getItem "skaleConfig" config
  let schainNodesConfig ← getItem "nodes" (← getItem "sChain" skaleConfig)
  let ownId ← getItem "nodeID" (← getItem "nodeInfo" skaleConfig)
  firstOwnIp ownId (← iterate schainNodesConfig)

/-- `get_local_schain_http_endpoint_from_config`, of which the port varies. -/
def getHttpPortFromConfig (config : Value) : Evaluated Int := do
  let nodeInfo ← getItem "nodeInfo" (← getItem "skaleConfig" config)
  let httpPort ← toInt (← getItem "httpRpcPort" nodeInfo)
  let _ ← toInt (← getItem "wsRpcPort" nodeInfo)
  return httpPort

def getRotationIdsFromConfig (config : Value) : Evaluated (List Int) := do
  if !truthy config then
    return []
  let chain ← getItem "sChain" (← getItem "skaleConfig" config)
  match ← getItem "nodeGroups" chain with
  | .obj groups =>
      let ids ← groups.mapM fun group => toInt (.str group.1)
      return ids.mergeSort fun first second => first ≤ second
  | _ => throw .shape

/-! ### What is read from the directory -/

section Readers

variable (files : Directory Text)

def readJson (path : FileName) : Evaluated Value :=
  match files.read path with
  | none => .error .fileNotFound
  | some text =>
      match loads text with
      | none => .error .decode
      | some value => .ok value

def hasUpstream : Bool :=
  (latestUpstream files.names).isSome

def latestUpstreamConfig : Evaluated Value :=
  match latestUpstream files.names with
  | none => .ok .null
  | some filename => readJson files (.upstream filename)

def skaledConfigExists : Bool :=
  (files.read .skaled).isSome

def skaledConfig : Evaluated Value :=
  if skaledConfigExists files then readJson files .skaled else .ok .null

def skaledConfigSyncedWithUpstream : Evaluated Bool := do
  if !skaledConfigExists files then
    return false
  if !hasUpstream files then
    return true
  return equal (← latestUpstreamConfig files) (← skaledConfig files)

def upstreamExistForRotationId (rotationId : Nat) : Bool :=
  (upstreamConfigs files.names).any fun filename =>
    filename.rotationId = rotationId

structure IpRange where
  startIp : Text
  endIp : Text
  deriving DecidableEq

def IpRange.le (first second : IpRange) : Bool :=
  first.startIp < second.startIp ∨
    first.startIp = second.startIp ∧ first.endIp ≤ second.endIp

structure ExternalState where
  chainId : Int
  ranges : List IpRange
  imaLinked : Bool := false
  reloadTs : Option Int := none
  deriving DecidableEq

def ExternalState.toDict (state : ExternalState) : List (Text × Value) :=
  [("chain_id".toList, .num state.chainId),
    ("ima_linked".toList, .bool state.imaLinked),
    ("ranges".toList,
      .arr (state.ranges.map fun range => .arr [.str range.startIp, .str range.endIp])),
    ("reload_ts".toList, match state.reloadTs with
      | some reloadTs => .num reloadTs
      | none => .null)]

def ExternalState.document (state : ExternalState) : Document where
  fields := state.toDict
  wellFormed := by
    refine .obj _ (by simp only [toDict, List.map]; decide) ?_
    intro field member
    simp only [toDict, List.mem_cons, List.not_mem_nil, or_false] at member
    rcases member with rfl | rfl | rfl | rfl
    · exact .num _
    · exact .bool _
    · refine .arr _ ?_
      intro item listed
      obtain ⟨range, _, rfl⟩ := List.mem_map.mp listed
      refine .arr _ ?_
      intro text written
      simp only [List.mem_cons, List.not_mem_nil, or_false] at written
      rcases written with rfl | rfl
      · exact .str _
      · exact .str _
    · dsimp only
      split
      · exact .num _
      · exact .null

def externalConfigRead : Evaluated Value :=
  if (files.read .external).isSome then readJson files .external else .ok (.obj [])

def ipRangeOf (plain : Value) : Evaluated IpRange :=
  match plain with
  | .arr [.str startIp, .str endIp] => .ok { startIp, endIp }
  | _ => .error .shape

def rangesOf (plain : Value) : Evaluated (List IpRange) := do
  let ranges ← (← iterate plain).mapM ipRangeOf
  return ranges.mergeSort IpRange.le

def externalRanges : Evaluated (List IpRange) := do
  rangesOf (← getOr "ranges" (.arr []) (← externalConfigRead files))

def externalReloadTs : Evaluated Value := do
  getOr "reload_ts" .null (← externalConfigRead files)

/-- Fields of another type than `to_dict` gives them are refused. -/
def externalConfigGet : Evaluated (Option ExternalState) := do
  let plain ← externalConfigRead files
  if !truthy plain then
    return none
  let chainId ← getItem "chain_id" plain
  let imaLinked ← getItem "ima_linked" plain
  let ranges ← rangesOf (← getItem "ranges" plain)
  let reloadTs ← getOr "reload_ts" .null plain
  match chainId, imaLinked, reloadTs with
  | .num chainId, .bool imaLinked, .num reloadTs =>
      return some { chainId, ranges, imaLinked, reloadTs := some reloadTs }
  | .num chainId, .bool imaLinked, .null =>
      return some { chainId, ranges, imaLinked }
  | _, _, _ => throw .shape

def externalConfigSynced (exState : ExternalState) : Evaluated Bool := do
  return (← externalConfigGet files) = some exState

end Readers

/-! ### `ConfigChecks` -/

structure ConfigChecks where
  schainRecord : Web.SChainRecord
  rotationId : Nat
  streamVersion : String
  /-- `get_current_ips(current_nodes)`. -/
  currentIps : List Text
  estate : ExternalState
  lastDkgSuccessful : Bool

namespace ConfigChecks

variable (checks : ConfigChecks) (files : Directory Text)

def dkg : Bool :=
  (files.read (.secretKey checks.rotationId)).isSome

def sameIps (nodeIps : List Value) : Evaluated Bool := do
  return sameSet (← setOf nodeIps) (checks.currentIps.map .str)

def skaledNodeIps : Evaluated Bool := do
  if skaledConfigExists files then
    checks.sameIps (← getNodeIpsFromConfig (← skaledConfig files))
  else
    return false

def upstreamConfig : Evaluated Bool := do
  let exist := upstreamExistForRotationId files checks.rotationId
  let streamUpdated := checks.schainRecord .configVersion == checks.streamVersion
  let triggered := checks.schainRecord .syncConfigRun
  let nodeIpsUpdated ←
    if exist then
      checks.sameIps (← getNodeIpsFromConfig (← latestUpstreamConfig files))
    else
      pure true
  return exist && nodeIpsUpdated && streamUpdated && !triggered

def externalState : Evaluated Bool :=
  externalConfigSynced files checks.estate

end ConfigChecks

/-! ### `SkaledChecks` -/

namespace SkaledChecks

variable (files : Directory Text)

def upstreamExists : Bool :=
  hasUpstream files

def config : Bool :=
  skaledConfigExists files

def rotationIdUpdated : Evaluated Bool := do
  if !config files then
    return false
  let upstreamRotations ←
    getRotationIdsFromConfig (← latestUpstreamConfig files)
  let configRotations ← getRotationIdsFromConfig (← skaledConfig files)
  return upstreamRotations = configRotations

def configUpdated : Evaluated Bool := do
  if !config files then
    return false
  skaledConfigSyncedWithUpstream files

/-- `synced` stands for configuring the rule controller and asking it. -/
def firewallRules
    (synced : Value → Value → List Value → List IpRange → Bool) :
    Evaluated Bool := do
  if config files then
    let conf ← skaledConfig files
    let basePort ← getBasePortFromConfig conf
    let nodeIps ← getNodeIpsFromConfig conf
    let ownIp ← getOwnIpFromConfig conf
    let ranges ← externalRanges files
    return synced basePort ownIp nodeIps ranges
  return false

/-- `rpc` and `blocks`, which ask different things of the endpoint. -/
def endpoint (answers : Int → Bool) : Evaluated Bool := do
  if config files then
    return answers (← getHttpPortFromConfig (← skaledConfig files))
  return false

def rpc (checkEndpointAlive : Int → Bool) : Evaluated Bool :=
  endpoint files checkEndpointAlive

def blocks (checkEndpointBlocks : Int → Bool) : Evaluated Bool :=
  endpoint files checkEndpointBlocks

def imaContainer (containerUpToDate : Bool) : Evaluated Bool := do
  let imaLinked ← getOr "ima_linked" (.bool true) (← externalConfigRead files)
  if !truthy imaLinked then
    return true
  return containerUpToDate

end SkaledChecks

/-! ### Decode errors -/

/-- No decode error; the evaluation may fail in another way. -/
def Decoded {α : Type} (evaluated : Evaluated α) : Prop :=
  evaluated ≠ .error .decode

section Decoded

variable {α β : Type}

@[simp] theorem decoded_ok {value : α} : Decoded (.ok value) := by
  rintro ⟨⟩

@[simp] theorem decoded_pure {value : α} : Decoded (pure value) :=
  decoded_ok

@[simp] theorem decoded_shape : Decoded (.error .shape : Evaluated α) := by
  rintro ⟨⟩

theorem Decoded.bind {first : Evaluated α} {next : α → Evaluated β}
    (firstDecoded : Decoded first) (nextDecoded : ∀ value, Decoded (next value)) :
    Decoded (first >>= next) := by
  cases first with
  | ok value => exact nextDecoded value
  | error error =>
      rintro same
      apply firstDecoded
      cases same
      rfl

theorem decoded_mapM {convert : α → Evaluated β}
    (decoded : ∀ item, Decoded (convert item)) (items : List α) :
    Decoded (items.mapM convert) := by
  induction items with
  | nil => exact decoded_pure
  | cons item items ih =>
      rw [List.mapM_cons]
      exact (decoded item).bind fun _ => ih.bind fun _ => decoded_pure

theorem decoded_getItem (key : String) (value : Value) :
    Decoded (getItem key value) := by
  unfold getItem
  split
  · split <;> simp
  · simp

theorem decoded_getOr (key : String) (default value : Value) :
    Decoded (getOr key default value) := by
  unfold getOr
  split <;> simp

theorem decoded_iterate (value : Value) : Decoded (iterate value) := by
  unfold iterate
  split <;> simp

theorem decoded_toInt (value : Value) : Decoded (toInt value) := by
  unfold toInt
  split
  · simp
  · simp
  · split <;> simp
  · simp

theorem decoded_setOf (items : List Value) : Decoded (setOf items) := by
  unfold setOf
  split <;> simp

theorem decoded_getNodeIpsFromConfig (config : Value) :
    Decoded (getNodeIpsFromConfig config) := by
  unfold getNodeIpsFromConfig
  split
  · simp
  · exact (decoded_getItem _ _).bind fun _ => (decoded_getItem _ _).bind fun _ =>
      (decoded_getItem _ _).bind fun _ => (decoded_iterate _).bind fun _ =>
        decoded_mapM (decoded_getItem "ip") _

theorem decoded_firstOwnIp (ownId : Value) (nodes : List Value) :
    Decoded (firstOwnIp ownId nodes) := by
  induction nodes with
  | nil => exact decoded_ok
  | cons nodeData rest ih =>
      refine (decoded_getItem _ _).bind fun value => ?_
      split
      · exact decoded_getItem _ _
      · exact ih

theorem decoded_getOwnIpFromConfig (config : Value) :
    Decoded (getOwnIpFromConfig config) :=
  (decoded_getItem _ _).bind fun _ => (decoded_getItem _ _).bind fun _ =>
    (decoded_getItem _ _).bind fun _ => (decoded_getItem _ _).bind fun _ =>
      (decoded_getItem _ _).bind fun _ => (decoded_iterate _).bind fun _ =>
        decoded_firstOwnIp _ _

theorem decoded_getRotationIdsFromConfig (config : Value) :
    Decoded (getRotationIdsFromConfig config) := by
  unfold getRotationIdsFromConfig
  split
  · simp
  · refine (decoded_getItem _ _).bind fun _ => (decoded_getItem _ _).bind fun _ =>
      (decoded_getItem _ _).bind fun _ => ?_
    split
    · exact (decoded_mapM (fun _ => decoded_toInt _) _).bind fun _ => decoded_pure
    · exact decoded_shape

theorem decoded_rangesOf (plain : Value) : Decoded (rangesOf plain) := by
  refine (decoded_iterate _).bind fun _ => (decoded_mapM ?_ _).bind fun _ =>
    decoded_pure
  intro range
  unfold ipRangeOf
  split <;> simp

end Decoded

/-- The configurations that checks read are JSON documents. -/
structure Decodes (files : Directory Text) : Prop where
  upstream : Decoded (latestUpstreamConfig files)
  skaled : Decoded (skaledConfig files)
  external : Decoded (externalConfigRead files)

structure ChecksDecoded (files : Directory Text) : Prop where
  skaledNodeIps : ∀ checks : ConfigChecks, Decoded (checks.skaledNodeIps files)
  upstreamConfig : ∀ checks : ConfigChecks, Decoded (checks.upstreamConfig files)
  externalState : ∀ checks : ConfigChecks, Decoded (checks.externalState files)
  rotationIdUpdated : Decoded (SkaledChecks.rotationIdUpdated files)
  configUpdated : Decoded (SkaledChecks.configUpdated files)
  firewallRules : ∀ synced, Decoded (SkaledChecks.firewallRules files synced)
  rpc : ∀ alive, Decoded (SkaledChecks.rpc files alive)
  blocks : ∀ mining, Decoded (SkaledChecks.blocks files mining)
  imaContainer : ∀ upToDate, Decoded (SkaledChecks.imaContainer files upToDate)

section ChecksDecoded

variable {files : Directory Text}

theorem decoded_sameIps (checks : ConfigChecks) (config : Value) :
    Decoded (getNodeIpsFromConfig config >>= checks.sameIps) :=
  (decoded_getNodeIpsFromConfig config).bind fun _ =>
    (decoded_setOf _).bind fun _ => decoded_pure

theorem decoded_externalConfigGet (decodes : Decodes files) :
    Decoded (externalConfigGet files) := by
  refine decodes.external.bind fun plain => ?_
  split
  · simp
  · refine (decoded_getItem _ _).bind fun _ => (decoded_getItem _ _).bind fun _ =>
      (decoded_getItem _ _).bind fun _ => (decoded_rangesOf _).bind fun _ =>
        (decoded_getOr _ _ _).bind fun _ => ?_
    split <;> first | exact decoded_pure | exact decoded_shape

theorem decoded_endpoint (decodes : Decodes files) (answers : Int → Bool) :
    Decoded (SkaledChecks.endpoint files answers) := by
  unfold SkaledChecks.endpoint
  split
  · refine decodes.skaled.bind fun config => Decoded.bind ?_ fun _ => decoded_pure
    exact (decoded_getItem _ _).bind fun _ => (decoded_getItem _ _).bind fun _ =>
      (decoded_getItem _ _).bind fun _ => (decoded_toInt _).bind fun _ =>
        (decoded_getItem _ _).bind fun _ => (decoded_toInt _).bind fun _ =>
          decoded_pure
  · simp

/-- A check fails to decode only what one of the three files holds. -/
theorem checksDecoded (decodes : Decodes files) : ChecksDecoded files := by
  refine ⟨?_, ?_, ?_, ?_, ?_, ?_, ?_, ?_, ?_⟩
  · intro checks
    unfold ConfigChecks.skaledNodeIps
    split
    · exact decodes.skaled.bind fun config => decoded_sameIps checks config
    · simp
  · intro checks
    unfold ConfigChecks.upstreamConfig
    dsimp only
    split
    · exact decodes.upstream.bind fun config =>
        (decoded_getNodeIpsFromConfig config).bind fun _ =>
          ((decoded_setOf _).bind fun _ => decoded_pure).bind fun _ =>
            decoded_pure
    · simp
  · intro checks
    exact (decoded_externalConfigGet decodes).bind fun _ => decoded_pure
  · unfold SkaledChecks.rotationIdUpdated
    split
    · simp
    · exact decodes.upstream.bind fun _ =>
        (decoded_getRotationIdsFromConfig _).bind fun _ =>
          decodes.skaled.bind fun _ =>
            (decoded_getRotationIdsFromConfig _).bind fun _ => decoded_pure
  · unfold SkaledChecks.configUpdated skaledConfigSyncedWithUpstream
    split
    · simp
    · split
      · simp
      · split
        · simp
        · exact decodes.upstream.bind fun _ => decodes.skaled.bind fun _ =>
            decoded_pure
  · intro synced
    unfold SkaledChecks.firewallRules
    split
    · exact decodes.skaled.bind fun config =>
        ((decoded_getItem _ _).bind fun _ => (decoded_getItem _ _).bind fun _ =>
          decoded_getItem _ _).bind fun _ =>
            (decoded_getNodeIpsFromConfig _).bind fun _ =>
              (decoded_getOwnIpFromConfig _).bind fun _ =>
                (decodes.external.bind fun _ => (decoded_getOr _ _ _).bind fun _ =>
                  decoded_rangesOf _).bind fun _ => decoded_pure
    · simp
  · exact decoded_endpoint decodes
  · exact decoded_endpoint decodes
  · intro upToDate
    refine decodes.external.bind fun _ => (decoded_getOr _ _ _).bind fun _ => ?_
    split <;> simp

end ChecksDecoded

end SkaleAdmin.Config
