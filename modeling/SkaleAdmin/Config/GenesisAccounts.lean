import SkaleAdmin.Config.Agreement

/-! The accounts of the genesis: who holds ether, and who may call the precompiled
contracts. -/

namespace SkaleAdmin.Config

open PyText PyValue

variable {Bytes : Type} (libraries : Libraries Bytes) (sources : ConfigSources)

/-! ### Who is named -/

/-- The words that stand for an address in the file of the precompiled contracts. -/
def Placeholder (permission : PyValue.Value) : Prop :=
  permission = .str "fs".toList ∨ permission = .str "schainOwner".toList

/-- `account['precompiled']['restrictAccess']`, where it is there. -/
def restrictAccess : PyValue.Value → Option PyValue.Value
  | .dict entries =>
      match entries.lookup (.str "precompiled".toList) with
      | some (.dict own) => own.lookup (.str "restrictAccess".toList)
      | _ => none
  | _ => none

def addressKey (address : Text) : Key :=
  .str (libraries.toChecksumAddress address)

/-- Whom the genesis gives ether to. -/
def ownerAddresses (chain : ChainArguments Bytes) : List Text :=
  (if 1 ≤ chain.generation then getSchainOriginator libraries chain.schain
    else getOnChainOwner libraries chain.schain chain.generation chain.isOwnerContract) ::
  chain.schainNodesWithSchains.map fun node => libraries.publicKeyToAddress node.publicKey

def contractAccounts (chain : ChainArguments Bytes) : Dict :=
  let onChainOwner :=
    getOnChainOwner libraries chain.schain chain.generation chain.isOwnerContract
  libraries.generateContracts onChainOwner chain.schain.name sources.mainnetImaAbi ++
    if 1 ≤ chain.generation then
      match getSchainType chain.schain.partOfNode >>= fun schainType =>
        getFsAllocatedStorage sources schainType chain.schain.allocationTypeName with
      | .ok allocatedStorage => generateV1PredeployedContracts libraries allocatedStorage
          onChainOwner chain.schain.mainnetOwner
          (getSchainOriginator libraries chain.schain) chain.schain.name
      | .error _ => []
    else []

def precompiledKeys : List Key :=
  sources.precompiledContracts.filterMap fun precompiled =>
    match precompiled.1 with
    | .str address => some (addressKey libraries address)
    | .int _ => none

def baseAccounts : Dict :=
  match sources.baseConfig >>= fun baseConfig => baseConfig.lookup (.str "accounts".toList) with
  | some (.dict entries) => entries
  | _ => []

variable {libraries sources}

/-! ### The permissions -/

theorem handlePermission_named {onChainOwner : Text} {permission : PyValue.Value}
    (storageNamed : ¬ Placeholder (.str libraries.filestorageAddress))
    (ownerNamed : ¬ Placeholder (.str onChainOwner)) :
    ¬ Placeholder (handlePermission libraries onChainOwner permission) := by
  cases permission with
  | str text =>
      simp only [handlePermission]
      split
      · exact storageNamed
      · split
        · exact ownerNamed
        · rename_i notStorage notOwner
          rintro (same | same)
          · exact notStorage (Value.str.inj same)
          · exact notOwner (Value.str.inj same)
  | none => exact nofun
  | bool value => exact nofun
  | int value => exact nofun
  | list items => exact nofun
  | tuple items => exact nofun
  | dict entries => exact nofun

/-- What becomes of a contract of the file: each of its permissions names an address. -/
structure Resolved (libraries : Libraries Bytes) (onChainOwner : Text)
    (precompiled account : PyValue.Value) : Prop where
  permissions : ∀ permissions, restrictAccess precompiled = some (.list permissions) →
    restrictAccess account =
      some (.list (permissions.map (handlePermission libraries onChainOwner)))
  unrestricted : restrictAccess precompiled = none → restrictAccess account = none
  named : ∀ permissions, restrictAccess account = some (.list permissions) →
    ∀ permission ∈ permissions, ¬ Placeholder permission

theorem item_eq_ok {entries : Dict} {key : Text} {value : PyValue.Value}
    (held : entries.item key = .ok value) : entries.lookup (.str key) = some value := by
  unfold Dict.item at held
  split at held
  · rename_i found
    rw [found, Except.ok.inj held]
  · cases held

theorem asDict_eq_ok {value : PyValue.Value} {entries : Dict}
    (held : asDict value = .ok entries) : value = .dict entries := by
  cases value <;> cases held
  rfl

theorem asList_eq_ok {value : PyValue.Value} {items : List PyValue.Value}
    (held : asList value = .ok items) : value = .list items := by
  cases value <;> cases held
  rfl

theorem resolved_of_prepare {onChainOwner : Text} {precompiled account : PyValue.Value}
    (storageNamed : ¬ Placeholder (.str libraries.filestorageAddress))
    (ownerNamed : ¬ Placeholder (.str onChainOwner))
    (prepared : preparePrecompiled libraries onChainOwner precompiled = .ok account) :
    Resolved libraries onChainOwner precompiled account := by
  obtain ⟨entries, listed, sectioned⟩ := bind_eq_ok.mp prepared
  obtain ⟨part, held, owned⟩ := bind_eq_ok.mp sectioned
  obtain ⟨own, isDict, accessed⟩ := bind_eq_ok.mp owned
  clear prepared sectioned owned
  obtain rfl := asDict_eq_ok listed
  obtain rfl := asDict_eq_ok isDict
  have access : restrictAccess (.dict entries) = own.lookup (.str "restrictAccess".toList) := by
    rw [restrictAccess, item_eq_ok held]
  cases restricted : own.lookup (.str "restrictAccess".toList) with
  | none =>
      rw [restricted] at accessed access
      obtain rfl := Except.ok.inj accessed
      exact ⟨fun _ there => (nomatch access.symm.trans there), fun _ => access,
        fun _ there => (nomatch access.symm.trans there)⟩
  | some value =>
      rw [restricted] at accessed access
      simp only at accessed
      split at accessed
      · obtain ⟨permissions, listed, accessed⟩ := bind_eq_ok.mp accessed
        obtain rfl := asList_eq_ok listed
        obtain rfl := Except.ok.inj accessed
        have resolved : restrictAccess (.dict (assign (.str "precompiled".toList)
            (.dict (assign (.str "restrictAccess".toList)
              (.list (permissions.map (handlePermission libraries onChainOwner))) own))
            entries)) =
            some (.list (permissions.map (handlePermission libraries onChainOwner))) := by
          simp only [restrictAccess, lookup_assign_self]
        refine ⟨fun others there => ?_, fun absent => (nomatch access.symm.trans absent),
          fun others there permission member => ?_⟩
        · obtain rfl := Value.list.inj (Option.some.inj (access.symm.trans there))
          exact resolved
        · obtain rfl := Value.list.inj (Option.some.inj (resolved.symm.trans there))
          obtain ⟨_, _, rfl⟩ := List.mem_map.mp member
          exact handlePermission_named storageNamed ownerNamed
      · rename_i empty
        obtain rfl := Except.ok.inj accessed
        have nonePermitted : ∀ permissions,
            restrictAccess (.dict entries) = some (.list permissions) → permissions = [] := by
          intro permissions there
          obtain rfl := Option.some.inj (access.symm.trans there)
          cases permissions with
          | nil => rfl
          | cons permission permissions => exact absurd rfl empty
        refine ⟨fun permissions there => ?_, id, fun permissions there permission member => ?_⟩
        · obtain rfl := nonePermitted permissions there
          exact there
        · rw [nonePermitted permissions there] at member
          cases member

/-! ### The layers -/

section Layers

variable {onChainOwner : Text}

/-- An account of the file, as it is written for its address. -/
def PreparedAt (libraries : Libraries Bytes) (onChainOwner : Text) (entries : Dict)
    (key : Key) (account : PyValue.Value) : Prop :=
  ∃ address precompiled, (.str address, precompiled) ∈ entries ∧
    key = addressKey libraries address ∧
    preparePrecompiled libraries onChainOwner precompiled = .ok account

theorem lookup_precompiled {entries accounts result : Dict}
    (folded : entries.foldlM (fun accounts precompiled => do
      let address ← addressOf precompiled.1
      let account ← preparePrecompiled libraries onChainOwner precompiled.2
      return addToAccounts libraries accounts address account) accounts = .ok result)
    (key : Key) :
    (∃ account, result.lookup key = some account ∧
        PreparedAt libraries onChainOwner entries key account) ∨
      (∀ address precompiled, (.str address, precompiled) ∈ entries →
        key ≠ addressKey libraries address) ∧ result.lookup key = accounts.lookup key := by
  induction entries generalizing accounts with
  | nil =>
      obtain rfl := Except.ok.inj folded
      exact .inr ⟨fun _ _ member => (nomatch member), rfl⟩
  | cons entry entries ih =>
      rw [List.foldlM_cons] at folded
      obtain ⟨next, written, folded⟩ := bind_eq_ok.mp folded
      obtain ⟨address, addressed, readied⟩ := bind_eq_ok.mp written
      obtain ⟨account, prepared, added⟩ := bind_eq_ok.mp readied
      clear written readied
      obtain rfl := Except.ok.inj added
      obtain ⟨first, precompiled⟩ := entry
      cases first with
      | int value => cases addressed
      | str text =>
          obtain rfl := Except.ok.inj addressed
          rcases ih folded with ⟨found, held, other, listed, member, same, ready⟩ | ⟨apart, held⟩
          · exact .inl ⟨found, held, other, listed, List.mem_cons_of_mem _ member, same, ready⟩
          · by_cases same : key = addressKey libraries text
            · refine .inl ⟨account, ?_, text, precompiled, List.mem_cons_self, same, prepared⟩
              rw [held, same]
              exact lookup_assign_self ..
            · refine .inr ⟨fun address listed member => ?_, ?_⟩
              · rcases List.mem_cons.mp member with here | later
                · rw [Key.str.inj (congrArg Prod.fst here)]
                  exact same
                · exact apart address listed later
              · rw [held]
                exact lookup_assign_of_ne same

theorem nodup_precompiled {entries accounts result : Dict}
    (distinct : (accounts.map Prod.fst).Nodup)
    (folded : entries.foldlM (fun accounts precompiled => do
      let address ← addressOf precompiled.1
      let account ← preparePrecompiled libraries onChainOwner precompiled.2
      return addToAccounts libraries accounts address account) accounts = .ok result) :
    (result.map Prod.fst).Nodup := by
  induction entries generalizing accounts with
  | nil => exact Except.ok.inj folded ▸ distinct
  | cons entry entries ih =>
      rw [List.foldlM_cons] at folded
      obtain ⟨next, prepared, folded⟩ := bind_eq_ok.mp folded
      obtain ⟨address, addressed, prepared⟩ := bind_eq_ok.mp prepared
      obtain ⟨account, prepared, added⟩ := bind_eq_ok.mp prepared
      obtain rfl := Except.ok.inj added
      exact ih (nodup_keys_assign distinct) folded

theorem lookup_nodeOwners (nodes : List (ManagerNode Bytes)) (accounts : Dict) (key : Key) :
    (nodes.foldl (fun accounts node =>
      addToAccounts libraries accounts (libraries.publicKeyToAddress node.publicKey)
        (generateAccount nodeOwnerAlloc)) accounts).lookup key =
      if key ∈ nodes.map fun node =>
          addressKey libraries (libraries.publicKeyToAddress node.publicKey)
        then some (generateAccount nodeOwnerAlloc) else accounts.lookup key := by
  induction nodes generalizing accounts with
  | nil => rfl
  | cons node nodes ih =>
      rw [List.foldl_cons, ih, List.map_cons]
      by_cases later : key ∈ nodes.map fun node =>
          addressKey libraries (libraries.publicKeyToAddress node.publicKey)
      · rw [if_pos later, if_pos (List.mem_cons_of_mem _ later)]
      · rw [if_neg later]
        by_cases here : key = addressKey libraries (libraries.publicKeyToAddress node.publicKey)
        · rw [if_pos (List.mem_cons.mpr (.inl here)), here]
          exact lookup_assign_self ..
        · rw [if_neg (fun member => (List.mem_cons.mp member).elim here later)]
          exact lookup_assign_of_ne here

theorem lookup_ownerAccounts (chain : ChainArguments Bytes) (key : Key) :
    (generateOwnerAccounts libraries
      (getOnChainOwner libraries chain.schain chain.generation chain.isOwnerContract)
      (getSchainOriginator libraries chain.schain) chain.schainNodesWithSchains
      chain.generation).lookup key =
      if key ∈ (ownerAddresses libraries chain).map (addressKey libraries)
        then some (generateAccount nodeOwnerAlloc) else none := by
  unfold generateOwnerAccounts
  rw [lookup_nodeOwners, ownerAddresses, List.map_cons, List.map_map, Function.comp_def]
  by_cases member : key ∈ chain.schainNodesWithSchains.map fun node =>
      addressKey libraries (libraries.publicKeyToAddress node.publicKey)
  · rw [if_pos member, if_pos (List.mem_cons_of_mem _ member)]
  · rw [if_neg member]
    split
    · by_cases here : key = addressKey libraries (getSchainOriginator libraries chain.schain)
      · rw [if_pos (List.mem_cons.mpr (.inl here)), here]
        exact lookup_assign_self ..
      · rw [if_neg (fun there => (List.mem_cons.mp there).elim here member)]
        exact lookup_assign_of_ne here
    · by_cases here : key = addressKey libraries
          (getOnChainOwner libraries chain.schain chain.generation chain.isOwnerContract)
      · rw [if_pos (List.mem_cons.mpr (.inl here)), here]
        exact lookup_assign_self ..
      · rw [if_neg (fun there => (List.mem_cons.mp there).elim here member)]
        exact lookup_assign_of_ne here

theorem nodup_ownerAccounts {originatorAddress : Text} (nodes : List (ManagerNode Bytes))
    (generation : Nat) : ((generateOwnerAccounts libraries onChainOwner originatorAddress nodes
      generation).map Prod.fst).Nodup := by
  have folded : ∀ accounts : Dict, (accounts.map Prod.fst).Nodup →
      ((nodes.foldl (fun accounts node =>
        addToAccounts libraries accounts (libraries.publicKeyToAddress node.publicKey)
          (generateAccount nodeOwnerAlloc)) accounts).map Prod.fst).Nodup := by
    induction nodes with
    | nil => exact fun _ distinct => distinct
    | cons node nodes ih => exact fun _ distinct => ih _ (nodup_keys_assign distinct)
  unfold generateOwnerAccounts
  apply folded
  split
  · exact nodup_keys_assign List.nodup_nil
  · exact nodup_keys_assign List.nodup_nil

end Layers

/-! ### The accounts of a config -/

variable {chain : ChainArguments Bytes} {node : NodeArguments} {config : SChainConfig}

theorem update_append (entries others more : Dict) :
    update entries (others ++ more) = update (update entries others) more := by
  induction others generalizing entries with
  | nil => rfl
  | cons other others ih => exact ih _

structure AccountLayers (libraries : Libraries Bytes) (sources : ConfigSources)
    (chain : ChainArguments Bytes) (onChainOwner : Text) (accounts : Dict) : Prop where
  layers : ∃ owners precompiled,
    owners = generateOwnerAccounts libraries onChainOwner
      (getSchainOriginator libraries chain.schain) chain.schainNodesWithSchains
      chain.generation ∧
    generatePrecompiledAccounts libraries sources onChainOwner = .ok precompiled ∧
    accounts = update (update (baseAccounts sources)
      (update owners (contractAccounts libraries sources chain))) precompiled

theorem accountLayers_of_generate (vanilla : sources.staticAccounts = none)
    (generated : generateSchainConfig libraries sources chain node = .ok config) :
    AccountLayers libraries sources chain
      (getOnChainOwner libraries chain.schain chain.generation chain.isOwnerContract)
      config.accounts := by
  obtain ⟨baseConfig, based, accounted, _⟩ := (configParts_of_generate generated).base
  unfold generateAccounts at accounted
  rw [vanilla] at accounted
  obtain ⟨schainType, typed, accounted⟩ := bind_eq_ok.mp accounted
  obtain ⟨predeployed, laidOut, accounted⟩ := bind_eq_ok.mp accounted
  obtain ⟨precompiled, prepared, accounted⟩ := bind_eq_ok.mp accounted
  obtain ⟨value, held, accounted⟩ := bind_eq_ok.mp accounted
  obtain ⟨base, isDict, merged⟩ := bind_eq_ok.mp accounted
  obtain rfl := asDict_eq_ok isDict
  have baseHeld : baseAccounts sources = base := by
    unfold baseAccounts
    rw [based, Option.bind_eq_bind, Option.bind_some, item_eq_ok held]
  refine ⟨_, precompiled, rfl, prepared, ?_⟩
  rw [baseHeld, ← Except.ok.inj merged]
  congr 2
  unfold generatePredeployedAccounts at laidOut
  rw [contractAccounts, update_append]
  split at laidOut
  · rename_i later
    obtain ⟨allocatedStorage, allocated, laidOut⟩ := bind_eq_ok.mp laidOut
    rw [if_pos later, ← Except.ok.inj laidOut]
    have storage : (getSchainType chain.schain.partOfNode >>= fun schainType =>
        getFsAllocatedStorage sources schainType chain.schain.allocationTypeName) =
        .ok allocatedStorage := bind_eq_ok.mpr ⟨_, typed, allocated⟩
    rw [storage]
  · rename_i first
    rw [if_neg first, ← Except.ok.inj laidOut]
    rfl

theorem mem_precompiledKeys {address : Text} {precompiled : PyValue.Value}
    (member : (.str address, precompiled) ∈ sources.precompiledContracts) :
    addressKey libraries address ∈ precompiledKeys libraries sources :=
  List.mem_filterMap.mpr ⟨_, member, rfl⟩

section Samples

def precompiledNamed (name permission : String) : PyValue.Value :=
  .dict [(.str "precompiled".toList, .dict [(.str "name".toList, .str name.toList),
    (.str "restrictAccess".toList, .list [.str permission.toList])])]

def foundingSources : ConfigSources :=
  { pairSources with
    staticAccounts := none
    precompiledContracts := [
      (.str "0x000000000000000000000000000000000000000B".toList,
        precompiledNamed "createFile" "fs"),
      (.str "0x0000000000000000000000000000000000000019".toList,
        precompiledNamed "logTextMessage" "schainOwner")] }

def foundingChain : ChainArguments Ipv4.Address where
  schain := smallSchain "demo"
  rotationId := 0
  schainNodesWithSchains := [firstManagerNode, secondManagerNode]
  nodeGroups := []
  generation := 1
  isOwnerContract := false
  skaleManagerOpts := pairSkale.skaleManagerOpts
  commonBlsPublicKeys := [.int 1, .int 2, .int 3, .int 4]

def foundingNode : NodeArguments where
  nodeId := 0
  nodeName := "first".toList
  ecdsaKeyName := firstLocalNode.ecdsaKeyName
  schainBasePort := 10064
  secretKeyShare := firstLocalNode.secretKeyShare
  certFile := "cert".toList
  keyFile := "key".toList

theorem founding_generates : (generateSchainConfig pairLibraries foundingSources foundingChain
    foundingNode).toOption.isSome = true := by
  decide +kernel

end Samples

end SkaleAdmin.Config
