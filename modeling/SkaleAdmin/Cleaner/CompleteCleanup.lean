import SkaleAdmin.Cleaner.Cleanup

/-! What is left of a chain after its cleanup. -/

namespace SkaleAdmin.Cleaner

open PyText Json Config
open Interaction (Outcome)
open Firewall (SChainRuleController SChainFirewallManager SkaledPorts FirewallError
  FirewallM runOn)

namespace NodeState

variable (settings : CleanupSettings) (node : NodeState)

def controller : Option SChainRuleController :=
  if SkaledChecks.config node.files then
    Except.toOption do
      configured (defaultRuleController settings) (← skaledConfig node.files)
        (← externalRanges node.files)
  else
    none

def isImaHealthy : Bool :=
  match externalConfigRead node.files with
  | .ok (.obj fields) =>
      !truthy ((fields.lookup "ima_linked".toList).getD (.bool true)) ||
        (node.container .ima = some .running && settings.imaUpToDate)
  | _ => false

variable {settings node} in
theorem isImaHealthy_congr {other : NodeState} (sameFiles : node.files = other.files)
    (sameIma : node.container .ima = other.container .ima) :
    node.isImaHealthy settings = other.isImaHealthy settings := by
  unfold isImaHealthy
  rw [sameFiles, sameIma]

/-- Whether something that the data of the chain is mounted from is there, a leftover
directory or link of a sync node too. -/
def hasData : Bool :=
  if settings.syncNode then node.stateDir || node.staticLink else node.volume

/-- Nothing of what the node had of the chain is left. -/
structure Cleaned (node' : NodeState) : Prop where
  skaled : node'.container .schain = none
  ima : node'.container .ima = none
  volume : node'.hasData settings = false
  rules : ∀ rc, node.controller settings = some rc →
    ∀ ruleD ∈ node'.chain, rc.manager.isForeign ruleD = true
  configDir : node'.configDir = none
  deleted : ∃ record, node'.record = some record ∧ record .isDeleted = true

def Removable (type : ContainerType) (removes : Prop) : Prop :=
  node.container type = none ∨
    removes ∧ settings.failing (.getContainer type) = false

structure Covered (estate : Option ExternalState) : Prop where
  skaled : node.Removable settings .schain
    (node.container .schain = some .running ∨ node.container .schain = some .exited)
  ima : node.Removable settings .ima (isImaLinked estate = true ∧
    (node.isImaHealthy settings = true ∨ node.container .ima = some .exited))
  volume : settings.syncNode = true → node.stateDir = false ∧ node.staticLink = false
  rules : ∀ rc, node.controller settings = some rc →
    (∀ ruleD ∈ node.chain, rc.manager.isForeign ruleD = true) ∨
      (∀ rule, rule ∈ rc.manager.held node.chain ↔ rule ∈ rc.expected) ∧
        rc.manager.Plain node.chain

end NodeState

/-! ### Runs that return -/

section Returns

variable {α β : Type} {node node' : NodeState} {settings : CleanupSettings}

abbrev Returns (body : CleanupM α) (node : NodeState) (result : α) (node' : NodeState) :
    Prop :=
  body node = .ok (result, node')

theorem returns_bind {first : CleanupM β} {next : β → CleanupM α} {result : α} :
    Returns (first >>= next) node result node' ↔
      ∃ middle between, Returns first node middle between ∧
        Returns (next middle) between result node' := by
  change (first node >>= fun ended => next ended.1 ended.2) = _ ↔ _
  cases ended : first node with
  | error error =>
      refine iff_of_false (by rintro ⟨⟩) ?_
      rintro ⟨middle, between, same, _⟩
      rw [Returns, ended] at same
      cases same
  | ok ended' =>
      obtain ⟨middle, between⟩ := ended'
      constructor
      · intro returns
        exact ⟨middle, between, ended, returns⟩
      · rintro ⟨middle', between', same, returns⟩
        rw [Returns, ended] at same
        cases same
        exact returns

@[simp] theorem returns_pure {value result : α} :
    Returns (pure value) node result node' ↔ value = result ∧ node = node' := by
  change Except.ok (value, node) = Except.ok (result, node') ↔ _
  simp

@[simp] theorem returns_get {result : NodeState} :
    Returns get node result node' ↔ node = result ∧ node = node' := by
  change Except.ok (node, node) = Except.ok (result, node') ↔ _
  simp

@[simp] theorem returns_modify {change : NodeState → NodeState} {result : PUnit} :
    Returns (modify change) node result node' ↔ change node = node' := by
  change Except.ok (PUnit.unit, change node) = Except.ok (result, node') ↔ _
  simp

@[simp] theorem returns_call {query : CleanupCall} {result : Unit} :
    Returns (call settings query) node result node' ↔
      settings.failing query = false ∧ node = node' := by
  unfold Returns call
  split
  · next failing => simp [failing]
  · next holds => simp [holds]

@[simp] theorem returns_evaluate {evaluated : NodeState → Evaluated α} {result : α} :
    Returns (evaluate evaluated) node result node' ↔
      evaluated node = .ok result ∧ node = node' := by
  unfold Returns evaluate
  cases evaluated node <;> simp

@[simp] theorem returns_liftFirewall {body : FirewallM α} {result : α} :
    Returns (liftFirewall body) node result node' ↔
      ∃ chain, runOn body node.chain = (.value result, chain) ∧
        node' = { node with chain } := by
  unfold Returns liftFirewall
  cases runOn body node.chain with
  | mk outcome chain =>
      cases outcome with
      | value value =>
          simp only [Except.ok.injEq, Prod.mk.injEq, Outcome.value.injEq]
          constructor
          · rintro ⟨rfl, rfl⟩
            exact ⟨chain, ⟨rfl, rfl⟩, rfl⟩
          · rintro ⟨chain, ⟨rfl, rfl⟩, rfl⟩
            exact ⟨rfl, rfl⟩
      | raised error => simp
      | running => simp

theorem returns_ite {condition : Bool} {positive negative : CleanupM α} {result : α} :
    Returns (if condition then positive else negative) node result node' ↔
      if condition then Returns positive node result node'
      else Returns negative node result node' := by
  cases condition <;> rfl

/-! ### Steps -/

theorem returns_hasStatus {type : ContainerType} {status : Status} {result : Bool} :
    Returns (hasStatus settings type status) node result node' →
      result = decide (node.container type = some status) ∧ node' = node := by
  intro returns
  simp only [hasStatus, returns_bind, returns_call, returns_get, returns_pure] at returns
  obtain ⟨_, _, ⟨_, rfl⟩, _, _, ⟨rfl, rfl⟩, rfl, rfl⟩ := returns
  exact ⟨rfl, rfl⟩

def withoutContainer (settings : CleanupSettings) (type : ContainerType)
    (node : NodeState) : NodeState :=
  if settings.failing (.getContainer type) then node
  else { node with container := Function.update node.container type none }

theorem returns_safeRm {type : ContainerType} {result : Unit}
    (returns : Returns (safeRm settings type) node result node') :
    node' = withoutContainer settings type node := by
  unfold withoutContainer
  simp only [safeRm, returns_bind, returns_get, returns_ite, returns_pure] at returns
  obtain ⟨_, _, ⟨rfl, rfl⟩, returns⟩ := returns
  cases failing : settings.failing (.getContainer type) with
  | true =>
      obtain rfl : node = node' := by simpa [failing] using returns
      rfl
  | false =>
      cases here : node.container type with
      | none =>
          obtain rfl : node = node' := by simpa [failing, here] using returns
          have same : Function.update node.container type none = node.container := by
            rw [← here, Function.update_eq_self]
          rw [same]
          rfl
      | some status =>
          simp only [failing, here, returns_call, returns_modify, Bool.false_or,
            Option.isNone_some, Bool.false_eq_true, if_false] at returns
          obtain ⟨_, _, ⟨_, rfl⟩, _, _, ⟨_, rfl⟩, _, _, ⟨_, rfl⟩, rfl⟩ := returns
          rfl

theorem withoutContainer_self {type : ContainerType} :
    (withoutContainer settings type node).container type = none ↔
      node.container type = none ∨ settings.failing (.getContainer type) = false := by
  unfold withoutContainer
  cases settings.failing (.getContainer type) <;> simp

theorem withoutContainer_of_ne {type other : ContainerType} (apart : other ≠ type) :
    (withoutContainer settings type node).container other = node.container other := by
  unfold withoutContainer
  split
  · rfl
  · exact Function.update_of_ne apart ..

theorem withoutContainer_eq (settings : CleanupSettings) (type : ContainerType)
    (node : NodeState) : ∃ container,
      withoutContainer settings type node = { node with container } := by
  unfold withoutContainer
  split
  · exact ⟨node.container, rfl⟩
  · exact ⟨_, rfl⟩

theorem returns_removal {type : ContainerType} {healthy : Bool}
    (returns : Returns (do
      if ← orExited settings healthy type then safeRm settings type else return)
      node () node') :
    (∃ container, node' = { node with container } ∧
      ∀ other, other ≠ type → container other = node.container other) ∧
    (node'.container type = none ↔ node.Removable settings type
      (healthy = true ∨ node.container type = some .exited)) := by
  obtain ⟨remove, between, decided, returns⟩ := returns_bind.mp returns
  have known : remove = (healthy || decide (node.container type = some .exited)) ∧
      between = node := by
    cases healthy with
    | true =>
        obtain ⟨rfl, rfl⟩ := returns_pure.mp decided
        exact ⟨rfl, rfl⟩
    | false => exact returns_hasStatus decided
  obtain ⟨rfl, rfl⟩ := known
  unfold NodeState.Removable
  cases removes : healthy || decide (between.container type = some .exited) with
  | false =>
      rw [removes] at returns
      obtain ⟨_, rfl⟩ := returns_pure.mp returns
      refine ⟨⟨_, rfl, fun _ _ => rfl⟩, ?_⟩
      simp_all
  | true =>
      rw [removes] at returns
      obtain rfl := returns_safeRm returns
      obtain ⟨container, same⟩ := withoutContainer_eq settings type between
      refine ⟨⟨container, same, fun other apart => ?_⟩, ?_⟩
      · rw [← withoutContainer_of_ne apart, same]
      · rw [withoutContainer_self]
        simp_all

theorem returns_rmVol {result : Unit}
    (returns : Returns (rmVol settings) node result node') :
    node' = { node with volume := false } := by
  simp only [rmVol, returns_bind, returns_call, returns_get, returns_ite,
    returns_modify, returns_pure] at returns
  obtain ⟨_, _, ⟨_, rfl⟩, _, _, ⟨rfl, rfl⟩, returns⟩ := returns
  split at returns
  · obtain ⟨_, _, ⟨_, rfl⟩, rfl⟩ := returns
    rfl
  · next absent =>
    obtain ⟨_, rfl⟩ := returns
    rw [Bool.not_eq_true] at absent
    rw [← absent]

theorem returns_removeSchainVolume {checkStatus : CheckStatus}
    (returns : Returns (removeSchainVolume settings checkStatus) node () node')
    (looked : checkStatus.volume = node.isVolumeExists settings) :
    (∃ volume, node' = { node with volume }) ∧
      (node'.hasData settings = false ↔
        (settings.syncNode = true → node.stateDir = false ∧ node.staticLink = false)) := by
  unfold removeSchainVolume at returns
  rw [looked] at returns
  have removed : (∃ volume, node' = { node with volume }) ∧
      (settings.syncNode = false → node'.volume = false) := by
    split at returns
    · obtain rfl := returns_rmVol returns
      exact ⟨⟨false, rfl⟩, fun _ => rfl⟩
    · rename_i missing
      obtain ⟨_, rfl⟩ := returns_pure.mp returns
      refine ⟨⟨node.volume, rfl⟩, fun regular => ?_⟩
      simpa [NodeState.isVolumeExists, regular] using missing
  obtain ⟨⟨volume, rfl⟩, gone⟩ := removed
  refine ⟨⟨volume, rfl⟩, ?_⟩
  unfold NodeState.hasData
  cases sync : settings.syncNode with
  | true => simp
  | false => simpa using gone sync

theorem returns_removeConfigDir {checkStatus : CheckStatus}
    (returns : Returns (removeConfigDir settings checkStatus) node () node')
    (looked : checkStatus.configDir = node.configDir.isSome) :
    node' = { node with configDir := none } := by
  unfold removeConfigDir at returns
  rw [looked] at returns
  cases exist : node.configDir with
  | none =>
      rw [exist] at returns
      obtain ⟨_, rfl⟩ := returns_pure.mp returns
      rw [← exist]
  | some files =>
      rw [exist] at returns
      obtain ⟨_, _, called, changed⟩ := returns_bind.mp returns
      obtain ⟨_, rfl⟩ := returns_call.mp called
      exact (returns_modify.mp changed).symm

theorem returns_markSchainDeleted
    (returns : Returns (markSchainDeleted settings) node () node') :
    node' = { node with
      record := node.record.map fun record => record.set .isDeleted true } := by
  obtain ⟨_, _, called, changed⟩ := returns_bind.mp returns
  obtain ⟨_, rfl⟩ := returns_call.mp called
  exact (returns_modify.mp changed).symm

theorem returns_upsertSchainRecord
    (returns : Returns (upsertSchainRecord settings) node () node') :
    ∃ record, node' = { node with record := some record } := by
  obtain ⟨_, _, called, changed⟩ := returns_bind.mp returns
  obtain ⟨_, rfl⟩ := returns_call.mp called
  exact ⟨_, (returns_modify.mp changed).symm⟩

theorem configured_manager {rc first second : SChainRuleController} {conf : Value}
    {ranges ranges' : List IpRange} (once : configured rc conf ranges = .ok first)
    (twice : configured first conf ranges' = .ok second) :
    second.manager = first.manager := by
  unfold configured at once twice
  obtain ⟨addresses, read, same⟩ := bind_eq_ok.mp once
  obtain ⟨again, readAgain, sameAgain⟩ := bind_eq_ok.mp twice
  rw [read] at readAgain
  cases readAgain
  cases same
  cases sameAgain
  unfold SChainRuleController.manager SChainRuleController.configure
  dsimp only
  split <;> rfl

def RulesLooked (settings : CleanupSettings) (node : NodeState) (synced : Bool)
    (rc : SChainRuleController) : Prop :=
  node.controller settings = none ∧ synced = false ∨
    node.controller settings = some rc ∧ (synced = true ↔
      ∀ rule, rule ∈ rc.manager.held node.chain ↔ rule ∈ rc.expected)

theorem exists_configured {rc : SChainRuleController} {conf : Value}
    (present : node.controller settings = some rc)
    (found : skaledConfig node.files = .ok conf) :
    ∃ ranges, configured (defaultRuleController settings) conf ranges = .ok rc := by
  unfold NodeState.controller at present
  split at present
  case isFalse => cases present
  case isTrue =>
    rw [found] at present
    cases read : externalRanges node.files with
    | error error =>
        rw [read] at present
        cases present
    | ok ranges =>
        rw [read] at present
        have same : (configured (defaultRuleController settings) conf ranges).toOption =
          some rc := present
        refine ⟨ranges, ?_⟩
        cases made : configured (defaultRuleController settings) conf ranges with
        | error error =>
            rw [made] at same
            cases same
        | ok made' =>
            rw [made] at same
            rw [Option.some.inj same]

theorem returns_firewallRulesCheck {synced : Bool} {rc : SChainRuleController}
    (returns : Returns (firewallRulesCheck (defaultRuleController settings)) node
      (synced, rc) node') :
    node' = node ∧ RulesLooked settings node synced rc := by
  unfold RulesLooked
  obtain ⟨_, _, read, returns⟩ := returns_bind.mp returns
  obtain ⟨rfl, rfl⟩ := returns_get.mp read
  unfold NodeState.controller
  cases exist : SkaledChecks.config node.files with
  | false =>
      rw [exist] at returns
      obtain ⟨same, rfl⟩ := returns_pure.mp returns
      cases same
      exact ⟨rfl, .inl ⟨rfl, rfl⟩⟩
  | true =>
      rw [exist, if_pos rfl] at returns
      obtain ⟨_, _, evaluated, returns⟩ := returns_bind.mp returns
      obtain ⟨known, rfl⟩ := returns_evaluate.mp evaluated
      obtain ⟨_, _, lifted, returns⟩ := returns_bind.mp returns
      obtain ⟨chain, ran, rfl⟩ := returns_liftFirewall.mp lifted
      obtain ⟨same, rfl⟩ := returns_pure.mp returns
      cases same
      obtain ⟨rfl, agrees⟩ := Firewall.isRulesSynced_returns ran
      refine ⟨rfl, .inr ⟨?_, agrees⟩⟩
      rw [if_pos rfl, known]
      rfl

theorem returns_removeRules {estate : Option ExternalState} {checkStatus : CheckStatus}
    {rc : SChainRuleController}
    (returns : Returns (removeRules estate checkStatus rc) node () node')
    (looked : RulesLooked settings node checkStatus.firewallRules rc) :
    (∃ chain, node' = { node with chain }) ∧
      ((∀ rc, node.controller settings = some rc →
          ∀ ruleD ∈ node'.chain, rc.manager.isForeign ruleD = true) ↔
        ∀ rc, node.controller settings = some rc →
          (∀ ruleD ∈ node.chain, rc.manager.isForeign ruleD = true) ∨
            (∀ rule, rule ∈ rc.manager.held node.chain ↔ rule ∈ rc.expected) ∧
              rc.manager.Plain node.chain) := by
  unfold removeRules at returns
  cases synced : checkStatus.firewallRules with
  | false =>
      rw [synced] at returns looked
      obtain ⟨_, rfl⟩ := returns_pure.mp returns
      refine ⟨⟨_, rfl⟩, ?_⟩
      rcases looked with ⟨absent, _⟩ | ⟨present, agrees⟩
      · simp [absent]
      · have apart : ¬ ∀ rule, rule ∈ rc.manager.held node.chain ↔ rule ∈ rc.expected :=
          fun all => by cases agrees.mpr all
        simp [present, apart]
  | true =>
      rw [synced] at returns looked
      rcases looked with ⟨_, ⟨⟩⟩ | ⟨present, agrees⟩
      rw [if_pos rfl] at returns
      obtain ⟨again, _, evaluated, returns⟩ := returns_bind.mp returns
      obtain ⟨read, rfl⟩ := returns_evaluate.mp evaluated
      obtain ⟨chain, ran, rfl⟩ := returns_liftFirewall.mp returns
      obtain ⟨conf, found, twice⟩ := bind_eq_ok.mp read
      obtain ⟨ranges, once⟩ := exists_configured present found
      have cleared := Firewall.cleanup_returns ran
      rw [configured_manager once twice] at cleared
      refine ⟨⟨chain, rfl⟩, ?_⟩
      simp only [present, Option.some.injEq, forall_eq']
      rw [cleared]
      constructor
      · intro plain
        exact .inr ⟨agrees.mp rfl, plain⟩
      · rintro (foreign | ⟨_, plain⟩)
        · intro ruleD inside rule managed
          have own := SChainFirewallManager.isForeign_of_managed managed
          rw [foreign ruleD inside] at own
          cases own
        · exact plain

theorem returns_volumeCheck {volume : Bool}
    (returns : Returns (volumeCheck settings) node volume node') :
    node' = node ∧ volume = node.isVolumeExists settings := by
  obtain ⟨_, _, inspected, returns⟩ := returns_bind.mp returns
  obtain ⟨_, _, read, returns⟩ := returns_bind.mp returns
  obtain ⟨rfl, rfl⟩ := returns_get.mp read
  obtain ⟨rfl, rfl⟩ := returns_pure.mp returns
  unfold inspectVolume at inspected
  split at inspected
  · obtain ⟨_, rfl⟩ := returns_pure.mp inspected
    exact ⟨rfl, rfl⟩
  · obtain ⟨_, rfl⟩ := returns_call.mp inspected
    exact ⟨rfl, rfl⟩

theorem returns_imaContainerCheck {status : Option Bool}
    (returns : Returns (imaContainerCheck settings) node status node') :
    node' = node ∧ status.getD false = node.isImaHealthy settings := by
  unfold NodeState.isImaHealthy
  obtain ⟨econfig, _, evaluated, returns⟩ := returns_bind.mp returns
  obtain ⟨read, rfl⟩ := returns_evaluate.mp evaluated
  rw [read]
  cases econfig with
  | obj fields =>
      dsimp only at returns ⊢
      cases linked : truthy ((fields.lookup "ima_linked".toList).getD (.bool true)) with
      | false =>
          rw [linked] at returns
          obtain ⟨rfl, rfl⟩ := returns_pure.mp returns
          exact ⟨rfl, rfl⟩
      | true =>
          rw [linked, if_pos rfl] at returns
          obtain ⟨_, _, called, returns⟩ := returns_bind.mp returns
          obtain ⟨_, rfl⟩ := returns_call.mp called
          obtain ⟨running, _, asked, returns⟩ := returns_bind.mp returns
          obtain ⟨rfl, rfl⟩ := returns_hasStatus asked
          obtain ⟨rfl, rfl⟩ := returns_pure.mp returns
          exact ⟨rfl, rfl⟩
  | _ =>
      obtain ⟨rfl, rfl⟩ := returns_pure.mp returns
      exact ⟨rfl, rfl⟩

structure Looked (settings : CleanupSettings) (node : NodeState)
    (checkStatus : CheckStatus) (rc : SChainRuleController) : Prop where
  configDir : checkStatus.configDir = node.configDir.isSome
  volume : checkStatus.volume = node.isVolumeExists settings
  rules : RulesLooked settings node checkStatus.firewallRules rc
  skaled : checkStatus.skaledContainer = decide (node.container .schain = some .running)
  ima : checkStatus.imaContainer.getD false = node.isImaHealthy settings

theorem returns_getAll {checkStatus : CheckStatus} {rc : SChainRuleController}
    (returns : Returns (getAll settings (defaultRuleController settings)) node
      (checkStatus, rc) node') :
    node' = node ∧ Looked settings node checkStatus rc := by
  obtain ⟨_, _, read, returns⟩ := returns_bind.mp returns
  obtain ⟨rfl, rfl⟩ := returns_get.mp read
  obtain ⟨_, _, called, returns⟩ := returns_bind.mp returns
  obtain ⟨_, rfl⟩ := returns_call.mp called
  obtain ⟨_, _, called, returns⟩ := returns_bind.mp returns
  obtain ⟨_, rfl⟩ := returns_call.mp called
  obtain ⟨volume, _, checked, returns⟩ := returns_bind.mp returns
  obtain ⟨rfl, volumeLooked⟩ := returns_volumeCheck checked
  obtain ⟨⟨firewallRules, rc'⟩, _, checked, returns⟩ := returns_bind.mp returns
  obtain ⟨rfl, rulesLooked⟩ := returns_firewallRulesCheck checked
  obtain ⟨skaledContainer, _, checked, returns⟩ := returns_bind.mp returns
  obtain ⟨skaledLooked, rfl⟩ := returns_hasStatus checked
  obtain ⟨_, _, called, returns⟩ := returns_bind.mp returns
  obtain ⟨_, rfl⟩ := returns_call.mp called
  obtain ⟨_, _, called, returns⟩ := returns_bind.mp returns
  obtain ⟨_, rfl⟩ := returns_call.mp called
  obtain ⟨_, _, called, returns⟩ := returns_bind.mp returns
  obtain ⟨_, rfl⟩ := returns_call.mp called
  obtain ⟨_, _, called, returns⟩ := returns_bind.mp returns
  obtain ⟨_, rfl⟩ := returns_call.mp called
  obtain ⟨imaContainer, _, checked, returns⟩ := returns_bind.mp returns
  obtain ⟨rfl, imaLooked⟩ := returns_imaContainerCheck checked
  obtain ⟨same, rfl⟩ := returns_pure.mp returns
  cases same
  exact ⟨rfl, rfl, volumeLooked, rulesLooked, skaledLooked, imaLooked⟩

theorem returns_removeImaContainer {estate : Option ExternalState}
    {checkStatus : CheckStatus}
    (returns : Returns (removeImaContainer settings estate checkStatus) node () node')
    (looked : checkStatus.imaContainer.getD false = node.isImaHealthy settings) :
    (∃ container, node' = { node with container } ∧
      ∀ other, other ≠ .ima → container other = node.container other) ∧
    (node'.container .ima = none ↔ node.Removable settings .ima
      (isImaLinked estate = true ∧
        (node.isImaHealthy settings = true ∨ node.container .ima = some .exited))) := by
  unfold removeImaContainer at returns
  cases linked : isImaLinked estate with
  | true =>
      rw [linked, if_pos rfl, looked] at returns
      simpa using returns_removal returns
  | false =>
      rw [linked] at returns
      obtain ⟨_, rfl⟩ := returns_pure.mp returns
      refine ⟨⟨_, rfl, fun _ _ => rfl⟩, ?_⟩
      simp [NodeState.Removable]

end Returns

/-- A cleanup that returns has left nothing if and only if its checks have covered what
there was. -/
theorem cleanup_complete_iff (settings : CleanupSettings) (estate : Option ExternalState)
    (node node' : NodeState)
    (returns : cleanupSchain settings estate node = .ok ((), node')) :
    node.Cleaned settings node' ↔ node.Covered settings estate := by
  obtain ⟨_, _, upserted, returns⟩ := returns_bind.mp returns
  obtain ⟨record, rfl⟩ := returns_upsertSchainRecord upserted
  obtain ⟨_, _, called, returns⟩ := returns_bind.mp returns
  obtain ⟨_, rfl⟩ := returns_call.mp called
  obtain ⟨⟨checkStatus, rc⟩, _, checked, returns⟩ := returns_bind.mp returns
  obtain ⟨rfl, looked⟩ := returns_getAll checked
  obtain ⟨_, _, removed, returns⟩ := returns_bind.mp returns
  unfold removeSchainContainer at removed
  rw [looked.skaled] at removed
  obtain ⟨⟨withoutSkaled, rfl, imaSame⟩, skaled⟩ := returns_removal removed
  obtain ⟨_, _, removed, returns⟩ := returns_bind.mp returns
  obtain ⟨⟨volume, rfl⟩, volumeGone⟩ := returns_removeSchainVolume removed looked.volume
  obtain ⟨_, _, removed, returns⟩ := returns_bind.mp returns
  obtain ⟨⟨chain, rfl⟩, rules⟩ := returns_removeRules removed looked.rules
  obtain ⟨_, _, removed, returns⟩ := returns_bind.mp returns
  have imaHere : withoutSkaled .ima = node.container .ima := imaSame .ima nofun
  have healthy : NodeState.isImaHealthy settings { node with
      record := some record, container := withoutSkaled, volume, chain } =
      node.isImaHealthy settings :=
    NodeState.isImaHealthy_congr rfl imaHere
  obtain ⟨⟨container, rfl, skaledSame⟩, ima⟩ :=
    returns_removeImaContainer removed (looked.ima.trans healthy.symm)
  have skaledHere : container .schain = withoutSkaled .schain := skaledSame .schain nofun
  obtain ⟨_, _, removed, returns⟩ := returns_bind.mp returns
  obtain rfl := returns_removeConfigDir removed looked.configDir
  obtain rfl := returns_markSchainDeleted returns
  have skaledGone : container .schain = none ↔ node.Removable settings .schain
      (node.container .schain = some .running ∨ node.container .schain = some .exited) := by
    rw [skaledHere]
    simpa [NodeState.Removable] using skaled
  have imaGone : container .ima = none ↔ node.Removable settings .ima
      (isImaLinked estate = true ∧
        (node.isImaHealthy settings = true ∨ node.container .ima = some .exited)) := by
    unfold NodeState.Removable at ima ⊢
    rw [← imaHere, ← healthy]
    exact ima
  constructor
  · intro cleaned
    exact ⟨skaledGone.mp cleaned.skaled, imaGone.mp cleaned.ima, volumeGone.mp cleaned.volume,
      rules.mp cleaned.rules⟩
  · intro covered
    exact ⟨skaledGone.mpr covered.skaled, imaGone.mpr covered.ima,
      volumeGone.mpr covered.volume, rules.mpr covered.rules, rfl,
      record.set .isDeleted true, rfl, rfl⟩

def sampleCleanup : CleanupSettings where
  schainName := "chain"
  portsPerSchain := 64
  portAllocation := Firewall.samplePorts

def sampleEstate : ExternalState := { chainId := 1, imaLinked := true, ranges := [] }

def sampleNode (status : Status) : NodeState where
  record := none
  container := fun _ => some status
  volume := true
  stateDir := false
  staticLink := false
  chain := []
  configDir := some []

/-- Containers that have exited are removed. -/
theorem exited_cleanup_complete : ∃ node',
    cleanupSchain sampleCleanup (some sampleEstate) (sampleNode .exited) = .ok ((), node') ∧
      (sampleNode .exited).Cleaned sampleCleanup node' :=
  ⟨_, rfl, (cleanup_complete_iff sampleCleanup (some sampleEstate) (sampleNode .exited) _
    rfl).mpr
    { skaled := .inr ⟨.inr rfl, rfl⟩
      ima := .inr ⟨⟨rfl, .inr rfl⟩, rfl⟩
      volume := nofun
      rules := nofun }⟩

/-- A paused skaled container is left. -/
theorem cleanup_can_be_incomplete : ∃ node',
    cleanupSchain sampleCleanup (some sampleEstate) (sampleNode .paused) = .ok ((), node') ∧
      node'.container .schain = some .paused :=
  ⟨_, rfl, rfl⟩

end SkaleAdmin.Cleaner
