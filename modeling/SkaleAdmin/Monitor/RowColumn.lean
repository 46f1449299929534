import SkaleAdmin.Monitor.SkaledFootprint

/-! What a skaled pipeline does to one column of the row. -/

namespace SkaleAdmin.Monitor

open Interaction Json
open Interaction.Procedure (Sketch calls_bind calls_invoke sketch_pure sketch_raise
  sketch_bind sketch_invoke sketch_attempt)

def MonitorQuery.isQuiet : MonitorQuery → Bool
  | saveRecord .. | runSchainContainer .. | restartContainer _ => false
  | _ => true

abbrev Quiet {α : Type} (body : MonitorM α) : Prop :=
  body.Calls fun query : MonitorQuery => query.isQuiet = true

theorem quiet_of_isAuxiliary {query : MonitorQuery}
    (auxiliary : query.isAuxiliary = true) : query.isQuiet = true := by
  cases query with
  | saveRecord | runSchainContainer | restartContainer => cases auxiliary
  | _ => rfl

theorem quiet_of_auxiliary {α : Type} {body : MonitorM α}
    (auxiliary : Auxiliary body) : Quiet body :=
  auxiliary.mono fun _ => quiet_of_isAuxiliary

theorem quiet_invoke {query : MonitorQuery} (quiet : query.isQuiet = true) :
    Quiet (invoke query) :=
  calls_invoke quiet

namespace SkaledActionManager

/-- `RepairSkaledMonitor.execute` up to its check of the container. -/
def repairContainerCheck : MonitorM Bool := do
  let _ ← invoke .containerExitCode
  invoke .notifyRepairMode
  cleanupSchainDockerEntity
  ifNot (← firewallRulesCheck) firewallRules
  ifNot (← invoke .isVolumeExists) volume
  invoke (.isContainerRunning .schain)

def repairRest (am : SkaledActionManager) (running : Bool) : MonitorM Unit :=
  if running then
    Procedure.raise .attributeError
  else do
    am.skaledContainer true
    let now ← invoke .time
    updateRepairTs now

theorem repairSkaledMonitor_eq (am : SkaledActionManager) :
    am.repairSkaledMonitor = (repairContainerCheck >>= am.repairRest) := by
  simp only [repairContainerCheck, repairSkaledMonitor, Procedure.bind_assoc]
  rfl

end SkaledActionManager

section Column

variable {W M J ρ α β : Type} (host : Host monitorInterface W M J ρ)
  (discipline : Host.Discipline monitorInterface W M J) (invariant : W → Prop)

/-- `holds value` says what is asserted of a value that the row or an object of it
has in the column. -/
structure ColumnKeeper (column : Web.Column) (holds : column.Value → W → Prop) :
    Prop where
  stable : ∀ value, host.Stable discipline invariant (holds value)
  quiet : ∀ ⦃query : MonitorQuery⦄ ⦃proposed answer : Except MonitorError query.Reply⦄
    ⦃world world' : W⦄ ⦃value : column.Value⦄, query.isQuiet = true →
    invariant world → holds value world → discipline.call query proposed world →
    host.serve query proposed world = some (answer, world') →
    invariant world' ∧ holds value world'
  load : ∀ ⦃proposed : Except MonitorError Web.SChainRecord⦄
    ⦃record : Web.SChainRecord⦄ ⦃world world' : W⦄ ⦃value : column.Value⦄,
    invariant world → holds value world →
    host.serve .loadRecord proposed world = some (.ok record, world') →
    holds (record column) world
  save : ∀ ⦃setter : Web.Setter⦄ ⦃copy : Web.SChainRecord⦄
    ⦃proposed answer : Except MonitorError Unit⦄ ⦃world world' : W⦄,
    setter.column ≠ column → invariant world → holds (copy column) world →
    discipline.call (.saveRecord setter copy) proposed world →
    host.serve (.saveRecord setter copy) proposed world = some (answer, world') →
    invariant world' ∧ holds (copy column) world'

namespace ColumnKeeper

variable {host : Host monitorInterface W M J ρ}
  {discipline : Host.Discipline monitorInterface W M J} {invariant : W → Prop}
  {column : Web.Column} {holds : column.Value → W → Prop}
  {keeper : ColumnKeeper host discipline invariant column holds}

def Held (_ : ColumnKeeper host discipline invariant column holds) (world : W) :
    Prop :=
  ∃ value, holds value world

/-- `holds` of the column of the object. -/
def Current (_ : ColumnKeeper host discipline invariant column holds)
    (record : Web.SChainRecord) (world : W) : Prop :=
  holds (record column) world

/-- The body ends as `after` says, or raises while the column is held. -/
def Leads (keeper : ColumnKeeper host discipline invariant column holds)
    (body : MonitorM α) (after : α → W → Prop) : Prop :=
  Sketch host discipline invariant keeper.Held body after fun _ => keeper.Held

abbrev Keeps (keeper : ColumnKeeper host discipline invariant column holds)
    (body : MonitorM α) : Prop :=
  keeper.Leads body fun _ => keeper.Held

def Spends (keeper : ColumnKeeper host discipline invariant column holds)
    (record : Web.SChainRecord) (body : MonitorM α) : Prop :=
  Sketch host discipline invariant (keeper.Current record) body
    (fun _ => keeper.Held) fun _ => keeper.Held

def Passes (keeper : ColumnKeeper host discipline invariant column holds)
    (record : Web.SChainRecord) (body : MonitorM Web.SChainRecord) : Prop :=
  Sketch host discipline invariant (keeper.Current record) body keeper.Current
    fun _ => keeper.Held

variable {record : Web.SChainRecord} {after : α → W → Prop}

theorem stable_held : host.Stable discipline invariant keeper.Held := by
  intro world moved move kept held allowed taken
  obtain ⟨value, holds⟩ := held
  exact ⟨value, keeper.stable value kept holds allowed taken⟩

theorem stable_current : host.Stable discipline invariant (keeper.Current record) :=
  keeper.stable _

theorem Keeps.spends {body : MonitorM α} (keeps : keeper.Keeps body) :
    keeper.Spends record body :=
  Sketch.strengthen keeps stable_current fun _ _ holds => ⟨_, holds⟩

theorem Passes.spends {body : MonitorM Web.SChainRecord}
    (passes : keeper.Passes record body) : keeper.Spends record body :=
  Sketch.weaken passes (fun _ _ holds => ⟨_, holds⟩) fun _ _ held => held

theorem keeps_pure (result : α) : keeper.Keeps (pure result) :=
  sketch_pure stable_held fun _ _ held => held

theorem keeps_raise (error : MonitorError) :
    keeper.Keeps (Procedure.raise error : MonitorM α) :=
  sketch_raise stable_held fun _ _ held => held

theorem spends_pure (result : α) : keeper.Spends record (pure result) :=
  (keeps_pure result).spends

theorem passes_pure : keeper.Passes record (pure record) :=
  sketch_pure stable_current fun _ _ holds => holds

theorem keeps_bind {first : MonitorM β} {next : β → MonitorM α}
    (keeps : keeper.Keeps first) (rest : ∀ result, keeper.Leads (next result) after) :
    keeper.Leads (first >>= next) after :=
  sketch_bind keeps rest fun _ => stable_held

theorem passes_bind_spends {first : MonitorM Web.SChainRecord}
    {next : Web.SChainRecord → MonitorM α} (passes : keeper.Passes record first)
    (rest : ∀ result, keeper.Spends result (next result)) :
    keeper.Spends record (first >>= next) :=
  sketch_bind passes rest fun _ => stable_held

/-! ### Quiet calls -/

theorem sketch_quiet (keeper : ColumnKeeper host discipline invariant column holds)
    {body : MonitorM α} (quiet : Quiet body) (value : column.Value) :
    Sketch host discipline invariant (holds value) body (fun _ => holds value)
      fun _ => holds value := by
  apply quiet.sketch (keeper.stable value)
  intro query world world' proposed answer silent kept holds allowed served
  exact keeper.quiet silent kept holds allowed served

theorem keeps_of_quiet {body : MonitorM α} (quiet : Quiet body) :
    keeper.Keeps body := by
  apply quiet.sketch stable_held
  intro query world world' proposed answer silent kept held allowed served
  obtain ⟨value, holds⟩ := held
  obtain ⟨kept', holds'⟩ := keeper.quiet silent kept holds allowed served
  exact ⟨kept', value, holds'⟩

theorem keeps_invoke {query : MonitorQuery} (quiet : query.isQuiet = true) :
    keeper.Keeps (invoke query) :=
  keeps_of_quiet (quiet_invoke quiet)

theorem keeps_of_auxiliary {body : MonitorM α} (auxiliary : Auxiliary body) :
    keeper.Keeps body :=
  keeps_of_quiet (quiet_of_auxiliary auxiliary)

theorem quiet_bind_spends {first : MonitorM β} {next : β → MonitorM α}
    (quiet : Quiet first) (rest : ∀ result, keeper.Spends record (next result)) :
    keeper.Spends record (first >>= next) := by
  have unspent : Sketch host discipline invariant (keeper.Current record) first
      (fun _ => keeper.Current record) fun _ => keeper.Held :=
    (keeper.sketch_quiet quiet (record column)).weaken (fun _ _ holds => holds)
      fun _ _ holds => ⟨_, holds⟩
  exact sketch_bind unspent rest fun _ => stable_held

theorem invoke_bind_spends {query : MonitorQuery} (quiet : query.isQuiet = true)
    {next : query.Reply → MonitorM α}
    (rest : ∀ reply, keeper.Spends record (next reply)) :
    keeper.Spends record (invoke query >>= next) :=
  quiet_bind_spends (quiet_invoke quiet) rest

theorem load_bind {next : Web.SChainRecord → MonitorM α}
    (rest : ∀ record, keeper.Spends record (next record)) :
    keeper.Keeps (invoke .loadRecord >>= next) := by
  have loads : Sketch host discipline invariant keeper.Held (invoke .loadRecord)
      keeper.Current fun _ => keeper.Held := by
    apply sketch_invoke stable_held
    · intro world world' proposed answer kept held allowed served
      obtain ⟨value, holds⟩ := held
      cases answer with
      | ok record =>
          exact keeper.quiet rfl kept (keeper.load kept holds served) allowed served
      | error error =>
          obtain ⟨kept', holds'⟩ := keeper.quiet rfl kept holds allowed served
          exact ⟨kept', value, holds'⟩
    · intro record
      exact stable_current
    · intro error
      exact stable_held
  exact sketch_bind loads rest fun _ => stable_held

theorem passes_setOn {setter : Web.Setter} (apart : setter.column ≠ column) :
    keeper.Passes record (setOn record setter) := by
  have same : record.set setter.column setter.value column = record column :=
    Web.SChainRecord.set_of_ne apart.symm
  have saves : Sketch host discipline invariant (keeper.Current record)
      (invoke (.saveRecord setter (record.set setter.column setter.value)))
      (fun _ => keeper.Current (record.set setter.column setter.value))
      fun _ => keeper.Held := by
    apply sketch_invoke stable_current
    · intro world world' proposed answer kept holds allowed served
      have current : keeper.Current (record.set setter.column setter.value) world := by
        unfold Current
        rw [same]
        exact holds
      obtain ⟨kept', holds'⟩ := keeper.save apart kept current allowed served
      refine ⟨kept', ?_⟩
      cases answer with
      | ok reply => exact holds'
      | error error => exact ⟨_, holds'⟩
    · intro reply
      exact stable_current
    · intro error
      exact stable_held
  refine sketch_bind saves (fun _ => ?_) fun _ => stable_held
  exact sketch_pure stable_current fun _ _ holds => holds

theorem spends_setOn {setter : Web.Setter} (apart : setter.column ≠ column) :
    keeper.Spends record (do let _ ← setOn record setter) :=
  passes_bind_spends (passes_setOn apart) fun _ => spends_pure ()

theorem keeps_setRecord {setter : Web.Setter} (apart : setter.column ≠ column) :
    keeper.Keeps (setRecord setter) :=
  load_bind fun _ => spends_setOn apart

theorem keeps_ifNot {action : MonitorM Unit} (keeps : keeper.Keeps action)
    (status : Bool) : keeper.Keeps (ifNot status action) := by
  cases status with
  | true => exact keeps_pure ()
  | false => exact keeps

theorem keeps_ite {condition : MonitorM Bool} {positive negative : MonitorM α}
    (evaluates : keeper.Keeps condition) (whenTrue : keeper.Keeps positive)
    (whenFalse : keeper.Keeps negative) :
    keeper.Keeps (do if ← condition then positive else negative) := by
  refine keeps_bind evaluates fun holds => ?_
  cases holds with
  | true => exact whenTrue
  | false => exact whenFalse

theorem quiet_ite_spends {condition : MonitorM Bool} {positive negative : MonitorM α}
    (quiet : Quiet condition) (whenTrue : keeper.Spends record positive)
    (whenFalse : keeper.Spends record negative) :
    keeper.Spends record (do if ← condition then positive else negative) := by
  refine quiet_bind_spends quiet fun holds => ?_
  cases holds with
  | true => exact whenTrue
  | false => exact whenFalse

end ColumnKeeper

def bookkeepingColumns : List Web.Column :=
  [.monitorLastSeen, .restartCount, .failedRpcCount, .needsReload, .firstRun,
    .newSchain, .backupRun]

structure ColumnKeeper.Actions {host : Host monitorInterface W M J ρ}
    {discipline : Host.Discipline monitorInterface W M J} {invariant : W → Prop}
    {column : Web.Column} {holds : column.Value → W → Prop}
    (keeper : ColumnKeeper host discipline invariant column holds) : Prop where
  apart : ∀ other ∈ bookkeepingColumns, other ≠ column
  start : ∀ record options, keeper.Spends record (startSchainContainer record options)
  restart : ∀ settings record,
    keeper.Spends record (restartFailedContainer settings record)
  stuck : ∀ settings record,
    keeper.Passes record (restartStuckContainer settings record)

namespace ColumnKeeper

variable {host : Host monitorInterface W M J ρ}
  {discipline : Host.Discipline monitorInterface W M J} {invariant : W → Prop}
  {column : Web.Column} {holds : column.Value → W → Prop}
  {keeper : ColumnKeeper host discipline invariant column holds}
  {after : α → W → Prop}

/-- Where a start of skaled matters as little as any other call. -/
theorem actions_of_plain
    (apart : ∀ other ∈ .sslChangeDate :: bookkeepingColumns, other ≠ column)
    (plain : ∀ ⦃query : MonitorQuery⦄
      ⦃proposed answer : Except MonitorError query.Reply⦄
      ⦃world world' : W⦄ ⦃value : column.Value⦄,
      (∀ setter copy, query ≠ .saveRecord setter copy) →
      invariant world → holds value world → discipline.call query proposed world →
      host.serve query proposed world = some (answer, world') →
      invariant world' ∧ holds value world') : keeper.Actions := by
  have starts : ∀ (query : MonitorQuery) (record : Web.SChainRecord),
      (∀ setter copy, query ≠ .saveRecord setter copy) →
      Sketch host discipline invariant (keeper.Current record) (invoke query)
        (fun _ => keeper.Current record) fun _ => keeper.Held := by
    intro query record unsaved
    apply sketch_invoke stable_current
    · intro world world' proposed answer kept holds allowed served
      obtain ⟨kept', holds'⟩ := plain unsaved kept holds allowed served
      refine ⟨kept', ?_⟩
      cases answer with
      | ok reply => exact holds'
      | error error => exact ⟨_, holds'⟩
    · intro reply
      exact stable_current
    · intro error
      exact stable_held
  have set : ∀ (record : Web.SChainRecord) (setter : Web.Setter),
      setter.column ∈ .sslChangeDate :: bookkeepingColumns →
      keeper.Passes record (setOn record setter) :=
    fun record setter listed => passes_setOn (apart _ listed)
  have dated : ∀ record, keeper.Passes record (updateSslChangeDate record) := by
    intro record
    refine sketch_bind (keeper.sketch_quiet (quiet_invoke rfl) (record column)
      |>.weaken (fun _ _ holds => holds) fun _ _ holds => ⟨_, holds⟩) (fun date => ?_)
      fun _ => stable_held
    cases date with
    | none => exact passes_pure
    | some date => exact set record _ (by simp [Web.setSslChangeDate])
  constructor
  · intro other listed
    exact apart other (List.mem_cons_of_mem _ listed)
  · intro record options
    refine sketch_bind (starts _ record (by simp)) (fun _ => ?_) fun _ => stable_held
    refine passes_bind_spends (dated record) fun record => ?_
    refine passes_bind_spends ?_ fun record => passes_bind_spends ?_ fun _ =>
      spends_pure ()
    · exact set record _ (by simp [Web.setRestartCount, bookkeepingColumns])
    · exact set record _ (by simp [Web.setFailedRpcCount, bookkeepingColumns])
  · intro settings record
    unfold restartFailedContainer
    split
    · refine sketch_bind (starts _ record (by simp)) (fun _ => ?_) fun _ => stable_held
      refine passes_bind_spends (dated record) fun record => ?_
      refine passes_bind_spends ?_ fun record => passes_bind_spends ?_ fun _ =>
        spends_pure ()
      · exact set record _ (by simp [Web.setRestartCount, bookkeepingColumns])
      · exact set record _ (by simp [Web.setFailedRpcCount, bookkeepingColumns])
    · exact spends_pure ()
  · intro settings record
    unfold restartStuckContainer
    split
    · refine sketch_bind (starts _ record (by simp)) (fun _ => ?_) fun _ => stable_held
      exact set record _ (by simp [Web.setRestartCount, bookkeepingColumns])
    · exact passes_pure

variable (actions : keeper.Actions)

include actions

/-! ### Actions -/

theorem keeps_updLastSeen : keeper.Keeps updLastSeen := by
  refine load_bind fun record => ?_
  refine invoke_bind_spends rfl fun now => ?_
  exact spends_setOn (actions.apart .monitorLastSeen (by decide))

theorem spends_resetFailedCounters (record : Web.SChainRecord) :
    keeper.Spends record (resetFailedCounters record) := by
  refine passes_bind_spends ?_ fun record => ?_
  · exact passes_setOn (actions.apart .restartCount (by decide))
  · exact spends_setOn (actions.apart .failedRpcCount (by decide))

theorem spends_watchSchainContainer (settings : SkaledSettings)
    (record : Web.SChainRecord) :
    keeper.Spends record (watchSchainContainer settings record) := by
  apply quiet_ite_spends (quiet_of_auxiliary auxiliary_needsRepair)
  · exact spends_resetFailedCounters actions record
  apply quiet_ite_spends (quiet_of_auxiliary auxiliary_isSchainContainerFailed)
  · exact actions.restart settings record
  · exact spends_setOn (actions.apart .restartCount (by decide))

theorem spends_monitorSchainContainer (settings : SkaledSettings)
    (record : Web.SChainRecord) (options : ContainerOptions) :
    keeper.Spends record (monitorSchainContainer settings record options) := by
  apply quiet_ite_spends (quiet_invoke rfl)
  case whenFalse => exact spends_pure ()
  refine quiet_bind_spends (quiet_of_auxiliary (auxiliary_skaledFlag _))
    fun reached => ?_
  split
  · exact spends_resetFailedCounters actions record
  apply quiet_ite_spends (quiet_invoke rfl)
  · exact spends_watchSchainContainer actions settings record
  · exact actions.start record options

theorem spends_handleFailedRpc (settings : SkaledSettings)
    (record : Web.SChainRecord) :
    keeper.Spends record (handleFailedRpc settings record) := by
  have reset : keeper.Spends record
      (do let _ ← setOn record (Web.setFailedRpcCount 0)) :=
    spends_setOn (actions.apart .failedRpcCount (by decide))
  apply quiet_ite_spends (quiet_of_auxiliary (auxiliary_skaledFlag _)) reset
  apply quiet_ite_spends (quiet_of_auxiliary (auxiliary_skaledFlag _)) reset
  split
  · apply passes_bind_spends (actions.stuck settings record)
    intro record
    exact spends_setOn (actions.apart .failedRpcCount (by decide))
  · exact spends_setOn (actions.apart .failedRpcCount (by decide))

theorem spends_handleFailedSchainRpc (settings : SkaledSettings)
    (record : Web.SChainRecord) :
    keeper.Spends record (handleFailedSchainRpc settings record) := by
  apply quiet_ite_spends (quiet_invoke rfl)
  case whenFalse => exact spends_pure ()
  apply quiet_ite_spends (quiet_invoke rfl)
  · exact spends_handleFailedRpc actions settings record
  · exact spends_pure ()

section Manager

variable (am : SkaledActionManager)

omit actions in
theorem quiet_rpcCheck : Quiet am.rpcCheck :=
  calls_bind (quiet_invoke rfl) fun _ => quiet_of_auxiliary (auxiliary_evaluate _)

theorem keeps_skaledContainer (downloadSnapshot : Bool) (startTs : Option Int)
    (abortOnExit : Bool) :
    keeper.Keeps (am.skaledContainer downloadSnapshot startTs abortOnExit) := by
  refine keeps_bind (keeps_of_auxiliary am.auxiliary_snapshotFrom) fun _ => ?_
  refine load_bind fun record => ?_
  exact spends_monitorSchainContainer actions _ record _

theorem keeps_resetRestartCounter :
    keeper.Keeps SkaledActionManager.resetRestartCounter :=
  keeps_setRecord (actions.apart .restartCount (by decide))

omit actions in
theorem keeps_removeIfExists (type : ContainerType) :
    keeper.Keeps (SkaledActionManager.removeIfExists type) := by
  apply keeps_ite (keeps_invoke rfl)
  · exact keeps_bind (keeps_invoke rfl) fun _ => keeps_pure ()
  · exact keeps_pure ()

theorem keeps_resetCounters : keeper.Keeps SkaledActionManager.resetCounters := by
  refine keeps_bind ?_ fun _ => keeps_bind ?_ fun _ => ?_
  · exact keeps_setRecord (actions.apart .restartCount (by decide))
  · exact keeps_setRecord (actions.apart .failedRpcCount (by decide))
  · exact keeps_setRecord (actions.apart .needsReload (by decide))

theorem keeps_skaledRpc : keeper.Keeps am.skaledRpc := by
  apply keeps_ite (keeps_of_quiet (quiet_rpcCheck am))
  · exact keeps_setRecord (actions.apart .failedRpcCount (by decide))
  refine keeps_bind
    (keeps_of_auxiliary SkaledActionManager.auxiliary_displaySkaledLogs) fun _ => ?_
  refine load_bind fun record => ?_
  exact spends_handleFailedSchainRpc actions _ record

theorem keeps_updSchainRecord : keeper.Keeps SkaledActionManager.updSchainRecord := by
  refine load_bind fun record => Keeps.spends ?_
  refine keeps_bind (keeps_ifNot ?_ _) fun _ => ?_
  · refine keeps_bind ?_ fun _ => ?_
    · exact keeps_setRecord (actions.apart .restartCount (by decide))
    · exact keeps_setRecord (actions.apart .failedRpcCount (by decide))
  · refine keeps_bind ?_ fun _ => ?_
    · exact keeps_setRecord (actions.apart .firstRun (by decide))
    · exact keeps_setRecord (actions.apart .newSchain (by decide))

/-! ### Monitors -/

omit actions in
theorem volume_then {rest : MonitorM α} (leads : keeper.Leads rest after) :
    keeper.Leads (do
      ifNot (← invoke .isVolumeExists) SkaledActionManager.volume
      rest) after := by
  refine keeps_bind (keeps_invoke rfl) fun _ => ?_
  refine keeps_bind (keeps_ifNot ?_ _) fun _ => leads
  exact keeps_of_auxiliary SkaledActionManager.auxiliary_volume

omit actions in
theorem rules_then {rest : MonitorM α} (leads : keeper.Leads rest after)
    (upstream : Bool) :
    keeper.Leads (do
      ifNot (← SkaledActionManager.firewallRulesCheck)
        (SkaledActionManager.firewallRules upstream)
      rest) after := by
  refine keeps_bind ?_ fun _ => keeps_bind (keeps_ifNot ?_ _) fun _ => leads
  · exact keeps_of_auxiliary SkaledActionManager.auxiliary_firewallRulesCheck
  · exact keeps_of_auxiliary (SkaledActionManager.auxiliary_firewallRules upstream)

omit actions in
theorem ima_then {rest : MonitorM α} (keeps : keeper.Keeps rest) :
    keeper.Keeps (do
      ifNot (← am.imaContainerCheck) am.imaContainer
      rest) := by
  refine keeps_bind (keeps_of_auxiliary am.auxiliary_imaContainerCheck) fun _ => ?_
  exact keeps_bind (keeps_ifNot (keeps_of_auxiliary am.auxiliary_imaContainer) _)
    fun _ => keeps

theorem keeps_containerOrReset {start : MonitorM Unit} (keeps : keeper.Keeps start) :
    keeper.Keeps (SkaledActionManager.containerOrReset start) :=
  keeps_ite (keeps_invoke rfl) (keeps_resetRestartCounter actions) keeps

theorem watch_then {rest : MonitorM α} (keeps : keeper.Keeps rest)
    (upstreamRules : Bool) :
    keeper.Keeps (do
      am.watchSkaled upstreamRules
      rest) := by
  refine keeps_bind (rules_then (volume_then ?_) _) fun _ => keeps
  refine keeps_bind (keeps_containerOrReset actions
    (keeps_skaledContainer actions am _ _ _)) fun _ => ?_
  exact keeps_bind (keeps_of_quiet (quiet_rpcCheck am)) fun _ =>
    keeps_ifNot (keeps_skaledRpc actions am) _

theorem keeps_regularSkaledMonitor : keeper.Keeps am.regularSkaledMonitor := by
  apply watch_then actions
  refine keeps_bind (keeps_of_auxiliary am.auxiliary_imaContainerCheck) fun _ => ?_
  exact keeps_ifNot (keeps_of_auxiliary am.auxiliary_imaContainer) _

theorem keeps_backupSkaledMonitor : keeper.Keeps am.backupSkaledMonitor := by
  apply volume_then
  apply rules_then
  refine keeps_bind (keeps_containerOrReset actions
    (keeps_skaledContainer actions am _ _ _)) fun _ => ?_
  exact ima_then am (keeps_setRecord (actions.apart .backupRun (by decide)))

theorem keeps_recreateSkaledMonitor : keeper.Keeps am.recreateSkaledMonitor := by
  apply volume_then
  refine keeps_bind (keeps_removeIfExists _) fun _ => ?_
  refine keeps_bind (keeps_resetCounters actions) fun _ => ?_
  exact keeps_skaledContainer actions am _ _ _

theorem keeps_updateConfigSkaledMonitor :
    keeper.Keeps am.updateConfigSkaledMonitor := by
  refine keeps_bind (keeps_of_auxiliary (auxiliary_check _)) fun _ => ?_
  refine keeps_bind (keeps_ifNot
    (keeps_of_auxiliary SkaledActionManager.auxiliary_updateConfig) _) fun _ => ?_
  apply rules_then
  apply volume_then
  refine keeps_bind
    (keeps_of_auxiliary SkaledActionManager.auxiliary_resetExitSchedule) fun _ => ?_
  refine keeps_bind (keeps_removeIfExists _) fun _ => ?_
  refine keeps_bind (keeps_removeIfExists _) fun _ => ?_
  refine keeps_bind (keeps_resetCounters actions) fun _ => ?_
  refine keeps_bind (keeps_skaledContainer actions am _ _ _) fun _ => ?_
  exact keeps_of_auxiliary am.auxiliary_imaContainer

omit actions in
theorem keeps_scheduleSkaledExit (exitTs : Option Int) :
    keeper.Keeps (SkaledActionManager.scheduleSkaledExit exitTs) := by
  refine keeps_of_quiet (SkaledActionManager.calls_scheduleSkaledExit ?_ fun _ _ => rfl)
  intro query auxiliary
  exact quiet_of_isAuxiliary auxiliary

theorem keeps_reloadGroupSkaledMonitor :
    keeper.Keeps am.reloadGroupSkaledMonitor := by
  refine watch_then actions am (ima_then am ?_) _
  refine keeps_bind (keeps_of_auxiliary SkaledActionManager.auxiliary_upstreamFinishTs)
    fun _ => keeps_scheduleSkaledExit _

theorem keeps_reloadIpSkaledMonitor : keeper.Keeps am.reloadIpSkaledMonitor := by
  refine watch_then actions am (ima_then am ?_) _
  exact keeps_bind (keeps_of_auxiliary SkaledActionManager.auxiliary_reloadTs)
    fun _ => keeps_scheduleSkaledExit _

omit actions in
theorem keeps_noConfigSkaledMonitor :
    keeper.Keeps SkaledActionManager.noConfigSkaledMonitor :=
  keeps_bind (keeps_of_auxiliary (auxiliary_check _)) fun _ =>
    keeps_ifNot (keeps_of_auxiliary SkaledActionManager.auxiliary_updateConfig) _

theorem keeps_newNodeSkaledMonitor : keeper.Keeps am.newNodeSkaledMonitor := by
  apply volume_then
  apply rules_then
  have start : keeper.Keeps (do
      let startTs ← SkaledActionManager.finishTs
      am.skaledContainer true startTs) :=
    keeps_bind (keeps_of_auxiliary SkaledActionManager.auxiliary_finishTs)
      fun _ => keeps_skaledContainer actions am _ _ _
  refine keeps_bind (keeps_containerOrReset actions start) fun _ => ?_
  refine keeps_bind (keeps_of_auxiliary am.auxiliary_imaContainerCheck) fun _ => ?_
  exact keeps_ifNot (keeps_of_auxiliary am.auxiliary_imaContainer) _

omit actions in
theorem keeps_repairContainerCheck :
    keeper.Keeps SkaledActionManager.repairContainerCheck := by
  refine keeps_bind (keeps_invoke rfl) fun _ => ?_
  refine keeps_bind (keeps_invoke rfl) fun _ => ?_
  refine keeps_bind (keeps_bind (keeps_invoke rfl) fun _ => keeps_invoke rfl)
    fun _ => ?_
  exact rules_then (volume_then (keeps_invoke rfl)) _

theorem keeps_repairSkaledMonitor
    (dates : ∀ ts, keeper.Keeps (SkaledActionManager.updateRepairTs ts)) :
    keeper.Keeps am.repairSkaledMonitor := by
  rw [SkaledActionManager.repairSkaledMonitor_eq]
  refine keeps_bind keeps_repairContainerCheck fun running => ?_
  cases running with
  | true => exact keeps_raise _
  | false =>
      refine keeps_bind (keeps_skaledContainer actions am _ _ _) fun _ => ?_
      exact keeps_bind (keeps_invoke rfl) fun now => dates now

theorem keeps_execute {monitor : SkaledMonitor}
    (repair : monitor = .repair → keeper.Keeps am.repairSkaledMonitor) :
    keeper.Keeps (am.execute monitor) := by
  cases monitor with
  | regular => exact keeps_regularSkaledMonitor actions am
  | repair => exact repair rfl
  | backup => exact keeps_backupSkaledMonitor actions am
  | recreate => exact keeps_recreateSkaledMonitor actions am
  | updateConfig => exact keeps_updateConfigSkaledMonitor actions am
  | reloadGroup => exact keeps_reloadGroupSkaledMonitor actions am
  | reloadIp => exact keeps_reloadIpSkaledMonitor actions am
  | noConfig => exact keeps_noConfigSkaledMonitor
  | newNode => exact keeps_newNodeSkaledMonitor actions am

end Manager

/-! ### Pipelines -/

theorem keeps_runSkaledMonitor {execute : MonitorM Unit}
    (keeps : keeper.Keeps execute) : keeper.Keeps (runSkaledMonitor execute) := by
  have body : keeper.Keeps (do
      updLastSeen
      execute
      SkaledActionManager.updSchainRecord
      updLastSeen) :=
    keeps_bind (keeps_updLastSeen actions) fun _ => keeps_bind keeps fun _ =>
      keeps_bind (keeps_updSchainRecord actions) fun _ => keeps_updLastSeen actions
  apply sketch_attempt _ body
  · intro error clause same
    cases same
    exact keeps_pure ()
  · intro error same
    cases same
  · intro result
    exact stable_held
  · intro error
    exact stable_held

omit actions in
theorem quiet_getAllChecks (am : SkaledActionManager) : Quiet am.getAllChecks := by
  refine calls_bind (quiet_of_auxiliary SkaledActionManager.auxiliary_blocksCheck)
    fun _ => ?_
  refine calls_bind (quiet_of_auxiliary (auxiliary_check _)) fun _ => ?_
  refine calls_bind (quiet_of_auxiliary (auxiliary_check _)) fun _ => ?_
  refine calls_bind (quiet_invoke rfl) fun _ => ?_
  refine calls_bind (quiet_invoke rfl) fun _ => ?_
  refine calls_bind (calls_ifNot (calls_bind (quiet_invoke rfl)
    fun _ => Procedure.calls_pure _) _) fun _ => ?_
  refine calls_bind
    (quiet_of_auxiliary SkaledActionManager.auxiliary_firewallRulesCheck) fun _ => ?_
  refine calls_bind (quiet_of_auxiliary am.auxiliary_imaContainerCheck) fun _ => ?_
  refine calls_bind (quiet_invoke rfl) fun _ => ?_
  refine calls_bind (quiet_of_auxiliary (auxiliary_check _)) fun _ => ?_
  refine calls_bind (quiet_rpcCheck am) fun _ => ?_
  refine calls_bind (quiet_invoke rfl) fun _ => ?_
  refine calls_bind (quiet_of_auxiliary (auxiliary_check _)) fun _ => ?_
  exact calls_bind (quiet_invoke rfl) fun _ => Procedure.calls_pure _

end ColumnKeeper

end Column

/-- What `run_skaled_pipeline` does before its monitor runs. -/
def chooseSkaledMonitor (settings : SkaledSettings) :
    MonitorM (SkaledActionManager × SkaledMonitor) := do
  invoke .getSchain
  let schainRecord ← invoke .loadRecord
  let skaledStatus ← invoke .readSkaledStatus
  let ncliStatus ← invoke .readNodeCliStatus
  let am : SkaledActionManager := {
    settings, checksRecord := schainRecord, hasNodeCliStatus := ncliStatus.isFound }
  let checkStatus ← am.getAllChecks
  let automaticRepair ← invoke .getAutomaticRepairOption
  invoke .notifyChecks
  let choice : MonitorChoice := {
    checkStatus, schainRecord, automaticRepair
    hasSkaledStatus := skaledStatus.isFound
    hasNodeCliStatus := ncliStatus.isFound }
  let monitor ← choice.getSkaledMonitor settings
  invoke (.incrSkaledPipeline monitor)
  return (am, monitor)

theorem runSkaledPipeline_eq (settings : SkaledSettings) :
    runSkaledPipeline settings =
      (chooseSkaledMonitor settings >>= fun chosen =>
        runSkaledMonitor (chosen.1.execute chosen.2)) := by
  simp only [runSkaledPipeline, chooseSkaledMonitor, Procedure.bind_assoc]
  rfl

theorem quiet_chooseSkaledMonitor (settings : SkaledSettings) :
    Quiet (chooseSkaledMonitor settings) := by
  refine calls_bind (quiet_invoke rfl) fun _ => ?_
  refine calls_bind (quiet_invoke rfl) fun record => ?_
  refine calls_bind (quiet_invoke rfl) fun skaledStatus => ?_
  refine calls_bind (quiet_invoke rfl) fun ncliStatus => ?_
  refine calls_bind (ColumnKeeper.quiet_getAllChecks _) fun checkStatus => ?_
  refine calls_bind (quiet_invoke rfl) fun automaticRepair => ?_
  refine calls_bind (quiet_invoke rfl) fun _ => ?_
  refine calls_bind (quiet_of_auxiliary (auxiliary_getSkaledMonitor _ _))
    fun monitor => ?_
  exact calls_bind (quiet_invoke rfl) fun _ => Procedure.calls_pure _

theorem ColumnKeeper.keeps_runSkaledPipeline {W M J ρ : Type}
    {host : Host monitorInterface W M J ρ}
    {discipline : Host.Discipline monitorInterface W M J} {invariant : W → Prop}
    {column : Web.Column} {holds : column.Value → W → Prop}
    {keeper : ColumnKeeper host discipline invariant column holds}
    (actions : keeper.Actions)
    (dates : ∀ ts, keeper.Keeps (SkaledActionManager.updateRepairTs ts))
    (settings : SkaledSettings) : keeper.Keeps (runSkaledPipeline settings) := by
  rw [runSkaledPipeline_eq]
  refine keeps_bind (keeps_of_quiet (quiet_chooseSkaledMonitor settings)) fun chosen => ?_
  apply keeps_runSkaledMonitor actions
  apply keeps_execute actions
  intro _
  exact keeps_repairSkaledMonitor actions _ dates

end SkaleAdmin.Monitor
