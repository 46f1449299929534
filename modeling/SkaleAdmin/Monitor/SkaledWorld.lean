import SkaleAdmin.Monitor.SkaledMonitor
import SkaleAdmin.Library.Ledger

/-! The row and the skaled container of an sChain while its skaled pipelines run
one after the other, and the actions that leave both alone. -/

namespace SkaleAdmin.Monitor

open Interaction PyText Json Config
open Interaction.Procedure (Calls calls_pure calls_raise calls_bind calls_invoke
  calls_attempt)

/-- `container` tells whether there is a skaled container, running or not. -/
structure SkaledWorld where
  row : Web.SChainRecord
  container : Bool

inductive SkaledMove where
  /-- An update query, which changes a column in place. -/
  | update (column : Web.Column) (value : column.Value)
  /-- The cleaner or an operator. -/
  | removeContainer

namespace SkaledWorld

def move (world : SkaledWorld) : SkaledMove → Option SkaledWorld
  | .update column value =>
      if column = .restartCount ∨ column = .failedRpcCount then none
      else some { world with row := world.row.set column value }
  | .removeContainer => some { world with container := false }

/-- Every call may raise.  Docker runs no second container of one name and
removes no volume that a container uses. -/
def serve (query : MonitorQuery) (proposed : Except MonitorError query.Reply)
    (world : SkaledWorld) :
    Option (Except MonitorError query.Reply × SkaledWorld) :=
  match query, proposed with
  | _, .error error => some (.error error, world)
  | .loadRecord, .ok _ => some (.ok world.row, world)
  | .saveRecord setter copy, .ok _ =>
      some (.ok (), { world with row := Web.Table.saved setter copy world.row })
  | .isContainerExists .schain, .ok _ => some (.ok world.container, world)
  | .removeContainer .schain, .ok found =>
      some (.ok found, { world with container := world.container && !found })
  | .removeVolume, .ok _ => if world.container then none else some (.ok (), world)
  | .runSchainContainer .., .ok _ =>
      if world.container then none else some (.ok (), { world with container := true })
  | _, .ok reply => some (.ok reply, world)

end SkaledWorld

def skaledHost (settings : SkaledSettings) :
    Host monitorInterface SkaledWorld SkaledMove Unit
      (Outcome MonitorError Unit × Unit) where
  move := SkaledWorld.move
  serve := SkaledWorld.serve
  job _ := runSkaledPipeline settings ()

section Serve

variable {world world' : SkaledWorld} {query : MonitorQuery}

theorem skaled_serve_error {proposed : Except MonitorError query.Reply}
    {error : MonitorError}
    (served : world.serve query proposed = some (.error error, world')) :
    world' = world := by
  unfold SkaledWorld.serve at served
  split at served
  case h_6 | h_7 =>
    split at served
    all_goals cases served
  all_goals first | (cases served; done) | (cases served; rfl)

theorem skaled_serve_raises {proposed : Except MonitorError query.Reply}
    {error : MonitorError}
    (served : world.serve query proposed = some (.error error, world')) :
    ∃ error, proposed = .error error := by
  unfold SkaledWorld.serve at served
  split at served
  case h_1 => exact ⟨_, rfl⟩
  case h_6 | h_7 =>
    split at served
    all_goals cases served
  all_goals cases served

/-- The calls that leave the row, the container and the files of an sChain alone
and tell nothing that the counters or a start depend on. -/
def MonitorQuery.isAuxiliary : MonitorQuery → Bool
  | saveRecord .. | removeContainer .schain | removeVolume | runSchainContainer ..
  | restartContainer _ | observeEndpoint _ | incrSkaledPipeline _ | setExitTs _
  | writeJson .. => false
  | _ => true

theorem skaled_serve_auxiliary (auxiliary : query.isAuxiliary = true)
    {proposed answer : Except MonitorError query.Reply}
    (served : world.serve query proposed = some (answer, world')) :
    world' = world := by
  unfold SkaledWorld.serve at served
  split at served
  case h_6 | h_7 => cases auxiliary
  all_goals first | (cases served; rfl) | cases auxiliary

theorem skaled_serve_row (unsaved : ∀ setter copy, query ≠ .saveRecord setter copy)
    {proposed answer : Except MonitorError query.Reply}
    (served : world.serve query proposed = some (answer, world')) :
    world'.row = world.row := by
  unfold SkaledWorld.serve at served
  split at served
  case h_3 => exact absurd rfl (unsaved _ _)
  case h_6 | h_7 =>
    split at served
    · cases served
    · cases served
      rfl
  all_goals
    cases served
    rfl

theorem skaled_serve_loadRecord
    {proposed : Except MonitorError Web.SChainRecord} {record : Web.SChainRecord}
    (served : world.serve .loadRecord proposed = some (.ok record, world')) :
    world' = world ∧ world.row = record := by
  cases proposed with
  | error error => cases served
  | ok given => cases served; exact ⟨rfl, rfl⟩

theorem skaled_serve_saveRecord {setter : Web.Setter} {copy : Web.SChainRecord}
    {proposed : Except MonitorError Unit} {reply : Unit}
    (served : world.serve (.saveRecord setter copy) proposed =
      some (.ok reply, world')) :
    world' = { world with row := Web.Table.saved setter copy world.row } := by
  cases proposed with
  | error error => cases served
  | ok given => cases served; rfl

end Serve

/-! ### Auxiliary actions -/

section Combinators

variable {α : Type} {allowed : MonitorQuery → Prop}

theorem calls_evaluate (evaluated : Evaluated α) : (evaluate evaluated).Calls allowed := by
  cases evaluated with
  | ok value => exact calls_pure value
  | error error => exact calls_raise _

theorem calls_check (reads : allowed .readFiles) (status : Directory Text → Evaluated Bool) :
    (check status).Calls allowed := by
  refine calls_bind (calls_invoke reads) fun files => ?_
  cases status files with
  | ok passed => exact calls_pure _
  | error error => exact calls_raise _

theorem calls_ifNot {action : MonitorM Unit} (calls : action.Calls allowed)
    (status : Bool) : (ifNot status action).Calls allowed := by
  cases status with
  | true => exact calls_pure ()
  | false => exact calls

theorem calls_ite {condition : MonitorM Bool} {positive negative : MonitorM α}
    (evaluates : condition.Calls allowed) (whenTrue : positive.Calls allowed)
    (whenFalse : negative.Calls allowed) :
    Calls allowed (do if ← condition then positive else negative) := by
  refine calls_bind evaluates fun holds => ?_
  cases holds with
  | true => exact whenTrue
  | false => exact whenFalse

end Combinators

abbrev Auxiliary {α : Type} (body : MonitorM α) : Prop :=
  body.Calls fun query : MonitorQuery => query.isAuxiliary = true

/-- The auxiliary calls that also leave the rules on the host, the skaled config and the
exit schedule alone. -/
def MonitorQuery.isPlain : MonitorQuery → Bool
  | observeRules | syncRules .. | syncSkaledConfigWithUpstream | exitScheduleExists
  | removeExitSchedule => false
  | query => query.isAuxiliary

theorem isAuxiliary_of_isPlain {query : MonitorQuery} (plain : query.isPlain = true) :
    query.isAuxiliary = true := by
  cases query <;> first | exact plain | rfl

abbrev Plain {α : Type} (body : MonitorM α) : Prop :=
  body.Calls fun query : MonitorQuery => query.isPlain = true

section Plain

variable {α : Type}

theorem auxiliary_of_plain {body : MonitorM α} (plain : Plain body) : Auxiliary body :=
  plain.mono fun _ => isAuxiliary_of_isPlain

theorem plain_invoke {query : MonitorQuery} (plain : query.isPlain = true) :
    Plain (invoke query) :=
  calls_invoke plain

theorem plain_skaledFlag (flag : StatusFile → Evaluated Bool) :
    Plain (skaledFlag flag) :=
  calls_bind (plain_invoke rfl) fun _ => calls_evaluate _

theorem plain_needsRepair : Plain needsRepair :=
  calls_ite (plain_skaledFlag _) (plain_skaledFlag _) (calls_pure _)

theorem plain_isSchainContainerFailed : Plain isSchainContainerFailed :=
  calls_bind (plain_invoke rfl) fun _ =>
    calls_bind (plain_invoke rfl) fun _ =>
      calls_bind (plain_invoke rfl) fun _ => calls_pure _

theorem plain_sslReloadNeeded (record : Web.SChainRecord) :
    Plain (sslReloadNeeded record) := by
  refine calls_bind (plain_invoke rfl) fun date => ?_
  cases date with
  | none => exact calls_pure _
  | some date => exact calls_pure _

theorem plain_monitorImaContainer (settings : SkaledSettings)
    (imaLinked chainId : Value) (migrationTs : Int) :
    Plain (monitorImaContainer settings imaLinked chainId migrationTs) := by
  have kept : ∀ image timeFrame, Plain (keepImaContainer image timeFrame) := by
    intro image timeFrame
    refine calls_bind (plain_invoke rfl) fun containerImage => ?_
    refine calls_bind (plain_invoke rfl) fun containerTimeFrame => ?_
    split
    · exact calls_pure _
    · exact calls_bind (plain_invoke rfl) fun _ => calls_pure _
  unfold monitorImaContainer
  split
  · exact calls_pure _
  · refine calls_bind (plain_invoke rfl) fun _ => ?_
    refine calls_bind (plain_invoke rfl) fun containerExists => ?_
    refine calls_bind (plain_invoke rfl) fun past => ?_
    refine calls_bind (plain_invoke rfl) fun timeFrame => ?_
    refine calls_bind ?_ fun _ => calls_ifNot (plain_invoke rfl) _
    unfold migratedImaContainer
    split
    · exact kept _ _
    · exact calls_pure _

namespace SkaledActionManager

variable (am : SkaledActionManager)

theorem plain_blocksCheck : Plain blocksCheck :=
  calls_bind (plain_invoke rfl) fun _ => calls_evaluate _

theorem plain_isVolumeExists : Plain (invoke .isVolumeExists) :=
  plain_invoke rfl

theorem plain_imaContainerCheck : Plain am.imaContainerCheck := by
  refine calls_ite (calls_check (by rfl) _) (calls_pure _) ?_
  refine calls_bind (plain_invoke rfl) fun _ => ?_
  refine calls_bind (plain_invoke rfl) fun _ => ?_
  refine calls_bind (plain_invoke rfl) fun _ => ?_
  refine calls_ite (plain_invoke rfl) ?_ (calls_pure _)
  exact calls_bind (plain_invoke rfl) fun _ =>
    calls_bind (plain_invoke rfl) fun _ =>
      calls_bind (plain_invoke rfl) fun _ => calls_pure _

theorem plain_volume : Plain volume :=
  calls_bind plain_isVolumeExists fun _ => calls_ifNot
    (calls_bind plain_isVolumeExists fun _ =>
      calls_ifNot (plain_invoke rfl) _) _

theorem plain_snapshotFrom : Plain am.snapshotFrom := by
  unfold snapshotFrom
  split
  · exact calls_bind (plain_invoke rfl) fun _ => calls_evaluate _
  · exact calls_pure _

theorem plain_displaySkaledLogs : Plain displaySkaledLogs :=
  calls_ite (plain_invoke rfl) (plain_invoke rfl) (calls_pure _)

theorem plain_imaContainer : Plain am.imaContainer := by
  refine calls_bind am.plain_imaContainerCheck fun _ => ?_
  refine calls_bind (plain_invoke rfl) fun _ => calls_ifNot ?_ _
  refine calls_bind ?_ fun _ => ?_
  · exact calls_bind (plain_invoke rfl) fun _ =>
      calls_ifNot (plain_invoke rfl) _
  · refine calls_bind (plain_invoke rfl) fun _ => ?_
    refine calls_bind (calls_evaluate _) fun _ => ?_
    refine calls_bind (plain_invoke rfl) fun _ => ?_
    exact calls_bind (calls_evaluate _) fun _ =>
      plain_monitorImaContainer _ _ _ _

theorem plain_upstreamFinishTs : Plain upstreamFinishTs :=
  calls_bind (plain_invoke rfl) fun _ => calls_evaluate _

theorem plain_finishTs : Plain finishTs :=
  calls_bind (plain_invoke rfl) fun _ => calls_evaluate _

theorem plain_reloadTs : Plain reloadTs := by
  refine calls_bind (plain_invoke rfl) fun _ => ?_
  refine calls_bind (calls_evaluate _) fun stored => ?_
  split
  · exact calls_pure _
  · exact calls_pure _
  · exact calls_raise _

end SkaledActionManager

section Choice

open SkaledActionManager

variable (choice : MonitorChoice) (settings : SkaledSettings)

theorem plain_isRecreateMode : Plain choice.isRecreateMode := by
  unfold MonitorChoice.isRecreateMode
  split
  · exact plain_sslReloadNeeded _
  · exact calls_pure _

theorem plain_isConfigUpdateTime : Plain choice.isConfigUpdateTime := by
  unfold MonitorChoice.isConfigUpdateTime
  split
  · exact plain_skaledFlag _
  · exact calls_pure _

theorem plain_isReloadGroupMode : Plain choice.isReloadGroupMode := by
  refine calls_bind plain_upstreamFinishTs fun finishTs => ?_
  refine calls_bind (plain_invoke rfl) fun ts => ?_
  cases finishTs with
  | none => exact calls_pure _
  | some finishTs => exact calls_pure _

theorem plain_isReloadIpMode : Plain choice.isReloadIpMode := by
  refine calls_bind plain_reloadTs fun reloadTs => ?_
  cases reloadTs with
  | none => exact calls_pure _
  | some reloadTs => exact calls_pure _

theorem plain_isNewNodeMode : Plain MonitorChoice.isNewNodeMode := by
  refine calls_bind plain_finishTs fun finishTs => ?_
  refine calls_bind (plain_invoke rfl) fun ts => ?_
  refine calls_bind (plain_invoke rfl) fun secretSharesNumber => ?_
  cases finishTs with
  | none => exact calls_pure _
  | some finishTs => exact calls_pure _

theorem plain_isRepairMode : Plain (choice.isRepairMode settings) := by
  have requested : Plain (choice.isRepairRequested settings) := by
    unfold MonitorChoice.isRepairRequested
    split
    · exact calls_bind (plain_invoke rfl) fun _ => calls_evaluate _
    · exact calls_pure _
  have internal : Plain choice.isSkaledRepairInternal := by
    unfold MonitorChoice.isSkaledRepairInternal
    split
    · exact calls_bind plain_needsRepair fun _ => calls_pure _
    · exact calls_pure _
  refine calls_ite requested (calls_pure _) ?_
  split
  · exact internal
  · exact calls_pure _

theorem plain_getSkaledMonitor : Plain (choice.getSkaledMonitor settings) := by
  have update : ∀ default, Plain (choice.getUpdateMonitor default) := by
    intro default
    exact calls_ite (plain_isConfigUpdateTime choice) (calls_pure _)
      (calls_ite (plain_isReloadGroupMode choice) (calls_pure _)
        (calls_ite (plain_isReloadIpMode choice) (calls_pure _) (calls_pure _)))
  have recreate := plain_isRecreateMode choice
  unfold MonitorChoice.getSkaledMonitor
  split
  · exact calls_ite recreate (calls_pure _) (update _)
  · unfold MonitorChoice.getRegularMonitor
    split
    · exact calls_pure _
    · split
      · exact calls_pure _
      · exact calls_ite (plain_isRepairMode choice settings) (calls_pure _)
          (calls_ite recreate (calls_pure _)
            (calls_ite plain_isNewNodeMode (calls_pure _) (update _)))

end Choice

end Plain

section Auxiliary

variable {α : Type}

theorem auxiliary_invoke {query : MonitorQuery}
    (auxiliary : query.isAuxiliary = true) : Auxiliary (invoke query) :=
  calls_invoke auxiliary

theorem auxiliary_evaluate (evaluated : Evaluated α) : Auxiliary (evaluate evaluated) :=
  calls_evaluate evaluated

theorem auxiliary_check (status : Directory Text → Evaluated Bool) :
    Auxiliary (check status) :=
  calls_check (by rfl) status

theorem auxiliary_ifNot {action : MonitorM Unit} (auxiliary : Auxiliary action)
    (status : Bool) : Auxiliary (ifNot status action) :=
  calls_ifNot auxiliary status

theorem auxiliary_skaledFlag (flag : StatusFile → Evaluated Bool) :
    Auxiliary (skaledFlag flag) :=
  auxiliary_of_plain (plain_skaledFlag flag)

theorem auxiliary_needsRepair : Auxiliary needsRepair :=
  auxiliary_of_plain plain_needsRepair

theorem auxiliary_isSchainContainerFailed : Auxiliary isSchainContainerFailed :=
  auxiliary_of_plain plain_isSchainContainerFailed

theorem auxiliary_getSkaledMonitor (choice : MonitorChoice) (settings : SkaledSettings) :
    Auxiliary (choice.getSkaledMonitor settings) :=
  auxiliary_of_plain (plain_getSkaledMonitor choice settings)

namespace SkaledActionManager

variable (am : SkaledActionManager)

theorem auxiliary_blocksCheck : Auxiliary blocksCheck :=
  auxiliary_of_plain plain_blocksCheck

theorem auxiliary_imaContainerCheck : Auxiliary am.imaContainerCheck :=
  auxiliary_of_plain am.plain_imaContainerCheck

theorem auxiliary_volume : Auxiliary volume :=
  auxiliary_of_plain plain_volume

theorem auxiliary_snapshotFrom : Auxiliary am.snapshotFrom :=
  auxiliary_of_plain am.plain_snapshotFrom

theorem auxiliary_displaySkaledLogs : Auxiliary displaySkaledLogs :=
  auxiliary_of_plain plain_displaySkaledLogs

theorem auxiliary_imaContainer : Auxiliary am.imaContainer :=
  auxiliary_of_plain am.plain_imaContainer

theorem auxiliary_upstreamFinishTs : Auxiliary upstreamFinishTs :=
  auxiliary_of_plain plain_upstreamFinishTs

theorem auxiliary_finishTs : Auxiliary finishTs :=
  auxiliary_of_plain plain_finishTs

theorem auxiliary_reloadTs : Auxiliary reloadTs :=
  auxiliary_of_plain plain_reloadTs

theorem auxiliary_firewallRulesCheck : Auxiliary firewallRulesCheck :=
  calls_bind (auxiliary_invoke rfl) fun _ => auxiliary_evaluate _

theorem auxiliary_firewallRules (upstream : Bool) :
    Auxiliary (firewallRules upstream) := by
  refine calls_bind auxiliary_firewallRulesCheck fun _ => auxiliary_ifNot ?_ _
  refine calls_bind (auxiliary_invoke rfl) fun files => ?_
  refine calls_bind (auxiliary_evaluate _) fun conf => ?_
  refine calls_bind (auxiliary_evaluate _) fun basePort => ?_
  refine calls_bind (auxiliary_evaluate _) fun nodeIps => ?_
  refine calls_bind (auxiliary_evaluate _) fun ownIp => ?_
  refine calls_bind (auxiliary_invoke rfl) fun files => ?_
  exact calls_bind (auxiliary_evaluate _) fun ranges => auxiliary_invoke rfl

theorem auxiliary_updateConfig : Auxiliary updateConfig :=
  calls_bind (auxiliary_invoke rfl) fun _ => calls_pure _

theorem calls_scheduleSkaledExit {allowed : MonitorQuery → Prop}
    (auxiliary : ∀ query : MonitorQuery, query.isAuxiliary = true → allowed query)
    {exitTs : Option Int} (sets : ∀ ts, exitTs = some ts → allowed (.setExitTs ts)) :
    (scheduleSkaledExit exitTs).Calls allowed := by
  have scheduled : Auxiliary isExitScheduled :=
    calls_ite (auxiliary_skaledFlag _) (calls_pure _) (auxiliary_invoke rfl)
  refine calls_bind (scheduled.mono auxiliary) fun already => ?_
  cases already with
  | true => exact calls_pure _
  | false =>
      cases exitTs with
      | none => exact calls_pure _
      | some exitTs => exact calls_invoke (sets exitTs rfl)

theorem auxiliary_resetExitSchedule : Auxiliary resetExitSchedule :=
  calls_ite (auxiliary_invoke rfl) (auxiliary_invoke rfl) (calls_pure _)

end SkaledActionManager

end Auxiliary

/-! ### A host -/

def nodeConfig : Value :=
  .obj [("skaleConfig".toList, .obj [
    ("nodeInfo".toList, .obj [
      ("nodeID".toList, .num 1),
      ("basePort".toList, .num 10000),
      ("wsRpcPort".toList, .num 10002),
      ("httpRpcPort".toList, .num 10003)]),
    ("sChain".toList, .obj [
      ("nodes".toList, .arr [.obj [
        ("nodeID".toList, .num 1), ("ip".toList, .str "10.0.0.1".toList)]]),
      ("nodeGroups".toList, .obj [])])])]

def nodeFiles : Directory Text :=
  [(.skaled, dumps nodeConfig),
    (.external, dumps (.obj [("ima_linked".toList, .bool false)]))]

def newRow : Web.SChainRecord := .add "schain" 0 0

def hostAnswer (running : Bool) : (query : MonitorQuery) →
    Except MonitorError query.Reply
  | .time => .ok 100
  | .loadRecord => .ok newRow
  | .readFiles => .ok nodeFiles
  | .readSkaledStatus | .readNodeCliStatus => .ok .missing
  | .isVolumeExists | .isContainerExists _ | .isMonitorProcessAlive _ => .ok true
  | .isContainerRunning _ => .ok running
  | .isContainerCreated | .exitScheduleExists | .getAutomaticRepairOption => .ok false
  | .isContainerExited => .ok !running
  | .containerExitCode => .ok 0
  | .removeContainer _ => .ok true
  | .sslFilesChangeDate => .ok none
  | .observeEndpoint _ => .ok (nodeFiles, fun _ => false)
  | .observeBlocks => .ok (nodeFiles, fun _ => true)
  | .observeRules => .ok (nodeFiles, fun _ _ _ _ => true)
  | .getNumberOfSecretShares => .ok 1
  | .getSchain | .notifyChecks | .notifyRepairMode | .incrSkaledPipeline _
  | .saveRecord .. | .removeVolume | .createDataVolume | .runSchainContainer ..
  | .restartContainer _ | .displayContainerLogs | .setExitTs _
  | .removeExitSchedule => .ok ()
  | .syncSkaledConfigWithUpstream => .ok false
  | _ => .error .attributeError

end SkaleAdmin.Monitor
