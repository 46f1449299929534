import SkaleAdmin.Library.Serving
import SkaleAdmin.Monitor.SkaledMonitor

/-! Which contents of the status files the choice of the skaled monitor can cope with. -/

namespace SkaleAdmin.Monitor

open Interaction PyText Json Config
open Interaction.Procedure (served served_bind served_bind_value served_invoke_ok Returns
  returns_pure returns_bind_of_value returns_bind_congr not_returns_bind)

namespace StatusFile

/-- Where there is an `exitState` that is not empty it has the flag. -/
def HasExitFlag (name : String) : StatusFile → Prop
  | json content => ∃ fields, content = .obj fields ∧
      ∀ part, fields.lookup "exitState".toList = some part → truthy part = true →
        ∃ flags value, part = .obj flags ∧ flags.lookup name.toList = some value
  | _ => True

/-- The file is a JSON object with a number for `repair_ts`. -/
def HasRepairTs : StatusFile → Prop
  | json content => ∃ fields, content = .obj fields ∧
      ((∃ number, fields.lookup "repair_ts".toList = some (.num number)) ∨
        ∃ value, fields.lookup "repair_ts".toList = some (.bool value))
  | _ => False

theorem getItem_eq_ok {key : String} {value item : Value} :
    getItem key value = .ok item ↔
      ∃ fields, value = .obj fields ∧ fields.lookup key.toList = some item := by
  cases value with
  | obj fields =>
      unfold getItem
      cases found : fields.lookup key.toList with
      | none => simp [found]
      | some other => simp [found]
  | _ => simp [getItem]

theorem get_eq_ok {field : String} {content value : Value} :
    (json content).get field = .ok value ↔
      ∃ fields, content = .obj fields ∧
        (fields.lookup field.toList).getD .null = value := by
  cases content with
  | obj fields => simp [get, getOr]
  | _ => simp [get, getOr]

theorem flag_ok_iff {name : String} {status : StatusFile} :
    (∃ value, flag "exitState" name status = .ok value) ↔ status.HasExitFlag name := by
  cases status with
  | missing => exact iff_of_true ⟨false, rfl⟩ trivial
  | broken => exact iff_of_true ⟨false, rfl⟩ trivial
  | json content =>
      constructor
      · rintro ⟨value, given⟩
        obtain ⟨part, read, rest⟩ := bind_eq_ok.mp given
        obtain ⟨fields, rfl, rfl⟩ := get_eq_ok.mp read
        refine ⟨fields, rfl, ?_⟩
        intro part found filled
        rw [found, Option.getD_some, if_pos filled] at rest
        obtain ⟨item, inside, _⟩ := bind_eq_ok.mp rest
        obtain ⟨flags, rfl, named⟩ := getItem_eq_ok.mp inside
        exact ⟨flags, item, rfl, named⟩
      · rintro ⟨fields, rfl, has⟩
        cases found : fields.lookup "exitState".toList with
        | none =>
            refine ⟨false, bind_eq_ok.mpr ⟨.null, get_eq_ok.mpr ⟨fields, rfl, ?_⟩, rfl⟩⟩
            rw [found, Option.getD_none]
        | some part =>
            have read : (json (.obj fields)).get "exitState" = .ok part := by
              refine get_eq_ok.mpr ⟨fields, rfl, ?_⟩
              rw [found, Option.getD_some]
            cases filled : truthy part with
            | false =>
                refine ⟨false, bind_eq_ok.mpr ⟨part, read, ?_⟩⟩
                rw [filled]
                rfl
            | true =>
                obtain ⟨flags, item, rfl, named⟩ := has part found filled
                refine ⟨truthy item, bind_eq_ok.mpr ⟨.obj flags, read, ?_⟩⟩
                rw [if_pos filled]
                exact bind_eq_ok.mpr ⟨item, getItem_eq_ok.mpr ⟨flags, rfl, named⟩, rfl⟩

theorem requestsRepairAfter_ok_iff {repairTs : Int} {status : StatusFile} :
    (∃ value, requestsRepairAfter repairTs status = .ok value) ↔ status.HasRepairTs := by
  cases status with
  | missing =>
      simp [requestsRepairAfter, get, HasRepairTs, bind_eq_ok, throw, throwThe,
        MonadExceptOf.throw]
  | broken =>
      simp [requestsRepairAfter, get, HasRepairTs, bind_eq_ok, throw, throwThe,
        MonadExceptOf.throw]
  | json content =>
      constructor
      · rintro ⟨value, given⟩
        obtain ⟨requested, read, rest⟩ := bind_eq_ok.mp given
        obtain ⟨fields, rfl, here⟩ := get_eq_ok.mp read
        refine ⟨fields, rfl, ?_⟩
        cases found : fields.lookup "repair_ts".toList with
        | none =>
            rw [found] at here
            cases here
            cases rest
        | some item =>
            rw [found] at here
            cases here
            cases item with
            | num number => exact .inl ⟨number, rfl⟩
            | bool value => exact .inr ⟨value, rfl⟩
            | _ => cases rest
      · rintro ⟨fields, rfl, ⟨number, found⟩ | ⟨value, found⟩⟩
        · refine ⟨decide (repairTs < number), bind_eq_ok.mpr ⟨.num number, ?_, rfl⟩⟩
          exact get_eq_ok.mpr ⟨fields, rfl, by rw [found, Option.getD_some]⟩
        · refine ⟨_, bind_eq_ok.mpr ⟨.bool value, ?_, rfl⟩⟩
          exact get_eq_ok.mpr ⟨fields, rfl, by rw [found, Option.getD_some]⟩

end StatusFile

/-- What the choice reads besides the status files, all of which it can read. -/
structure ChoiceSurroundings where
  sslDate : Option Int
  now : Nat
  secretShares : Nat
  files : Directory Text
  finishTs : Option Int
  finishTsRead : getFinishTsFromSkaledConfig files = .ok finishTs
  upstreamFinishTs : Option Int
  upstreamFinishTsRead : getFinishTsFromLatestUpstream files = .ok upstreamFinishTs
  reloadTs : Option Int
  reloadTsRead : externalReloadTs files = .ok (reloadTs.elim .null .num)

def ChoiceSurroundings.answer (surroundings : ChoiceSurroundings) :
    (query : MonitorQuery) → Except MonitorError query.Reply
  | .sslFilesChangeDate => .ok surroundings.sslDate
  | .time => .ok surroundings.now
  | .getNumberOfSecretShares => .ok surroundings.secretShares
  | .readFiles => .ok surroundings.files
  | _ => .error .attributeError

/-- The contents of `skaled.status`, by the number of times that one of its properties was
read before, and that of `node_cli.status`. -/
structure StatusWorld where
  skaled : Nat → StatusFile
  nodeCli : StatusFile
  reads : Nat := 0

namespace StatusWorld

variable (surroundings : ChoiceSurroundings)

def serve : (query : MonitorQuery) → StatusWorld →
    Except MonitorError query.Reply × StatusWorld
  | .readSkaledStatus, world =>
      (.ok (world.skaled world.reads), { world with reads := world.reads + 1 })
  | .readNodeCliStatus, world => (.ok world.nodeCli, world)
  | query, world => (surroundings.answer query, world)

/-- What the next property of `skaled.status` finds. -/
def next (world : StatusWorld) : StatusFile :=
  world.skaled world.reads

def later (world : StatusWorld) : StatusWorld :=
  { world with reads := world.reads + 1 }

section Flags

variable {surroundings} {world : StatusWorld} {flag : StatusFile → Evaluated Bool}

theorem served_skaledFlag {value : Bool} (given : flag world.next = .ok value) :
    (skaledFlag flag).served (serve surroundings) world = (.value value, world.later) := by
  unfold skaledFlag
  rw [served_bind_value (served_invoke_ok rfl)]
  change (evaluate (flag world.next)).served _ _ = _
  rw [given]
  rfl

theorem not_returns_skaledFlag (missing : ¬ ∃ value, flag world.next = .ok value) :
    ¬ Returns (serve surroundings) (skaledFlag flag) world := by
  unfold skaledFlag
  rw [returns_bind_of_value (served_invoke_ok rfl)]
  change ¬ Returns _ (evaluate (flag world.next)) _
  cases given : flag world.next with
  | ok value => exact absurd ⟨value, given⟩ missing
  | error error =>
      rintro ⟨value, last, ended⟩
      cases ended

end Flags

end StatusWorld

section Choice

open StatusWorld

variable (surroundings : ChoiceSurroundings) (choice : MonitorChoice)
  (settings : SkaledSettings)

def ChoiceSurroundings.NewNode : Prop :=
  (∃ finishTs, surroundings.finishTs = some finishTs ∧ (surroundings.now : Int) < finishTs) ∧
    surroundings.secretShares = 1

/-- Where `exit_time_reached` is read it is there. -/
def MonitorChoice.ExitTolerated (world : StatusWorld) : Prop :=
  choice.hasSkaledStatus = true → choice.checkStatus.skaledContainer = false →
    world.next.HasExitFlag "ExitTimeReached"

def MonitorChoice.RestTolerated (world : StatusWorld) : Prop :=
  ¬ surroundings.NewNode → choice.ExitTolerated world

def MonitorChoice.InternalTolerated (world : StatusWorld) : Prop :=
  world.next.HasExitFlag "ClearDataDir" ∧
    (world.next.clearDataDir = .ok false →
      choice.RestTolerated surroundings world.later) ∧
    (world.next.clearDataDir = .ok true →
      world.later.next.HasExitFlag "StartFromSnapshot" ∧
        (world.later.next.startFromSnapshot = .ok false →
          choice.RestTolerated surroundings world.later.later))

def MonitorChoice.RepairTolerated (world : StatusWorld) : Prop :=
  (choice.hasNodeCliStatus = true → world.nodeCli.HasRepairTs) ∧
    (¬ (choice.hasNodeCliStatus = true ∧
        world.nodeCli.requestsRepairAfter (choice.repairTs settings) = .ok true) →
      if choice.automaticRepair && choice.hasSkaledStatus then
        choice.InternalTolerated surroundings world
      else
        choice.RestTolerated surroundings world)

/-- Every property of the status files that the choice reads is there. -/
def MonitorChoice.Tolerated (world : StatusWorld) : Prop :=
  if settings.syncNode then
    choice.ExitTolerated world
  else
    choice.checkStatus.config = true → choice.isBackupMode = false →
      choice.RepairTolerated surroundings settings world

variable {surroundings choice settings} {world : StatusWorld}

theorem served_finishTs :
    SkaledActionManager.finishTs.served (serve surroundings) world =
      (.value surroundings.finishTs, world) := by
  unfold SkaledActionManager.finishTs
  rw [served_bind_value (served_invoke_ok rfl)]
  change (evaluate (getFinishTsFromSkaledConfig surroundings.files)).served _ _ = _
  rw [surroundings.finishTsRead]
  rfl

theorem served_upstreamFinishTs :
    SkaledActionManager.upstreamFinishTs.served (serve surroundings) world =
      (.value surroundings.upstreamFinishTs, world) := by
  unfold SkaledActionManager.upstreamFinishTs
  rw [served_bind_value (served_invoke_ok rfl)]
  change (evaluate (getFinishTsFromLatestUpstream surroundings.files)).served _ _ = _
  rw [surroundings.upstreamFinishTsRead]
  rfl

theorem served_reloadTs :
    SkaledActionManager.reloadTs.served (serve surroundings) world =
      (.value surroundings.reloadTs, world) := by
  have read : (evaluate (externalReloadTs surroundings.files)).served (serve surroundings)
      world = (.value (surroundings.reloadTs.elim .null .num), world) := by
    rw [surroundings.reloadTsRead]
    rfl
  unfold SkaledActionManager.reloadTs
  rw [served_bind_value (served_invoke_ok rfl)]
  refine (served_bind_value read).trans ?_
  cases surroundings.reloadTs <;> rfl

theorem served_isReloadGroupMode :
    ∃ value, choice.isReloadGroupMode.served (serve surroundings) world =
      (.value value, world) := by
  unfold MonitorChoice.isReloadGroupMode
  rw [served_bind_value served_upstreamFinishTs, served_bind_value (served_invoke_ok rfl)]
  cases surroundings.upstreamFinishTs with
  | none => exact ⟨_, rfl⟩
  | some finishTs => exact ⟨_, rfl⟩

theorem served_isReloadIpMode :
    ∃ value, choice.isReloadIpMode.served (serve surroundings) world =
      (.value value, world) := by
  unfold MonitorChoice.isReloadIpMode
  rw [served_bind_value served_reloadTs]
  cases surroundings.reloadTs with
  | none => exact ⟨_, rfl⟩
  | some reloadTs => exact ⟨_, rfl⟩

theorem served_isRecreateMode :
    ∃ value, choice.isRecreateMode.served (serve surroundings) world =
        (.value value, world) ∧ (value = true → choice.checkStatus.skaledContainer = true) := by
  unfold MonitorChoice.isRecreateMode
  cases running : choice.checkStatus.skaledContainer with
  | false => exact ⟨false, rfl, by simp⟩
  | true =>
      simp only [if_true, implies_true, and_true]
      unfold sslReloadNeeded
      rw [served_bind_value (served_invoke_ok rfl)]
      cases surroundings.sslDate with
      | none => exact ⟨_, rfl⟩
      | some date => exact ⟨_, rfl⟩

theorem served_isNewNodeMode :
    ∃ value, MonitorChoice.isNewNodeMode.served (serve surroundings) world =
        (.value value, world) ∧ (value = true ↔ surroundings.NewNode) := by
  unfold MonitorChoice.isNewNodeMode ChoiceSurroundings.NewNode
  rw [served_bind_value served_finishTs, served_bind_value (served_invoke_ok rfl),
    served_bind_value (served_invoke_ok rfl)]
  cases surroundings.finishTs with
  | none => exact ⟨false, rfl, by simp⟩
  | some finishTs => exact ⟨_, rfl, by simp⟩

theorem returns_getUpdateMonitor (default : SkaledMonitor) :
    Returns (serve surroundings) (choice.getUpdateMonitor default) world ↔
      choice.ExitTolerated world := by
  have reloads : ∀ world, Returns (serve surroundings) (do
      if ← choice.isReloadGroupMode then
        return SkaledMonitor.reloadGroup
      else
        if ← choice.isReloadIpMode then return .reloadIp else return default) world := by
    intro world
    obtain ⟨group, groupServed⟩ := served_isReloadGroupMode
    rw [returns_bind_of_value groupServed]
    cases group with
    | true => exact returns_pure _
    | false =>
        obtain ⟨ip, ipServed⟩ := served_isReloadIpMode
        rw [if_neg (by decide), returns_bind_of_value ipServed]
        cases ip <;> exact returns_pure _
  have decided : ∀ {value after}, choice.isConfigUpdateTime.served (serve surroundings)
      world = (.value value, after) →
      Returns (serve surroundings) (choice.getUpdateMonitor default) world := by
    intro value after ended
    unfold MonitorChoice.getUpdateMonitor
    rw [returns_bind_of_value ended]
    cases value with
    | true => exact returns_pure _
    | false => exact reloads after
  have mode : choice.isConfigUpdateTime =
      if choice.hasSkaledStatus && !choice.checkStatus.skaledContainer then
        skaledFlag StatusFile.exitTimeReached
      else
        pure false := rfl
  cases asked : choice.hasSkaledStatus && !choice.checkStatus.skaledContainer with
  | false =>
      rw [asked, if_neg (by decide)] at mode
      have ended : choice.isConfigUpdateTime.served (serve surroundings) world =
          (.value false, world) := by
        rw [mode]
        rfl
      refine iff_of_true (decided ended) ?_
      intro found stopped
      rw [found, stopped] at asked
      cases asked
  | true =>
      rw [asked, if_pos rfl] at mode
      simp only [Bool.and_eq_true, Bool.not_eq_true'] at asked
      by_cases has : world.next.HasExitFlag "ExitTimeReached"
      · obtain ⟨value, given⟩ := StatusFile.flag_ok_iff.mpr has
        have ended : choice.isConfigUpdateTime.served (serve surroundings) world =
            (.value value, world.later) := by
          rw [mode]
          exact served_skaledFlag given
        exact iff_of_true (decided ended) fun _ _ => has
      · have raises : ¬ Returns (serve surroundings) choice.isConfigUpdateTime world := by
          rw [mode]
          exact not_returns_skaledFlag fun given => has (StatusFile.flag_ok_iff.mp given)
        exact iff_of_false (not_returns_bind raises) fun tolerated =>
          has (tolerated asked.1 asked.2)

/-- What is left of the choice once there is nothing to repair. -/
def MonitorChoice.getHealthyMonitor (choice : MonitorChoice) : MonitorM SkaledMonitor := do
  if ← choice.isRecreateMode then
    return .recreate
  else
    if ← isNewNodeMode then
      return .newNode
    else
      choice.getUpdateMonitor .regular

theorem returns_getHealthyMonitor :
    Returns (serve surroundings) choice.getHealthyMonitor world ↔
      choice.RestTolerated surroundings world := by
  unfold MonitorChoice.getHealthyMonitor MonitorChoice.RestTolerated
  obtain ⟨recreate, recreateServed, recreateRuns⟩ := served_isRecreateMode
  rw [returns_bind_of_value recreateServed]
  cases recreate with
  | true =>
      refine iff_of_true (returns_pure _) ?_
      intro _ _ stopped
      rw [recreateRuns rfl] at stopped
      cases stopped
  | false =>
      obtain ⟨newNode, newNodeServed, isNewNode⟩ := served_isNewNodeMode
      rw [if_neg (by decide), returns_bind_of_value newNodeServed, ← isNewNode]
      cases newNode with
      | true => exact iff_of_true (returns_pure _) (by simp)
      | false =>
          rw [if_neg (by decide), returns_getUpdateMonitor]
          simp

theorem returns_getSyncMonitor :
    Returns (serve surroundings) choice.getSyncMonitor world ↔
      choice.ExitTolerated world := by
  unfold MonitorChoice.getSyncMonitor
  obtain ⟨recreate, recreateServed, recreateRuns⟩ := served_isRecreateMode
  rw [returns_bind_of_value recreateServed]
  cases recreate with
  | true =>
      refine iff_of_true (returns_pure _) ?_
      intro _ stopped
      rw [recreateRuns rfl] at stopped
      cases stopped
  | false =>
      rw [if_neg (by decide)]
      exact returns_getUpdateMonitor _

def repairOr (body : MonitorM SkaledMonitor) (repairs : Bool) : MonitorM SkaledMonitor :=
  if repairs then return .repair else body

theorem served_needsRepair {value : Bool}
    (started : world.next.clearDataDir = .ok true)
    (given : world.later.next.startFromSnapshot = .ok value) :
    needsRepair.served (serve surroundings) world = (.value value, world.later.later) := by
  unfold needsRepair
  rw [served_bind_value (served_skaledFlag started)]
  exact served_skaledFlag given

theorem served_needsRepair_kept (kept : world.next.clearDataDir = .ok false) :
    needsRepair.served (serve surroundings) world = (.value false, world.later) := by
  unfold needsRepair
  rw [served_bind_value (served_skaledFlag kept)]
  rfl

theorem not_returns_needsRepair
    (missing : world.next.HasExitFlag "ClearDataDir" →
      world.next.clearDataDir = .ok true ∧
        ¬ world.later.next.HasExitFlag "StartFromSnapshot") :
    ¬ Returns (serve surroundings) needsRepair world := by
  unfold needsRepair
  by_cases has : world.next.HasExitFlag "ClearDataDir"
  · obtain ⟨cleared, absent⟩ := missing has
    rw [returns_bind_of_value (served_skaledFlag cleared), if_pos rfl]
    exact not_returns_skaledFlag fun given => absent (StatusFile.flag_ok_iff.mp given)
  · exact not_returns_bind (not_returns_skaledFlag fun given =>
      has (StatusFile.flag_ok_iff.mp given))

theorem returns_repairOr {repairs : Bool} :
    Returns (serve surroundings) (repairOr choice.getHealthyMonitor repairs) world ↔
      (repairs = false → choice.RestTolerated surroundings world) := by
  cases repairs with
  | true => exact iff_of_true (returns_pure _) (by simp)
  | false =>
      rw [← returns_getHealthyMonitor]
      simp [repairOr]

theorem returns_internal_of_needs {needs : Bool} {after : StatusWorld}
    (found : choice.hasSkaledStatus = true)
    (ended : needsRepair.served (serve surroundings) world = (.value needs, after)) :
    Returns (serve surroundings)
        (choice.isSkaledRepairInternal >>= repairOr choice.getHealthyMonitor) world ↔
      (needs = false → choice.RestTolerated surroundings after) := by
  have internal : choice.isSkaledRepairInternal.served (serve surroundings) world =
      (.value (!choice.checkStatus.skaledContainer && needs), after) := by
    unfold MonitorChoice.isSkaledRepairInternal
    rw [if_pos found, served_bind_value ended]
    rfl
  rw [returns_bind_of_value internal, returns_repairOr]
  cases running : choice.checkStatus.skaledContainer with
  | false => simp
  | true =>
      cases needs with
      | false => simp
      | true =>
          refine iff_of_true (fun _ _ _ stopped => ?_) (by simp)
          rw [running] at stopped
          cases stopped

theorem returns_internal (found : choice.hasSkaledStatus = true) :
    Returns (serve surroundings)
        (choice.isSkaledRepairInternal >>= repairOr choice.getHealthyMonitor) world ↔
      choice.InternalTolerated surroundings world := by
  have raises : ¬ Returns (serve surroundings) needsRepair world →
      ¬ Returns (serve surroundings)
        (choice.isSkaledRepairInternal >>= repairOr choice.getHealthyMonitor) world := by
    intro missing
    apply not_returns_bind
    unfold MonitorChoice.isSkaledRepairInternal
    rw [if_pos found]
    exact not_returns_bind missing
  unfold MonitorChoice.InternalTolerated
  by_cases has : world.next.HasExitFlag "ClearDataDir"
  · obtain ⟨clears, given⟩ := StatusFile.flag_ok_iff.mpr has
    have cleared : world.next.clearDataDir = .ok clears := given
    cases clears with
    | false =>
        rw [returns_internal_of_needs found (served_needsRepair_kept cleared), cleared]
        simp [has]
    | true =>
        by_cases starts : world.later.next.HasExitFlag "StartFromSnapshot"
        · obtain ⟨needs, given⟩ := StatusFile.flag_ok_iff.mpr starts
          have started : world.later.next.startFromSnapshot = .ok needs := given
          rw [returns_internal_of_needs found (served_needsRepair cleared started), cleared,
            started]
          simp [has, starts]
        · refine iff_of_false (raises ?_) fun tolerated => starts (tolerated.2.2 cleared).1
          exact not_returns_needsRepair fun _ => ⟨cleared, starts⟩
  · refine iff_of_false (raises ?_) fun tolerated => has tolerated.1
    exact not_returns_needsRepair fun given => absurd given has

theorem returns_repair_of_requested {requested : Bool}
    (ended : (choice.isRepairRequested settings).served (serve surroundings) world =
      (.value requested, world)) :
    Returns (serve surroundings)
        (choice.isRepairMode settings >>= repairOr choice.getHealthyMonitor) world ↔
      (requested = false → if choice.automaticRepair && choice.hasSkaledStatus then
          choice.InternalTolerated surroundings world
        else
          choice.RestTolerated surroundings world) := by
  have mode : (choice.isRepairMode settings).served (serve surroundings) world =
      Procedure.served (serve surroundings) (if requested then pure true
        else if choice.automaticRepair then choice.isSkaledRepairInternal
        else pure false) world :=
    served_bind_value ended
  rw [returns_bind_congr mode]
  cases requested with
  | true => exact iff_of_true (returns_pure _) (by simp)
  | false =>
      simp only [Bool.false_eq_true, if_false, forall_const]
      cases choice.automaticRepair with
      | false =>
          simp only [Bool.false_eq_true, if_false, Bool.false_and]
          exact returns_getHealthyMonitor
      | true =>
          simp only [if_true, Bool.true_and]
          cases found : choice.hasSkaledStatus with
          | true => exact returns_internal found
          | false =>
              unfold MonitorChoice.isSkaledRepairInternal
              rw [found]
              exact returns_getHealthyMonitor

theorem returns_repair :
    Returns (serve surroundings)
        (choice.isRepairMode settings >>= repairOr choice.getHealthyMonitor) world ↔
      choice.RepairTolerated surroundings settings world := by
  unfold MonitorChoice.RepairTolerated
  cases found : choice.hasNodeCliStatus with
  | false =>
      have ended : (choice.isRepairRequested settings).served (serve surroundings) world =
          (.value false, world) := by
        unfold MonitorChoice.isRepairRequested
        rw [found]
        rfl
      rw [returns_repair_of_requested ended]
      simp
  | true =>
      have asks : choice.isRepairRequested settings = (do
          let status ← invoke .readNodeCliStatus
          evaluate (status.requestsRepairAfter (choice.repairTs settings))) := by
        unfold MonitorChoice.isRepairRequested
        rw [found, if_pos rfl]
      have answered : (choice.isRepairRequested settings).served (serve surroundings)
          world = (evaluate (world.nodeCli.requestsRepairAfter
            (choice.repairTs settings))).served (serve surroundings) world := by
        rw [asks]
        exact served_bind_value (served_invoke_ok rfl)
      cases given : world.nodeCli.requestsRepairAfter (choice.repairTs settings) with
      | ok requested =>
          rw [given] at answered
          rw [returns_repair_of_requested answered]
          have has := StatusFile.requestsRepairAfter_ok_iff.mp ⟨requested, given⟩
          simp [has]
      | error error =>
          have missing : ¬ world.nodeCli.HasRepairTs := by
            intro has
            obtain ⟨requested, read⟩ := StatusFile.requestsRepairAfter_ok_iff.mpr has
            rw [given] at read
            cases read
          refine iff_of_false (not_returns_bind ?_) fun tolerated => missing (tolerated.1 rfl)
          unfold MonitorChoice.isRepairMode
          apply not_returns_bind
          rintro ⟨result, last, ended⟩
          rw [answered, given] at ended
          cases ended

/-- Files that have all that is read are tolerated, however they change meanwhile. -/
theorem tolerated_of_complete
    (flags : ∀ read, ∀ name ∈ ["ClearDataDir", "StartFromSnapshot", "ExitTimeReached"],
      (world.skaled read).HasExitFlag name)
    (repairTs : choice.hasNodeCliStatus = true → world.nodeCli.HasRepairTs) :
    choice.Tolerated surroundings settings world := by
  have exit : ∀ {later : StatusWorld}, later.skaled = world.skaled →
      choice.ExitTolerated later := by
    intro later same _ _
    unfold StatusWorld.next
    rw [same]
    exact flags _ _ (by simp)
  have internal : choice.InternalTolerated surroundings world :=
    ⟨flags _ _ (by simp), fun _ _ => exit rfl,
      fun _ => ⟨flags _ _ (by simp), fun _ _ => exit rfl⟩⟩
  unfold MonitorChoice.Tolerated
  split
  · exact exit rfl
  · intro _ _
    refine ⟨repairTs, fun _ => ?_⟩
    split
    · exact internal
    · exact fun _ => exit rfl

section Samples

def sampleSurroundings : ChoiceSurroundings where
  sslDate := none
  now := 1700000000
  secretShares := 2
  files := [(.skaled, dumps (.obj [("skaleConfig".toList, .obj [
    ("sChain".toList, .obj [("nodeGroups".toList, .obj [])])])]))]
  finishTs := none
  finishTsRead := by decide +kernel
  upstreamFinishTs := none
  upstreamFinishTsRead := by decide +kernel
  reloadTs := none
  reloadTsRead := by rfl

def sampleChoice : MonitorChoice where
  checkStatus := { config := true, configUpdated := true, skaledContainer := false }
  schainRecord := .add "schain" 0 0
  hasSkaledStatus := true
  hasNodeCliStatus := true
  automaticRepair := true

def sampleExitState : StatusFile :=
  .json (.obj [("exitState".toList, .obj [
    ("ClearDataDir".toList, .bool false), ("StartFromSnapshot".toList, .bool false)])])

end Samples

end Choice

end SkaleAdmin.Monitor
