import SkaleAdmin.Monitor.RepairWorld

/-! After a repair has removed the volume skaled starts from a snapshot. -/

namespace SkaleAdmin.Monitor

open Interaction PyText Json Config
open Interaction.Procedure (calls_pure calls_bind calls_invoke)
open Interaction.Ledger (yields_pure yields_raise yields_bind yields_swallowed
  yields_invoke yields_of_fact)

/-! ### Which monitor is chosen -/

section Choice

variable {settings : SkaledSettings}

def MonitorChoice.Informed (choice : MonitorChoice) : RepairNotes → Prop :=
  Waiting fun byRequest date =>
    choice.schainRecord .repairDate = date ∧
      (byRequest = true → choice.hasNodeCliStatus = true) ∧
      (byRequest = false → choice.hasSkaledStatus = true ∧
        choice.automaticRepair = true ∧ choice.checkStatus.skaledContainer = false)

theorem skaledFlag_yields {assertion : RepairNotes → Prop} (lasts : Lasting assertion)
    {flag : StatusFile → Evaluated Bool} (expected : Bool)
    (told : ∀ (status : StatusFile) (world : RepairWorld), assertion world.2 →
      causeLasts settings .readSkaledStatus (.ok status) world = true →
      world.2.pending = true → saysYes (flag status) = expected) :
    (repairLedger settings).Yields assertion (skaledFlag flag) fun flagged notes =>
      assertion notes ∧ Waiting (fun _ _ => flagged = expected) notes := by
  refine yields_bind _ (yields_telling lasts rfl
    (fun status _ _ => saysYes (flag status) = expected) ?_) fun status =>
      yields_evaluate ?_
  · intro status world _ holds allowed waits
    exact told status world holds allowed waits
  · intro value flagged notes holds
    refine ⟨holds.1, fun waits => ?_⟩
    have agrees := holds.2 waits
    rw [flagged] at agrees
    exact agrees

theorem status_needsRepair {status : StatusFile} {world : RepairWorld}
    (unrequested : Waiting (fun byRequest _ => byRequest = false) world.2)
    (allowed : causeLasts settings .readSkaledStatus (.ok status) world = true)
    (waits : world.2.pending = true) : status.needsRepair = true := by
  change (!world.2.pending || (!saysYes status.exitTimeReached &&
    (world.2.byRequest || status.needsRepair))) = true at allowed
  rw [waits, unrequested waits] at allowed
  exact (Bool.and_eq_true_iff.mp allowed).2

theorem needsRepair_yields :
    (repairLedger settings).Yields (Waiting fun byRequest _ => byRequest = false)
      needsRepair fun needed => Waiting fun _ _ => needed = true := by
  refine yields_bind _ (skaledFlag_yields (lasting_waiting _) true ?_)
    fun clears => ?_
  · intro status world unrequested allowed waits
    have needs := status_needsRepair unrequested allowed waits
    exact (Bool.and_eq_true_iff.mp (Bool.and_eq_true_iff.mp needs).1).2
  cases clears with
  | false => exact yields_pure fun notes holds waits => nomatch holds.2 waits
  | true =>
      refine Ledger.Yields.strengthen (Ledger.Yields.weaken
        (skaledFlag_yields (lasting_waiting _) true ?_) ?_) fun _ holds => holds.1
      · intro status world unrequested allowed waits
        exact (Bool.and_eq_true_iff.mp (status_needsRepair unrequested allowed waits)).2
      · intro starts notes holds
        exact holds.2

theorem status_requestsRepair {status : StatusFile} {world : RepairWorld}
    (allowed : causeLasts settings .readNodeCliStatus (.ok status) world = true)
    (waits : world.2.pending = true) (byRequest : world.2.byRequest = true) :
    status.requestsRepair (world.2.date - settings.utcOffset) = true := by
  change (!world.2.pending || !world.2.byRequest ||
    status.requestsRepair (world.2.date - settings.utcOffset)) = true at allowed
  rw [waits, byRequest] at allowed
  exact allowed

theorem isRepairRequested_yields (choice : MonitorChoice) :
    (repairLedger settings).Yields choice.Informed (choice.isRepairRequested settings)
      fun requested notes => choice.Informed notes ∧
        Waiting (fun byRequest _ => byRequest = true → requested = true) notes := by
  unfold MonitorChoice.isRepairRequested
  split
  case isFalse unfound =>
    refine yields_pure fun notes informed => ⟨informed, ?_⟩
    intro waits byRequest
    exact absurd ((informed waits).2.1 byRequest) unfound
  refine yields_bind _ (yields_telling (lasting_waiting _) rfl
    (fun (status : StatusFile) byRequest date => byRequest = true →
      status.requestsRepair (date - settings.utcOffset) = true) ?_) fun status =>
        yields_evaluate ?_
  · intro status world _ _ allowed waits byRequest
    exact status_requestsRepair allowed waits byRequest
  · intro requested asked notes holds
    refine ⟨holds.1, fun waits byRequest => ?_⟩
    have requests := holds.2 waits byRequest
    rw [← (holds.1 waits).1] at requests
    obtain ⟨_, requests⟩ := Bool.and_eq_true_iff.mp requests
    have asked : status.requestsRepairAfter
        (choice.schainRecord .repairDate - settings.utcOffset) = .ok requested := asked
    rw [asked] at requests
    exact requests

theorem isSkaledRepairInternal_yields (choice : MonitorChoice) :
    (repairLedger settings).Yields
      (fun notes => choice.Informed notes ∧ Waiting (fun byRequest _ => byRequest = false) notes)
      choice.isSkaledRepairInternal fun repair => Waiting fun _ _ => repair = true := by
  unfold MonitorChoice.isSkaledRepairInternal
  split
  case isFalse unfound =>
    refine yields_pure fun notes holds waits => ?_
    exact absurd ((holds.1 waits).2.2 (holds.2 waits)).1 unfound
  cases down : choice.checkStatus.skaledContainer with
  | false =>
      refine yields_bind _ (needsRepair_yields.strengthen fun _ holds => holds.2)
        fun needed => yields_pure fun notes holds waits => ?_
      rw [holds waits]
      rfl
  | true =>
      refine Ledger.Yields.strengthen (yields_bind (fun _ => Mended)
        (yields_of_auxiliary lasting_mended auxiliary_needsRepair) fun _ =>
          yields_pure fun _ mended => mended.waiting _) ?_
      intro notes holds
      refine mended_of_waiting fun waits => ?_
      have exited := ((holds.1 waits).2.2 (holds.2 waits)).2.2
      rw [down] at exited
      cases exited

theorem isRepairMode_yields (choice : MonitorChoice) :
    (repairLedger settings).Yields choice.Informed (choice.isRepairMode settings)
      fun repair => Waiting fun _ _ => repair = true := by
  refine yields_bind _ (isRepairRequested_yields choice) fun requested => ?_
  cases requested with
  | true => exact yields_pure fun _ _ _ => rfl
  | false =>
      have unrequested : (repairLedger settings).Yields
          (fun notes => choice.Informed notes ∧
            Waiting (fun byRequest _ => byRequest = false) notes)
          (if choice.automaticRepair then choice.isSkaledRepairInternal else pure false)
          fun repair => Waiting fun _ _ => repair = true := by
        split
        · exact isSkaledRepairInternal_yields choice
        · rename_i manual
          refine yields_pure fun notes holds waits => ?_
          exact absurd ((holds.1 waits).2.2 (holds.2 waits)).2.1 manual
      refine unrequested.strengthen fun notes holds => ⟨holds.1, fun waits => ?_⟩
      cases byRequest : notes.byRequest with
      | false => rfl
      | true => cases holds.2 waits byRequest

theorem yields_ite {condition : MonitorM Bool} {positive negative : MonitorM SkaledMonitor}
    {after : SkaledMonitor → RepairNotes → Prop} (plain : Plain condition)
    (whenTrue : (repairLedger settings).Yields Mended positive after)
    (whenFalse : (repairLedger settings).Yields Mended negative after) :
    (repairLedger settings).Yields Mended
      (do if ← condition then positive else negative) after := by
  refine yields_bind _ (yields_of_auxiliary lasting_mended (auxiliary_of_plain plain))
    fun holds => ?_
  cases holds with
  | true => exact whenTrue
  | false => exact whenFalse

def SkaledMonitor.mends : SkaledMonitor → Bool
  | repair | backup | noConfig => true
  | _ => false

/-- A volume that waits is mended, and none is removed on a sync node. -/
def SkaledMonitor.Suits (settings : SkaledSettings) (monitor : SkaledMonitor)
    (notes : RepairNotes) : Prop :=
  Waiting (fun _ _ => monitor.mends = true) notes ∧
    (monitor = .repair → settings.syncNode = false)

theorem yields_other {monitor : SkaledMonitor} (other : monitor ≠ .repair) :
    (repairLedger settings).Yields Mended (pure monitor : MonitorM SkaledMonitor)
      (SkaledMonitor.Suits settings) :=
  yields_pure fun _ mended => ⟨mended.waiting _, fun repair => absurd repair other⟩

theorem getUpdateMonitor_yields (choice : MonitorChoice) {default : SkaledMonitor}
    (other : default ≠ .repair) :
    (repairLedger settings).Yields Mended (choice.getUpdateMonitor default)
      (SkaledMonitor.Suits settings) := by
  refine yields_ite (plain_isConfigUpdateTime choice) (yields_other nofun) ?_
  refine yields_ite (plain_isReloadGroupMode choice) (yields_other nofun) ?_
  exact yields_ite (plain_isReloadIpMode choice) (yields_other nofun) (yields_other other)

theorem getSyncMonitor_yields (choice : MonitorChoice) :
    (repairLedger settings).Yields Mended choice.getSyncMonitor
      (SkaledMonitor.Suits settings) := by
  refine yields_ite (plain_isRecreateMode choice) (yields_other nofun) ?_
  apply getUpdateMonitor_yields
  split <;> exact nofun

theorem getRegularMonitor_yields (choice : MonitorChoice)
    (regular : settings.syncNode = false) :
    (repairLedger settings).Yields choice.Informed (choice.getRegularMonitor settings)
      (SkaledMonitor.Suits settings) := by
  have mends : ∀ {assertion : RepairNotes → Prop} (monitor : SkaledMonitor),
      monitor.mends = true →
      (repairLedger settings).Yields assertion (pure monitor : MonitorM SkaledMonitor)
        (SkaledMonitor.Suits settings) :=
    fun monitor mends => yields_pure fun _ _ => ⟨fun _ => mends, fun _ => regular⟩
  unfold MonitorChoice.getRegularMonitor
  split
  · exact mends .noConfig rfl
  split
  · exact mends .backup rfl
  refine yields_bind _ (isRepairMode_yields choice) fun repair => ?_
  cases repair with
  | true => exact mends .repair rfl
  | false =>
      have unneeded : (repairLedger settings).Yields Mended
          (do
            if ← choice.isRecreateMode then pure .recreate
            else if ← MonitorChoice.isNewNodeMode then pure .newNode
            else choice.getUpdateMonitor .regular) (SkaledMonitor.Suits settings) := by
        refine yields_ite (plain_isRecreateMode choice) (yields_other nofun) ?_
        refine yields_ite plain_isNewNodeMode (yields_other nofun) ?_
        exact getUpdateMonitor_yields choice nofun
      -- a repair that was not asked for leaves no volume waiting
      exact unneeded.strengthen fun notes holds =>
        mended_of_waiting fun waits => nomatch holds waits

theorem getSkaledMonitor_yields (choice : MonitorChoice) :
    (repairLedger settings).Yields
      (fun notes => choice.Informed notes ∧ (settings.syncNode = true → Mended notes))
      (choice.getSkaledMonitor settings) (SkaledMonitor.Suits settings) := by
  unfold MonitorChoice.getSkaledMonitor
  split
  case isTrue syncNode =>
    exact (getSyncMonitor_yields choice).strengthen fun _ holds => holds.2 syncNode
  case isFalse regular =>
    exact (getRegularMonitor_yields choice (Bool.eq_false_iff.mpr regular)).strengthen
      fun _ holds => holds.1

end Choice

/-! ### What the monitors do to a waiting volume -/

section Monitors

variable {settings : SkaledSettings} {α : Type}

theorem isVolumeExists_yields :
    (repairLedger settings).Yields (fun _ => True) (invoke .isVolumeExists)
      fun found notes => found = true → Created notes := by
  apply yields_told rfl
  intro world world' proposed found _ _ allowed served
  obtain rfl := told_serve rfl served
  have since := since_of_serve rfl served
  rintro rfl waits
  change (!world.2.pending || true == world.2.created) = true at allowed
  rw [since.pending waits] at allowed
  exact since.created (eq_of_beq allowed).symm

theorem createdVolume_found :
    (repairLedger settings).Yields Created (invoke .isVolumeExists)
      fun found notes => Created notes ∧ (found = false → Mended notes) := by
  apply yields_told rfl
  intro world world' proposed found _ created allowed served
  obtain rfl := told_serve rfl served
  have since := since_of_serve rfl served
  refine ⟨lasting_created since created, ?_⟩
  rintro rfl
  refine mended_of_waiting fun waits => ?_
  have waited := since.pending waits
  change (!world.2.pending || false == world.2.created) = true at allowed
  rw [waited, created waited] at allowed
  cases allowed

theorem createDataVolume_yields :
    (repairLedger settings).Yields (fun _ => True) (invoke .createDataVolume)
      fun _ => Created := by
  apply yields_told rfl
  intro world world' proposed reply _ _ _ served
  rw [(Host.watch_serve.mp served).2]
  exact fun _ => rfl

theorem ifNot_yields {status : Bool} {action : MonitorM Unit}
    {before after : RepairNotes → Prop}
    (holds : status = true → ∀ notes, before notes → after notes)
    (yields : status = false → (repairLedger settings).Yields before action fun _ => after) :
    (repairLedger settings).Yields before (ifNot status action) fun _ => after := by
  cases status with
  | true => exact yields_pure (holds rfl)
  | false => exact yields rfl

theorem volume_then {rest : MonitorM α} {after : α → RepairNotes → Prop}
    (yields : (repairLedger settings).Yields Created rest after) :
    (repairLedger settings).Yields (fun _ => True) (do
      ifNot (← invoke .isVolumeExists) SkaledActionManager.volume
      rest) after := by
  have found : ∀ {status : Bool} {action : MonitorM Unit},
      (repairLedger settings).Yields (fun _ => True) action (fun _ => Created) →
      (repairLedger settings).Yields (fun notes => status = true → Created notes)
        (ifNot status action) fun _ => Created := by
    intro status action yields
    apply ifNot_yields fun found notes holds => holds found
    intro _
    exact yields.strengthen fun _ _ => trivial
  refine yields_bind _ isVolumeExists_yields fun _ => ?_
  refine yields_bind _ (found ?_) fun _ => yields
  refine yields_bind _ isVolumeExists_yields fun _ => found ?_
  exact yields_bind _ isVolumeExists_yields fun _ => found createDataVolume_yields

theorem rules_then {rest : MonitorM α} {assertion : RepairNotes → Prop}
    {after : α → RepairNotes → Prop} (lasts : Lasting assertion)
    (yields : (repairLedger settings).Yields assertion rest after) :
    (repairLedger settings).Yields assertion (do
      ifNot (← SkaledActionManager.firewallRulesCheck) SkaledActionManager.firewallRules
      rest) after := by
  refine yields_bind _ (yields_of_auxiliary lasts
    SkaledActionManager.auxiliary_firewallRulesCheck) fun _ => ?_
  refine yields_bind _ (yields_of_auxiliary lasts ?_) fun _ => yields
  exact auxiliary_ifNot (SkaledActionManager.auxiliary_firewallRules _) _

theorem exitTimeReached_yields :
    (repairLedger settings).Yields Created (skaledFlag StatusFile.exitTimeReached)
      fun reached notes => Created notes ∧ (reached = true → Mended notes) := by
  refine (skaledFlag_yields lasting_created false ?_).weaken ?_
  · intro status world _ allowed waits
    change (!world.2.pending || (!saysYes status.exitTimeReached &&
      (world.2.byRequest || status.needsRepair))) = true at allowed
    rw [waits] at allowed
    exact Bool.not_eq_eq_eq_not.mp (Bool.and_eq_true_iff.mp allowed).1
  · rintro reached notes holds
    refine ⟨holds.1, ?_⟩
    rintro rfl
    exact mended_of_waiting fun waits => nomatch holds.2 waits

theorem isContainerExists_yields :
    (repairLedger settings).Yields Created (invoke (.isContainerExists .schain))
      fun found notes => found = true → Mended notes := by
  apply yields_told rfl
  intro world world' proposed found kept _ _ served
  have since := since_of_serve rfl served
  obtain ⟨plain, _⟩ := Host.watch_serve.mp served
  rintro rfl
  refine mended_of_waiting fun waits => ?_
  cases proposed with
  | error error => cases plain
  | ok given =>
      obtain ⟨exists', _⟩ := Prod.mk.inj (Option.some.inj plain)
      have unused := kept.unused (since.pending waits)
      rw [Except.ok.inj exists'] at unused
      cases unused

theorem runFromSnapshot_yields (startTs : Option Int) (snapshotFrom : Value) :
    (repairLedger settings).Yields (fun _ => True)
      (invoke (.runSchainContainer true startTs snapshotFrom)) fun _ => Mended := by
  apply yields_told rfl
  intro world world' proposed reply _ _ _ served
  rw [(Host.watch_serve.mp served).2]
  rfl

theorem skaledContainer_yields (am : SkaledActionManager) :
    (repairLedger settings).Yields Created (am.skaledContainer true) fun _ => Mended := by
  have ordinary := ordinary_of harmless_keepsVolume
  refine yields_bind _ (yields_of_auxiliary lasting_created am.auxiliary_snapshotFrom)
    fun snapshotFrom => ?_
  refine yields_bind _ (yields_spare lasting_created rfl) fun record => ?_
  refine yields_bind _ createdVolume_found fun found => ?_
  cases found with
  | false => exact yields_pure fun _ holds => holds.2 rfl
  | true =>
      simp only [if_true]
      refine yields_bind _ (exitTimeReached_yields.strengthen fun _ holds => holds.1)
        fun reached => ?_
      cases reached with
      | true =>
          exact (mended_yields (calls_resetFailedCounters ordinary record)).strengthen
            fun _ holds => holds.2 rfl
      | false =>
          simp only [Bool.false_and, Bool.false_eq_true, if_false]
          refine yields_bind _ (isContainerExists_yields.strengthen fun _ holds => holds.1)
            fun running => ?_
          cases running with
          | true =>
              exact (mended_yields (calls_watchSchainContainer ordinary _ record)).strengthen
                fun _ holds => holds rfl
          | false =>
              refine yields_bind _ ((runFromSnapshot_yields _ _).strengthen
                fun _ _ => trivial) fun _ => mended_yields ?_
              exact calls_bind (calls_updateSslChangeDate ordinary record) fun _ =>
                calls_resetFailedCounters ordinary _

theorem repairSkaledMonitor_yields (am : SkaledActionManager)
    (regular : settings.syncNode = false) :
    (repairLedger settings).Yields (fun _ => True) am.repairSkaledMonitor
      fun _ _ => True := by
  have spare : ∀ {query : MonitorQuery}, query.sparesVolume = true →
      (repairLedger settings).Yields (fun _ => True) (invoke query) fun _ _ => True :=
    fun spares => yields_spare lasting_true spares
  have removes : (repairLedger settings).Yields (fun _ => True) (invoke .removeVolume)
      fun _ _ => True := by
    apply yields_invoke
    intro world world' proposed answer kept _ _ served
    exact ⟨restorable_of_removeVolume kept regular served, fun _ _ => trivial⟩
  refine yields_bind _ (spare rfl) fun _ => yields_bind _ (spare rfl) fun _ => ?_
  refine yields_bind _ (yields_bind _ (spare rfl) fun _ => removes) fun _ => ?_
  refine rules_then lasting_true (volume_then ?_)
  refine yields_bind _ (yields_spare lasting_created rfl) fun running => ?_
  cases running with
  | true => exact yields_raise
  | false =>
      refine yields_bind _ (skaledContainer_yields am) fun _ => ?_
      -- the repair is dated only after the start
      refine yields_bind _ (yields_spare lasting_mended rfl) fun now => ?_
      exact (mended_yields (calls_setRecord (ordinary_of harmless_keepsVolume) _)).weaken
        fun _ _ _ => trivial

theorem backupSkaledMonitor_yields (am : SkaledActionManager) :
    (repairLedger settings).Yields (fun _ => True) am.backupSkaledMonitor
      fun _ _ => True := by
  have ordinary := ordinary_of harmless_keepsVolume
  refine volume_then (rules_then lasting_created ?_)
  refine yields_bind (fun _ => Mended) ?_ fun _ => ?_
  · refine yields_bind _ (isContainerRunning_yields lasting_created) fun running => ?_
    cases running with
    | true =>
        refine (mended_yields (calls_setRecord ordinary _)).strengthen ?_
        exact fun _ holds => mended_of_waiting fun waits => nomatch holds.2 waits
    | false => exact (skaledContainer_yields am).strengthen fun _ holds => holds.1
  · refine (mended_yields ?_).weaken fun _ _ _ => trivial
    refine calls_bind (am.calls_imaContainerCheck ordinary) fun _ => ?_
    exact calls_bind (calls_ifNot (am.calls_imaContainer ordinary) _) fun _ =>
      calls_setRecord ordinary _

theorem calls_execute_keepsVolume (am : SkaledActionManager) {monitor : SkaledMonitor}
    (other : monitor ≠ .repair) :
    (am.execute monitor).Calls
      fun query : MonitorQuery => query.removesVolume = false := by
  have harmless := harmless_keepsVolume
  cases monitor with
  | regular => exact am.calls_regularSkaledMonitor harmless (fun _ _ _ => rfl) rfl
  | repair => exact absurd rfl other
  | backup => exact am.calls_backupSkaledMonitor harmless fun _ _ => rfl
  | recreate => exact am.calls_recreateSkaledMonitor harmless fun _ _ _ => rfl
  | updateConfig => exact am.calls_updateConfigSkaledMonitor harmless fun _ _ _ => rfl
  | reloadGroup =>
      exact am.calls_reloadGroupSkaledMonitor harmless (fun _ _ _ => rfl) rfl fun _ => rfl
  | reloadIp =>
      exact am.calls_reloadIpSkaledMonitor harmless (fun _ _ _ => rfl) rfl fun _ => rfl
  | noConfig => exact SkaledActionManager.calls_noConfigSkaledMonitor harmless
  | newNode => exact am.calls_newNodeSkaledMonitor harmless fun _ _ => rfl

theorem execute_yields (am : SkaledActionManager) (monitor : SkaledMonitor) :
    (repairLedger settings).Yields (monitor.Suits settings) (am.execute monitor)
      fun _ _ => True := by
  have mended : monitor ≠ .repair → monitor.mends = false →
      (repairLedger settings).Yields (monitor.Suits settings) (am.execute monitor)
        fun _ _ => True := by
    intro other unmending
    refine ((mended_yields (calls_execute_keepsVolume am other)).strengthen ?_).weaken
      fun _ _ _ => trivial
    refine fun notes suits => mended_of_waiting fun waits => ?_
    have mends := suits.1 waits
    rw [unmending] at mends
    cases mends
  cases monitor with
  | repair =>
      refine yields_of_fact (fun _ suits => suits.2 rfl) fun regular => ?_
      exact (repairSkaledMonitor_yields am regular).strengthen fun _ _ => trivial
  | backup => exact (backupSkaledMonitor_yields am).strengthen fun _ _ => trivial
  | noConfig =>
      refine Ledger.Yields.strengthen (yields_of_auxiliary lasting_true ?_) fun _ _ => trivial
      exact calls_bind (auxiliary_check _) fun _ =>
        auxiliary_ifNot SkaledActionManager.auxiliary_updateConfig _
  | regular | recreate | updateConfig | reloadGroup | reloadIp | newNode =>
      exact mended nofun rfl

end Monitors

/-! ### Runs -/

section Pipeline

variable {settings : SkaledSettings}

theorem lasting_suits (monitor : SkaledMonitor) : Lasting (monitor.Suits settings) :=
  (lasting_waiting _).and fun _ _ _ holds => holds

theorem runSkaledMonitor_yields (am : SkaledActionManager) (monitor : SkaledMonitor) :
    (repairLedger settings).Yields (monitor.Suits settings)
      (runSkaledMonitor (am.execute monitor)) fun _ _ => True := by
  apply yields_swallowed
  refine yields_bind _ (updLastSeen_keeps (lasting_suits monitor)) fun _ => ?_
  refine yields_bind _ (execute_yields am monitor) fun _ => ?_
  exact yields_bind _ updSchainRecord_keeps fun _ => updLastSeen_keeps lasting_true

theorem getAllChecks_yields (am : SkaledActionManager) {assertion : RepairNotes → Prop}
    (lasts : Lasting assertion) :
    (repairLedger settings).Yields assertion am.getAllChecks fun checkStatus notes =>
      assertion notes ∧ Waiting (fun _ _ => checkStatus.skaledContainer = false) notes := by
  have spare : ∀ {query : MonitorQuery}, query.sparesVolume = true →
      (repairLedger settings).Yields assertion (invoke query) fun _ => assertion :=
    fun spares => yields_spare lasts spares
  have auxiliary : ∀ {α : Type} {body : MonitorM α}, Auxiliary body →
      (repairLedger settings).Yields assertion body fun _ => assertion :=
    fun calls => yields_of_auxiliary lasts calls
  have rpc : am.rpcCheck.Calls fun query : MonitorQuery => query.sparesVolume = true :=
    calls_bind (calls_invoke rfl) fun _ => calls_evaluate _
  refine yields_bind _ (auxiliary SkaledActionManager.auxiliary_blocksCheck) fun _ => ?_
  refine yields_bind _ (auxiliary (auxiliary_check _)) fun config => ?_
  refine yields_bind _ (auxiliary (auxiliary_check _)) fun configUpdated => ?_
  refine yields_bind _ (spare rfl) fun _ => yields_bind _ (spare rfl) fun _ => ?_
  refine yields_bind _ (auxiliary (auxiliary_ifNot ?_ _)) fun _ => ?_
  · exact calls_bind (auxiliary_invoke rfl) fun _ => calls_pure _
  refine yields_bind _ (auxiliary SkaledActionManager.auxiliary_firewallRulesCheck)
    fun _ => ?_
  refine yields_bind _ (auxiliary am.auxiliary_imaContainerCheck) fun _ => ?_
  refine yields_bind _ (spare rfl) fun _ => ?_
  refine yields_bind _ (auxiliary (auxiliary_check _)) fun _ => ?_
  refine yields_bind _ (yields_of_spares lasts rpc) fun _ => ?_
  refine yields_bind _ (isContainerRunning_yields lasts) fun skaledContainer => ?_
  have lasts' := lasts.and (lasting_waiting fun _ _ => skaledContainer = false)
  refine yields_bind _ (yields_of_auxiliary lasts' (auxiliary_check _)) fun _ => ?_
  refine yields_bind _ (yields_spare lasts' rfl) fun _ => ?_
  exact yields_pure fun _ holds => holds

theorem runSkaledPipeline_yields :
    (repairLedger settings).Yields (fun notes => settings.syncNode = true → Mended notes)
      (runSkaledPipeline settings) fun _ _ => True := by
  let regular (notes : RepairNotes) : Prop := settings.syncNode = true → Mended notes
  have lasts : Lasting regular :=
    fun _ _ since mended syncNode => lasting_mended since (mended syncNode)
  refine yields_bind _ (yields_spare lasts rfl) fun _ => ?_
  refine yields_bind _ (loadRecord_undated lasts) fun record => ?_
  have lasts := lasts.and (lasting_waiting fun _ date => record .repairDate = date)
  refine yields_bind _ (yields_telling lasts rfl
    (fun (status : StatusFile) byRequest _ => byRequest = false → status.isFound = true) ?_)
    fun skaledStatus => ?_
  · intro status world _ _ allowed waits byRequest
    have needs := status_needsRepair (fun _ => byRequest) allowed waits
    exact (Bool.and_eq_true_iff.mp (Bool.and_eq_true_iff.mp needs).1).1
  have lasts := lasts.and (lasting_waiting fun byRequest _ =>
    byRequest = false → skaledStatus.isFound = true)
  refine yields_bind _ (yields_telling lasts rfl
    (fun (status : StatusFile) byRequest _ => byRequest = true → status.isFound = true) ?_)
    fun ncliStatus => ?_
  · intro status world _ _ allowed waits byRequest
    have requests := status_requestsRepair allowed waits byRequest
    exact (Bool.and_eq_true_iff.mp requests).1
  have lasts := lasts.and (lasting_waiting fun byRequest _ =>
    byRequest = true → ncliStatus.isFound = true)
  refine yields_bind _ (getAllChecks_yields _ lasts) fun checkStatus => ?_
  have lasts := lasts.and (lasting_waiting fun _ _ => checkStatus.skaledContainer = false)
  refine yields_bind _ (yields_telling lasts rfl
    (fun (automatic : Bool) byRequest _ => byRequest = false → automatic = true) ?_)
    fun automaticRepair => ?_
  · intro automatic world _ _ allowed waits byRequest
    change (!world.2.pending || world.2.byRequest || automatic) = true at allowed
    rw [waits, byRequest] at allowed
    exact allowed
  have lasts := lasts.and (lasting_waiting fun byRequest _ =>
    byRequest = false → automaticRepair = true)
  refine yields_bind _ (yields_spare lasts rfl) fun _ => ?_
  refine yields_bind _ ((getSkaledMonitor_yields _).strengthen ?_) fun monitor => ?_
  · rintro notes ⟨⟨⟨⟨⟨regular, undated⟩, found⟩, request⟩, stopped⟩, automatic⟩
    exact ⟨fun waits => ⟨undated waits, request waits, fun byRequest =>
      ⟨found waits byRequest, automatic waits byRequest, stopped waits⟩⟩, regular⟩
  exact yields_bind _ (yields_spare (lasting_suits monitor) rfl) fun _ =>
    runSkaledMonitor_yields _ monitor

theorem restorable_of_move {world world' : RepairWorld} {move : SkaledMove}
    (kept : Restorable settings world) (stays : repairDateStays world move = true)
    (moved : (repairHost settings).move world move = some world') :
    Restorable settings world' := by
  obtain ⟨taken, noted⟩ := Host.watch_move.mp moved
  have unnoted : world'.2 = world.2 := noted
  have regular : settings.syncNode = true → world'.2.pending = false := by
    rw [unnoted]
    exact kept.regular
  have snapshot : world'.2.plainStart = false := by
    rw [unnoted]
    exact kept.snapshot
  cases move with
  | removeContainer =>
      refine ⟨fun _ => ?_, ?_, regular, snapshot⟩
      · rw [← Option.some.inj taken]
      · rw [unnoted, ← Option.some.inj taken]
        exact kept.undated
  | update column value =>
      obtain ⟨_, same⟩ := Option.ite_none_left_eq_some.mp taken
      refine ⟨?_, fun waits => ?_, regular, snapshot⟩
      · rw [unnoted, ← Option.some.inj same]
        exact kept.unused
      · rw [unnoted] at waits
        have apart : Web.Column.repairDate ≠ column := by
          rintro rfl
          have mended : (!world.2.pending) = true := stays
          rw [waits] at mended
          cases mended
        rw [unnoted, ← Option.some.inj same, ← kept.undated waits]
        exact Web.SChainRecord.set_of_ne apart

end Pipeline

/-- As long as the cause of a repair lasts while its volume waits, skaled is never
started on the volume but from a snapshot. -/
theorem repair_starts_from_snapshot (settings : SkaledSettings) (world : SkaledWorld)
    (labels : List (Label monitorInterface SkaledMove Unit))
    (lasts : Transition.EachStep (repairHost settings).step
      (repairDiscipline settings).Meets { world := (world, {}) } labels) :
    Transition.Always (repairHost settings).step
      (fun config => config.world.2.plainStart = false)
      { world := (world, {}) } labels := by
  refine Host.always_of_outlines
    (fun kept stays moved => restorable_of_move kept stays moved) ?_ ?_ ?_ ?_ lasts
  · intro world kept
    exact kept
  · intro world job kept _
    exact ⟨kept, _, _, kept.regular, runSkaledPipeline_yields⟩
  · intro config kept
    exact kept.snapshot
  · exact ⟨nofun, nofun, fun _ => rfl, rfl⟩

/-- The node CLI requests a repair while skaled is down, in an exit state or
not. -/
def repairAnswer (exitTimeReached volumeExists : Bool) : (query : MonitorQuery) →
    Except MonitorError query.Reply
  | .readNodeCliStatus => .ok (.json (.obj [("repair_ts".toList, .num 50)]))
  | .readSkaledStatus => .ok (.json (.obj [("exitState".toList, .obj [
      ("ExitTimeReached".toList, .bool exitTimeReached),
      ("ClearDataDir".toList, .bool false),
      ("StartFromSnapshot".toList, .bool false)])]))
  | .isVolumeExists => .ok volumeExists
  | query => hostAnswer false query

def repairStart : RepairWorld :=
  ({ row := newRow, container := true }, {})

/-- The last of these calls removes the volume. -/
def repairBegun (exitTimeReached : Bool) : List (Label monitorInterface SkaledMove Unit) :=
  .start () :: List.replicate 29 (.call (repairAnswer exitTimeReached true))

/-- The admin is killed when it has removed the volume; the next pass repairs
again. -/
def killedRepair : List (Label monitorInterface SkaledMove Unit) :=
  repairBegun false ++ .stop :: .start () ::
    (List.replicate 34 (.call (repairAnswer false false)) ++
      List.replicate 25 (.call (repairAnswer false true)))

theorem repairPass_starts_from_snapshot :
    (Transition.play (repairHost {}).step { world := repairStart } killedRepair).map
        (fun config => config.world.2.pending) = some false ∧
      Transition.Always (repairHost {}).step
        (fun config => config.world.2.plainStart = false)
        { world := repairStart } killedRepair :=
  ⟨by decide +kernel, repair_starts_from_snapshot {} _ _ (by decide +kernel)⟩

/-- An exit in time keeps the repair from starting skaled, and the update of the
config that follows starts it on the empty volume. -/
theorem repair_can_start_plain :
    ¬ ∀ (settings : SkaledSettings) (world : SkaledWorld)
      (labels : List (Label monitorInterface SkaledMove Unit)),
      Transition.Always (repairHost settings).step
        (fun config => config.world.2.plainStart = false)
        { world := (world, {}) } labels := by
  intro claim
  let labels := repairBegun true ++
    List.replicate 5 (.call (repairAnswer true false)) ++
    List.replicate 22 (.call (repairAnswer true true)) ++
    .start () :: List.replicate 48 (.call (repairAnswer true true))
  have played : (Transition.play (repairHost {}).step { world := repairStart } labels).map
      (fun config => config.world.2.plainStart) = some true := by
    decide +kernel
  obtain ⟨config, reached, plain⟩ := Option.map_eq_some_iff.mp played
  have never := (claim {} _ labels).at_play reached
  rw [plain] at never
  cases never

end SkaleAdmin.Monitor
