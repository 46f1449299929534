import SkaleAdmin.Monitor.RpcResets

/-! Restarts of skaled whose RPC endpoint does not answer: how many there are,
and how many failed passes come before one. -/

namespace SkaleAdmin.Monitor

open Interaction PyText Json Config
open Interaction.Procedure (Calls calls_pure calls_bind calls_invoke)
open Interaction.Ledger (yields_pure yields_raise yields_bind yields_swallowed)

/-! ### The actions -/

/-- Puts the count of the failures to zero or leaves it alone. -/
def Neutral (setter : Web.Setter) : Prop :=
  setter = Web.setFailedRpcCount 0 ∨ setter.column ≠ .failedRpcCount

section Actions

variable {settings : SkaledSettings} {fresh : Bool}

theorem setOn_neutral {record : Web.SChainRecord} {setter : Web.Setter}
    (neutral : Neutral setter) :
    (rpcLedger settings).Yields (fun seen => Held record seen ∧ At settings fresh seen)
      (setOn record setter) fun copy seen => Held copy seen ∧ At settings fresh seen := by
  apply setOn_yields
  rintro seen kept held holds copy seen'
  have failures : copy .failedRpcCount = seen.failedRpcCount ∨
      copy .failedRpcCount = 0 := by
    rw [← held]
    rcases neutral with rfl | apart
    · exact .inr Web.SChainRecord.set_self
    · exact .inl (Web.SChainRecord.set_of_ne apart.symm)
  refine ⟨rpcAccounted_saved kept (failures.imp_right .inl), ?_⟩
  intro uncounted
  exact uncounted_saved (holds uncounted) failures

theorem setRecord_yields {setter : Web.Setter} (neutral : Neutral setter) :
    (rpcLedger settings).Yields (At settings fresh) (setRecord setter)
      fun _ => At settings fresh := by
  refine yields_bind _ loadRecord_yields fun record => ?_
  refine yields_bind _ (setOn_neutral neutral) fun copy => ?_
  exact yields_pure fun _ holds => holds.2

theorem updLastSeen_yields :
    (rpcLedger settings).Yields (At settings fresh) updLastSeen fun _ => At settings fresh := by
  refine yields_bind _ loadRecord_yields fun record => ?_
  refine yields_bind _ (yields_auxiliary (auxiliary_invoke rfl)) fun now => ?_
  refine yields_bind _ (setOn_neutral (.inr (by rintro ⟨⟩)))
    fun copy => ?_
  exact yields_pure fun _ holds => holds.2

theorem updateSslChangeDate_yields (record : Web.SChainRecord) :
    (rpcLedger settings).Yields (fun seen => Held record seen ∧ At settings fresh seen)
      (updateSslChangeDate record)
      fun copy seen => Held copy seen ∧ At settings fresh seen := by
  refine yields_bind _ (yields_auxiliary (auxiliary_invoke rfl)) fun date => ?_
  cases date with
  | none => exact yields_pure fun _ holds => holds
  | some date =>
      exact setOn_neutral (.inr (by rintro ⟨⟩))

theorem resetFailedCounters_yields (record : Web.SChainRecord) :
    (rpcLedger settings).Yields (fun seen => Held record seen ∧ At settings fresh seen)
      (resetFailedCounters record) fun _ => At settings fresh := by
  refine yields_bind _ (setOn_neutral (.inr (by rintro ⟨⟩))) fun record => ?_
  refine yields_bind _ (setOn_neutral (.inl rfl)) fun _ => ?_
  exact yields_pure fun _ holds => holds.2

theorem startSchainContainer_yields (record : Web.SChainRecord)
    (options : ContainerOptions) :
    (rpcLedger settings).Yields (fun seen => Held record seen ∧ At settings fresh seen)
      (startSchainContainer record options) fun _ => At settings fresh := by
  refine yields_bind _ (runSchainContainer_yields _ _ _) fun _ => ?_
  refine yields_bind _ (updateSslChangeDate_yields record) fun record => ?_
  exact resetFailedCounters_yields record

theorem restartFailedContainer_yields (record : Web.SChainRecord) :
    (rpcLedger settings).Yields (fun seen => Held record seen ∧ At settings fresh seen)
      (restartFailedContainer settings record) fun _ => At settings fresh := by
  unfold restartFailedContainer
  split
  · refine yields_bind _ restartContainer_yields fun _ => ?_
    refine yields_bind _ (updateSslChangeDate_yields record) fun record => ?_
    refine yields_bind _ (setOn_neutral (.inr (by rintro ⟨⟩))) fun record => ?_
    refine yields_bind _ (setOn_neutral (.inl rfl)) fun _ => ?_
    exact yields_pure fun _ holds => holds.2
  · exact yields_pure fun _ holds => holds.2

theorem watchSchainContainer_yields (record : Web.SChainRecord) :
    (rpcLedger settings).Yields (fun seen => Held record seen ∧ At settings fresh seen)
      (watchSchainContainer settings record) fun _ => At settings fresh := by
  refine yields_bind _ (yields_auxiliary auxiliary_needsRepair) fun repair => ?_
  cases repair with
  | true => exact resetFailedCounters_yields record
  | false =>
      refine yields_bind _ (yields_auxiliary auxiliary_isSchainContainerFailed)
        fun failed => ?_
      cases failed with
      | true => exact restartFailedContainer_yields record
      | false =>
          refine yields_bind _ (setOn_neutral (.inr (by rintro ⟨⟩))) fun _ => ?_
          exact yields_pure fun _ holds => holds.2

theorem monitorSchainContainer_yields (record : Web.SChainRecord)
    (options : ContainerOptions) :
    (rpcLedger settings).Yields (fun seen => Held record seen ∧ At settings fresh seen)
      (monitorSchainContainer settings record options) fun _ => At settings fresh := by
  refine yields_bind _ (yields_auxiliary (auxiliary_invoke rfl)) fun volumeExists => ?_
  cases volumeExists with
  | false => exact yields_pure fun _ holds => holds.2
  | true =>
      refine yields_bind _ (yields_auxiliary (auxiliary_skaledFlag _))
        fun reached => ?_
      cases aborts : reached && options.abortOnExit with
      | true => exact resetFailedCounters_yields record
      | false =>
          refine yields_bind _ (yields_auxiliary (auxiliary_invoke rfl))
            fun found => ?_
          cases found with
          | true => exact watchSchainContainer_yields record
          | false => exact startSchainContainer_yields record options

/-! ### `handle_failed_schain_rpc` -/

theorem setOn_failing {record : Web.SChainRecord} (failures : Int)
    (next : failures = 0 ∨ failures = record .failedRpcCount + 1) :
    (rpcLedger settings).Yields (fun seen => Held record seen ∧ Failing settings seen)
      (setOn record (Web.setFailedRpcCount failures)) fun _ _ => True := by
  have saves : (rpcLedger settings).Yields
      (fun seen => Held record seen ∧ Failing settings seen)
      (setOn record (Web.setFailedRpcCount failures))
      fun copy seen => Held copy seen ∧ True := by
    apply setOn_yields
    rintro seen kept held failing copy seen'
    have given : copy .failedRpcCount = failures := Web.SChainRecord.set_self
    refine ⟨rpcAccounted_saved kept (.inr ?_), trivial⟩
    rcases next with rfl | rfl
    · exact .inl given
    · exact .inr ⟨by rw [given, held], failing⟩
  exact saves.weaken fun _ _ _ => trivial

theorem handleStuckRpc_yields (record : Web.SChainRecord)
    (stuck : settings.maxSchainFailedRpcCount < record .failedRpcCount) :
    (rpcLedger settings).Yields (fun seen => Held record seen ∧ Failing settings seen)
      (handleStuckRpc settings record) fun _ _ => True := by
  have restarts : (rpcLedger settings).Yields
      (fun seen => Held record seen ∧ Failing settings seen)
      (restartStuckContainer settings record)
      fun record seen => Held record seen ∧ At settings false seen := by
    unfold restartStuckContainer
    split
    · refine yields_bind _ (restartStuck_yields stuck) fun _ => ?_
      refine (setOn_neutral (.inr (by rintro ⟨⟩))).strengthen ?_
      intro seen held
      exact ⟨held, by rintro ⟨⟩⟩
    · refine yields_pure fun seen holds => ⟨holds.1, ?_⟩
      rintro ⟨⟩
  refine yields_bind _ restarts fun record => ?_
  refine yields_bind _ (setOn_neutral (.inl rfl)) fun _ => ?_
  exact yields_pure fun _ _ => trivial

theorem handleFailedRpc_yields (record : Web.SChainRecord) :
    (rpcLedger settings).Yields (fun seen => Held record seen ∧ Failing settings seen)
      (handleFailedRpc settings record) fun _ _ => True := by
  have forgets : (rpcLedger settings).Yields
      (fun seen => Held record seen ∧ Failing settings seen)
      (do let _ ← setOn record (Web.setFailedRpcCount 0)) fun _ _ => True :=
    yields_bind _ (setOn_failing 0 (.inl rfl)) fun _ => yields_pure fun _ _ => trivial
  refine yields_bind _ (yields_auxiliary (auxiliary_skaledFlag _)) fun reached => ?_
  cases reached with
  | true => exact forgets
  | false =>
      refine yields_bind _ (yields_auxiliary (auxiliary_skaledFlag _))
        fun downloading => ?_
      cases downloading with
      | true => exact forgets
      | false =>
          simp only [Bool.false_eq_true, if_false]
          split
          · rename_i stuck
            exact handleStuckRpc_yields record stuck
          · exact yields_bind _ (setOn_failing _ (.inr rfl)) fun _ =>
              yields_pure fun _ _ => trivial

theorem handleFailedSchainRpc_yields (record : Web.SChainRecord) :
    (rpcLedger settings).Yields (fun seen => Held record seen ∧ Failing settings seen)
      (handleFailedSchainRpc settings record) fun _ _ => True := by
  refine yields_bind _ (yields_auxiliary (auxiliary_invoke rfl)) fun found => ?_
  cases found with
  | false => exact yields_pure fun _ _ => trivial
  | true =>
      refine yields_bind _ (yields_auxiliary (auxiliary_invoke rfl)) fun running => ?_
      cases running with
      | false => exact yields_pure fun _ _ => trivial
      | true => exact handleFailedRpc_yields record

namespace SkaledActionManager

variable (am : SkaledActionManager)

theorem rpcCheck_yields :
    (rpcLedger settings).Yields (At settings true) am.rpcCheck
      fun passed seen => At settings true seen ∧ (passed = false → Failing settings seen) := by
  let timeout := getEndpointAliveCheckTimeout (am.checksRecord .failedRpcCount)
  have observes : (rpcLedger settings).Yields (Uncounted settings)
      (invoke (.observeEndpoint timeout)) fun observed seen => Uncounted settings seen ∧
        (SkaledChecks.rpc observed.1 observed.2 = .ok false → Failing settings seen) :=
    observeEndpoint_yields timeout
  refine yields_bind _ (observes.strengthen fun _ holds => holds rfl) ?_
  rintro ⟨files, answers⟩
  dsimp only
  generalize SkaledChecks.rpc files answers = evaluated
  cases evaluated with
  | error error => exact yields_raise
  | ok passed =>
      refine yields_pure fun seen holds => ⟨fun _ => holds.1, ?_⟩
      rintro rfl
      exact holds.2 rfl

theorem skaledRpc_yields :
    (rpcLedger am.settings).Yields (At am.settings true) am.skaledRpc fun _ _ => True := by
  refine yields_bind _ am.rpcCheck_yields fun passed => ?_
  cases passed with
  | true =>
      have resets : (rpcLedger am.settings).Yields (At am.settings true)
          (setRecord (Web.setFailedRpcCount 0)) fun _ => At am.settings true :=
        setRecord_yields (.inl rfl)
      exact (resets.strengthen fun _ holds => holds.1).weaken fun _ _ _ => trivial
  | false =>
      refine yields_bind _ (yields_auxiliary auxiliary_displaySkaledLogs) fun _ => ?_
      refine yields_bind _ loadRecord_yields fun record => ?_
      refine (handleFailedSchainRpc_yields record).strengthen ?_
      rintro seen ⟨held, -, failing⟩
      exact ⟨held, failing rfl⟩

theorem skaledContainer_yields (downloadSnapshot : Bool) (startTs : Option Int)
    (abortOnExit : Bool) :
    (rpcLedger am.settings).Yields (At am.settings fresh)
      (am.skaledContainer downloadSnapshot startTs abortOnExit) fun _ => At am.settings fresh := by
  refine yields_bind _ (yields_auxiliary am.auxiliary_snapshotFrom) fun _ => ?_
  refine yields_bind _ loadRecord_yields fun record => ?_
  exact monitorSchainContainer_yields record _

theorem quiet_removeIfExists (type : ContainerType) :
    (removeIfExists type).Calls fun query : MonitorQuery => query.isUncounted = true := by
  refine calls_bind (calls_invoke rfl) fun found => ?_
  cases found with
  | true => exact calls_bind (calls_invoke rfl) fun _ => calls_pure _
  | false => exact calls_pure _

theorem resetCounters_yields :
    (rpcLedger settings).Yields (At settings fresh) resetCounters fun _ => At settings fresh := by
  refine yields_bind _ (setRecord_yields (.inr (by rintro ⟨⟩))) fun _ => ?_
  refine yields_bind _ (setRecord_yields (.inl rfl)) fun _ => ?_
  exact setRecord_yields (.inr (by rintro ⟨⟩))

theorem ifNot_yields {action : MonitorM Unit} {assertion : Seen → Prop}
    (yields : (rpcLedger settings).Yields assertion action fun _ => assertion)
    (status : Bool) :
    (rpcLedger settings).Yields assertion (ifNot status action)
      fun _ => assertion := by
  cases status with
  | true => exact yields_pure fun _ holds => holds
  | false => exact yields

theorem updSchainRecord_yields :
    (rpcLedger settings).Yields (At settings fresh) updSchainRecord fun _ => At settings fresh := by
  refine yields_bind _ (yields_auxiliary (auxiliary_invoke rfl)) fun record => ?_
  refine yields_bind _ (ifNot_yields ?_ _) fun _ => ?_
  · exact yields_bind _ (setRecord_yields (.inr (by rintro ⟨⟩))) fun _ =>
      setRecord_yields (.inl rfl)
  · exact yields_bind _ (setRecord_yields (.inr (by rintro ⟨⟩))) fun _ =>
      setRecord_yields (.inr (by rintro ⟨⟩))

theorem containerOrReset_yields {start : MonitorM Unit}
    (yields : (rpcLedger settings).Yields (At settings fresh) start fun _ => At settings fresh) :
    (rpcLedger settings).Yields (At settings fresh) (containerOrReset start)
      fun _ => At settings fresh := by
  refine yields_bind _ (yields_auxiliary (auxiliary_invoke rfl)) fun running => ?_
  cases running with
  | true => exact setRecord_yields (.inr (by rintro ⟨⟩))
  | false => exact yields

/-! ### The monitors -/

theorem yields_ensured {status : MonitorM Bool} {action rest : MonitorM Unit}
    {before : Seen → Prop} {after : Unit → Seen → Prop}
    (checks : Auxiliary status) (acts : Auxiliary action)
    (goesOn : (rpcLedger settings).Yields before rest after) :
    (rpcLedger settings).Yields before
      (status >>= fun passed => ifNot passed action >>= fun _ => rest) after := by
  refine yields_bind _ (yields_auxiliary checks) fun passed => ?_
  refine yields_bind _ (yields_auxiliary (auxiliary_ifNot acts passed)) fun _ => ?_
  exact goesOn

theorem watchSkaled_yields (upstreamRules : Bool) :
    (rpcLedger am.settings).Yields (At am.settings true) (am.watchSkaled upstreamRules)
      fun _ _ => True := by
  refine yields_ensured auxiliary_firewallRulesCheck (auxiliary_firewallRules _) ?_
  refine yields_ensured (auxiliary_invoke rfl) auxiliary_volume ?_
  refine yields_bind _ (containerOrReset_yields
    (am.skaledContainer_yields _ _ _)) fun _ => ?_
  refine yields_bind _ am.rpcCheck_yields fun passed => ?_
  cases passed with
  | true => exact yields_pure fun _ _ => trivial
  | false => exact am.skaledRpc_yields.strengthen fun _ holds => holds.1

theorem repairSkaledMonitor_yields :
    (rpcLedger am.settings).Yields (At am.settings true) am.repairSkaledMonitor
      fun _ _ => True := by
  have cleans : cleanupSchainDockerEntity.Calls
      fun query : MonitorQuery => query.isUncounted = true :=
    calls_bind (calls_invoke rfl) fun _ => calls_invoke rfl
  refine yields_bind _ (yields_auxiliary (auxiliary_invoke rfl)) fun _ => ?_
  refine yields_bind _ (yields_auxiliary (auxiliary_invoke rfl)) fun _ => ?_
  refine yields_bind _ (yields_quiet cleans) fun _ => ?_
  refine yields_ensured auxiliary_firewallRulesCheck (auxiliary_firewallRules _) ?_
  refine yields_ensured (auxiliary_invoke rfl) auxiliary_volume ?_
  refine yields_bind _ (yields_auxiliary (auxiliary_invoke rfl)) fun running => ?_
  cases running with
  | true => exact yields_raise
  | false =>
      refine yields_bind _ (am.skaledContainer_yields _ _ _) fun _ => ?_
      refine yields_bind _ (yields_auxiliary (auxiliary_invoke rfl)) fun now => ?_
      have dated : (rpcLedger am.settings).Yields (At am.settings true)
          (updateRepairTs now) fun _ => At am.settings true :=
        setRecord_yields (.inr (by rintro ⟨⟩))
      exact dated.weaken fun _ _ _ => trivial

theorem backupSkaledMonitor_yields :
    (rpcLedger am.settings).Yields (At am.settings true) am.backupSkaledMonitor
      fun _ _ => True := by
  refine yields_ensured (auxiliary_invoke rfl) auxiliary_volume ?_
  refine yields_ensured auxiliary_firewallRulesCheck (auxiliary_firewallRules _) ?_
  refine yields_bind _ (containerOrReset_yields
    (am.skaledContainer_yields _ _ _)) fun _ => ?_
  refine yields_ensured am.auxiliary_imaContainerCheck am.auxiliary_imaContainer ?_
  have disabled : (rpcLedger am.settings).Yields (At am.settings true) disableBackupRun
      fun _ => At am.settings true :=
    setRecord_yields (.inr (by rintro ⟨⟩))
  exact disabled.weaken fun _ _ _ => trivial

theorem recreateSkaledMonitor_yields :
    (rpcLedger am.settings).Yields (At am.settings true) am.recreateSkaledMonitor
      fun _ _ => True := by
  refine yields_ensured (auxiliary_invoke rfl) auxiliary_volume ?_
  refine yields_bind _ (yields_quiet (quiet_removeIfExists _)) fun _ => ?_
  refine yields_bind _ resetCounters_yields fun _ => ?_
  exact (am.skaledContainer_yields _ _ _).weaken fun _ _ _ => trivial

theorem updateConfigSkaledMonitor_yields :
    (rpcLedger am.settings).Yields (At am.settings true) am.updateConfigSkaledMonitor
      fun _ _ => True := by
  refine yields_ensured (auxiliary_check _) auxiliary_updateConfig ?_
  refine yields_ensured auxiliary_firewallRulesCheck (auxiliary_firewallRules _) ?_
  refine yields_ensured (auxiliary_invoke rfl) auxiliary_volume ?_
  refine yields_bind _ (yields_auxiliary auxiliary_resetExitSchedule) fun _ => ?_
  refine yields_bind _ (yields_quiet (quiet_removeIfExists _)) fun _ => ?_
  refine yields_bind _ (yields_quiet (quiet_removeIfExists _)) fun _ => ?_
  refine yields_bind _ resetCounters_yields fun _ => ?_
  refine yields_bind _ (am.skaledContainer_yields _ _ _) fun _ => ?_
  exact (yields_auxiliary am.auxiliary_imaContainer).weaken fun _ _ _ => trivial

theorem watched_yields {upstreamRules : Bool} {rest : MonitorM Unit}
    (quiet : rest.Calls fun query : MonitorQuery => query.isUncounted = true) :
    (rpcLedger am.settings).Yields (At am.settings true)
      (am.watchSkaled upstreamRules >>= fun _ => rest) fun _ _ => True :=
  yields_bind _ (am.watchSkaled_yields upstreamRules) fun _ => yields_quiet quiet

theorem newNodeSkaledMonitor_yields :
    (rpcLedger am.settings).Yields (At am.settings true) am.newNodeSkaledMonitor
      fun _ _ => True := by
  refine yields_ensured (auxiliary_invoke rfl) auxiliary_volume ?_
  refine yields_ensured auxiliary_firewallRulesCheck (auxiliary_firewallRules _) ?_
  refine yields_bind _ (containerOrReset_yields
    (yields_bind _ (yields_auxiliary auxiliary_finishTs) fun _ =>
      am.skaledContainer_yields _ _ _)) fun _ => ?_
  refine yields_bind _ (yields_auxiliary am.auxiliary_imaContainerCheck) fun _ => ?_
  exact (yields_auxiliary (auxiliary_ifNot am.auxiliary_imaContainer _)).weaken
    fun _ _ _ => trivial

theorem execute_yields (monitor : SkaledMonitor) :
    (rpcLedger am.settings).Yields (At am.settings true) (am.execute monitor)
      fun _ _ => True := by
  have scheduled : ∀ {exitTs : MonitorM (Option Int)}, Auxiliary exitTs →
      (do
        ifNot (← am.imaContainerCheck) am.imaContainer
        scheduleSkaledExit (← exitTs)).Calls
        fun query : MonitorQuery => query.isUncounted = true := by
    intro exitTs auxiliary
    refine calls_bind (am.auxiliary_imaContainerCheck.mono uncounted_of_auxiliary)
      fun _ => ?_
    refine calls_bind ((auxiliary_ifNot am.auxiliary_imaContainer _).mono
      uncounted_of_auxiliary) fun _ => ?_
    exact calls_bind (auxiliary.mono uncounted_of_auxiliary) fun _ =>
      calls_scheduleSkaledExit uncounted_of_auxiliary fun _ _ => rfl
  cases monitor with
  | regular =>
      refine am.watched_yields ?_
      exact calls_bind (am.auxiliary_imaContainerCheck.mono uncounted_of_auxiliary)
        fun _ => (auxiliary_ifNot am.auxiliary_imaContainer _).mono uncounted_of_auxiliary
  | reloadGroup => exact am.watched_yields (scheduled auxiliary_upstreamFinishTs)
  | reloadIp => exact am.watched_yields (scheduled auxiliary_reloadTs)
  | noConfig =>
      have auxiliary : Auxiliary noConfigSkaledMonitor :=
        calls_bind (auxiliary_check _) fun _ =>
          auxiliary_ifNot auxiliary_updateConfig _
      exact (yields_auxiliary auxiliary).weaken fun _ _ _ => trivial
  | repair => exact am.repairSkaledMonitor_yields
  | backup => exact am.backupSkaledMonitor_yields
  | recreate => exact am.recreateSkaledMonitor_yields
  | updateConfig => exact am.updateConfigSkaledMonitor_yields
  | newNode => exact am.newNodeSkaledMonitor_yields

theorem getAllChecks_yields :
    (rpcLedger am.settings).Yields (At am.settings true) am.getAllChecks
      fun _ => At am.settings true := by
  refine yields_bind _ (yields_auxiliary auxiliary_blocksCheck) fun _ => ?_
  refine yields_bind _ (yields_auxiliary (auxiliary_check _)) fun _ => ?_
  refine yields_bind _ (yields_auxiliary (auxiliary_check _)) fun _ => ?_
  refine yields_bind _ (yields_auxiliary (auxiliary_invoke rfl)) fun _ => ?_
  refine yields_bind _ (yields_auxiliary (auxiliary_invoke rfl)) fun _ => ?_
  refine yields_bind _ (yields_auxiliary (auxiliary_ifNot
    (calls_bind (auxiliary_invoke rfl) fun _ => calls_pure _) _)) fun _ => ?_
  refine yields_bind _ (yields_auxiliary auxiliary_firewallRulesCheck) fun _ => ?_
  refine yields_bind _ (yields_auxiliary am.auxiliary_imaContainerCheck) fun _ => ?_
  refine yields_bind _ (yields_auxiliary (auxiliary_invoke rfl)) fun _ => ?_
  refine yields_bind _ (yields_auxiliary (auxiliary_check _)) fun _ => ?_
  refine yields_bind _ (am.rpcCheck_yields.weaken fun _ _ holds => holds.1)
    fun _ => ?_
  refine yields_bind _ (yields_auxiliary (auxiliary_invoke rfl)) fun _ => ?_
  refine yields_bind _ (yields_auxiliary (auxiliary_check _)) fun _ => ?_
  exact yields_bind _ (yields_auxiliary (auxiliary_invoke rfl)) fun _ =>
    yields_pure fun _ holds => holds

end SkaledActionManager

theorem runSkaledMonitor_rpc (am : SkaledActionManager) (monitor : SkaledMonitor) :
    (rpcLedger am.settings).Yields (At am.settings true)
      (runSkaledMonitor (am.execute monitor)) fun _ _ => True := by
  have uncounted : ∀ seen, True → At am.settings false seen := by
    rintro seen _ ⟨⟩
  apply yields_swallowed
  refine yields_bind _ updLastSeen_yields fun _ => ?_
  refine yields_bind _ (am.execute_yields monitor) fun _ => ?_
  refine yields_bind _ (SkaledActionManager.updSchainRecord_yields.strengthen
    uncounted) fun _ => ?_
  exact updLastSeen_yields.weaken fun _ _ _ => trivial

theorem runSkaledPipeline_rpc :
    (rpcLedger settings).Yields (Uncounted settings) (runSkaledPipeline settings)
      fun _ _ => True := by
  have fresh : (rpcLedger settings).Yields (At settings true) (runSkaledPipeline settings)
      fun _ _ => True := by
    refine yields_bind _ (yields_auxiliary (auxiliary_invoke rfl)) fun _ => ?_
    refine yields_bind _ (yields_auxiliary (auxiliary_invoke rfl)) fun record => ?_
    refine yields_bind _ (yields_auxiliary (auxiliary_invoke rfl)) fun skaledStatus => ?_
    refine yields_bind _ (yields_auxiliary (auxiliary_invoke rfl)) fun ncliStatus => ?_
    let am : SkaledActionManager := {
      settings, checksRecord := record, hasNodeCliStatus := ncliStatus.isFound }
    refine yields_bind _ am.getAllChecks_yields fun checkStatus => ?_
    refine yields_bind _ (yields_auxiliary (auxiliary_invoke rfl)) fun _ => ?_
    refine yields_bind _ (yields_auxiliary (auxiliary_invoke rfl)) fun _ => ?_
    refine yields_bind _ (yields_auxiliary (auxiliary_getSkaledMonitor _ _))
      fun monitor => ?_
    refine yields_bind _ (yields_quiet (calls_invoke rfl)) fun _ => ?_
    exact runSkaledMonitor_rpc am monitor
  exact fresh.strengthen fun _ holds _ => holds

end Actions

/-! ### Runs -/

section Runs

variable {settings : SkaledSettings}

theorem rpcAccounted_start (world : SkaledWorld) :
    RpcAccounted settings (seenIn (world, RpcNotes.start world.row)) := by
  refine ⟨?_, ?_, fun _ => rfl⟩
  · intro _
    simp [Seen.spent, seenIn, Seen.of, RpcNotes.start]
  · intro _ _
    have least := Int.self_le_toNat (world.row .failedRpcCount)
    simp only [seenIn, Seen.of, RpcNotes.start]
    omega

theorem step_accounted_rpc {config config' : Configuration monitorInterface RpcWorld
    (Outcome MonitorError Unit × Unit)} {label : Label monitorInterface SkaledMove Unit}
    (proved : (rpcHost settings).Proved {}
      (fun world => RpcAccounted settings (seenIn world)) config)
    (taken : (rpcHost settings).step config label = some config') :
    (rpcHost settings).Proved {} (fun world => RpcAccounted settings (seenIn world))
      config' := by
  refine Host.step_proved ?_ ?_ ?_ proved (Host.meets_default config label) taken
  · intro world world' move kept _ moved
    have same := (rpcLedger settings).unmoved world move world' moved
    change RpcAccounted settings (seenIn world')
    rw [show seenIn world' = seenIn world from same]
    exact kept
  · intro world kept
    exact kept
  · intro world job kept _
    have uncounted : Uncounted settings (seenIn world).begun := uncounted_begun
    exact ⟨rpcAccounted_begun kept, _, _, uncounted, runSkaledPipeline_rpc⟩

/-- A flag that no call the discipline allows sets stays down. -/
theorem step_unflagged (discipline : Host.Discipline monitorInterface RpcWorld
      SkaledMove Unit) (flag : RpcNotes → Bool)
    (called : ∀ ⦃query proposed answer⦄ ⦃world world' : RpcWorld⦄,
      flag world.2 = false → discipline.call query proposed world →
      (rpcHost settings).serve query proposed world = some (answer, world') →
      flag world'.2 = false)
    {config config' : Configuration monitorInterface RpcWorld
      (Outcome MonitorError Unit × Unit)} {label : Label monitorInterface SkaledMove Unit}
    (down : flag config.world.2 = false)
    (begun : config.running = none → flag (seenIn config.world).begun.notes = false)
    (meets : discipline.Meets config label)
    (taken : (rpcHost settings).step config label = some config') :
    flag config'.world.2 = false := by
  rcases Host.step_cases taken with ⟨move, rfl, moved⟩ | ⟨job, rfl, started⟩ |
    ⟨query, next, proposed, answer, world', rfl, running, served, ended⟩ |
    ⟨rfl, ended⟩
  · rw [(Host.watch_move.mp moved).2]
    exact down
  · have same : config'.world.2 = (seenIn config.world).begun.notes := by
      rcases started with same | same
      · rw [same]
        rfl
      · rw [same]
        rfl
    rw [same]
    exact begun (Host.idle_of_start taken)
  · have same : config'.world.2 = world'.2 := by
      rcases ended with same | same
      · rw [same]
      · rw [same]
        rfl
    rw [same]
    obtain ⟨world, program⟩ := config
    cases running
    exact called down meets served
  · rw [ended]
    exact down

/-- So many failed passes take one restart more than allowed. -/
def SkaledSettings.passesToExceed (settings : SkaledSettings) : Nat :=
  (settings.maxSchainRestartCount.toNat + 1) * settings.passesToRestart

/-- Fewer passes fail than one restart too many takes, and no call raises between a
restart and the save that puts the failures back. -/
def servedFewFailures (settings : SkaledSettings) : (query : MonitorQuery) →
    Except MonitorError query.Reply → RpcWorld → Bool
  | .observeEndpoint _, .ok (files, answers), world =>
      match SkaledChecks.rpc files answers with
      | .ok false =>
          world.2.noted || world.2.failedPasses + 1 < settings.passesToExceed
      | _ => true
  | _, .error _, world => !world.2.unreset
  | _, _, _ => true

/-- The process is not killed there either. -/
abbrev fewFailuresDiscipline (settings : SkaledSettings) :
    Host.Discipline monitorInterface RpcWorld SkaledMove Unit :=
  .ofTests (servedFewFailures settings) (fun _ _ => true) fun world => !world.2.unreset

/-- The RPC check fails only after the row has forgotten the failures from before
its last success or the last start. -/
def servedForgotten : (query : MonitorQuery) → Except MonitorError query.Reply →
    RpcWorld → Bool
  | .observeEndpoint _, .ok (files, answers), world =>
      match SkaledChecks.rpc files answers with
      | .ok false => !world.2.due
      | _ => true
  | _, _, _ => true

abbrev forgottenDiscipline : Host.Discipline monitorInterface RpcWorld SkaledMove
    Unit :=
  .ofTest servedForgotten

theorem keeps_of_fewFailures {config : Configuration monitorInterface RpcWorld
    (Outcome MonitorError Unit × Unit)} {label : Label monitorInterface SkaledMove Unit}
    (few : (fewFailuresDiscipline settings).Meets config label) :
    (rpcDebt settings).discipline.Meets config label := by
  have closed : ∀ world : RpcWorld, (!world.2.unreset) = true →
      (rpcDebt settings).isOpen world = false := by
    intro world told
    exact (Bool.not_eq_true' _).mp told
  refine Host.meets_mono (fun _ _ _ => trivial) (fun _ _ _ => trivial) ?_ closed few
  rintro query answer world told ⟨error, rfl⟩
  apply closed
  cases query <;> exact told

theorem punctual_of_serve ⦃query : MonitorQuery⦄
    ⦃proposed answer : Except MonitorError query.Reply⦄ ⦃world world' : RpcWorld⦄
    (punctual : world.2.lapsed = false)
    (_ : (fewFailuresDiscipline settings).call query proposed world)
    (served : (rpcHost settings).serve query proposed world = some (answer, world')) :
    world'.2.lapsed = false := by
  rw [(Host.watch_serve.mp served).2]
  unfold rpcWatch
  dsimp only
  split
  · split <;> exact punctual
  all_goals exact punctual

theorem few_of_serve ⦃query : MonitorQuery⦄
    ⦃proposed answer : Except MonitorError query.Reply⦄ ⦃world world' : RpcWorld⦄
    (few : decide (settings.passesToExceed ≤ world.2.failedPasses) = false)
    (told : (fewFailuresDiscipline settings).call query proposed world)
    (served : (rpcHost settings).serve query proposed world = some (answer, world')) :
    decide (settings.passesToExceed ≤ world'.2.failedPasses) = false := by
  obtain ⟨plain, noted⟩ := Host.watch_serve.mp served
  have fewer := Nat.not_le.mp (of_decide_eq_false few)
  refine decide_eq_false (Nat.not_le.mpr ?_)
  rw [noted]
  unfold rpcWatch
  dsimp only
  split
  · split
    · exact fewer
    · rename_i timeout files answers failed
      cases proposed with
      | error error => cases plain
      | ok given =>
          obtain ⟨same, _⟩ := Prod.mk.inj (Option.some.inj plain)
          obtain rfl := Except.ok.inj same
          have first : world.2.noted = true ∨
              world.2.failedPasses + 1 < settings.passesToExceed := by
            simpa [Host.Discipline.ofTests, servedFewFailures, failed] using told
          change (if world.2.noted then _ else _) < _
          split
          · exact fewer
          · rename_i unnoted
            exact first.resolve_left unnoted
    · exact fewer
  all_goals exact fewer

theorem unstale_of_serve ⦃query : MonitorQuery⦄
    ⦃proposed answer : Except MonitorError query.Reply⦄ ⦃world world' : RpcWorld⦄
    (unstale : world.2.stale = false)
    (forgotten : servedForgotten query proposed world = true)
    (served : (rpcHost settings).serve query proposed world = some (answer, world')) :
    world'.2.stale = false := by
  obtain ⟨plain, noted⟩ := Host.watch_serve.mp served
  rw [noted]
  unfold rpcWatch
  dsimp only
  split
  · split
    · exact unstale
    · rename_i timeout files answers failed
      cases proposed with
      | error error => cases plain
      | ok given =>
          obtain ⟨same, _⟩ := Prod.mk.inj (Option.some.inj plain)
          obtain rfl := Except.ok.inj same
          have told : world.2.due = false := by
            simpa [servedForgotten, failed] using forgotten
          simp only [Seen.failed, Seen.of, unstale, told, Bool.or_self]
    · exact unstale
  all_goals exact unstale

/-- What holds of the restarts throughout such a run. -/
structure Punctual (settings : SkaledSettings) (config : Configuration monitorInterface
    RpcWorld (Outcome MonitorError Unit × Unit)) : Prop where
  accounted : (rpcHost settings).Proved {}
    (fun world => RpcAccounted settings (seenIn world)) config
  kept : (rpcDebt settings).Kept config
  punctual : config.world.2.lapsed = false
  few : decide (settings.passesToExceed ≤ config.world.2.failedPasses) = false

theorem step_punctual {config config' : Configuration monitorInterface RpcWorld
    (Outcome MonitorError Unit × Unit)} {label : Label monitorInterface SkaledMove Unit}
    (before : Punctual settings config)
    (meets : (fewFailuresDiscipline settings).Meets config label)
    (taken : (rpcHost settings).step config label = some config') :
    Punctual settings config' := by
  constructor
  · exact step_accounted_rpc before.accounted taken
  · refine Debt.step_kept (fun _ => ?_) before.kept (keeps_of_fewFailures meets) taken
    exact runSkaledPipeline_honest settings ()
  · refine step_unflagged _ RpcNotes.lapsed punctual_of_serve before.punctual ?_ meets taken
    intro idle
    exact Bool.or_eq_false_iff.mpr ⟨before.punctual, before.kept.closed idle⟩
  · exact step_unflagged _ (fun notes => decide (settings.passesToExceed ≤ notes.failedPasses))
      few_of_serve before.few (fun _ => before.few) meets taken

/-- Each restart has taken its failed passes. -/
theorem Punctual.bounded {config : Configuration monitorInterface RpcWorld
    (Outcome MonitorError Unit × Unit)} (punctual : Punctual settings config) :
    config.world.2.restarts ≤ settings.maxSchainRestartCount.toNat := by
  have spent := punctual.accounted.1.spent punctual.punctual
  have few := Nat.not_le.mp (of_decide_eq_false punctual.few)
  have taken : config.world.2.restarts * settings.passesToRestart <
      (settings.maxSchainRestartCount.toNat + 1) * settings.passesToRestart :=
    calc config.world.2.restarts * settings.passesToRestart
        ≤ (seenIn config.world).spent settings := Nat.le_add_right _ _
      _ ≤ config.world.2.failedPasses := spent
      _ < settings.passesToExceed := few
  exact Nat.le_of_lt_succ (Nat.lt_of_mul_lt_mul_right taken)

/-- `handle_failed_schain_rpc` restarts skaled at most as often as it may, as long
as its check fails in fewer passes than one restart more takes. -/
theorem rpc_restarts_bounded (settings : SkaledSettings) (world : SkaledWorld)
    (few : (world.row .failedRpcCount).toNat < settings.passesToExceed)
    (labels : List (Label monitorInterface SkaledMove Unit))
    (fewer : Transition.EachStep (rpcHost settings).step
      (fewFailuresDiscipline settings).Meets
      { world := (world, .start world.row) } labels) :
    Transition.Always (rpcHost settings).step
      (fun config =>
        config.world.2.restarts ≤ settings.maxSchainRestartCount.toNat)
      { world := (world, .start world.row) } labels := by
  refine Transition.always_of_eachStep step_punctual
    (fun (punctual : Punctual settings _) => punctual.bounded) ?_ fewer
  refine ⟨⟨rpcAccounted_start world, ?_⟩, ?_, rfl, ?_⟩
  · rintro program ⟨⟩
  · exact Debt.kept_of_closed rfl nofun
  · exact decide_eq_false (Nat.not_le.mpr few)

/-- Before `handle_failed_schain_rpc` restarts skaled the check has failed often
enough, as long as failures are forgotten when it succeeds or skaled is started. -/
theorem rpc_restart_needs_failures (settings : SkaledSettings) (world : SkaledWorld)
    (labels : List (Label monitorInterface SkaledMove Unit))
    (forgotten : Transition.EachStep (rpcHost settings).step
      forgottenDiscipline.Meets { world := (world, .start world.row) } labels) :
    Transition.Always (rpcHost settings).step
      (fun config => config.world.2.hasty = false)
      { world := (world, .start world.row) } labels := by
  have kept : ∀ {config config' : Configuration monitorInterface RpcWorld
      (Outcome MonitorError Unit × Unit)}
      {label : Label monitorInterface SkaledMove Unit},
      (rpcHost settings).Proved {} (fun world => RpcAccounted settings (seenIn world))
          config ∧ config.world.2.stale = false →
        forgottenDiscipline.Meets config label →
        (rpcHost settings).step config label = some config' →
        (rpcHost settings).Proved {} (fun world => RpcAccounted settings (seenIn world))
          config' ∧ config'.world.2.stale = false := by
    rintro config config' label ⟨proved, unstale⟩ meets taken
    exact ⟨step_accounted_rpc proved taken, step_unflagged forgottenDiscipline
      RpcNotes.stale unstale_of_serve unstale (fun _ => unstale) meets taken⟩
  refine Transition.always_of_eachStep kept ?_ ?_ forgotten
  · rintro config ⟨proved, unstale⟩
    exact proved.1.unhurried unstale
  · refine ⟨⟨rpcAccounted_start world, ?_⟩, rfl⟩
    rintro program ⟨⟩

end Runs

/-! ### Passes over a running container -/

def oldRow : Web.SChainRecord :=
  (newRow.set .firstRun false).set .newSchain false

def rpcPass (alive : Bool) (calls : Nat) :
    List (Label monitorInterface SkaledMove Unit) :=
  let answer : (query : MonitorQuery) → Except MonitorError query.Reply
    | .observeEndpoint _ => .ok (nodeFiles, fun _ => alive)
    | query => hostAnswer true query
  .start () :: List.replicate calls (.call answer)

def restartCycle : List (Label monitorInterface SkaledMove Unit) :=
  (List.replicate 6 (rpcPass false 54)).flatten ++ rpcPass false 56

def restartCycles : List (Label monitorInterface SkaledMove Unit) :=
  (List.replicate 5 restartCycle).flatten

theorem restartCycles_bounded :
    (Transition.play (rpcHost {}).step
      { world := ({ row := oldRow, container := true }, .start oldRow) }
      restartCycles).map (fun config => config.world.2.restarts) = some 5 ∧
    Transition.Always (rpcHost {}).step (fun config => config.world.2.restarts ≤ 5)
      { world := ({ row := oldRow, container := true }, .start oldRow) }
      restartCycles :=
  ⟨by decide +kernel, rpc_restarts_bounded {} _ (by decide) _ (by decide +kernel)⟩

def servedStuck : (query : MonitorQuery) → Except MonitorError query.Reply →
    RpcWorld → Bool
  | .isContainerRunning .schain, .ok running, _ => running
  | .observeEndpoint _, .ok (files, answers), _ =>
      match SkaledChecks.rpc files answers with
      | .ok passed => !passed
      | .error _ => true
  | .incrSkaledPipeline monitor, .ok _, _ =>
      !(monitor matches .repair | .recreate | .updateConfig)
  | _, _, _ => true

/-- The regular monitor puts the restart count back in each pass that finds the
container running. -/
theorem rpc_restarts_can_exceed :
    ¬ ∀ (settings : SkaledSettings) (world : SkaledWorld)
      (labels : List (Label monitorInterface SkaledMove Unit)),
      Transition.EachStep (rpcHost settings).step
        (Host.Discipline.ofTest servedStuck).Meets
        { world := (world, .start world.row) } labels →
      Transition.Always (rpcHost settings).step
        (fun config =>
          config.world.2.restarts ≤ settings.maxSchainRestartCount.toNat)
        { world := (world, .start world.row) } labels := by
  intro claim
  let world : SkaledWorld := { row := oldRow, container := true }
  let labels := (List.replicate 6 restartCycle).flatten
  have stuck : Transition.EachStep (rpcHost {}).step
      (Host.Discipline.ofTest servedStuck).Meets
      { world := (world, .start world.row) } labels := by decide +kernel
  have played : (Transition.play (rpcHost {}).step
      { world := (world, .start world.row) } labels).map
      (fun config => config.world.2.restarts) = some 6 := by decide +kernel
  obtain ⟨config, reached, restarts⟩ := Option.map_eq_some_iff.mp played
  have few := (claim {} world labels stuck).at_play reached
  rw [restarts] at few
  exact absurd few (by decide)

theorem restartCycle_needs_failures :
    Transition.Always (rpcHost {}).step (fun config => config.world.2.hasty = false)
      { world := ({ row := oldRow, container := true }, .start oldRow) }
      restartCycle :=
  rpc_restart_needs_failures {} _ _ (by decide +kernel)

/-- A check that succeeds outside `skaled_rpc` leaves the failures counted. -/
theorem rpc_restart_can_be_hasty :
    ¬ ∀ (settings : SkaledSettings) (world : SkaledWorld)
      (labels : List (Label monitorInterface SkaledMove Unit)),
      Transition.Always (rpcHost settings).step
        (fun config => config.world.2.hasty = false)
        { world := (world, .start world.row) } labels := by
  intro claim
  let world : SkaledWorld := { row := oldRow, container := true }
  let labels := (List.replicate 6 (rpcPass false 54 ++ rpcPass true 45)).flatten ++
    rpcPass false 56
  have played : (Transition.play (rpcHost {}).step
      { world := (world, .start world.row) } labels).map
      (fun config => config.world.2.hasty) = some true := by decide +kernel
  obtain ⟨config, reached, hasty⟩ := Option.map_eq_some_iff.mp played
  have patient := (claim {} world labels).at_play reached
  rw [hasty] at patient
  cases patient

end SkaleAdmin.Monitor
