import SkaleAdmin.Library.Obligations
import SkaleAdmin.Monitor.RpcAccount
import SkaleAdmin.Monitor.SkaledFootprint

/-! A restart by `handle_failed_schain_rpc` is followed by the save that puts the
count of the failures back. -/

namespace SkaleAdmin.Monitor

open Interaction PyText Json Config
open Interaction.Procedure (calls_pure calls_bind calls_invoke owes_bind owes_invoke
  owes_invoke_bind honours_of_calls honours_pure honours_bind honours_invoke_bind
  honours_attempt)

def MonitorQuery.RestartsStuck (query : MonitorQuery) : Prop :=
  query = .restartContainer true

/-- The count of the failures is put to zero. -/
def MonitorQuery.ForgetsFailures : MonitorQuery → Prop
  | saveRecord setter copy => setter.column = .failedRpcCount ∧ copy .failedRpcCount = 0
  | _ => False

/-- A restart by `handle_failed_schain_rpc` calls for the failures to be put back. -/
def rpcDebt (settings : SkaledSettings) : Debt (rpcHost settings) where
  incurs := MonitorQuery.RestartsStuck
  pays := MonitorQuery.ForgetsFailures
  isOpen world := world.2.unreset
  moved := by
    intro world moved move taken
    rw [(Host.watch_move.mp taken).2]
    rfl
  begun _ _ := rfl
  finished _ := rfl
  served := by
    intro query world world' proposed answer served unreset
    obtain ⟨_, noted⟩ := Host.watch_serve.mp served
    rw [noted] at unreset
    unfold rpcWatch at unreset
    dsimp only at unreset
    split at unreset
    · split at unreset <;> exact .inl unreset
    · exact .inl (Bool.and_eq_true_iff.mp unreset).1
    · exact .inl unreset
    · exact .inl unreset
    · exact .inr ⟨rfl, _, rfl⟩
    · exact .inl unreset
  paid := by
    intro query world world' proposed reply forgets served
    obtain ⟨_, noted⟩ := Host.watch_serve.mp served
    cases query with
    | saveRecord setter copy =>
        have saved : Web.Table.saved setter copy world.1.row .failedRpcCount = 0 := by
          obtain ⟨column, value, only⟩ := setter
          obtain ⟨rfl, zero⟩ := forgets
          cases only with
          | true =>
              have set : world.1.row.set .failedRpcCount (copy .failedRpcCount)
                  .failedRpcCount = copy .failedRpcCount := Web.SChainRecord.set_self
              exact set.trans zero
          | false => exact zero
        rw [noted]
        change (world.2.unreset &&
          decide (Web.Table.saved setter copy world.1.row .failedRpcCount ≠ 0)) = false
        rw [saved]
        exact Bool.and_false _
    | _ => cases forgets
  erred := by
    intro query world world' proposed error served
    exact skaled_serve_raises (Host.watch_serve.mp served).1

abbrev Honest (body : MonitorM Unit) : Prop :=
  body.Honours MonitorQuery.RestartsStuck MonitorQuery.ForgetsFailures

theorem harmless_neverStuck (query : MonitorQuery) (harmless : query.isHarmless = true) :
    ¬ query.RestartsStuck := by
  rintro rfl
  cases harmless

theorem handleStuckRpc_honest (settings : SkaledSettings) (record : Web.SChainRecord) :
    Honest (handleStuckRpc settings record) := by
  have ordinary := ordinary_of harmless_neverStuck
  have forgets : ∀ record : Web.SChainRecord, (do
      let _ ← setOn record (Web.setFailedRpcCount 0) : MonitorM Unit).Owes
        MonitorQuery.ForgetsFailures := by
    intro record
    refine owes_bind (owes_bind (owes_invoke ⟨rfl, ?_⟩))
    exact Web.SChainRecord.set_self
  unfold handleStuckRpc restartStuckContainer
  split
  · rw [Procedure.bind_assoc]
    refine honours_invoke_bind (fun _ => ?_) fun _ => honours_of_calls ?_
    · unfold setOn
      rw [Procedure.bind_assoc]
      exact owes_invoke_bind fun _ => forgets _
    · exact calls_bind (calls_setOn ordinary _ _) fun _ =>
        calls_bind (calls_setOn ordinary _ _) fun _ => calls_pure _
  · exact honours_of_calls (calls_bind (calls_pure _) fun _ =>
      calls_bind (calls_setOn ordinary _ _) fun _ => calls_pure _)

theorem handleFailedRpc_honest (settings : SkaledSettings) (record : Web.SChainRecord) :
    Honest (handleFailedRpc settings record) := by
  have ordinary := ordinary_of harmless_neverStuck
  have saves : ∀ setter, Honest (do let _ ← setOn record setter) := fun setter =>
    honours_of_calls (calls_bind (calls_setOn ordinary _ _) fun _ => calls_pure _)
  have flag : ∀ flag, (skaledFlag flag).Calls fun query : MonitorQuery =>
      ¬ query.RestartsStuck :=
    fun flag => calls_plain ordinary (plain_skaledFlag flag)
  refine honours_bind (honours_of_calls (flag _)) fun reached => ?_
  cases reached with
  | true => exact saves _
  | false =>
      refine honours_bind (honours_of_calls (flag _)) fun downloading => ?_
      cases downloading with
      | true => exact saves _
      | false =>
          simp only [Bool.false_eq_true, if_false]
          split
          · exact handleStuckRpc_honest settings record
          · exact saves _

theorem handleFailedSchainRpc_honest (settings : SkaledSettings)
    (record : Web.SChainRecord) : Honest (handleFailedSchainRpc settings record) := by
  have ordinary := ordinary_of harmless_neverStuck
  refine honours_bind (honours_of_calls (calls_ordinary ordinary rfl)) fun found => ?_
  cases found with
  | false => exact honours_pure _
  | true =>
      refine honours_bind (honours_of_calls (calls_ordinary ordinary rfl))
        fun running => ?_
      cases running with
      | false => exact honours_pure _
      | true => exact handleFailedRpc_honest settings record

namespace SkaledActionManager

variable (am : SkaledActionManager)

theorem skaledRpc_honest : Honest am.skaledRpc := by
  have ordinary := ordinary_of harmless_neverStuck
  refine honours_bind (honours_of_calls (am.calls_rpcCheck ordinary)) fun passed => ?_
  cases passed with
  | true => exact honours_of_calls (calls_setRecord ordinary _)
  | false =>
      refine honours_bind (honours_of_calls (calls_plain ordinary
        plain_displaySkaledLogs)) fun _ => ?_
      refine honours_bind (honours_of_calls (calls_ordinary ordinary rfl))
        fun record => ?_
      exact handleFailedSchainRpc_honest _ record

theorem watchSkaled_honest (upstreamRules : Bool) : Honest (am.watchSkaled upstreamRules) := by
  have harmless := harmless_neverStuck
  have ordinary := ordinary_of harmless
  have runs : ∀ startTs snapshotFrom,
      ¬ (MonitorQuery.runSchainContainer false startTs snapshotFrom).RestartsStuck :=
    fun _ _ => nofun
  refine honours_bind (honours_of_calls (calls_firewallRulesCheck harmless)) fun _ => ?_
  refine honours_bind (honours_of_calls (calls_ifNot
    (calls_firewallRules harmless _) _)) fun _ => ?_
  refine honours_bind (honours_of_calls (calls_harmless harmless rfl)) fun _ => ?_
  refine honours_bind (honours_of_calls (calls_ifNot (calls_volume ordinary) _))
    fun _ => ?_
  refine honours_bind (honours_of_calls (calls_containerOrReset ordinary
    (am.calls_skaledContainer ordinary runs _ _))) fun _ => ?_
  refine honours_bind (honours_of_calls (am.calls_rpcCheck ordinary)) fun passed => ?_
  cases passed with
  | true => exact honours_pure _
  | false => exact am.skaledRpc_honest

theorem execute_honest (monitor : SkaledMonitor) : Honest (am.execute monitor) := by
  have harmless := harmless_neverStuck
  have runs : ∀ downloadSnapshot startTs snapshotFrom, ¬ (MonitorQuery.runSchainContainer
      downloadSnapshot startTs snapshotFrom).RestartsStuck := fun _ _ _ => nofun
  have scheduled : ∀ {exitTs : MonitorM (Option Int)}, Auxiliary exitTs →
      Honest (do
        ifNot (← am.imaContainerCheck) am.imaContainer
        scheduleSkaledExit (← exitTs)) := by
    intro exitTs auxiliary
    apply honours_of_calls
    refine calls_bind (am.calls_imaContainerCheck (ordinary_of harmless)) fun _ => ?_
    refine calls_bind (calls_ifNot (am.calls_imaContainer (ordinary_of harmless)) _)
      fun _ => ?_
    exact calls_bind (calls_auxiliary harmless auxiliary) fun _ =>
      calls_scheduleSkaledExit (auxiliary_harmless harmless) fun _ _ => nofun
  cases monitor with
  | regular =>
      refine honours_bind (am.watchSkaled_honest _) fun _ => honours_of_calls ?_
      exact calls_bind (am.calls_imaContainerCheck (ordinary_of harmless)) fun _ =>
        calls_ifNot (am.calls_imaContainer (ordinary_of harmless)) _
  | reloadGroup =>
      exact honours_bind (am.watchSkaled_honest _) fun _ =>
        scheduled auxiliary_upstreamFinishTs
  | reloadIp =>
      exact honours_bind (am.watchSkaled_honest _) fun _ => scheduled auxiliary_reloadTs
  | noConfig => exact honours_of_calls (calls_noConfigSkaledMonitor harmless)
  | repair => exact honours_of_calls (am.calls_repairSkaledMonitor harmless (runs true) nofun)
  | backup => exact honours_of_calls (am.calls_backupSkaledMonitor harmless (runs true))
  | recreate => exact honours_of_calls (am.calls_recreateSkaledMonitor harmless runs)
  | updateConfig => exact honours_of_calls (am.calls_updateConfigSkaledMonitor harmless runs)
  | newNode => exact honours_of_calls (am.calls_newNodeSkaledMonitor harmless (runs true))

end SkaledActionManager

theorem runSkaledPipeline_honest (settings : SkaledSettings) :
    Honest (runSkaledPipeline settings) := by
  have harmless := harmless_neverStuck
  have ordinary := ordinary_of harmless
  refine honours_bind (honours_of_calls (calls_harmless harmless rfl)) fun _ => ?_
  refine honours_bind (honours_of_calls (calls_harmless harmless rfl)) fun record => ?_
  refine honours_bind (honours_of_calls (calls_harmless harmless rfl)) fun _ => ?_
  refine honours_bind (honours_of_calls (calls_harmless harmless rfl))
    fun ncliStatus => ?_
  let am : SkaledActionManager := {
    settings, checksRecord := record, hasNodeCliStatus := ncliStatus.isFound }
  refine honours_bind (honours_of_calls (am.calls_getAllChecks harmless)) fun _ => ?_
  refine honours_bind (honours_of_calls (calls_harmless harmless rfl)) fun _ => ?_
  refine honours_bind (honours_of_calls (calls_harmless harmless rfl)) fun _ => ?_
  refine honours_bind (honours_of_calls (calls_auxiliary harmless
    (auxiliary_getSkaledMonitor _ _))) fun monitor => ?_
  refine honours_bind (honours_of_calls (calls_invoke nofun)) fun _ => ?_
  refine honours_attempt ?_ ?_
  · refine honours_bind (honours_of_calls (calls_updLastSeen ordinary)) fun _ => ?_
    refine honours_bind (am.execute_honest monitor) fun _ => ?_
    refine honours_bind (honours_of_calls
      (SkaledActionManager.calls_updSchainRecord ordinary)) fun _ => ?_
    exact honours_of_calls (calls_updLastSeen ordinary)
  · rintro error clause ⟨⟩
    exact honours_pure ()

end SkaleAdmin.Monitor
