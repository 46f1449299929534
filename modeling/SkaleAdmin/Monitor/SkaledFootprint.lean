import SkaleAdmin.Monitor.SkaledWorld

/-! Which calls the skaled monitors make. -/

namespace SkaleAdmin.Monitor

open Interaction Json
open Interaction.Procedure (Calls calls_pure calls_raise calls_bind calls_invoke
  calls_attempt)

def MonitorQuery.isHarmless : MonitorQuery → Bool
  | removeVolume | runSchainContainer .. | restartContainer true | incrSkaledPipeline _
  | setExitTs _ | writeJson .. => false
  | _ => true

/-- The harmless calls that also leave the rules on the host, the skaled config and the
exit schedule alone. -/
def MonitorQuery.isOrdinary : MonitorQuery → Bool
  | observeRules | syncRules .. | syncSkaledConfigWithUpstream | exitScheduleExists
  | removeExitSchedule => false
  | query => query.isHarmless

section Ordinary

variable {allowed : MonitorQuery → Prop}
  (ordinary : ∀ query : MonitorQuery, query.isOrdinary = true → allowed query)

include ordinary

theorem calls_plain {α : Type} {body : MonitorM α} (plain : Plain body) :
    body.Calls allowed := by
  apply plain.mono
  intro query isPlain
  apply ordinary
  cases query <;> first | rfl | cases isPlain

theorem calls_ordinary {query : MonitorQuery} (isOrdinary : query.isOrdinary = true) :
    Calls allowed (invoke query) :=
  calls_invoke (ordinary query isOrdinary)

theorem calls_setOn (record : Web.SChainRecord) (setter : Web.Setter) :
    (setOn record setter).Calls allowed :=
  calls_bind (calls_ordinary ordinary rfl) fun _ => calls_pure _

theorem calls_setRecord (setter : Web.Setter) : (setRecord setter).Calls allowed :=
  calls_bind (calls_ordinary ordinary rfl) fun _ =>
    calls_bind (calls_setOn ordinary _ _) fun _ => calls_pure _

theorem calls_updLastSeen : updLastSeen.Calls allowed :=
  calls_bind (calls_ordinary ordinary rfl) fun _ =>
    calls_bind (calls_ordinary ordinary rfl) fun _ =>
      calls_bind (calls_setOn ordinary _ _) fun _ => calls_pure _

theorem calls_updateSslChangeDate (record : Web.SChainRecord) :
    (updateSslChangeDate record).Calls allowed := by
  refine calls_bind (calls_ordinary ordinary rfl) fun date => ?_
  cases date with
  | none => exact calls_pure _
  | some date => exact calls_setOn ordinary _ _

theorem calls_resetFailedCounters (record : Web.SChainRecord) :
    (resetFailedCounters record).Calls allowed :=
  calls_bind (calls_setOn ordinary _ _) fun _ =>
    calls_bind (calls_setOn ordinary _ _) fun _ => calls_pure _

theorem calls_restartFailedContainer (settings : SkaledSettings)
    (record : Web.SChainRecord) :
    (restartFailedContainer settings record).Calls allowed := by
  unfold restartFailedContainer
  split
  · refine calls_bind (calls_ordinary ordinary rfl) fun _ => ?_
    refine calls_bind (calls_updateSslChangeDate ordinary _) fun _ => ?_
    refine calls_bind (calls_setOn ordinary _ _) fun _ => ?_
    exact calls_bind (calls_setOn ordinary _ _) fun _ => calls_pure _
  · exact calls_pure _

theorem calls_watchSchainContainer (settings : SkaledSettings)
    (record : Web.SChainRecord) :
    (watchSchainContainer settings record).Calls allowed := by
  refine calls_bind (calls_plain ordinary plain_needsRepair) fun repair => ?_
  cases repair with
  | true => exact calls_resetFailedCounters ordinary record
  | false =>
      refine calls_bind
        (calls_plain ordinary plain_isSchainContainerFailed) fun failed => ?_
      cases failed with
      | true => exact calls_restartFailedContainer ordinary settings record
      | false => exact calls_bind (calls_setOn ordinary _ _) fun _ => calls_pure _

theorem calls_handleFailedRpc (restarts : allowed (.restartContainer true))
    (settings : SkaledSettings) (record : Web.SChainRecord) :
    (handleFailedRpc settings record).Calls allowed := by
  have flag : ∀ flag, (skaledFlag flag).Calls allowed :=
    fun flag => calls_plain ordinary (plain_skaledFlag flag)
  refine calls_bind (flag _) fun reached => ?_
  cases reached with
  | true => exact calls_bind (calls_setOn ordinary _ _) fun _ => calls_pure _
  | false =>
      refine calls_bind (flag _) fun downloading => ?_
      cases downloading with
      | true => exact calls_bind (calls_setOn ordinary _ _) fun _ => calls_pure _
      | false =>
          simp only [Bool.false_eq_true, if_false]
          split
          · refine calls_bind ?_ fun _ =>
              calls_bind (calls_setOn ordinary _ _) fun _ => calls_pure _
            unfold restartStuckContainer
            split
            · exact calls_bind (calls_invoke restarts) fun _ => calls_setOn ordinary _ _
            · exact calls_pure _
          · exact calls_bind (calls_setOn ordinary _ _) fun _ => calls_pure _

theorem calls_handleFailedSchainRpc (restarts : allowed (.restartContainer true))
    (settings : SkaledSettings) (record : Web.SChainRecord) :
    (handleFailedSchainRpc settings record).Calls allowed := by
  refine calls_bind (calls_ordinary ordinary rfl) fun found => ?_
  cases found with
  | false => exact calls_pure _
  | true =>
      refine calls_bind (calls_ordinary ordinary rfl) fun running => ?_
      cases running with
      | false => exact calls_pure _
      | true => exact calls_handleFailedRpc ordinary restarts settings record

namespace SkaledActionManager

variable (am : SkaledActionManager)

theorem calls_rpcCheck : am.rpcCheck.Calls allowed :=
  calls_bind (calls_ordinary ordinary rfl) fun _ => calls_evaluate _

theorem calls_skaledRpc (restarts : allowed (.restartContainer true)) :
    am.skaledRpc.Calls allowed := by
  refine calls_bind (am.calls_rpcCheck ordinary) fun passed => ?_
  cases passed with
  | true => exact calls_setRecord ordinary _
  | false =>
      refine calls_bind (calls_plain ordinary plain_displaySkaledLogs)
        fun _ => ?_
      refine calls_bind (calls_ordinary ordinary rfl) fun _ => ?_
      exact calls_handleFailedSchainRpc ordinary restarts _ _

theorem calls_removeIfExists (type : ContainerType) :
    (removeIfExists type).Calls allowed := by
  refine calls_bind (calls_ordinary ordinary rfl) fun found => ?_
  cases found with
  | true => exact calls_bind (calls_ordinary ordinary rfl) fun _ => calls_pure _
  | false => exact calls_pure _

theorem calls_resetCounters : resetCounters.Calls allowed :=
  calls_bind (calls_setRecord ordinary _) fun _ =>
    calls_bind (calls_setRecord ordinary _) fun _ => calls_setRecord ordinary _

theorem calls_updSchainRecord : updSchainRecord.Calls allowed := by
  refine calls_bind (calls_ordinary ordinary rfl) fun _ => ?_
  refine calls_bind (calls_ifNot ?_ _) fun _ => ?_
  · exact calls_bind (calls_setRecord ordinary _) fun _ => calls_setRecord ordinary _
  · exact calls_bind (calls_setRecord ordinary _) fun _ => calls_setRecord ordinary _

theorem calls_skaledContainer {downloadSnapshot : Bool}
    (runs : ∀ startTs snapshotFrom,
      allowed (.runSchainContainer downloadSnapshot startTs snapshotFrom))
    (startTs : Option Int) (abortOnExit : Bool) :
    (am.skaledContainer downloadSnapshot startTs abortOnExit).Calls allowed := by
  refine calls_bind (calls_plain ordinary am.plain_snapshotFrom) fun _ => ?_
  refine calls_bind (calls_ordinary ordinary rfl) fun record => ?_
  refine calls_bind (calls_ordinary ordinary rfl) fun volumeExists => ?_
  cases volumeExists with
  | false => exact calls_pure _
  | true =>
      refine calls_bind (calls_plain ordinary (plain_skaledFlag _))
        fun reached => ?_
      cases aborts : reached && abortOnExit with
      | true =>
          simp only [if_true]
          exact calls_resetFailedCounters ordinary record
      | false =>
          simp only [Bool.false_eq_true, if_false]
          refine calls_bind (calls_ordinary ordinary rfl) fun found => ?_
          cases found with
          | true => exact calls_watchSchainContainer ordinary _ record
          | false =>
              refine calls_bind (calls_invoke (runs _ _)) fun _ => ?_
              refine calls_bind (calls_updateSslChangeDate ordinary record)
                fun _ => calls_resetFailedCounters ordinary _

theorem calls_containerOrReset {start : MonitorM Unit} (calls : start.Calls allowed) :
    (containerOrReset start).Calls allowed := by
  refine calls_bind (calls_ordinary ordinary rfl) fun running => ?_
  cases running with
  | true => exact calls_setRecord ordinary _
  | false => exact calls

theorem calls_volume : volume.Calls allowed :=
  calls_plain ordinary plain_volume

theorem calls_imaContainerCheck : am.imaContainerCheck.Calls allowed :=
  calls_plain ordinary am.plain_imaContainerCheck

theorem calls_imaContainer : am.imaContainer.Calls allowed :=
  calls_plain ordinary am.plain_imaContainer

theorem calls_watchSkaled (observes : allowed .observeRules)
    (syncs : ∀ basePort ownIp nodeIps ranges,
      allowed (.syncRules basePort ownIp nodeIps ranges))
    (runs : ∀ startTs snapshotFrom, allowed (.runSchainContainer false startTs snapshotFrom))
    (restarts : allowed (.restartContainer true)) (upstreamRules : Bool) :
    (am.watchSkaled upstreamRules).Calls allowed := by
  have checked : firewallRulesCheck.Calls allowed :=
    calls_bind (calls_invoke observes) fun _ => calls_evaluate _
  refine calls_bind checked fun _ => ?_
  refine calls_bind (calls_ifNot ?_ _) fun _ => ?_
  · refine calls_bind checked fun _ => calls_ifNot ?_ _
    refine calls_bind (calls_ordinary ordinary rfl) fun files => ?_
    refine calls_bind (calls_evaluate _) fun conf => ?_
    refine calls_bind (calls_evaluate _) fun basePort => ?_
    refine calls_bind (calls_evaluate _) fun nodeIps => ?_
    refine calls_bind (calls_evaluate _) fun ownIp => ?_
    refine calls_bind (calls_ordinary ordinary rfl) fun files => ?_
    exact calls_bind (calls_evaluate _) fun ranges => calls_invoke (syncs _ _ _ _)
  refine calls_bind (calls_ordinary ordinary rfl) fun _ => ?_
  refine calls_bind (calls_ifNot (calls_volume ordinary) _) fun _ => ?_
  refine calls_bind (calls_containerOrReset ordinary
    (am.calls_skaledContainer ordinary runs _ _)) fun _ => ?_
  exact calls_bind (am.calls_rpcCheck ordinary) fun _ =>
    calls_ifNot (am.calls_skaledRpc ordinary restarts) _

end SkaledActionManager

end Ordinary

section Footprints

variable {allowed : MonitorQuery → Prop}
  (harmless : ∀ query : MonitorQuery, query.isHarmless = true → allowed query)

include harmless

theorem ordinary_of (query : MonitorQuery) (ordinary : query.isOrdinary = true) :
    allowed query := by
  apply harmless
  cases query with
  | restartContainer stuckRpc => cases stuckRpc <;> first | rfl | cases ordinary
  | _ => first | rfl | cases ordinary

theorem auxiliary_harmless (query : MonitorQuery) (auxiliary : query.isAuxiliary = true) :
    allowed query := by
  refine harmless query ?_
  cases query with
  | removeVolume | runSchainContainer | restartContainer | incrSkaledPipeline
  | setExitTs | writeJson => cases auxiliary
  | _ => rfl

theorem calls_auxiliary {α : Type} {body : MonitorM α} (auxiliary : Auxiliary body) :
    body.Calls allowed :=
  auxiliary.mono (auxiliary_harmless harmless)

theorem calls_harmless {query : MonitorQuery} (silent : query.isHarmless = true) :
    Calls allowed (invoke query) :=
  calls_invoke (harmless query silent)

namespace SkaledActionManager

variable (am : SkaledActionManager)

theorem calls_firewallRulesCheck : firewallRulesCheck.Calls allowed :=
  calls_auxiliary harmless auxiliary_firewallRulesCheck

theorem calls_firewallRules (upstream : Bool) :
    (firewallRules upstream).Calls allowed :=
  calls_auxiliary harmless (auxiliary_firewallRules upstream)

section Plain

variable (runs : ∀ downloadSnapshot startTs snapshotFrom,
  allowed (.runSchainContainer downloadSnapshot startTs snapshotFrom))

include runs

theorem calls_regularSkaledMonitor (restarts : allowed (.restartContainer true)) :
    am.regularSkaledMonitor.Calls allowed := by
  refine calls_bind (am.calls_watchSkaled (ordinary_of harmless) (harmless _ rfl)
    (fun _ _ _ _ => harmless _ rfl) (runs false) restarts _) fun _ => ?_
  exact calls_bind (am.calls_imaContainerCheck (ordinary_of harmless)) fun _ =>
    calls_ifNot (am.calls_imaContainer (ordinary_of harmless)) _

theorem calls_recreateSkaledMonitor : am.recreateSkaledMonitor.Calls allowed := by
  refine calls_bind (calls_harmless harmless rfl) fun _ => ?_
  refine calls_bind (calls_ifNot (calls_volume (ordinary_of harmless)) _) fun _ => ?_
  refine calls_bind (calls_removeIfExists (ordinary_of harmless) _) fun _ => ?_
  exact calls_bind (calls_resetCounters (ordinary_of harmless)) fun _ =>
    am.calls_skaledContainer (ordinary_of harmless) (runs false) _ _

theorem calls_updateConfigSkaledMonitor :
    am.updateConfigSkaledMonitor.Calls allowed := by
  refine calls_bind (calls_auxiliary harmless (auxiliary_check _)) fun _ => ?_
  refine calls_bind (calls_auxiliary harmless (auxiliary_ifNot
    auxiliary_updateConfig _)) fun _ => ?_
  refine calls_bind (calls_firewallRulesCheck harmless) fun _ => ?_
  refine calls_bind (calls_ifNot (calls_firewallRules harmless _) _) fun _ => ?_
  refine calls_bind (calls_harmless harmless rfl) fun _ => ?_
  refine calls_bind (calls_ifNot (calls_volume (ordinary_of harmless)) _) fun _ => ?_
  refine calls_bind (calls_auxiliary harmless auxiliary_resetExitSchedule)
    fun _ => ?_
  refine calls_bind (calls_removeIfExists (ordinary_of harmless) _) fun _ => ?_
  refine calls_bind (calls_removeIfExists (ordinary_of harmless) _) fun _ => ?_
  refine calls_bind (calls_resetCounters (ordinary_of harmless)) fun _ => ?_
  exact calls_bind (am.calls_skaledContainer (ordinary_of harmless) (runs false) _ _) fun _ =>
    am.calls_imaContainer (ordinary_of harmless)

theorem calls_reloadGroupSkaledMonitor (restarts : allowed (.restartContainer true))
    (sets : ∀ ts, allowed (.setExitTs ts)) : am.reloadGroupSkaledMonitor.Calls allowed := by
  refine calls_bind (am.calls_watchSkaled (ordinary_of harmless) (harmless _ rfl)
    (fun _ _ _ _ => harmless _ rfl) (runs false) restarts _) fun _ => ?_
  refine calls_bind (am.calls_imaContainerCheck (ordinary_of harmless)) fun _ => ?_
  refine calls_bind (calls_ifNot (am.calls_imaContainer (ordinary_of harmless)) _) fun _ => ?_
  exact calls_bind (calls_auxiliary harmless auxiliary_upstreamFinishTs) fun _ =>
    calls_scheduleSkaledExit (auxiliary_harmless harmless) fun ts _ => sets ts

theorem calls_reloadIpSkaledMonitor (restarts : allowed (.restartContainer true))
    (sets : ∀ ts, allowed (.setExitTs ts)) : am.reloadIpSkaledMonitor.Calls allowed := by
  refine calls_bind (am.calls_watchSkaled (ordinary_of harmless) (harmless _ rfl)
    (fun _ _ _ _ => harmless _ rfl) (runs false) restarts _) fun _ => ?_
  refine calls_bind (am.calls_imaContainerCheck (ordinary_of harmless)) fun _ => ?_
  refine calls_bind (calls_ifNot (am.calls_imaContainer (ordinary_of harmless)) _) fun _ => ?_
  exact calls_bind (calls_auxiliary harmless auxiliary_reloadTs) fun _ =>
    calls_scheduleSkaledExit (auxiliary_harmless harmless) fun ts _ => sets ts

end Plain

section Snapshot

variable (runs : ∀ startTs snapshotFrom,
  allowed (.runSchainContainer true startTs snapshotFrom))

include runs

theorem calls_repairSkaledMonitor (removes : allowed .removeVolume) :
    am.repairSkaledMonitor.Calls allowed := by
  refine calls_bind (calls_harmless harmless rfl) fun _ => ?_
  refine calls_bind (calls_harmless harmless rfl) fun _ => ?_
  refine calls_bind (calls_bind (calls_harmless harmless rfl) fun _ =>
    calls_invoke removes) fun _ => ?_
  refine calls_bind (calls_firewallRulesCheck harmless) fun _ => ?_
  refine calls_bind (calls_ifNot (calls_firewallRules harmless _) _) fun _ => ?_
  refine calls_bind (calls_harmless harmless rfl) fun _ => ?_
  refine calls_bind (calls_ifNot (calls_volume (ordinary_of harmless)) _) fun _ => ?_
  refine calls_bind (calls_harmless harmless rfl) fun running => ?_
  cases running with
  | true => exact calls_raise _
  | false =>
      refine calls_bind (am.calls_skaledContainer (ordinary_of harmless) runs _ _) fun _ => ?_
      exact calls_bind (calls_harmless harmless rfl) fun _ =>
        calls_setRecord (ordinary_of harmless) _

theorem calls_backupSkaledMonitor : am.backupSkaledMonitor.Calls allowed := by
  refine calls_bind (calls_harmless harmless rfl) fun _ => ?_
  refine calls_bind (calls_ifNot (calls_volume (ordinary_of harmless)) _) fun _ => ?_
  refine calls_bind (calls_firewallRulesCheck harmless) fun _ => ?_
  refine calls_bind (calls_ifNot (calls_firewallRules harmless _) _) fun _ => ?_
  refine calls_bind (calls_containerOrReset (ordinary_of harmless)
    (am.calls_skaledContainer (ordinary_of harmless) runs _ _)) fun _ => ?_
  refine calls_bind (am.calls_imaContainerCheck (ordinary_of harmless)) fun _ => ?_
  exact calls_bind (calls_ifNot (am.calls_imaContainer (ordinary_of harmless)) _) fun _ =>
    calls_setRecord (ordinary_of harmless) _

theorem calls_newNodeSkaledMonitor : am.newNodeSkaledMonitor.Calls allowed := by
  refine calls_bind (calls_harmless harmless rfl) fun _ => ?_
  refine calls_bind (calls_ifNot (calls_volume (ordinary_of harmless)) _) fun _ => ?_
  refine calls_bind (calls_firewallRulesCheck harmless) fun _ => ?_
  refine calls_bind (calls_ifNot (calls_firewallRules harmless _) _) fun _ => ?_
  refine calls_bind (calls_containerOrReset (ordinary_of harmless)
    (calls_bind (calls_auxiliary harmless auxiliary_finishTs) fun _ =>
      am.calls_skaledContainer (ordinary_of harmless) runs _ _)) fun _ => ?_
  exact calls_bind (am.calls_imaContainerCheck (ordinary_of harmless)) fun _ =>
    calls_ifNot (am.calls_imaContainer (ordinary_of harmless)) _

end Snapshot

theorem calls_noConfigSkaledMonitor : noConfigSkaledMonitor.Calls allowed := by
  refine calls_auxiliary harmless ?_
  exact calls_bind (auxiliary_check _) fun _ =>
    auxiliary_ifNot auxiliary_updateConfig _

theorem calls_getAllChecks : am.getAllChecks.Calls allowed := by
  refine calls_bind (calls_auxiliary harmless auxiliary_blocksCheck) fun _ => ?_
  refine calls_bind (calls_auxiliary harmless (auxiliary_check _)) fun _ => ?_
  refine calls_bind (calls_auxiliary harmless (auxiliary_check _)) fun _ => ?_
  refine calls_bind (calls_harmless harmless rfl) fun _ => ?_
  refine calls_bind (calls_harmless harmless rfl) fun _ => ?_
  refine calls_bind (calls_ifNot (calls_bind (calls_harmless harmless rfl)
    fun _ => calls_pure _) _) fun _ => ?_
  refine calls_bind (calls_firewallRulesCheck harmless) fun _ => ?_
  refine calls_bind (am.calls_imaContainerCheck (ordinary_of harmless)) fun _ => ?_
  refine calls_bind (calls_harmless harmless rfl) fun _ => ?_
  refine calls_bind (calls_auxiliary harmless (auxiliary_check _)) fun _ => ?_
  refine calls_bind (am.calls_rpcCheck (ordinary_of harmless)) fun _ => ?_
  refine calls_bind (calls_harmless harmless rfl) fun _ => ?_
  refine calls_bind (calls_auxiliary harmless (auxiliary_check _)) fun _ => ?_
  exact calls_bind (calls_harmless harmless rfl) fun _ => calls_pure _

end SkaledActionManager

end Footprints

theorem calls_runSkaledMonitor {allowed : MonitorQuery → Prop}
    (harmless : ∀ query : MonitorQuery, query.isHarmless = true → allowed query)
    {execute : MonitorM Unit} (calls : execute.Calls allowed) :
    (runSkaledMonitor execute).Calls allowed := by
  refine calls_attempt ?_ ?_
  · refine calls_bind (calls_updLastSeen (ordinary_of harmless)) fun _ => ?_
    refine calls_bind calls fun _ => ?_
    refine calls_bind
      (SkaledActionManager.calls_updSchainRecord (ordinary_of harmless)) fun _ => ?_
    exact calls_updLastSeen (ordinary_of harmless)
  · rintro error clause ⟨⟩
    exact calls_pure ()

end SkaleAdmin.Monitor
