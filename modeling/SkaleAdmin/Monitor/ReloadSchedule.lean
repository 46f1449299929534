import SkaleAdmin.Library.Ledger
import SkaleAdmin.Monitor.ConfigWorld

/-! The reload that a config monitor has scheduled in `external.json`. -/

namespace SkaleAdmin.Monitor

open Interaction PyText Config
open Interaction.Procedure (Calls calls_pure calls_raise calls_bind calls_invoke)
open Interaction.Ledger (Yields yields_pure yields_raise yields_bind
  yields_of_calls yields_swallowed yields_invoke)

/-- The `reload_ts` that is stored, if it is a number. -/
def storedReloadTs (files : Directory Text) : Option Int :=
  match externalReloadTs files with
  | .ok (.num reloadTs) => some reloadTs
  | _ => none

/-- The first schedule that was stored, whether the last run began after it,
whether a later write stored another one, and whether a run that began after it
wrote at all. -/
structure Schedule where
  scheduled : Option Int := none
  begunScheduled : Bool := false
  erased : Bool := false
  overwritten : Bool := false

def Schedule.stored (schedule : Schedule) (reloadTs : Option Int) : Schedule where
  scheduled := schedule.scheduled <|> reloadTs
  begunScheduled := schedule.begunScheduled
  erased := schedule.erased ||
    (schedule.scheduled.isSome && reloadTs != schedule.scheduled)
  overwritten := schedule.overwritten || schedule.begunScheduled

def scheduleWatch : Host.Watch monitorInterface ConfigWorld ConfigMove ConfigJob
    Schedule where
  call
    | .writeJson .external content, .ok _, world, schedule =>
        schedule.stored (storedReloadTs (world.files.put .external content.text))
    | _, _, _, schedule => schedule
  begin _ _ schedule :=
    { schedule with begunScheduled := schedule.scheduled.isSome }

abbrev ScheduleWorld := ConfigWorld × Schedule

def scheduleHost := configHost.watch scheduleWatch

/-- What was scheduled is still stored. -/
def Scheduled (world : ScheduleWorld) : Prop :=
  ∀ reloadTs, world.2.scheduled = some reloadTs →
    storedReloadTs world.1.files = some reloadTs

/-- A run that began after a reload was scheduled does not get as far as writing
`external.json`. -/
def servedUndisturbed : (query : MonitorQuery) →
    Except MonitorError query.Reply → ScheduleWorld → Bool
  | .writeJson .external _, .ok _, world => !world.2.begunScheduled
  | _, _, _ => true

def undisturbed : Host.Discipline monitorInterface ScheduleWorld ConfigMove
    ConfigJob where
  call query answer world := servedUndisturbed query answer world = true

/-! ### What is read back -/

theorem storedReloadTs_estate (files : Directory Text) (estate : ExternalState) :
    storedReloadTs (files.put .external estate.document.text) =
      estate.reloadTs := by
  have read : externalConfigRead (files.put .external estate.document.text) =
      .ok (.obj estate.toDict) := by
    simp only [externalConfigRead, readJson, Directory.read_put_self,
      Option.isSome_some, if_true, Document.text,
      Json.loads_dumps estate.document.wellFormed]
    rfl
  unfold storedReloadTs externalReloadTs
  rw [read]
  cases given : estate.reloadTs with
  | none => simp [bind, Except.bind, getOr, ExternalState.toDict, given,
      List.lookup_cons]
  | some reloadTs => simp [bind, Except.bind, getOr, ExternalState.toDict, given,
      List.lookup_cons]

theorem storedReloadTs_congr {files files' : Directory Text}
    (same : files'.read .external = files.read .external) :
    storedReloadTs files' = storedReloadTs files := by
  simp only [storedReloadTs, externalReloadTs, externalConfigRead, readJson, same]

theorem storedReloadTs_put_of_ne (files : Directory Text) {path : FileName}
    (apart : path ≠ .external) (text : Text) :
    storedReloadTs (files.put path text) = storedReloadTs files :=
  storedReloadTs_congr (files.read_put_of_ne text (Ne.symm apart))

theorem storedReloadTs_seen (files given : Directory Text) :
    storedReloadTs (ConfigWorld.seen files given) = storedReloadTs files := by
  unfold ConfigWorld.seen
  split
  · exact storedReloadTs_put_of_ne files (by rintro ⟨⟩) _
  · rfl

theorem storedReloadTs_of_get {files : Directory Text} {state : ExternalState}
    (got : externalConfigGet files = .ok (some state)) :
    storedReloadTs files = state.reloadTs := by
  obtain ⟨plain, read, rest⟩ := bind_eq_ok.mp got
  have stored : storedReloadTs files =
      match getOr "reload_ts" .null plain with
      | .ok (.num reloadTs) => some reloadTs
      | _ => none := by
    simp only [storedReloadTs, externalReloadTs, read]
    rfl
  rw [stored]
  by_cases empty : (!truthy plain) = true
  · rw [if_pos empty] at rest
    cases rest
  · rw [if_neg empty] at rest
    obtain ⟨chainId, _, rest⟩ := bind_eq_ok.mp rest
    obtain ⟨imaLinked, _, rest⟩ := bind_eq_ok.mp rest
    obtain ⟨rangesField, _, rest⟩ := bind_eq_ok.mp rest
    obtain ⟨ranges, _, rest⟩ := bind_eq_ok.mp rest
    obtain ⟨reloadTs, field, rest⟩ := bind_eq_ok.mp rest
    rw [field]
    split at rest
    · cases rest
      rfl
    · cases rest
      rfl
    · cases rest

/-- A pipeline starts with an estate that schedules nothing, so its check fails
on a schedule that is stored. -/
theorem storedReloadTs_of_externalState {checks : ConfigChecks}
    {files : Directory Text} (unscheduled : checks.estate.reloadTs = none)
    (passed : checks.externalState files = .ok true) :
    storedReloadTs files = none := by
  obtain ⟨state, got, same⟩ := bind_eq_ok.mp passed
  obtain rfl : state = some checks.estate := of_decide_eq_true (Except.ok.inj same)
  rw [storedReloadTs_of_get got, unscheduled]

/-! ### Calls that spare `external.json` -/

def MonitorQuery.sparesExternal : MonitorQuery → Bool
  | writeJson .external _ => false
  | _ => true

abbrev Spares {α : Type} (body : MonitorM α) : Prop :=
  body.Calls fun query : MonitorQuery => query.sparesExternal = true

section Spares

variable {α β : Type}

theorem spares_invoke {query : MonitorQuery}
    (spares : query.sparesExternal = true) : Spares (invoke query) :=
  calls_invoke spares

theorem spares_check (status : Directory Text → Evaluated Bool) :
    Spares (check status) := by
  refine calls_bind (spares_invoke rfl) fun files => ?_
  cases status files with
  | ok passed => exact calls_pure _
  | error error => exact calls_raise _

theorem spares_setOn (record : Web.SChainRecord) (setter : Web.Setter) :
    Spares (setOn record setter) :=
  calls_bind (spares_invoke rfl) fun _ => calls_pure _

theorem spares_setRecord (setter : Web.Setter) : Spares (setRecord setter) :=
  calls_bind (spares_invoke rfl) fun record =>
    calls_bind (spares_setOn record setter) fun _ => calls_pure _

theorem spares_updLastSeen : Spares updLastSeen :=
  calls_bind (spares_invoke rfl) fun record =>
    calls_bind (spares_invoke rfl) fun _ =>
      calls_bind (spares_setOn record _) fun _ => calls_pure _

theorem spares_ifNot {action : MonitorM Unit} (spares : Spares action)
    (status : Bool) : Spares (ifNot status action) := by
  cases status with
  | true => exact calls_pure ()
  | false => exact spares

theorem spares_dkg (am : ConfigActionManager) : Spares am.dkg := by
  refine calls_bind (spares_check _) fun _ => spares_ifNot ?_ _
  refine calls_bind (spares_invoke rfl) fun _ => ?_
  refine calls_bind (spares_invoke rfl) fun result => ?_
  obtain ⟨status, keysData⟩ := result
  refine calls_bind (spares_ifNot (spares_invoke rfl) _) fun _ => ?_
  exact calls_bind (spares_setRecord _) fun _ => spares_ifNot (calls_raise _) _

theorem spares_updateSchainConfigVersion :
    Spares ConfigActionManager.updateSchainConfigVersion :=
  calls_bind (spares_invoke rfl) fun record =>
    calls_bind (spares_invoke rfl) fun _ =>
      calls_bind (spares_setOn record _) fun _ => calls_pure _

theorem spares_resetConfigRecord :
    Spares ConfigActionManager.resetConfigRecord :=
  calls_bind spares_updateSchainConfigVersion fun _ => spares_setRecord _

theorem spares_upstreamConfig (am : ConfigActionManager) :
    Spares am.upstreamConfig := by
  refine calls_bind (spares_invoke rfl) fun newConfig => ?_
  refine calls_bind ?_ fun differs => calls_bind (spares_ifNot ?_ _) fun _ =>
    spares_updateSchainConfigVersion
  · refine calls_bind (spares_check _) fun exist => ?_
    cases exist with
    | true => exact spares_check _
    | false => exact calls_pure _
  · exact calls_bind (spares_invoke rfl) fun _ => spares_invoke rfl

theorem spares_calcReloadTs (currentNodes : List NodeInfo) (nodeIndex : Nat) :
    Spares (calcReloadTs currentNodes nodeIndex) := by
  refine calls_bind ?_ fun maxIpChangeTs => ?_
  · cases currentNodes with
    | nil => exact calls_raise _
    | cons node nodes => exact calls_pure _
  · cases maxIpChangeTs with
    | none => exact calls_pure _
    | some ts => exact calls_pure _

theorem spares_evaluateConfigChecks (checks : ConfigChecks) :
    Spares (evaluateConfigChecks checks) :=
  calls_bind (spares_invoke rfl) fun _ => calls_bind (spares_check _) fun _ =>
    calls_bind (spares_check _) fun _ => calls_bind (spares_check _) fun _ =>
      calls_bind (spares_check _) fun _ => calls_pure ()

theorem spares_isImaLinked (syncNode : Bool) : Spares (isImaLinked syncNode) := by
  cases syncNode with
  | true => exact calls_pure false
  | false => exact spares_invoke rfl

end Spares

/-! ### What a run does to the schedule -/

/-- A run that began after a schedule was stored has erased it exactly if it
wrote, and nothing else erases it. -/
structure Accounted (world : ScheduleWorld) : Prop where
  begun : world.2.begunScheduled = true → world.2.scheduled.isSome = true
  stored : world.2.erased = false → Scheduled world
  same : world.2.erased = world.2.overwritten

variable {α β : Type}

def scheduleLedger : Ledger monitorInterface ScheduleWorld ConfigMove ConfigJob
    (Outcome MonitorError Unit × Unit) Schedule where
  host := scheduleHost
  discipline := {}
  invariant := Accounted
  view := Prod.snd
  unmoved := by
    intro world move moved taken
    exact (Host.watch_move.mp taken).2

theorem serve_storedReloadTs {query : MonitorQuery}
    (spares : query.sparesExternal = true)
    {proposed answer : Except MonitorError query.Reply} {world world' : ConfigWorld}
    (served : world.serve query proposed = some (answer, world')) :
    storedReloadTs world'.files = storedReloadTs world.files := by
  unfold ConfigWorld.serve at served
  split at served
  case h_5 path content given =>
    have apart : path ≠ .external := by
      rintro rfl
      cases spares
    cases served
    exact storedReloadTs_put_of_ne _ apart _
  all_goals first | (cases served; rfl)

theorem scheduleWatch_spares {query : MonitorQuery}
    (spares : query.sparesExternal = true) (answer : Except MonitorError query.Reply)
    (world : ConfigWorld) (schedule : Schedule) :
    scheduleWatch.call query answer world schedule = schedule := by
  cases query with
  | writeJson path content =>
      cases path with
      | external => cases spares
      | _ => rfl
  | _ => rfl

theorem Spares.yields {body : MonitorM α} (spares : Spares body)
    (assertion : Schedule → Prop) :
    scheduleLedger.Yields assertion body fun _ => assertion := by
  apply yields_of_calls spares
  intro query world world' proposed answer spared kept holds _ served
  obtain ⟨plain, noted⟩ := Host.watch_serve.mp served
  have same := serve_storedReloadTs spared plain
  have notes : world'.2 = world.2 :=
    noted.trans (scheduleWatch_spares spared answer _ _)
  refine ⟨⟨?_, ?_, ?_⟩, ?_⟩
  · rw [notes]
    exact kept.begun
  · rw [notes]
    intro whole reloadTs given
    rw [same]
    rw [notes] at given
    exact kept.stored whole reloadTs given
  · rw [notes]
    exact kept.same
  · change assertion world'.2
    rw [notes]
    exact holds

/-- No schedule was stored before the run, or the run knows of it. -/
def Untouched (schedule : Schedule) : Prop :=
  schedule.begunScheduled = false → schedule.scheduled = none

/-- The schedule from before the run is gone. -/
def Erased (schedule : Schedule) : Prop :=
  schedule.begunScheduled = true → schedule.erased = true

theorem accounted_stored {world : ScheduleWorld} {files : Directory Text}
    {reloadTs : Option Int} (kept : Accounted world)
    (untouched : Untouched world.2) (unread : reloadTs = none ∨ Erased world.2)
    (written : storedReloadTs files = reloadTs) :
    Accounted ({ world.1 with files }, world.2.stored reloadTs) ∧
      Erased (world.2.stored reloadTs) ∧
      (reloadTs = none → Untouched (world.2.stored reloadTs)) := by
  obtain ⟨world, scheduled, begun, erased, overwritten⟩ := world
  obtain ⟨begunScheduled, stored, same⟩ := kept
  simp only [Untouched, Erased, Scheduled, Schedule.stored] at *
  subst same written
  cases begun with
  | false =>
      obtain rfl := untouched rfl
      refine ⟨⟨?_, ?_, ?_⟩, ?_, ?_⟩
      · rintro ⟨⟩
      · intro _ reloadTs given
        simpa [Schedule.stored] using given
      · simp
      · rintro ⟨⟩
      · intro unscheduled _
        simpa using unscheduled
  | true =>
      obtain ⟨reloadTs, rfl⟩ := Option.isSome_iff_exists.mp (begunScheduled rfl)
      have gone : (erased || (some reloadTs).isSome &&
          storedReloadTs files != some reloadTs) = true := by
        rcases unread with unscheduled | already
        · simp [unscheduled]
        · simp [already rfl]
      refine ⟨⟨?_, ?_, ?_⟩, ?_, ?_⟩
      · intro _
        rfl
      · intro whole
        rw [gone] at whole
        cases whole
      · rw [gone, Bool.or_true]
      · intro _
        exact gone
      · rintro _ ⟨⟩

/-- Writing nothing over a schedule erases it, and nobody else does. -/
theorem updateExternalConfig_yields (estate : ExternalState)
    (before : Schedule → Prop)
    (untouched : ∀ schedule, before schedule → Untouched schedule)
    (unread : ∀ schedule, before schedule →
      estate.reloadTs = none ∨ Erased schedule) :
    scheduleLedger.Yields before
      (ConfigActionManager.updateExternalConfig estate)
      fun _ schedule => Erased schedule ∧
        (estate.reloadTs = none → Untouched schedule) := by
  apply yields_invoke
  intro world world' proposed answer kept holds _ served
  obtain ⟨plain, noted⟩ := Host.watch_serve.mp served
  cases answer with
  | error error =>
      have same : world' = world := Prod.ext (serve_error plain) noted
      rw [same]
      refine ⟨kept, ?_⟩
      rintro _ ⟨⟩
  | ok reply =>
      obtain ⟨_, written⟩ := serve_writeJson plain
      have stored := storedReloadTs_estate world.1.files estate
      have notes : world'.2 = world.2.stored estate.reloadTs := by
        rw [noted, ← stored]
        rfl
      have same : world' = ({ world.1 with
          files := world.1.files.put .external estate.document.text },
            world.2.stored estate.reloadTs) := Prod.ext written notes
      obtain ⟨kept', holds'⟩ :=
        accounted_stored kept (untouched _ holds) (unread _ holds) stored
      rw [same]
      exact ⟨kept', fun _ _ => holds'⟩

theorem erased_of_unscheduled {world : ScheduleWorld} (kept : Accounted world)
    (unscheduled : storedReloadTs world.1.files = none) : Erased world.2 := by
  intro begun
  by_contra whole
  obtain ⟨reloadTs, given⟩ := Option.isSome_iff_exists.mp (kept.begun begun)
  have stored := kept.stored (Bool.eq_false_iff.mpr whole) reloadTs given
  rw [unscheduled] at stored
  cases stored

theorem externalStateCheck_yields (checks : ConfigChecks)
    (unscheduled : checks.estate.reloadTs = none) :
    scheduleLedger.Yields Untouched (check checks.externalState)
      fun passed schedule =>
        Untouched schedule ∧ (passed = true → Erased schedule) := by
  apply yields_bind fun files schedule =>
    Untouched schedule ∧ (storedReloadTs files = none → Erased schedule)
  · apply yields_invoke
    intro world world' proposed answer kept holds _ served
    obtain ⟨plain, noted⟩ := Host.watch_serve.mp served
    cases answer with
    | error error =>
        have same : world' = world := Prod.ext (serve_error plain) noted
        rw [same]
        refine ⟨kept, ?_⟩
        rintro _ ⟨⟩
    | ok files =>
        obtain ⟨unchanged, given, rfl⟩ := serve_readFiles plain
        have same : world' = world := Prod.ext unchanged noted
        rw [same]
        refine ⟨kept, ?_⟩
        rintro _ ⟨⟩
        refine ⟨holds, ?_⟩
        intro unstored
        rw [storedReloadTs_seen] at unstored
        exact erased_of_unscheduled kept unstored
  · intro files
    cases evaluated : checks.externalState files with
    | error error => exact yields_raise
    | ok passed =>
        apply yields_pure
        intro schedule holds
        refine ⟨holds.1, ?_⟩
        rintro rfl
        exact holds.2 (storedReloadTs_of_externalState unscheduled evaluated)

/-- No schedule from before the run is left that its next write could erase. -/
def Updatable (schedule : Schedule) : Prop :=
  Untouched schedule ∧ Erased schedule

theorem externalState_yields (am : ConfigActionManager)
    (unscheduled : am.checks.estate.reloadTs = none) {rest : MonitorM α}
    {after : α → Schedule → Prop} (goesOn : scheduleLedger.Yields Updatable rest after) :
    scheduleLedger.Yields Untouched
      (do
        ifNot (← check am.checks.externalState) am.externalState
        rest)
      after := by
  apply yields_bind _ (externalStateCheck_yields am.checks unscheduled)
  intro passed
  apply yields_bind fun _ => Updatable
  · cases passed with
    | true =>
        apply yields_pure
        intro schedule holds
        exact ⟨holds.1, holds.2 rfl⟩
    | false =>
        have writes := updateExternalConfig_yields am.checks.estate
          (fun schedule => Untouched schedule ∧ (false = true → Erased schedule))
          (fun _ holds => holds.1) fun _ _ => .inl unscheduled
        apply writes.weaken
        intro _ schedule holds
        exact ⟨holds.2 unscheduled, holds.1⟩
  · intro _
    exact goesOn

theorem updateReloadTs_yields (am : ConfigActionManager)
    (ipMatched syncNode : Bool) :
    scheduleLedger.Yields Updatable (am.updateReloadTs ipMatched syncNode) fun _ _ => True := by
  have writes : ∀ estate : ExternalState, scheduleLedger.Yields Updatable
      (ConfigActionManager.updateExternalConfig estate) fun _ _ => True := by
    intro estate
    apply Yields.weaken (updateExternalConfig_yields estate Updatable
      (fun _ holds => holds.1) fun _ holds => .inr holds.2)
    intro _ _ _
    trivial
  cases ipMatched with
  | true => exact writes _
  | false =>
      have spares : Spares (ConfigActionManager.nodeIndexInGroup syncNode) := by
        cases syncNode with
        | true => exact calls_pure _
        | false => exact spares_invoke rfl
      apply yields_bind _ (spares.yields Updatable)
      intro nodeIndexInGroup
      cases nodeIndexInGroup with
      | none => exact yields_pure fun _ _ => trivial
      | some nodeIndex =>
          apply yields_bind _
            ((spares_calcReloadTs _ nodeIndex).yields Updatable)
          intro reloadTs
          exact writes _

/-! ### The pipelines -/

theorem spares_isConfigDir : Spares (invoke .isConfigDir) :=
  spares_invoke rfl

theorem spares_configDir : Spares ConfigActionManager.configDir :=
  spares_invoke rfl

theorem regularConfigMonitor_yields (am : ConfigActionManager)
    (unscheduled : am.checks.estate.reloadTs = none) :
    scheduleLedger.Yields Untouched (regularConfigMonitor am) fun _ _ => True := by
  apply yields_bind _ (spares_isConfigDir.yields Untouched)
  intro isDir
  apply yields_bind _ ((spares_ifNot spares_configDir isDir).yields Untouched)
  intro _
  apply yields_bind _ ((spares_check _).yields Untouched)
  intro dkg
  apply yields_bind _ ((spares_ifNot (spares_dkg am) dkg).yields Untouched)
  intro _
  apply externalState_yields am unscheduled
  apply yields_bind _ ((spares_check _).yields Updatable)
  intro upstream
  apply yields_bind _
    ((spares_ifNot (spares_upstreamConfig am) upstream).yields Updatable)
  intro _
  apply yields_bind _ ((spares_check _).yields Updatable)
  intro ips
  apply yields_bind _ (updateReloadTs_yields am ips false)
  intro _
  exact spares_resetConfigRecord.yields fun _ => True

theorem syncConfigMonitor_yields (am : ConfigActionManager)
    (unscheduled : am.checks.estate.reloadTs = none) :
    scheduleLedger.Yields Untouched (syncConfigMonitor am) fun _ _ => True := by
  apply yields_bind _ (spares_isConfigDir.yields Untouched)
  intro isDir
  apply yields_bind _ ((spares_ifNot spares_configDir isDir).yields Untouched)
  intro _
  apply externalState_yields am unscheduled
  apply yields_bind fun _ _ => True
  · cases am.checks.lastDkgSuccessful with
    | false => exact yields_pure fun _ _ => trivial
    | true =>
        apply yields_bind _ ((spares_check _).yields Updatable)
        intro upstream
        cases upstream with
        | true => exact yields_pure fun _ _ => trivial
        | false =>
            apply yields_bind _ ((spares_upstreamConfig am).yields Updatable)
            intro _
            apply yields_bind _ ((spares_check _).yields Updatable)
            intro ips
            exact updateReloadTs_yields am ips true
  · intro _
    exact spares_resetConfigRecord.yields fun _ => True

theorem runConfigMonitor_yields {execute : MonitorM Unit}
    (yields : scheduleLedger.Yields Untouched execute fun _ _ => True) :
    scheduleLedger.Yields Untouched (runConfigMonitor execute)
      fun _ _ => True := by
  apply yields_swallowed
  apply yields_bind _ (spares_updLastSeen.yields Untouched)
  intro _
  apply yields_bind _ yields
  intro _
  exact spares_updLastSeen.yields fun _ => True

theorem runConfigPipeline_yields (syncNode : Bool) (streamVersion : String) :
    scheduleLedger.Yields Untouched (runConfigPipeline syncNode streamVersion)
      fun _ _ => True := by
  have spares := fun (query : MonitorQuery) (spared : query.sparesExternal = true) =>
    (spares_invoke spared).yields Untouched
  apply yields_bind _ (spares .getSchain rfl)
  intro _
  apply yields_bind _ (spares .loadRecord rfl)
  intro schainRecord
  apply yields_bind _ (spares .getRotation rfl)
  intro rotationId
  apply yields_bind _ (spares .getSyncAgentRanges rfl)
  intro ranges
  apply yields_bind _ ((spares_isImaLinked syncNode).yields Untouched)
  intro imaLinked
  apply yields_bind _ (spares .isLastDkgSuccessful rfl)
  intro lastDkgSuccessful
  apply yields_bind _ (spares .getCurrentNodes rfl)
  intro currentNodes
  apply yields_bind _ (spares .getChainId rfl)
  intro chainId
  apply yields_bind _ ((spares_evaluateConfigChecks _).yields Untouched)
  intro _
  apply runConfigMonitor_yields
  cases syncNode with
  | true => exact syncConfigMonitor_yields _ rfl
  | false => exact regularConfigMonitor_yields _ rfl

/-! ### Every run -/

section Steps

variable {config config' : Configuration monitorInterface ScheduleWorld
    (Outcome MonitorError Unit × Unit)}
  {label : Label monitorInterface ConfigMove ConfigJob}

theorem accounted_of_same {world world' : ScheduleWorld}
    (kept : Accounted world) (files : world'.1.files = world.1.files)
    (notes : world'.2 = world.2) : Accounted world' := by
  refine ⟨?_, ?_, ?_⟩
  · rw [notes]
    exact kept.begun
  · intro whole reloadTs given
    rw [files]
    rw [notes] at whole given
    exact kept.stored whole reloadTs given
  · rw [notes]
    exact kept.same

theorem accounted_of_move {world world' : ScheduleWorld} {move : ConfigMove}
    (kept : Accounted world)
    (moved : scheduleHost.move world move = some world') : Accounted world' := by
  obtain ⟨taken, noted⟩ := Host.watch_move.mp moved
  refine accounted_of_same kept ?_ noted
  cases move with
  | upgrade streamVersion => rw [← Option.some.inj taken]
  | setSyncConfigRun => rw [← Option.some.inj taken]

theorem accounted_of_begin {world : ScheduleWorld} (job : ConfigJob)
    (kept : Accounted world) : Accounted (scheduleHost.begin job world) :=
  ⟨fun begun => begun, kept.stored, kept.same⟩

theorem untouched_of_begin (world : ScheduleWorld) (job : ConfigJob) :
    Untouched (scheduleHost.begin job world).2 := by
  intro unscheduled
  exact Option.not_isSome_iff_eq_none.mp (Bool.eq_false_iff.mp unscheduled)

theorem step_accounted (proved : scheduleHost.Proved {} Accounted config)
    (taken : scheduleHost.step config label = some config') :
    scheduleHost.Proved {} Accounted config' := by
  refine Host.step_proved ?_ ?_ ?_ proved (Host.meets_default config label) taken
  · intro world world' move kept _ moved
    exact accounted_of_move kept moved
  · intro world kept
    exact accounted_of_same kept rfl rfl
  · intro world job kept _
    exact ⟨accounted_of_begin job kept, _, _, untouched_of_begin world job,
      runConfigPipeline_yields job.syncNode job.streamVersion⟩

theorem serve_schedule {query : MonitorQuery}
    {proposed answer : Except MonitorError query.Reply} {world world' : ScheduleWorld}
    (served : scheduleHost.serve query proposed world = some (answer, world')) :
    (world'.2 = world.2 ∧ servedUndisturbed query proposed world = true) ∨
    (world'.2 = world.2.stored (storedReloadTs world'.1.files) ∧
      servedUndisturbed query proposed world = !world.2.begunScheduled) := by
  obtain ⟨plain, noted⟩ := Host.watch_serve.mp served
  cases query with
  | writeJson path content =>
      cases path with
      | external =>
          cases proposed with
          | error error =>
              obtain ⟨rfl, _⟩ := Prod.mk.inj (Option.some.inj plain)
              exact .inl ⟨noted, rfl⟩
          | ok reply =>
              obtain ⟨rfl, written⟩ := Prod.mk.inj (Option.some.inj plain)
              refine .inr ⟨?_, rfl⟩
              rw [noted, ← written]
              rfl
      | _ => exact .inl ⟨noted, rfl⟩
  | _ => exact .inl ⟨noted, rfl⟩

theorem step_schedule (taken : scheduleHost.step config label = some config') :
    (∃ begunScheduled,
      config'.world.2 = { config.world.2 with begunScheduled } ∧
        undisturbed.Meets config label) ∨
    (config'.world.2 =
        config.world.2.stored (storedReloadTs config'.world.1.files) ∧
      (undisturbed.Meets config label ↔
        config.world.2.begunScheduled = false)) := by
  rcases Host.step_cases taken with ⟨move, rfl, moved⟩ | ⟨job, rfl, begun⟩ |
    ⟨query, next, proposed, answer, world', rfl, running, served, ended⟩ |
    ⟨rfl, ended⟩
  · refine .inl ⟨config.world.2.begunScheduled, ?_, trivial⟩
    exact (Host.watch_move.mp moved).2
  · refine .inl ⟨config.world.2.scheduled.isSome, ?_, trivial⟩
    rcases begun with same | same
    · rw [same]
      rfl
    · rw [same]
      rfl
  · have notes : config'.world.2 = world'.2 := by
      rcases ended with same | same
      · rw [same]
      · rw [same]
        rfl
    have files : config'.world.1.files = world'.1.files := by
      rcases ended with same | same
      · rw [same]
      · rw [same]
        rfl
    obtain ⟨world, program⟩ := config
    cases running
    rcases serve_schedule served with ⟨unnoted, meets⟩ | ⟨noted, meets⟩
    · exact .inl ⟨world.2.begunScheduled, notes.trans unnoted, meets⟩
    · refine .inr ⟨?_, ?_⟩
      · rw [notes, noted, files]
      · change servedUndisturbed _ _ _ = true ↔ _
        rw [meets, Bool.not_eq_true']
  · refine .inl ⟨config.world.2.begunScheduled, ?_, trivial⟩
    rw [ended]
    rfl

def Whole (config : Configuration monitorInterface ScheduleWorld
    (Outcome MonitorError Unit × Unit)) : Prop :=
  scheduleHost.Proved {} Accounted config ∧ config.world.2.erased = false

theorem step_whole (whole : Whole config) (still : Scheduled config'.world)
    (taken : scheduleHost.step config label = some config') : Whole config' := by
  refine ⟨step_accounted whole.1 taken, ?_⟩
  rcases step_schedule taken with ⟨begun, noted, _⟩ | ⟨noted, _⟩
  · rw [noted]
    exact whole.2
  · rw [noted]
    cases given : config.world.2.scheduled with
    | none => simp [Schedule.stored, whole.2, given]
    | some reloadTs =>
        have stored := still reloadTs (by simp [noted, Schedule.stored, given])
        simp [Schedule.stored, whole.2, given, stored]

theorem step_scheduled_iff (whole : Whole config)
    (taken : scheduleHost.step config label = some config') :
    Scheduled config'.world ↔ undisturbed.Meets config label := by
  have kept := whole.1.1
  have unerased := whole.2
  have kept' := (step_accounted whole.1 taken).1
  rcases step_schedule taken with ⟨begun, noted, meets⟩ | ⟨noted, meets⟩
  · refine iff_of_true (kept'.stored ?_) meets
    rw [noted]
    exact unerased
  · have accounted : config'.world.2.erased = config.world.2.begunScheduled := by
      have unwritten := kept.same.symm.trans unerased
      rw [kept'.same, noted]
      simp [Schedule.stored, unwritten]
    rw [meets, ← accounted]
    constructor
    · intro still
      exact (step_whole whole still taken).2
    · exact kept'.stored

end Steps

def matchesIps (nodes : List NodeInfo) (files : Directory Text) : Bool :=
  let checks : ConfigChecks := {
    schainRecord := newSchain.row, rotationId := 0, streamVersion := ""
    currentIps := getCurrentIps nodes, estate := { chainId := 0, ranges := [] }
    lastDkgSuccessful := true }
  match checks.skaledNodeIps files with
  | .ok matched => matched
  | .error _ => false

def servedUnmatched (nodes : List NodeInfo) : (query : MonitorQuery) →
    Except MonitorError query.Reply → ScheduleWorld → Bool
  | .getCurrentNodes, .ok given, _ => given == nodes
  | .readFiles, .ok given, world =>
      !matchesIps nodes (ConfigWorld.seen world.1.files given)
  | _, _, _ => true

abbrev unmatched (nodes : List NodeInfo) : Host.Discipline monitorInterface
    ScheduleWorld ConfigMove ConfigJob :=
  .ofTest (servedUnmatched nodes)

def ipConfig (ip : Text) : Document where
  fields := [("skaleConfig".toList, .obj [("sChain".toList,
    .obj [("nodes".toList, .arr [.obj [("ip".toList, .str ip)]])])])]
  wellFormed := by
    refine .obj _ (List.nodup_singleton _) fun _ member => ?_
    obtain rfl := List.mem_singleton.mp member
    refine .obj _ (List.nodup_singleton _) fun _ member => ?_
    obtain rfl := List.mem_singleton.mp member
    refine .obj _ (List.nodup_singleton _) fun _ member => ?_
    obtain rfl := List.mem_singleton.mp member
    refine .arr _ fun _ member => ?_
    obtain rfl := List.mem_singleton.mp member
    refine .obj _ (List.nodup_singleton _) fun _ member => ?_
    obtain rfl := List.mem_singleton.mp member
    exact .str ip

def movedNode : NodeInfo := ⟨"10.0.0.2".toList, 100⟩

def changedIp : (query : MonitorQuery) → Except MonitorError query.Reply
  | .getCurrentNodes => .ok [movedNode]
  | .createNewUpstreamConfig _ => .ok (.ofDocument (ipConfig movedNode.ip))
  | query => firstPass true query

def regularPass (calls : Nat) :
    List (Label monitorInterface ConfigMove ConfigJob) :=
  .start { syncNode := false, streamVersion := "2.0.0" } ::
    List.replicate calls (.call changedIp)

end SkaleAdmin.Monitor
