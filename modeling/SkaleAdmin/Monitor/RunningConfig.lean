import SkaleAdmin.Monitor.SkaledFootprint

/-! The config that skaled has been started with and the one on disk, while the skaled
pipelines of an sChain run one after the other. -/

namespace SkaleAdmin.Monitor

open Interaction PyText Json Config
open Interaction.Procedure (Calls calls_pure calls_raise calls_bind calls_invoke)
open Interaction.Ledger (Yields yields_pure yields_raise yields_bind yields_of_calls
  yields_swallowed yields_invoke yields_of_fact)

/-- `process` is the skaled config that the running skaled has read. -/
structure RunWorld where
  files : Directory Text
  process : Option Text := none
  dockerUp : Bool := true
  /-- What a copy that fails leaves of the skaled config, if it touches it at all. -/
  leftover : Option Text := none
  /-- The pipeline has seen the container not running and has not started it since. -/
  sawStopped : Bool := false
  /-- The status file that was read last tells that the exit time is reached. -/
  exitReached : Bool := false
  /-- The skaled config was overwritten under a running skaled or before its time. -/
  rash : Bool := false

inductive RunMove where
  /-- The config pipeline or an operator. -/
  | write (path : FileName) (text : Text)
  | exit
  /-- Docker or an operator. -/
  | restart
  | setDocker (up : Bool)
  | setLeftover (text : Option Text)

namespace RunWorld

variable (world : RunWorld)

def stored : Option Text :=
  world.files.read .skaled

/-- Without its config skaled exits at once. -/
def booted : RunWorld :=
  { world with process := world.stored, sawStopped := false }

def overwritten (text : Text) : RunWorld :=
  { world with
    files := world.files.put .skaled text
    rash := world.rash || world.process.isSome || (world.stored.isSome && !world.exitReached) }

def latestUpstreamText : Option Text :=
  (latestUpstream world.files.names).bind fun filename =>
    world.files.read (.upstream filename)

/-- Only a skaled pipeline writes the skaled config. -/
def move : RunMove → Option RunWorld
  | .write path text =>
      if path = .skaled then none
      else some { world with files := world.files.put path text }
  | .exit => some { world with process := none }
  | .restart => some { world with process := world.stored }
  | .setDocker dockerUp => some { world with dockerUp }
  | .setLeftover leftover => some { world with leftover }

/-- `DockerUtils.restart` passes over an error of Docker. -/
def serve (query : MonitorQuery) (proposed : Except MonitorError query.Reply)
    (world : RunWorld) : Option (Except MonitorError query.Reply × RunWorld) :=
  match query, proposed with
  | .syncSkaledConfigWithUpstream, .error error =>
      some (.error error, world.leftover.elim world world.overwritten)
  | .syncSkaledConfigWithUpstream, .ok _ =>
      some (.ok world.latestUpstreamText.isSome,
        world.latestUpstreamText.elim world world.overwritten)
  | .runSchainContainer .., .error error | .restartContainer _, .error error =>
      some (.error error, { world with sawStopped := false })
  | .runSchainContainer .., .ok _ => some (.ok (), world.booted)
  | .restartContainer _, .ok _ =>
      some (.ok (), if world.dockerUp then world.booted else { world with sawStopped := false })
  | _, .error error => some (.error error, world)
  | .isContainerRunning .schain, .ok _ =>
      some (.ok world.process.isSome, { world with sawStopped := world.process.isNone })
  | .removeContainer .schain, .ok found =>
      some (.ok found, if found then { world with process := none } else world)
  | .readSkaledStatus, .ok status =>
      some (.ok status, { world with
        exitReached := status.exitTimeReached.toOption.getD false })
  | .readFiles, .ok _ => some (.ok world.files, world)
  | .observeEndpoint _, .ok seen => some (.ok (world.files, seen.2), world)
  | .observeBlocks, .ok seen => some (.ok (world.files, seen.2), world)
  | .observeRules, .ok seen => some (.ok (world.files, seen.2), world)
  | _, .ok reply => some (.ok reply, world)

end RunWorld

/-- Where `start_tasks` fetches the upstream config anew. -/
def removesSkaledConfig (schainRecord : Web.SChainRecord) (streamVersion : String) : Bool :=
  schainRecord .configVersion != streamVersion ||
    schainRecord .syncConfigRun && schainRecord .firstRun

inductive RunJob where
  /-- `start_tasks` before it executes the tasks. -/
  | startTasks (schainRecord : Web.SChainRecord) (streamVersion : String)
  | pipeline (settings : SkaledSettings)
  /-- The cleaner, which has terminated the monitor of the chain before. -/
  | cleanup

def runHost : Host monitorInterface RunWorld RunMove RunJob
    (Outcome MonitorError Unit × Unit) where
  move := RunWorld.move
  serve := RunWorld.serve
  job
    | .pipeline settings => runSkaledPipeline settings ()
    | .startTasks .. | .cleanup => .done (.value (), ())
  begin
    | .startTasks schainRecord streamVersion, world =>
        if removesSkaledConfig schainRecord streamVersion then
          { world with files := world.files.remove .skaled }
        else world
    | .pipeline _, world => { world with sawStopped := false, exitReached := false }
    | .cleanup, world => { world with files := [], process := none }
  finish world := { world with sawStopped := false }

def isUndisturbing (world : RunWorld) : RunMove → Bool
  | .restart => !world.sawStopped
  | _ => true

/-- Skaled is stopped while its config is fetched anew. -/
def isStopped (world : RunWorld) : RunJob → Bool
  | .startTasks schainRecord streamVersion =>
      !removesSkaledConfig schainRecord streamVersion || world.process.isNone
  | _ => true

abbrev skaledUndisturbed : Host.Discipline monitorInterface RunWorld RunMove RunJob where
  move world move := isUndisturbing world move = true
  start world job := isStopped world job = true

/-! ### What is kept -/

structure RunKept (world : RunWorld) : Prop where
  loaded : ∀ text, world.process = some text → world.stored = some text
  stopped : world.sawStopped = true → world.process = none
  careful : world.rash = false

namespace RunKept

variable {world world' : RunWorld}

theorem booted (kept : RunKept world) : RunKept world.booted where
  loaded _ read := read
  stopped := by rintro ⟨⟩
  careful := kept.careful

theorem started (kept : RunKept world) : RunKept { world with sawStopped := false } where
  loaded := kept.loaded
  stopped := by rintro ⟨⟩
  careful := kept.careful

theorem exited (kept : RunKept world) : RunKept { world with process := none } where
  loaded := by rintro text ⟨⟩
  stopped _ := rfl
  careful := kept.careful

theorem seen (kept : RunKept world) :
    RunKept { world with sawStopped := world.process.isNone } where
  loaded := kept.loaded
  stopped := Option.isNone_iff_eq_none.mp
  careful := kept.careful

theorem of_same (kept : RunKept world) (stored : world'.stored = world.stored)
    (process : world'.process = world.process)
    (sawStopped : world'.sawStopped = world.sawStopped) (rash : world'.rash = world.rash) :
    RunKept world' where
  loaded := by
    rw [stored, process]
    exact kept.loaded
  stopped := by
    rw [sawStopped, process]
    exact kept.stopped
  careful := rash.trans kept.careful

/-- There is no running skaled that could be overwritten. -/
theorem overwritten (kept : RunKept world) (down : world.process = none)
    (due : world.stored.isSome = true → world.exitReached = true) (text : Text) :
    RunKept (world.overwritten text) where
  loaded := by
    intro read running
    rw [show (world.overwritten text).process = world.process from rfl, down] at running
    cases running
  stopped _ := down
  careful := by
    unfold RunWorld.overwritten
    simp only [kept.careful, down, Option.isSome_none, Bool.false_or]
    cases there : world.stored.isSome with
    | false => rfl
    | true => simp [due there]

theorem of_elim (kept : RunKept world) (down : world.process = none)
    (due : world.stored.isSome = true → world.exitReached = true) (text : Option Text) :
    RunKept (text.elim world world.overwritten) := by
  cases text with
  | none => exact kept
  | some text => exact kept.overwritten down due text

theorem of_move {move : RunMove} (kept : RunKept world)
    (undisturbing : isUndisturbing world move = true)
    (moved : world.move move = some world') : RunKept world' := by
  cases move with
  | write path text =>
      obtain ⟨apart, taken⟩ := Option.ite_none_left_eq_some.mp moved
      cases taken
      exact kept.of_same (Directory.read_put_of_ne _ _ (Ne.symm apart)) rfl rfl rfl
  | exit =>
      cases moved
      exact kept.exited
  | restart =>
      cases moved
      have unseen : world.sawStopped = false := by simpa [isUndisturbing] using undisturbing
      refine ⟨fun _ read => read, ?_, kept.careful⟩
      intro stopped
      rw [show _ = false from unseen] at stopped
      cases stopped
  | setDocker up =>
      cases moved
      exact kept.of_same rfl rfl rfl rfl
  | setLeftover text =>
      cases moved
      exact kept.of_same rfl rfl rfl rfl

theorem of_startTasks (kept : RunKept world) {schainRecord : Web.SChainRecord}
    {streamVersion : String}
    (stopped : isStopped world (.startTasks schainRecord streamVersion) = true) :
    RunKept (runHost.begin (.startTasks schainRecord streamVersion) world) := by
  change RunKept (if removesSkaledConfig schainRecord streamVersion then _ else _)
  split
  case isFalse => exact kept
  case isTrue removes =>
    have down : world.process = none := by simpa [isStopped, removes] using stopped
    refine ⟨fun text running => ?_, fun _ => down, kept.careful⟩
    rw [show _ = none from down] at running
    cases running

end RunKept

/-! ### Calls -/

structure RunSeen where
  stopped : Bool
  reached : Bool
  stored : Bool

def RunWorld.seen (world : RunWorld) : RunSeen :=
  ⟨world.sawStopped, world.exitReached, world.stored.isSome⟩

theorem seen_of_move {world world' : RunWorld} {move : RunMove}
    (moved : world.move move = some world') : world'.seen = world.seen := by
  cases move with
  | write path text =>
      obtain ⟨apart, taken⟩ := Option.ite_none_left_eq_some.mp moved
      cases taken
      unfold RunWorld.seen RunWorld.stored
      rw [Directory.read_put_of_ne _ _ (Ne.symm apart)]
  | _ =>
      cases moved
      rfl

def runLedger : Ledger monitorInterface RunWorld RunMove RunJob
    (Outcome MonitorError Unit × Unit) RunSeen where
  host := runHost
  discipline := skaledUndisturbed
  invariant := RunKept
  view := RunWorld.seen
  unmoved _ _ _ := seen_of_move

/-- The skaled config may be overwritten. -/
def Due (seen : RunSeen) : Prop :=
  seen.stopped = true ∧ seen.reached = true ∨ seen.stored = false

theorem RunKept.down {world : RunWorld} (kept : RunKept world) (due : Due world.seen) :
    world.process = none ∧ (world.stored.isSome = true → world.exitReached = true) := by
  rcases due with ⟨stopped, reached⟩ | missing
  · exact ⟨kept.stopped stopped, fun _ => reached⟩
  · have none : world.stored.isSome = false := missing
    refine ⟨?_, fun there => ?_⟩
    · cases running : world.process with
      | none => rfl
      | some text =>
          rw [kept.loaded text running] at none
          cases none
    · rw [none] at there
      cases there

section Served

variable {world world' : RunWorld} {query : MonitorQuery}
  {proposed answer : Except MonitorError query.Reply}

/-- The calls that change nothing that is seen, but that skaled may be seen to have
stopped. -/
def MonitorQuery.isSteady : MonitorQuery → Bool
  | syncSkaledConfigWithUpstream | runSchainContainer .. | restartContainer _ => false
  | _ => true

theorem run_serve_kept (apart : query ≠ .syncSkaledConfigWithUpstream) (kept : RunKept world)
    (served : world.serve query proposed = some (answer, world')) :
    RunKept world' ∧ world'.stored = world.stored := by
  unfold RunWorld.serve at served
  split at served
  case h_1 | h_2 => exact absurd rfl apart
  case h_3 | h_4 =>
    cases served
    exact ⟨kept.started, rfl⟩
  case h_5 =>
    cases served
    exact ⟨kept.booted, rfl⟩
  case h_6 =>
    cases served
    split
    · exact ⟨kept.booted, rfl⟩
    · exact ⟨kept.started, rfl⟩
  case h_8 =>
    cases served
    exact ⟨kept.seen, rfl⟩
  case h_9 =>
    cases served
    split
    · exact ⟨kept.exited, rfl⟩
    · exact ⟨kept, rfl⟩
  all_goals
    cases served
    exact ⟨kept.of_same rfl rfl rfl rfl, rfl⟩

theorem run_serve_steady (steady : query.isSteady = true) (kept : RunKept world)
    (served : world.serve query proposed = some (answer, world')) :
    (world.sawStopped = true → world'.sawStopped = true) ∧
      (query ≠ .readSkaledStatus → world'.exitReached = world.exitReached) := by
  unfold RunWorld.serve at served
  split at served
  case h_1 | h_2 | h_3 | h_4 | h_5 | h_6 => cases steady
  case h_8 =>
    cases served
    refine ⟨fun stopped => ?_, fun _ => rfl⟩
    exact Option.isNone_iff_eq_none.mpr (kept.stopped stopped)
  case h_9 =>
    cases served
    split
    · exact ⟨id, fun _ => rfl⟩
    · exact ⟨id, fun _ => rfl⟩
  case h_10 =>
    cases served
    exact ⟨id, fun apart => absurd rfl apart⟩
  all_goals
    cases served
    exact ⟨id, fun _ => rfl⟩

end Served

/-! ### Which calls overwrite nothing -/

def MonitorQuery.spares : MonitorQuery → Bool
  | syncSkaledConfigWithUpstream => false
  | _ => true

def SkaledMonitor.overwrites : SkaledMonitor → Bool
  | updateConfig | noConfig => true
  | _ => false

abbrev Unsynced {α : Type} (body : MonitorM α) : Prop :=
  body.Calls fun query : MonitorQuery => query.spares = true

theorem spares_of_ordinary (query : MonitorQuery) (ordinary : query.isOrdinary = true) :
    query.spares = true := by
  cases query with
  | syncSkaledConfigWithUpstream => cases ordinary
  | _ => rfl

section Unsynced

variable {α : Type} (am : SkaledActionManager)

theorem unsynced_invoke {query : MonitorQuery} (spares : query.spares = true) :
    Unsynced (invoke query) :=
  calls_invoke spares

theorem unsynced_plain {body : MonitorM α} (plain : Plain body) : Unsynced body :=
  calls_plain spares_of_ordinary plain

theorem unsynced_firewallRulesCheck : Unsynced SkaledActionManager.firewallRulesCheck :=
  calls_bind (unsynced_invoke rfl) fun _ => calls_evaluate _

theorem unsynced_handleRules {rest : Unit → MonitorM α}
    (unsynced : ∀ done, Unsynced (rest done)) :
    Unsynced (do
      let passed ← SkaledActionManager.firewallRulesCheck
      let done ← ifNot passed SkaledActionManager.firewallRules
      rest done) := by
  refine calls_bind unsynced_firewallRulesCheck fun passed => ?_
  refine calls_bind (calls_ifNot ?_ passed) unsynced
  refine calls_bind unsynced_firewallRulesCheck fun passed => calls_ifNot ?_ passed
  refine calls_bind (unsynced_invoke rfl) fun files => ?_
  refine calls_bind (calls_evaluate _) fun conf => ?_
  refine calls_bind (calls_evaluate _) fun basePort => ?_
  refine calls_bind (calls_evaluate _) fun nodeIps => ?_
  refine calls_bind (calls_evaluate _) fun ownIp => ?_
  refine calls_bind (unsynced_invoke rfl) fun files => ?_
  exact calls_bind (calls_evaluate _) fun ranges => unsynced_invoke rfl

theorem unsynced_ensureVolume {rest : Unit → MonitorM α}
    (unsynced : ∀ done, Unsynced (rest done)) :
    Unsynced (do
      let found ← invoke .isVolumeExists
      let done ← ifNot found SkaledActionManager.volume
      rest done) := by
  refine calls_bind (unsynced_invoke rfl) fun found => ?_
  exact calls_bind (calls_ifNot
    (SkaledActionManager.calls_volume spares_of_ordinary) found) unsynced

theorem unsynced_ensureImaContainer {rest : Unit → MonitorM α}
    (unsynced : ∀ done, Unsynced (rest done)) :
    Unsynced (do
      let passed ← am.imaContainerCheck
      let done ← ifNot passed am.imaContainer
      rest done) := by
  refine calls_bind (am.calls_imaContainerCheck spares_of_ordinary) fun passed => ?_
  exact calls_bind (calls_ifNot (am.calls_imaContainer spares_of_ordinary) passed) unsynced

theorem unsynced_skaledContainer (downloadSnapshot : Bool) (startTs : Option Int)
    (abortOnExit : Bool) :
    Unsynced (am.skaledContainer downloadSnapshot startTs abortOnExit) :=
  am.calls_skaledContainer spares_of_ordinary (fun _ _ => rfl) startTs abortOnExit

theorem unsynced_watchSkaled (upstreamRules : Bool) :
    Unsynced (am.watchSkaled upstreamRules) :=
  am.calls_watchSkaled spares_of_ordinary rfl (fun _ _ _ _ => rfl) (fun _ _ => rfl) rfl _

theorem unsynced_setRecord (setter : Web.Setter) : Unsynced (setRecord setter) :=
  calls_setRecord spares_of_ordinary setter

theorem unsynced_scheduleSkaledExit (exitTs : Option Int) :
    Unsynced (SkaledActionManager.scheduleSkaledExit exitTs) := by
  have scheduled : Unsynced SkaledActionManager.isExitScheduled :=
    calls_ite (unsynced_plain (plain_skaledFlag _)) (calls_pure _) (unsynced_invoke rfl)
  refine calls_ite scheduled (calls_pure _) ?_
  cases exitTs with
  | none => exact calls_pure _
  | some exitTs => exact unsynced_invoke rfl

theorem unsynced_removeIfExists (type : ContainerType) :
    Unsynced (SkaledActionManager.removeIfExists type) :=
  SkaledActionManager.calls_removeIfExists spares_of_ordinary type

theorem unsynced_resetCounters : Unsynced SkaledActionManager.resetCounters :=
  SkaledActionManager.calls_resetCounters spares_of_ordinary

theorem unsynced_execute {monitor : SkaledMonitor} (spares : monitor.overwrites = false) :
    Unsynced (am.execute monitor) := by
  cases monitor with
  | updateConfig | noConfig => cases spares
  | regular =>
      refine calls_bind (unsynced_watchSkaled am _) fun _ => ?_
      exact calls_bind (am.calls_imaContainerCheck spares_of_ordinary) fun _ =>
        calls_ifNot (am.calls_imaContainer spares_of_ordinary) _
  | repair =>
      refine calls_bind (unsynced_invoke rfl) fun _ => ?_
      refine calls_bind (unsynced_invoke rfl) fun _ => ?_
      refine calls_bind (calls_bind (unsynced_invoke rfl) fun _ => unsynced_invoke rfl)
        fun _ => ?_
      apply unsynced_handleRules
      intro _
      apply unsynced_ensureVolume
      intro _
      refine calls_ite (unsynced_invoke rfl) (calls_raise _) ?_
      refine calls_bind (unsynced_skaledContainer am _ _ _) fun _ => ?_
      exact calls_bind (unsynced_invoke rfl) fun _ => unsynced_setRecord _
  | backup =>
      apply unsynced_ensureVolume
      intro _
      apply unsynced_handleRules
      intro _
      refine calls_bind (SkaledActionManager.calls_containerOrReset spares_of_ordinary
        (unsynced_skaledContainer am _ _ _)) fun _ => ?_
      apply unsynced_ensureImaContainer
      exact fun _ => unsynced_setRecord _
  | recreate =>
      apply unsynced_ensureVolume
      intro _
      refine calls_bind (unsynced_removeIfExists _) fun _ => ?_
      exact calls_bind unsynced_resetCounters fun _ => unsynced_skaledContainer am _ _ _
  | reloadGroup =>
      refine calls_bind (unsynced_watchSkaled am _) fun _ => ?_
      apply unsynced_ensureImaContainer
      intro _
      exact calls_bind (unsynced_plain SkaledActionManager.plain_upstreamFinishTs) fun _ =>
        unsynced_scheduleSkaledExit _
  | reloadIp =>
      refine calls_bind (unsynced_watchSkaled am _) fun _ => ?_
      apply unsynced_ensureImaContainer
      intro _
      exact calls_bind (unsynced_plain SkaledActionManager.plain_reloadTs) fun _ =>
        unsynced_scheduleSkaledExit _
  | newNode =>
      apply unsynced_ensureVolume
      intro _
      apply unsynced_handleRules
      intro _
      refine calls_bind (SkaledActionManager.calls_containerOrReset spares_of_ordinary ?_)
        fun _ => ?_
      · exact calls_bind (unsynced_plain SkaledActionManager.plain_finishTs) fun _ =>
          unsynced_skaledContainer am _ _ _
      · exact calls_bind (am.calls_imaContainerCheck spares_of_ordinary) fun _ =>
          calls_ifNot (am.calls_imaContainer spares_of_ordinary) _

end Unsynced

/-! ### A pipeline -/

section Pipeline

variable {α : Type}

theorem runYields_unsynced (assertion : Bool → Prop) {body : MonitorM α}
    (unsynced : Unsynced body) :
    runLedger.Yields (fun seen => assertion seen.stored) body
      fun _ seen => assertion seen.stored := by
  apply yields_of_calls unsynced
  intro query world world' proposed answer spares kept holds _ served
  have apart : query ≠ .syncSkaledConfigWithUpstream := by
    rintro rfl
    cases spares
  obtain ⟨kept', stored⟩ := run_serve_kept apart kept served
  refine ⟨kept', ?_⟩
  change assertion world'.stored.isSome
  rw [stored]
  exact holds

def Checked (status : CheckStatus) (seen : RunSeen) : Prop :=
  (status.config = false → seen.stored = false) ∧
    (status.skaledContainer = false → seen.stopped = true)

theorem isSteady_of_plain {query : MonitorQuery} (plain : query.isPlain = true) :
    query.isSteady = true := by
  cases query <;> first | rfl | cases plain

theorem runYields_plain {body : MonitorM α} {status : CheckStatus} (plain : Plain body) :
    runLedger.Yields (Checked status) body fun _ => Checked status := by
  apply yields_of_calls plain
  intro query world world' proposed answer plain kept holds _ served
  have steady := isSteady_of_plain plain
  have apart : query ≠ .syncSkaledConfigWithUpstream := by
    rintro rfl
    cases plain
  obtain ⟨kept', stored⟩ := run_serve_kept apart kept served
  obtain ⟨stopped, _⟩ := run_serve_steady steady kept served
  refine ⟨kept', fun missing => ?_, fun down => stopped (holds.2 down)⟩
  change world'.stored.isSome = false
  rw [stored]
  exact holds.1 missing

theorem runYields_due {query : MonitorQuery} (steady : query.isSteady = true)
    (apart : query ≠ .readSkaledStatus) :
    runLedger.Yields Due (invoke query) fun _ => Due := by
  apply yields_invoke
  intro world world' proposed answer kept due _ served
  have unsynced : query ≠ .syncSkaledConfigWithUpstream := by
    rintro rfl
    cases steady
  obtain ⟨kept', stored⟩ := run_serve_kept unsynced kept served
  obtain ⟨stopped, reached⟩ := run_serve_steady steady kept served
  refine ⟨kept', fun _ _ => ?_⟩
  rcases due with ⟨down, exited⟩ | missing
  · exact .inl ⟨stopped down, (reached apart).trans exited⟩
  · refine .inr ?_
    change world'.stored.isSome = false
    rw [stored]
    exact missing

theorem runYields_updateConfig :
    runLedger.Yields Due SkaledActionManager.updateConfig fun _ _ => True := by
  refine yields_bind (fun _ _ => True) ?_ fun _ => yields_pure fun _ _ => trivial
  apply yields_invoke
  intro world world' proposed answer kept due _ served
  obtain ⟨down, exited⟩ := kept.down due
  refine ⟨?_, fun _ _ => trivial⟩
  cases proposed with
  | ok given =>
      cases served
      exact kept.of_elim down exited _
  | error error =>
      cases served
      exact kept.of_elim down exited _

theorem runYields_check {status : Directory Text → Evaluated Bool} :
    runLedger.Yields Due (check status) fun _ => Due := by
  refine yields_bind _ (runYields_due rfl (by rintro ⟨⟩)) fun files => ?_
  split
  · exact yields_pure fun _ due => due
  · exact yields_raise

theorem runYields_updLastSeen : runLedger.Yields Due updLastSeen fun _ => Due := by
  refine yields_bind _ (runYields_due rfl (by rintro ⟨⟩)) fun record => ?_
  refine yields_bind _ (runYields_due rfl (by rintro ⟨⟩)) fun now => ?_
  have saves : runLedger.Yields Due (setOn record (Web.setMonitorLastSeen now))
      fun _ => Due :=
    yields_bind _ (runYields_due rfl (by rintro ⟨⟩)) fun _ => yields_pure fun _ due => due
  exact yields_bind _ saves fun _ => yields_pure fun _ due => due

theorem runYields_configCheck :
    runLedger.Yields (fun _ => True) (check fun files => .ok (SkaledChecks.config files))
      fun there seen => there = false → seen.stored = false := by
  refine yields_bind (fun files seen => (files.read .skaled).isSome = seen.stored) ?_
    fun files => yields_pure fun seen same missing => by rw [← same]; exact missing
  apply yields_invoke
  intro world world' proposed answer kept _ _ served
  obtain ⟨kept', _⟩ := run_serve_kept (by rintro ⟨⟩) kept served
  refine ⟨kept', ?_⟩
  rintro files rfl
  cases proposed with
  | error error => cases served
  | ok given =>
      cases served
      rfl

theorem runYields_isContainerRunning {there : Bool} :
    runLedger.Yields (fun seen => there = false → seen.stored = false)
      (invoke (.isContainerRunning .schain))
      fun running seen => (there = false → seen.stored = false) ∧
        (running = false → seen.stopped = true) := by
  apply yields_invoke
  intro world world' proposed answer kept holds _ served
  obtain ⟨kept', stored⟩ := run_serve_kept (by rintro ⟨⟩) kept served
  refine ⟨kept', ?_⟩
  rintro running rfl
  refine ⟨fun missing => ?_, fun down => ?_⟩
  · change world'.stored.isSome = false
    rw [stored]
    exact holds missing
  · cases proposed with
    | error error => cases served
    | ok given =>
        obtain ⟨answered, rfl⟩ := Prod.mk.inj (Option.some.inj served)
        obtain rfl := Except.ok.inj answered
        change world.process.isNone = true
        cases running : world.process with
        | none => rfl
        | some text =>
            rw [running] at down
            cases down

theorem runYields_getAllChecks (am : SkaledActionManager) :
    runLedger.Yields (fun _ => True) am.getAllChecks Checked := by
  have unseen : ∀ {α : Type} {body : MonitorM α}, Unsynced body →
      runLedger.Yields (fun _ => True) body fun _ _ => True :=
    fun unsynced => runYields_unsynced (fun _ => True) unsynced
  refine yields_bind _ (unseen (unsynced_plain SkaledActionManager.plain_blocksCheck))
    fun _ => ?_
  refine yields_bind _ runYields_configCheck fun config => ?_
  have keeps : ∀ {α : Type} {body : MonitorM α}, Unsynced body →
      runLedger.Yields (fun seen => config = false → seen.stored = false) body
        fun _ seen => config = false → seen.stored = false :=
    fun unsynced =>
      runYields_unsynced (fun stored => config = false → stored = false) unsynced
  refine yields_bind _ (keeps (calls_check (by rfl) _)) fun configUpdated => ?_
  refine yields_bind _ (keeps (unsynced_invoke rfl)) fun _ => ?_
  refine yields_bind _ (keeps (unsynced_invoke rfl)) fun _ => ?_
  refine yields_bind _ (keeps (calls_ifNot (calls_bind (unsynced_invoke rfl)
    fun _ => calls_pure _) _)) fun _ => ?_
  refine yields_bind _ (keeps unsynced_firewallRulesCheck) fun _ => ?_
  refine yields_bind _ (keeps (am.calls_imaContainerCheck spares_of_ordinary)) fun _ => ?_
  refine yields_bind _ (keeps (unsynced_invoke rfl)) fun _ => ?_
  refine yields_bind _ (keeps (calls_check (by rfl) _)) fun _ => ?_
  refine yields_bind _ (keeps (am.calls_rpcCheck spares_of_ordinary)) fun _ => ?_
  refine yields_bind _ runYields_isContainerRunning fun skaledContainer => ?_
  let status : CheckStatus := { config, configUpdated, skaledContainer }
  have checked : ∀ {α : Type} {body : MonitorM α}, Plain body →
      runLedger.Yields (Checked status) body fun _ => Checked status := runYields_plain
  refine yields_bind _ (checked (calls_check (by rfl) _)) fun _ => ?_
  refine yields_bind _ (checked (plain_invoke rfl)) fun _ => ?_
  exact yields_pure fun _ holds => holds

section Choice

variable {choice : MonitorChoice}

def Permitted (monitor : SkaledMonitor) (seen : RunSeen) : Prop :=
  monitor.overwrites = true → Due seen

theorem permitted_of_spares {monitor : SkaledMonitor} (spares : monitor.overwrites = false)
    (seen : RunSeen) : Permitted monitor seen := by
  intro overwrites
  rw [spares] at overwrites
  cases overwrites

theorem runYields_isConfigUpdateTime :
    runLedger.Yields (Checked choice.checkStatus) choice.isConfigUpdateTime
      fun due seen => Checked choice.checkStatus seen ∧ (due = true → Due seen) := by
  unfold MonitorChoice.isConfigUpdateTime
  cases down : choice.checkStatus.skaledContainer with
  | true =>
      rw [Bool.not_true, Bool.and_false]
      exact yields_pure fun _ holds => ⟨holds, by rintro ⟨⟩⟩
  | false =>
      split
      · refine yields_bind (fun status seen => Checked choice.checkStatus seen ∧
          seen.reached = status.exitTimeReached.toOption.getD false) ?_ fun status => ?_
        · apply yields_invoke
          intro world world' proposed answer kept holds _ served
          obtain ⟨kept', stored⟩ := run_serve_kept (by rintro ⟨⟩) kept served
          obtain ⟨stopped, _⟩ := run_serve_steady rfl kept served
          refine ⟨kept', ?_⟩
          rintro status rfl
          refine ⟨⟨fun missing => ?_, fun down => stopped (holds.2 down)⟩, ?_⟩
          · change world'.stored.isSome = false
            rw [stored]
            exact holds.1 missing
          · cases proposed with
            | error error => cases served
            | ok given =>
                cases served
                rfl
        · unfold evaluate
          cases status.exitTimeReached with
          | error error => exact yields_raise
          | ok reached =>
              refine yields_pure fun seen holds => ⟨holds.1, fun due => .inl ⟨?_, ?_⟩⟩
              · exact holds.1.2 down
              · exact holds.2.trans due
      · exact yields_pure fun _ holds => ⟨holds, by rintro ⟨⟩⟩

theorem runYields_getUpdateMonitor {default : SkaledMonitor}
    (permitted : ∀ seen, Checked choice.checkStatus seen → Permitted default seen) :
    runLedger.Yields (Checked choice.checkStatus) (choice.getUpdateMonitor default)
      Permitted := by
  refine yields_bind _ runYields_isConfigUpdateTime fun due => ?_
  cases due with
  | true => exact yields_pure fun _ holds _ => holds.2 rfl
  | false =>
      refine (yields_bind _ (runYields_plain (plain_isReloadGroupMode choice))
        fun reloads => ?_).strengthen fun _ holds => holds.1
      cases reloads with
      | true => exact yields_pure fun seen _ => permitted_of_spares rfl seen
      | false =>
          refine yields_bind _ (runYields_plain (plain_isReloadIpMode choice)) fun reloads => ?_
          cases reloads with
          | true => exact yields_pure fun seen _ => permitted_of_spares rfl seen
          | false => exact yields_pure permitted

variable (choice) in
theorem runYields_getSkaledMonitor (settings : SkaledSettings) :
    runLedger.Yields (Checked choice.checkStatus) (choice.getSkaledMonitor settings)
      Permitted := by
  have missing : choice.noConfig = true → ∀ seen, Checked choice.checkStatus seen →
      Permitted .noConfig seen := by
    intro unconfigured seen holds _
    exact .inr (holds.1 (by simpa [MonitorChoice.noConfig] using unconfigured))
  have regular : runLedger.Yields (Checked choice.checkStatus)
      (choice.getUpdateMonitor .regular) Permitted :=
    runYields_getUpdateMonitor fun seen _ => permitted_of_spares rfl seen
  have recreate : ∀ seen, Permitted .recreate seen := permitted_of_spares rfl
  unfold MonitorChoice.getSkaledMonitor
  split
  · refine yields_bind _ (runYields_plain (plain_isRecreateMode choice)) fun recreates => ?_
    cases recreates with
    | true => exact yields_pure fun seen _ => recreate seen
    | false =>
        cases unconfigured : choice.noConfig with
        | true => exact runYields_getUpdateMonitor (missing unconfigured)
        | false => exact regular
  · unfold MonitorChoice.getRegularMonitor
    split
    case isTrue unconfigured => exact yields_pure (missing unconfigured)
    case isFalse =>
      split
      · exact yields_pure fun seen _ => permitted_of_spares rfl seen
      · refine yields_bind _ (runYields_plain (plain_isRepairMode choice settings))
          fun repairs => ?_
        cases repairs with
        | true => exact yields_pure fun seen _ => permitted_of_spares rfl seen
        | false =>
            refine yields_bind _ (runYields_plain (plain_isRecreateMode choice))
              fun recreates => ?_
            cases recreates with
            | true => exact yields_pure fun seen _ => recreate seen
            | false =>
                refine yields_bind _ (runYields_plain plain_isNewNodeMode) fun starts => ?_
                cases starts with
                | true =>
                    exact yields_pure fun seen _ => permitted_of_spares rfl seen
                | false => exact regular

end Choice

theorem runYields_execute (am : SkaledActionManager) (monitor : SkaledMonitor) :
    runLedger.Yields (Permitted monitor) (am.execute monitor) fun _ _ => True := by
  have done : ∀ {body : MonitorM Unit}, Unsynced body →
      runLedger.Yields (fun _ => True) body fun _ _ => True :=
    fun unsynced => runYields_unsynced (fun _ => True) unsynced
  have updates : ∀ updated, runLedger.Yields Due
      (ifNot updated SkaledActionManager.updateConfig) fun _ _ => True := by
    intro updated
    cases updated with
    | true => exact yields_pure fun _ _ => trivial
    | false => exact runYields_updateConfig
  cases overwrites : monitor.overwrites with
  | false => exact (done (unsynced_execute am overwrites)).strengthen fun _ _ => trivial
  | true =>
      refine Yields.strengthen ?_ fun seen permitted => permitted overwrites
      cases monitor with
      | noConfig => exact yields_bind _ runYields_check fun there => updates (!there)
      | updateConfig =>
          refine yields_bind _ runYields_check fun updated => ?_
          refine yields_bind _ (updates updated) fun _ => done ?_
          apply unsynced_handleRules
          intro _
          apply unsynced_ensureVolume
          intro _
          refine calls_bind (calls_ite (unsynced_invoke rfl) (unsynced_invoke rfl)
            (calls_pure _)) fun _ => ?_
          refine calls_bind (unsynced_removeIfExists _) fun _ => ?_
          refine calls_bind (unsynced_removeIfExists _) fun _ => ?_
          refine calls_bind unsynced_resetCounters fun _ => ?_
          exact calls_bind (unsynced_skaledContainer am _ _ _) fun _ =>
            am.calls_imaContainer spares_of_ordinary
      | _ => cases overwrites

theorem runYields_runSkaledPipeline (settings : SkaledSettings) :
    runLedger.Yields (fun _ => True) (runSkaledPipeline settings) fun _ _ => True := by
  have unseen : ∀ {α : Type} {body : MonitorM α}, Unsynced body →
      runLedger.Yields (fun _ => True) body fun _ _ => True :=
    fun unsynced => runYields_unsynced (fun _ => True) unsynced
  refine yields_bind _ (unseen (unsynced_invoke rfl)) fun _ => ?_
  refine yields_bind _ (unseen (unsynced_invoke rfl)) fun schainRecord => ?_
  refine yields_bind _ (unseen (unsynced_invoke rfl)) fun skaledStatus => ?_
  refine yields_bind _ (unseen (unsynced_invoke rfl)) fun ncliStatus => ?_
  refine yields_bind _ (runYields_getAllChecks _) fun checkStatus => ?_
  refine yields_bind _ (runYields_plain (plain_invoke rfl)) fun automaticRepair => ?_
  refine yields_bind _ (runYields_plain (plain_invoke rfl)) fun _ => ?_
  refine yields_bind _ (runYields_getSkaledMonitor {
    checkStatus, schainRecord, automaticRepair
    hasSkaledStatus := skaledStatus.isFound
    hasNodeCliStatus := ncliStatus.isFound } settings) fun monitor => ?_
  have keeps : ∀ {α : Type} {body : MonitorM α},
      runLedger.Yields Due body (fun _ => Due) → Unsynced body →
      runLedger.Yields (Permitted monitor) body fun _ => Permitted monitor := by
    intro α body yields unsynced
    by_cases due : monitor.overwrites = true
    · refine (yields.strengthen fun _ permitted => permitted due).weaken ?_
      exact fun _ _ holds _ => holds
    · refine ((unseen unsynced).strengthen fun _ _ => trivial).weaken ?_
      exact fun _ _ _ same => absurd same due
  refine yields_bind _ (keeps (runYields_due rfl (by rintro ⟨⟩)) (unsynced_invoke rfl))
    fun _ => ?_
  apply yields_swallowed
  refine yields_bind _ (keeps runYields_updLastSeen (calls_updLastSeen spares_of_ordinary))
    fun _ => ?_
  refine yields_bind _ (runYields_execute _ monitor) fun _ => ?_
  refine yields_bind _ (unseen (SkaledActionManager.calls_updSchainRecord spares_of_ordinary))
    fun _ => ?_
  exact unseen (calls_updLastSeen spares_of_ordinary)

end Pipeline

/-! ### Every run -/

/-- Skaled runs with the config that is on disk, and the config was never overwritten while
skaled ran or before its exit time was reached. -/
def ConfigSafe (world : RunWorld) : Prop :=
  (∀ text, world.process = some text → world.files.read .skaled = some text) ∧
    world.rash = false

theorem skaled_config_safe (files : Directory Text)
    (labels : List (Label monitorInterface RunMove RunJob))
    (undisturbed : Transition.EachStep runHost.step skaledUndisturbed.Meets
      { world := { files } } labels) :
    Transition.Always runHost.step (fun config => ConfigSafe config.world)
      { world := { files } } labels := by
  have first : RunKept { files } := by
    refine ⟨?_, ?_, rfl⟩
    · rintro text ⟨⟩
    · rintro ⟨⟩
  have moves : ∀ {world world' : RunWorld} {move : RunMove}, RunKept world →
      skaledUndisturbed.move world move → runHost.move world move = some world' →
      RunKept world' :=
    fun kept undisturbing moved => kept.of_move undisturbing moved
  apply Host.always_of_outlines moves RunKept.started ?_ ?_ first undisturbed
  · intro world job kept stopped
    cases job with
    | startTasks schainRecord streamVersion =>
        refine ⟨kept.of_startTasks stopped, fun _ => True, fun _ _ => True, trivial, ?_⟩
        exact .done Host.stable_true fun _ _ _ => trivial
    | pipeline settings =>
        refine ⟨?_, _, _, ?_, runYields_runSkaledPipeline settings⟩
        · exact kept.started.of_same rfl rfl rfl rfl
        · trivial
    | cleanup =>
        refine ⟨⟨?_, ?_, kept.careful⟩, fun _ => True, fun _ _ => True, trivial, ?_⟩
        · rintro text ⟨⟩
        · exact fun _ => rfl
        · exact .done Host.stable_true fun _ _ _ => trivial
  · intro config kept
    exact ⟨kept.loaded, kept.careful⟩

/-- `nodeConfig` at another port. -/
def movedConfig : Value :=
  .obj [("skaleConfig".toList, .obj [
    ("nodeInfo".toList, .obj [
      ("nodeID".toList, .num 1),
      ("basePort".toList, .num 20000),
      ("wsRpcPort".toList, .num 20002),
      ("httpRpcPort".toList, .num 20003)]),
    ("sChain".toList, .obj [
      ("nodes".toList, .arr [.obj [
        ("nodeID".toList, .num 1), ("ip".toList, .str "10.0.0.1".toList)]]),
      ("nodeGroups".toList, .obj [])])])]

def movedFiles : Directory Text :=
  (.upstream { rotationId := 1, ts := 5 }, dumps movedConfig) :: nodeFiles

/-- Skaled has reached its exit time and its container is gone. -/
def exitedAnswer : (query : MonitorQuery) → Except MonitorError query.Reply
  | .readSkaledStatus => .ok (.json (.obj [("exitState".toList, .obj [
      ("ExitTimeReached".toList, .bool true)])]))
  | .isContainerExists _ => .ok false
  | query => hostAnswer false query

def updatingPass (calls : Nat) : List (Label monitorInterface RunMove RunJob) :=
  [.move .restart, .move .exit, .start (.pipeline {})] ++
    List.replicate calls (.call exitedAnswer)

theorem updatingPass_safe :
    Transition.Always runHost.step (fun config => ConfigSafe config.world)
      { world := { files := movedFiles } } (updatingPass 60) :=
  skaled_config_safe _ _ (by decide +kernel)

end SkaleAdmin.Monitor
