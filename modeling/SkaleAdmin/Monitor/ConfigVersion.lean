import SkaleAdmin.Monitor.ConfigWorld

/-! The config version of the row tells under which stream version the latest
upstream config was generated. -/

namespace SkaleAdmin.Monitor

open Interaction PyText Config
open Interaction.Procedure (Sketch sketch_pure sketch_raise sketch_bind
  sketch_attempt sketch_invoke)

/-- What has been generated and under which stream version, what of it since
`sync_config_run` was set, and whether that flag was cleared too early. -/
structure Generations where
  all : List (Document × String) := []
  sinceFlag : List Document := []
  clearedEarly : Bool := false

def isRead (latest : Evaluated Json.Value) (config : Document) : Bool :=
  match latest with
  | .ok latest => Json.equal (.obj config.fields) latest
  | .error _ => false

def holds (files : Directory Text) (config : Document) : Bool :=
  isRead (latestUpstreamConfig files) config

def Generations.regenerated (generations : Generations)
    (latest : Evaluated Json.Value) : Bool :=
  generations.sinceFlag.any (isRead latest)

def generationWatch : Host.Watch monitorInterface ConfigWorld ConfigMove ConfigJob
    Generations where
  move
    | .setSyncConfigRun, _, generations => { generations with sinceFlag := [] }
    | _, _, generations => generations
  call
    | .createNewUpstreamConfig _, .ok config, world, generations =>
        { generations with
          all := (config.document, world.streamVersion) :: generations.all
          sinceFlag := config.document :: generations.sinceFlag }
    | .saveRecord setter copy, .ok _, world, generations =>
        if world.row .syncConfigRun ∧
            ¬ Web.Table.saved setter copy world.row .syncConfigRun ∧
            ¬ generations.regenerated (latestUpstreamConfig world.files) then
          { generations with clearedEarly := true }
        else
          generations
    | _, _, _, generations => generations

abbrev VersionWorld := ConfigWorld × Generations

def versionHost := configHost.watch generationWatch

/-- The recorded version is the current one only where the latest upstream was
generated under it, and the flag was only cleared after a regeneration. -/
structure Truthful (world : VersionWorld) : Prop where
  version : world.1.row .configVersion = world.1.streamVersion →
    ∃ config, (config, world.1.streamVersion) ∈ world.2.all ∧
      holds world.1.files config = true
  flag : world.2.clearedEarly = false

/-- A sync node whose last DKG was not successful has nothing to regenerate, and
a new upstream sorts behind those that are there. -/
def servedTruthfully : (query : MonitorQuery) → Except MonitorError query.Reply →
    VersionWorld → Bool
  | .isLastDkgSuccessful, .ok false, world =>
      decide (∀ job ∈ world.1.pipeline, job.syncNode = true →
        world.1.row .configVersion = world.1.streamVersion ∧
          world.1.row .syncConfigRun = false)
  | .writeJson (.upstream filename) _, .ok _, world =>
      (upstreamConfigs world.1.files.names).all fun other => other.le filename
  | _, _, _ => true

/-- Upgrades and requests come while no pipeline runs, an upgrade to a version
that is not the recorded one, and a pipeline runs under the version its process
has read. -/
def truthfulDiscipline : Host.Discipline monitorInterface VersionWorld ConfigMove
    ConfigJob where
  move world
    | .upgrade streamVersion =>
        world.1.pipeline = none ∧
          (streamVersion = world.1.streamVersion ∨
            streamVersion ≠ world.1.row .configVersion)
    | .setSyncConfigRun => world.1.pipeline = none
  start world job := job.streamVersion = world.1.streamVersion
  call query answer world := servedTruthfully query answer world = true

def versionAudit : Audit Generations where
  watch := generationWatch
  discipline := truthfulDiscipline
  invariant := Truthful
  still := by
    intro world move allowed
    cases move with
    | upgrade streamVersion => exact allowed.1
    | setSyncConfigRun => exact allowed
  errors := by
    intro query error world notes
    cases query <;> rfl

/-! ### What most actions leave alone -/

/-- What the recorded version and the flag are judged by. -/
structure Core where
  pipeline : Option ConfigJob
  streamVersion : String
  configVersion : String
  syncConfigRun : Bool
  latest : Evaluated Json.Value
  generations : Generations

def coreOf (world : VersionWorld) : Core where
  pipeline := world.1.pipeline
  streamVersion := world.1.streamVersion
  configVersion := world.1.row .configVersion
  syncConfigRun := world.1.row .syncConfigRun
  latest := latestUpstreamConfig world.1.files
  generations := world.2

theorem truthful_of_core {world world' : VersionWorld}
    (truthful : Truthful world) (same : coreOf world' = coreOf world) :
    Truthful world' := by
  simp only [coreOf, Core.mk.injEq] at same
  obtain ⟨_, stream, config, _, latest, notes⟩ := same
  constructor
  · rw [stream, config, notes]
    intro current
    obtain ⟨generated, listed, held⟩ := truthful.version current
    exact ⟨generated, listed, by rw [holds, latest]; exact held⟩
  · rw [notes]
    exact truthful.flag

variable {α β : Type}

def Keeps (body : MonitorM α) : Prop :=
  ∀ assertion : Core → Prop, versionAudit.Attains
    (fun world => assertion (coreOf world)) body
    fun _ world => assertion (coreOf world)

theorem upholds_pure (result : α) : Keeps (pure result : MonitorM α) := by
  intro assertion
  exact Audit.attains_pure fun _ _ holds => holds

theorem upholds_raise (error : MonitorError) :
    Keeps (Procedure.raise error : MonitorM α) := by
  intro assertion
  exact Audit.attains_raise

theorem upholds_bind {first : MonitorM β} {next : β → MonitorM α}
    (firstKeeps : Keeps first) (nextKeeps : ∀ result, Keeps (next result)) :
    Keeps (first >>= next) := by
  intro assertion
  exact Audit.attains_bind _ (firstKeeps assertion)
    fun result => nextKeeps result assertion

theorem unnoted_of_silent {query : MonitorQuery} (silent : query.isSilent = true)
    (uncounted : ∀ rotationId, query ≠ .createNewUpstreamConfig rotationId) :
    versionAudit.Unnoted query := by
  intro reply world notes
  cases query with
  | createNewUpstreamConfig rotationId => exact absurd rfl (uncounted rotationId)
  | saveRecord setter copy => cases silent
  | _ => rfl

theorem upholds_silent {query : MonitorQuery} (silent : query.isSilent = true)
    (uncounted : ∀ rotationId, query ≠ .createNewUpstreamConfig rotationId) :
    Keeps (invoke query) := by
  intro assertion
  exact Audit.attains_silent silent (unnoted_of_silent silent uncounted)

theorem upholds_check (status : Directory Text → Evaluated Bool) :
    Keeps (check status) := by
  intro assertion
  have unnoted : versionAudit.Unnoted .readFiles := fun _ _ _ => rfl
  exact (Audit.attains_check unnoted status).weaken fun _ _ holds => holds.1

theorem saveRecord_unnoted {setter : Web.Setter} {copy : Web.SChainRecord}
    {world : ConfigWorld} {generations : Generations}
    (fine : ¬ (world.row .syncConfigRun ∧
      ¬ Web.Table.saved setter copy world.row .syncConfigRun ∧
      ¬ generations.regenerated (latestUpstreamConfig world.files))) :
    versionAudit.watch.call (.saveRecord setter copy) (.ok ()) world generations =
      generations :=
  if_neg fine

theorem setOn_keeps (assertion : Core → Prop) (record : Web.SChainRecord)
    (setter : Web.Setter) (notVersion : setter.column ≠ .configVersion)
    (notFlag : setter.column ≠ .syncConfigRun) :
    versionAudit.Attains
      (fun world => assertion (coreOf world) ∧ world.1.row = record)
      (setOn record setter) fun _ world => assertion (coreOf world) := by
  apply Audit.attains_setOn
  intro world world' kept holds saved noted
  have flag : world.1.row.set setter.column setter.value .syncConfigRun =
      world.1.row .syncConfigRun :=
    Web.SChainRecord.set_of_ne (Ne.symm notFlag)
  have version : world.1.row.set setter.column setter.value .configVersion =
      world.1.row .configVersion :=
    Web.SChainRecord.set_of_ne (Ne.symm notVersion)
  have notes : world'.2 = world.2 := by
    rw [noted]
    apply saveRecord_unnoted
    rintro ⟨raised, cleared, _⟩
    rw [saved_set, flag] at cleared
    exact cleared raised
  have same : coreOf world' = coreOf world := by
    simp only [coreOf, saved, flag, version, notes]
  exact ⟨truthful_of_core kept same, by rw [same]; exact holds⟩

theorem loadRecord_unnoted : versionAudit.Unnoted .loadRecord :=
  fun _ _ _ => rfl

theorem upholds_setRecord {setter : Web.Setter}
    (notVersion : setter.column ≠ .configVersion)
    (notFlag : setter.column ≠ .syncConfigRun) : Keeps (setRecord setter) := by
  intro assertion
  apply Audit.attains_bind _ (Audit.attains_loadRecord loadRecord_unnoted)
  intro record
  apply Audit.attains_bind _
    (setOn_keeps assertion record setter notVersion notFlag)
  intro _
  exact Audit.attains_pure fun _ _ holds => holds

theorem upholds_updLastSeen : Keeps updLastSeen := by
  intro assertion
  apply Audit.attains_bind _ (Audit.attains_loadRecord loadRecord_unnoted)
  intro record
  apply Audit.attains_bind _ (Audit.attains_silent rfl (fun _ _ _ => rfl))
  intro now
  have notVersion : Web.Column.monitorLastSeen ≠ .configVersion := by decide
  have notFlag : Web.Column.monitorLastSeen ≠ .syncConfigRun := by decide
  apply Audit.attains_bind _ (setOn_keeps assertion record
    (Web.setMonitorLastSeen now) notVersion notFlag)
  intro _
  exact Audit.attains_pure fun _ _ holds => holds

theorem latestUpstreamConfig_put_of_ne (files : Directory Text) {path : FileName}
    (apart : ∀ filename, .upstream filename ≠ path) (text : Text) :
    latestUpstreamConfig (files.put path text) = latestUpstreamConfig files := by
  have latest : latestUpstream (files.put path text).names =
      latestUpstream files.names := by
    apply latestUpstream_congr
    intro filename
    rw [Directory.mem_names_put]
    simp [apart filename]
  unfold latestUpstreamConfig
  rw [latest]
  split
  · rfl
  · unfold readJson
    rw [files.read_put_of_ne text (apart _)]

theorem latestUpstreamConfig_seen (files given : Directory Text) :
    latestUpstreamConfig (ConfigWorld.seen files given) =
      latestUpstreamConfig files := by
  unfold ConfigWorld.seen
  split
  · exact latestUpstreamConfig_put_of_ne files (by rintro _ ⟨⟩) _
  · rfl

theorem upholds_writeJson {path : FileName} {content : Document}
    (apart : ∀ filename, .upstream filename ≠ path) :
    Keeps (invoke (.writeJson path content)) := by
  intro assertion
  apply Audit.attains_invoke
  intro world world' proposed reply kept holds _ served noted
  obtain ⟨_, written⟩ := serve_writeJson served
  have latest := latestUpstreamConfig_put_of_ne world.1.files apart content.text
  have notes : world'.2 = world.2 := noted
  have same : coreOf world' = coreOf world := by
    simp only [coreOf, written, latest, notes]
  exact ⟨truthful_of_core kept same, by rw [same]; exact holds⟩

theorem upholds_updateExternalConfig (estate : ExternalState) :
    Keeps (ConfigActionManager.updateExternalConfig estate) :=
  upholds_writeJson (by rintro _ ⟨⟩)

theorem upholds_ifNot {action : MonitorM Unit} (keeps : Keeps action)
    (status : Bool) : Keeps (ifNot status action) := by
  cases status with
  | true => exact upholds_pure ()
  | false => exact keeps

theorem upholds_dkg (am : ConfigActionManager) : Keeps am.dkg := by
  refine upholds_bind (upholds_check _) fun initialStatus => upholds_ifNot ?_ _
  refine upholds_bind (upholds_silent rfl (by rintro _ ⟨⟩)) fun _ => ?_
  refine upholds_bind (upholds_silent rfl (by rintro _ ⟨⟩)) fun result => ?_
  obtain ⟨status, keysData⟩ := result
  refine upholds_bind (upholds_ifNot (upholds_writeJson (by rintro _ ⟨⟩)) _) fun _ => ?_
  have notVersion : Web.Column.dkgStatus ≠ .configVersion := by decide
  have notFlag : Web.Column.dkgStatus ≠ .syncConfigRun := by decide
  exact upholds_bind (upholds_setRecord notVersion notFlag)
    fun _ => upholds_ifNot (upholds_raise _) _

theorem upholds_calcReloadTs (currentNodes : List NodeInfo) (nodeIndex : Nat) :
    Keeps (calcReloadTs currentNodes nodeIndex) := by
  refine upholds_bind ?_ fun maxIpChangeTs => ?_
  · cases currentNodes with
    | nil => exact upholds_raise _
    | cons node nodes => exact upholds_pure _
  · cases maxIpChangeTs with
    | none => exact upholds_pure _
    | some ts => exact upholds_pure _

theorem upholds_updateReloadTs (am : ConfigActionManager) (ipMatched syncNode : Bool) :
    Keeps (am.updateReloadTs ipMatched syncNode) := by
  cases ipMatched with
  | true => exact upholds_updateExternalConfig _
  | false =>
      refine upholds_bind ?_ fun nodeIndexInGroup => ?_
      · cases syncNode with
        | true => exact upholds_pure _
        | false => exact upholds_silent rfl (by rintro _ ⟨⟩)
      · cases nodeIndexInGroup with
        | none => exact upholds_pure ()
        | some nodeIndex =>
            exact upholds_bind (upholds_calcReloadTs _ _)
              fun reloadTs => upholds_updateExternalConfig _

theorem upholds_evaluateConfigChecks (checks : ConfigChecks) :
    Keeps (evaluateConfigChecks checks) :=
  upholds_bind (upholds_silent rfl (by rintro _ ⟨⟩)) fun _ =>
    upholds_bind (upholds_check _) fun _ => upholds_bind (upholds_check _) fun _ =>
      upholds_bind (upholds_check _) fun _ => upholds_bind (upholds_check _) fun _ =>
        upholds_pure ()

/-! ### The actions that set the version and clear the flag -/

/-- A pipeline that runs under the current stream version. -/
def Started (job : ConfigJob) (core : Core) : Prop :=
  core.pipeline = some job ∧ core.streamVersion = job.streamVersion

def Generated (job : ConfigJob) (config : Document) (core : Core) : Prop :=
  Started job core ∧ (config, core.streamVersion) ∈ core.generations.all ∧
    config ∈ core.generations.sinceFlag

/-- The latest upstream was generated under the current version, and since the
flag was set. -/
def Ready (job : ConfigJob) (core : Core) : Prop :=
  Started job core ∧
    (∃ config, (config, core.streamVersion) ∈ core.generations.all ∧
      isRead core.latest config = true) ∧
    (core.syncConfigRun = true → core.generations.regenerated core.latest = true)

def Renewed (job : ConfigJob) (core : Core) : Prop :=
  Started job core ∧ core.configVersion = core.streamVersion ∧
    (core.syncConfigRun = true → core.generations.regenerated core.latest = true)

theorem ready_of_generated {job : ConfigJob} {config : Document} {core : Core}
    (generated : Generated job config core)
    (placed : isRead core.latest config = true) : Ready job core := by
  obtain ⟨started, listed, since⟩ := generated
  refine ⟨started, ⟨config, listed, placed⟩, ?_⟩
  intro _
  exact List.any_eq_true.mpr ⟨config, since, placed⟩

theorem truthful_of_ready {job : ConfigJob} {world : VersionWorld}
    (ready : Ready job (coreOf world)) (flag : world.2.clearedEarly = false) :
    Truthful world :=
  ⟨fun _ => ready.2.1, flag⟩

theorem ready_of_renewed {job : ConfigJob} {world : VersionWorld}
    (truthful : Truthful world) (renewed : Renewed job (coreOf world)) :
    Ready job (coreOf world) :=
  ⟨renewed.1, truthful.version renewed.2.1, renewed.2.2⟩

theorem updateSchainConfigVersion_attains (job : ConfigJob) :
    versionAudit.Attains (fun world => Ready job (coreOf world))
      ConfigActionManager.updateSchainConfigVersion
      fun _ world => Renewed job (coreOf world) := by
  apply Audit.attains_bind _ (Audit.attains_loadRecord loadRecord_unnoted)
  intro record
  apply Audit.attains_bind fun version world =>
    (Ready job (coreOf world) ∧ world.1.streamVersion = version) ∧
      world.1.row = record
  · apply Audit.attains_invoke
    intro world world' proposed version kept holds _ served noted
    obtain ⟨unchanged, current⟩ := serve_getSkaleNodeVersion served
    have same : world' = world := Prod.ext unchanged noted
    rw [same]
    exact ⟨kept, ⟨holds.1, current⟩, holds.2⟩
  · intro version
    apply Audit.attains_bind fun _ world => Renewed job (coreOf world)
    · apply Audit.attains_setOn
      rintro world world' kept ⟨ready, rfl⟩ saved noted
      have flag : world.1.row.set .configVersion world.1.streamVersion
          .syncConfigRun = world.1.row .syncConfigRun :=
        Web.SChainRecord.set_of_ne (by decide)
      have notes : world'.2 = world.2 := by
        rw [noted]
        apply saveRecord_unnoted
        rintro ⟨raised, cleared, _⟩
        rw [saved_set] at cleared
        exact cleared (flag.trans raised)
      have core : coreOf world' =
          { coreOf world with configVersion := world.1.streamVersion } := by
        simp only [coreOf, saved, Web.setConfigVersion, flag, notes,
          Web.SChainRecord.set_self]
      have ready' : Ready job (coreOf world') := by
        rw [core]
        exact ready
      refine ⟨truthful_of_ready ready' ?_, ?_⟩
      · rw [notes]
        exact kept.flag
      · rw [core]
        exact ⟨ready.1, rfl, ready.2.2⟩
    · intro _
      exact Audit.attains_pure fun _ _ holds => holds

/-- Clearing the flag once the config has been regenerated since it was set. -/
theorem setSyncConfigRun_attains (job : ConfigJob) :
    versionAudit.Attains (fun world => Renewed job (coreOf world))
      (setRecord (Web.setSyncConfigRun false)) fun _ _ => True := by
  apply Audit.attains_bind _ (Audit.attains_loadRecord loadRecord_unnoted)
  intro record
  apply Audit.attains_bind fun _ _ => True
  · apply Audit.attains_setOn
    intro world world' kept renewed saved noted
    have version : world.1.row.set .syncConfigRun false .configVersion =
        world.1.row .configVersion := Web.SChainRecord.set_of_ne (by decide)
    have notes : world'.2 = world.2 := by
      rw [noted]
      apply saveRecord_unnoted
      rintro ⟨raised, _, early⟩
      exact early (renewed.2.2 raised)
    refine ⟨⟨?_, ?_⟩, trivial⟩
    · simp only [saved, Web.setSyncConfigRun, version, notes]
      exact kept.version
    · rw [notes]
      exact kept.flag
  · intro _
    exact Audit.attains_pure fun _ _ holds => holds

theorem resetConfigRecord_attains (job : ConfigJob) :
    versionAudit.Attains (fun world => Renewed job (coreOf world))
      ConfigActionManager.resetConfigRecord fun _ _ => True := by
  apply Audit.attains_bind fun _ world => Renewed job (coreOf world)
  · apply (updateSchainConfigVersion_attains job).strengthen
    intro world truthful renewed
    exact ready_of_renewed truthful renewed
  · intro _
    exact setSyncConfigRun_attains job

theorem createNewUpstreamConfig_attains (job : ConfigJob) (rotationId : Nat) :
    versionAudit.Attains (fun world => Started job (coreOf world))
      (invoke (.createNewUpstreamConfig rotationId))
      fun config world => Generated job config.document (coreOf world) := by
  apply Audit.attains_invoke
  intro world world' proposed config kept started _ served noted
  have unchanged : world'.1 = world.1 := serve_silent rfl served
  have core : coreOf world' = { coreOf world with
      generations := { world.2 with
        all := (config.document, world.1.streamVersion) :: world.2.all
        sinceFlag := config.document :: world.2.sinceFlag } } := by
    simp only [coreOf, unchanged, noted]
    rfl
  refine ⟨⟨?_, ?_⟩, ?_⟩
  · rw [unchanged, noted]
    intro current
    obtain ⟨generated, listed, held⟩ := kept.version current
    exact ⟨generated, List.mem_cons_of_mem _ listed, held⟩
  · rw [noted]
    exact kept.flag
  · rw [core]
    exact ⟨started, List.mem_cons_self, List.mem_cons_self⟩

theorem differsFromLatest_attains (newConfig : GeneratedConfig)
    (assertion : Core → Prop) :
    versionAudit.Attains (fun world => assertion (coreOf world))
      (ConfigActionManager.differsFromLatest newConfig)
      fun differs world => assertion (coreOf world) ∧
        (differs = false → isRead (coreOf world).latest newConfig.document = true) := by
  have unnoted : versionAudit.Unnoted .readFiles := fun _ _ _ => rfl
  apply Audit.attains_bind _ (Audit.attains_check unnoted _)
  intro exist
  cases exist with
  | false =>
      apply Audit.attains_pure
      intro world _ holds
      refine ⟨holds.1, ?_⟩
      rintro ⟨⟩
  | true =>
      apply Audit.Attains.weaken (Audit.attains_check unnoted _)
      rintro differs world ⟨⟨holds, _⟩, given, status⟩
      refine ⟨holds, ?_⟩
      rintro rfl
      rw [latestUpstreamConfig_seen] at status
      change isRead (latestUpstreamConfig world.1.files) newConfig.document = true
      cases latest : latestUpstreamConfig world.1.files with
      | error error =>
          rw [latest] at status
          cases status
      | ok read =>
          rw [latest] at status
          have same : newConfig.equal read = true := by
            simpa using Except.ok.inj status
          exact (GeneratedConfig.equal_iff.mp same).2

theorem latestUpstreamConfig_put (files : Directory Text)
    (filename : UpstreamConfigFilename) (config : Document)
    (last : ∀ other, .upstream other ∈ files.names →
      other.le filename = true) :
    latestUpstreamConfig (files.put (.upstream filename) config.text) =
      .ok (.obj config.fields) := by
  have latest : latestUpstream (files.put (.upstream filename) config.text).names =
      some filename := by
    rw [latestUpstream_eq_some_iff]
    refine ⟨Directory.mem_names_put.mpr (.inl rfl), ?_⟩
    intro other member
    rcases Directory.mem_names_put.mp member with same | earlier
    · cases same
      exact UpstreamConfigFilename.le_refl filename
    · exact last other earlier
  rw [latestUpstreamConfig, latest]
  simp only [readJson, Directory.read_put_self, Document.text,
    Json.loads_dumps config.wellFormed]

theorem saveNewUpstream_attains (job : ConfigJob) (rotationId : Nat)
    (config : Document) :
    versionAudit.Attains (fun world => Generated job config (coreOf world))
      (ConfigActionManager.saveNewUpstream rotationId config)
      fun _ world => Ready job (coreOf world) := by
  apply Audit.attains_bind _ (Audit.attains_silent rfl fun _ _ _ => rfl)
  intro ts
  apply Audit.attains_invoke
  intro world world' proposed reply kept generated allowed served noted
  obtain ⟨⟨given, rfl⟩, written⟩ := serve_writeJson served
  have last : ∀ other, .upstream other ∈ world.1.files.names →
      other.le { rotationId, ts } = true := by
    intro other member
    exact List.all_eq_true.mp allowed other (mem_upstreamConfigs.mpr member)
  have latest := latestUpstreamConfig_put world.1.files { rotationId, ts } config
    last
  have core : coreOf world' =
      { coreOf world with latest := .ok (.obj config.fields) } := by
    have notes : world'.2 = world.2 := noted
    simp only [coreOf, written, latest, notes]
  have placed : isRead (coreOf world').latest config = true := by
    rw [core]
    exact Json.equal_self config.wellFormed
  have ready : Ready job (coreOf world') := by
    refine ready_of_generated ?_ placed
    rw [core]
    exact generated
  refine ⟨truthful_of_ready ready ?_, ready⟩
  have notes : world'.2 = world.2 := noted
  rw [notes]
  exact kept.flag

theorem upstreamConfig_attains (job : ConfigJob) (am : ConfigActionManager) :
    versionAudit.Attains (fun world => Started job (coreOf world))
      am.upstreamConfig fun _ world => Renewed job (coreOf world) := by
  apply Audit.attains_bind _ (createNewUpstreamConfig_attains job _)
  intro newConfig
  apply Audit.attains_bind _
    (differsFromLatest_attains newConfig (Generated job newConfig.document))
  intro differs
  apply Audit.attains_bind fun _ world => Ready job (coreOf world)
  · cases differs with
    | true =>
        apply (saveNewUpstream_attains job _ newConfig.document).strengthen
        intro world _ holds
        exact holds.1
    | false =>
        apply Audit.attains_pure
        rintro world _ ⟨generated, same⟩
        exact ready_of_generated generated (same rfl)
  · intro _
    exact updateSchainConfigVersion_attains job

/-! ### The pipelines -/

/-- The pipeline holds a copy of the row that has its version and its flag. -/
def Copied (job : ConfigJob) (record : Web.SChainRecord) (core : Core) : Prop :=
  Started job core ∧ core.configVersion = record .configVersion ∧
    core.syncConfigRun = record .syncConfigRun

theorem renewed_of_copied {job : ConfigJob} {record : Web.SChainRecord}
    {core : Core} (copied : Copied job record core)
    (version : record .configVersion = job.streamVersion)
    (flag : record .syncConfigRun = false) : Renewed job core := by
  obtain ⟨started, sameVersion, sameFlag⟩ := copied
  refine ⟨started, ?_, ?_⟩
  · rw [sameVersion, version, started.2]
  · intro raised
    rw [sameFlag, flag] at raised
    cases raised

theorem upstreamConfig_passed {checks : ConfigChecks} {files : Directory Text}
    (passed : checks.upstreamConfig files = .ok true) :
    checks.schainRecord .configVersion = checks.streamVersion ∧
      checks.schainRecord .syncConfigRun = false := by
  unfold ConfigChecks.upstreamConfig at passed
  obtain ⟨updated, given⟩ : ∃ updated : Bool,
      (upstreamExistForRotationId files checks.rotationId && updated &&
        checks.schainRecord .configVersion == checks.streamVersion &&
        !checks.schainRecord .syncConfigRun) = true := by
    dsimp only at passed
    split at passed
    · obtain ⟨latest, _, read⟩ := bind_eq_ok.mp passed
      obtain ⟨nodeIps, _, compared⟩ := bind_eq_ok.mp read
      obtain ⟨updated, _, same⟩ := bind_eq_ok.mp compared
      exact ⟨updated, Except.ok.inj same⟩
    · exact ⟨true, Except.ok.inj passed⟩
  simp only [Bool.and_eq_true, beq_iff_eq, Bool.not_eq_true'] at given
  exact ⟨given.1.2, given.2⟩

theorem upholds_isConfigDir : Keeps (invoke .isConfigDir) :=
  upholds_silent rfl (by rintro _ ⟨⟩)

theorem upholds_configDir : Keeps ConfigActionManager.configDir :=
  upholds_silent rfl (by rintro _ ⟨⟩)

theorem upstreamConfig_unless (job : ConfigJob) (am : ConfigActionManager)
    (current : am.checks.streamVersion = job.streamVersion) (passed : Bool)
    {files : Directory Text}
    (status : am.checks.upstreamConfig files = .ok passed) :
    versionAudit.Attains
      (fun world => Copied job am.checks.schainRecord (coreOf world))
      (ifNot passed am.upstreamConfig)
      fun _ world => Renewed job (coreOf world) := by
  cases passed with
  | false =>
      apply (upstreamConfig_attains job am).strengthen
      intro world _ copied
      exact copied.1
  | true =>
      obtain ⟨version, flag⟩ := upstreamConfig_passed status
      apply Audit.attains_pure
      intro world _ copied
      exact renewed_of_copied copied (version.trans current) flag

theorem upstreamConfig_decided (job : ConfigJob) (am : ConfigActionManager)
    {body : Bool → MonitorM Unit} {after : Unit → VersionWorld → Prop}
    (goesOn : ∀ (passed : Bool) (files : Directory Text),
      am.checks.upstreamConfig files = .ok passed →
      versionAudit.Attains
        (fun world => Copied job am.checks.schainRecord (coreOf world))
        (body passed) after) :
    versionAudit.Attains
      (fun world => Copied job am.checks.schainRecord (coreOf world))
      (check am.checks.upstreamConfig >>= body) after := by
  have unnoted : versionAudit.Unnoted .readFiles := fun _ _ _ => rfl
  apply Audit.attains_bind _ (Audit.attains_check unnoted _)
  intro passed
  have known : ∀ world : VersionWorld,
      (Copied job am.checks.schainRecord (coreOf world) ∧ ∃ given,
        am.checks.upstreamConfig (ConfigWorld.seen world.1.files given) =
          .ok passed) →
      ∃ files, am.checks.upstreamConfig files = .ok passed := by
    rintro world ⟨_, given, status⟩
    exact ⟨_, status⟩
  apply Audit.attains_of_fact known
  rintro ⟨files, status⟩
  apply (goesOn passed files status).strengthen
  intro world _ holds
  exact holds.1

/-- The check and the action that depends on it. -/
theorem upstreamConfig_checked (job : ConfigJob) (am : ConfigActionManager)
    (current : am.checks.streamVersion = job.streamVersion)
    {rest : MonitorM Unit} {after : Unit → VersionWorld → Prop}
    (goesOn : versionAudit.Attains (fun world => Renewed job (coreOf world)) rest
      after) :
    versionAudit.Attains
      (fun world => Copied job am.checks.schainRecord (coreOf world))
      (do
        ifNot (← check am.checks.upstreamConfig) am.upstreamConfig
        rest)
      after := by
  apply upstreamConfig_decided job am
  intro passed files status
  apply Audit.attains_bind fun _ world => Renewed job (coreOf world)
  · exact upstreamConfig_unless job am current passed status
  · intro _
    exact goesOn

theorem regularConfigMonitor_attains (job : ConfigJob) (am : ConfigActionManager)
    (current : am.checks.streamVersion = job.streamVersion) :
    versionAudit.Attains
      (fun world => Copied job am.checks.schainRecord (coreOf world))
      (regularConfigMonitor am) fun _ _ => True := by
  let copied := Copied job am.checks.schainRecord
  let renewed := Renewed job
  apply Audit.attains_bind _ (upholds_isConfigDir copied)
  intro isDir
  apply Audit.attains_bind _ (upholds_ifNot upholds_configDir isDir copied)
  intro _
  apply Audit.attains_bind _ (upholds_check _ copied)
  intro dkg
  apply Audit.attains_bind _ (upholds_ifNot (upholds_dkg am) dkg copied)
  intro _
  apply Audit.attains_bind _ (upholds_check _ copied)
  intro state
  apply Audit.attains_bind _
    (upholds_ifNot (upholds_updateExternalConfig _) state copied)
  intro _
  apply upstreamConfig_checked job am current
  apply Audit.attains_bind _ (upholds_check _ renewed)
  intro ips
  apply Audit.attains_bind _ (upholds_updateReloadTs am ips false renewed)
  intro _
  exact resetConfigRecord_attains job

theorem syncUpstreamConfig_attains (job : ConfigJob) (am : ConfigActionManager)
    (current : am.checks.streamVersion = job.streamVersion) :
    versionAudit.Attains
      (fun world => Copied job am.checks.schainRecord (coreOf world))
      (syncUpstreamConfig am) fun _ world => Renewed job (coreOf world) := by
  apply upstreamConfig_decided job am
  intro passed files status
  cases passed with
  | true =>
      obtain ⟨version, flag⟩ := upstreamConfig_passed status
      apply Audit.attains_pure
      intro world _ copied
      exact renewed_of_copied copied (version.trans current) flag
  | false =>
      apply Audit.attains_bind fun _ world => Renewed job (coreOf world)
      · apply (upstreamConfig_attains job am).strengthen
        intro world _ copied
        exact copied.1
      · intro _
        apply Audit.attains_bind _ (upholds_check _ (Renewed job))
        intro ips
        exact upholds_updateReloadTs am ips true (Renewed job)

/-- Where the last DKG was not successful nothing is regenerated. -/
def Settled (job : ConfigJob) (checks : ConfigChecks) : Prop :=
  checks.lastDkgSuccessful = false →
    checks.schainRecord .configVersion = job.streamVersion ∧
      checks.schainRecord .syncConfigRun = false

theorem syncConfigMonitor_attains (job : ConfigJob) (am : ConfigActionManager)
    (current : am.checks.streamVersion = job.streamVersion)
    (settled : Settled job am.checks) :
    versionAudit.Attains
      (fun world => Copied job am.checks.schainRecord (coreOf world))
      (syncConfigMonitor am) fun _ _ => True := by
  let copied := Copied job am.checks.schainRecord
  apply Audit.attains_bind _ (upholds_isConfigDir copied)
  intro isDir
  apply Audit.attains_bind _ (upholds_ifNot upholds_configDir isDir copied)
  intro _
  apply Audit.attains_bind _ (upholds_check _ copied)
  intro state
  apply Audit.attains_bind _
    (upholds_ifNot (upholds_updateExternalConfig _) state copied)
  intro _
  apply Audit.attains_bind fun _ world => Renewed job (coreOf world)
  · cases successful : am.checks.lastDkgSuccessful with
    | true => exact syncUpstreamConfig_attains job am current
    | false =>
        obtain ⟨version, flag⟩ := settled successful
        apply Audit.attains_pure
        intro world _ holds
        exact renewed_of_copied holds version flag
  · intro _
    exact resetConfigRecord_attains job

theorem runConfigMonitor_attains {execute : MonitorM Unit} {assertion : Core → Prop}
    (executes : versionAudit.Attains (fun world => assertion (coreOf world)) execute
      fun _ _ => True) :
    versionAudit.Attains (fun world => assertion (coreOf world))
      (runConfigMonitor execute) fun _ _ => True := by
  apply Audit.attains_swallowed
  apply Audit.attains_bind _ (upholds_updLastSeen assertion)
  intro _
  apply Audit.attains_bind _ executes
  intro _
  exact upholds_updLastSeen fun _ => True

theorem chosenMonitor_attains (job : ConfigJob) (am : ConfigActionManager)
    (current : am.checks.streamVersion = job.streamVersion)
    (settled : job.syncNode = true → Settled job am.checks) :
    versionAudit.Attains
      (fun world => Copied job am.checks.schainRecord (coreOf world))
      (runConfigMonitor
        (if job.syncNode then syncConfigMonitor am else regularConfigMonitor am))
      fun _ _ => True := by
  apply runConfigMonitor_attains
  by_cases syncNode : job.syncNode = true
  · rw [if_pos syncNode]
    exact syncConfigMonitor_attains job am current (settled syncNode)
  · rw [if_neg syncNode]
    exact regularConfigMonitor_attains job am current

theorem upholds_isImaLinked (syncNode : Bool) : Keeps (isImaLinked syncNode) := by
  cases syncNode with
  | true => exact upholds_pure false
  | false => exact upholds_silent rfl (by rintro _ ⟨⟩)

theorem isLastDkgSuccessful_attains (job : ConfigJob) (record : Web.SChainRecord) :
    versionAudit.Attains (fun world => Copied job record (coreOf world))
      (invoke .isLastDkgSuccessful) fun successful world =>
        Copied job record (coreOf world) ∧
          (job.syncNode = true → successful = false →
            record .configVersion = job.streamVersion ∧
              record .syncConfigRun = false) := by
  apply Audit.attains_invoke
  intro world world' proposed successful kept copied allowed served noted
  have same : world' = world := Prod.ext (serve_silent rfl served) noted
  rw [same]
  refine ⟨kept, copied, ?_⟩
  rintro syncNode rfl
  obtain rfl := serve_isLastDkgSuccessful served
  obtain ⟨⟨running, current⟩, version, flag⟩ := copied
  obtain ⟨recorded, lowered⟩ := of_decide_eq_true allowed job running syncNode
  exact ⟨version.symm.trans (recorded.trans current), flag.symm.trans lowered⟩

theorem runConfigPipeline_attains (job : ConfigJob) :
    versionAudit.Attains (fun world => Started job (coreOf world))
      (runConfigPipeline job.syncNode job.streamVersion) fun _ _ => True := by
  have silent := fun (query : MonitorQuery) (isSilent : query.isSilent = true)
    (uncounted : ∀ rotationId, query ≠ .createNewUpstreamConfig rotationId) =>
      upholds_silent isSilent uncounted
  apply Audit.attains_bind _ (silent .getSchain rfl (by rintro _ ⟨⟩) (Started job))
  intro _
  apply Audit.attains_bind fun record world => Copied job record (coreOf world)
  · apply (Audit.attains_loadRecord loadRecord_unnoted).weaken
    rintro record world ⟨started, rfl⟩
    exact ⟨started, rfl, rfl⟩
  intro record
  let copied := Copied job record
  apply Audit.attains_bind _ (silent .getRotation rfl (by rintro _ ⟨⟩) copied)
  intro rotationId
  apply Audit.attains_bind _
    (silent .getSyncAgentRanges rfl (by rintro _ ⟨⟩) copied)
  intro ranges
  apply Audit.attains_bind _ (upholds_isImaLinked job.syncNode copied)
  intro imaLinked
  apply Audit.attains_bind _ (isLastDkgSuccessful_attains job record)
  intro lastDkgSuccessful
  apply Audit.attains_of_fact fun _ holds => holds.2
  intro settled
  refine Audit.Attains.strengthen
    (?_ : Audit.Attains _ (fun world => copied (coreOf world)) _ _) ?_
  · apply Audit.attains_bind _
      (silent .getCurrentNodes rfl (by rintro _ ⟨⟩) copied)
    intro currentNodes
    apply Audit.attains_bind _ (silent .getChainId rfl (by rintro _ ⟨⟩) copied)
    intro chainId
    apply Audit.attains_bind _ (upholds_evaluateConfigChecks _ copied)
    intro _
    exact chosenMonitor_attains job
      { checks := {
          schainRecord := record, rotationId, lastDkgSuccessful
          streamVersion := job.streamVersion
          currentIps := getCurrentIps currentNodes
          estate := { chainId, ranges, imaLinked } }
        currentNodes }
      rfl settled
  · intro world _ holds
    exact holds.1

/-! ### Every run -/

theorem truthful_of_move {world world' : VersionWorld} {move : ConfigMove}
    (truthful : Truthful world) (allowed : truthfulDiscipline.move world move)
    (moved : versionHost.move world move = some world') : Truthful world' := by
  obtain ⟨taken, noted⟩ := Host.watch_move.mp moved
  cases move with
  | upgrade streamVersion =>
      obtain ⟨_, apart⟩ := allowed
      obtain rfl : world' = ({ world.1 with streamVersion }, world.2) :=
        Prod.ext (Option.some.inj taken).symm noted
      rcases apart with rfl | different
      · exact truthful
      · exact ⟨fun same => absurd same.symm different, truthful.flag⟩
  | setSyncConfigRun =>
      obtain rfl : world' = ({ world.1 with
            row := world.1.row.set .syncConfigRun true },
          { world.2 with sinceFlag := [] }) :=
        Prod.ext (Option.some.inj taken).symm noted
      have version : world.1.row.set .syncConfigRun true .configVersion =
          world.1.row .configVersion := Web.SChainRecord.set_of_ne (by decide)
      refine ⟨?_, truthful.flag⟩
      simp only [version]
      exact truthful.version

theorem config_version_truthful {world : VersionWorld}
    {labels : List (Label monitorInterface ConfigMove ConfigJob)}
    (start : Truthful world)
    (steps : Transition.EachStep versionHost.step truthfulDiscipline.Meets
      { world } labels) :
    Transition.Always versionHost.step (fun config => Truthful config.world)
      { world } labels := by
  apply Host.always_of_outlines truthful_of_move ?_ ?_ (fun _ truthful => truthful)
    start steps
  · intro world truthful
    exact ⟨truthful.version, truthful.flag⟩
  · intro world job truthful allowed
    refine ⟨⟨truthful.version, truthful.flag⟩, ?_⟩
    refine ⟨_, _, ?_, runConfigPipeline_attains job⟩
    refine ⟨?_, rfl, allowed.symm⟩
    rintro ⟨⟩

theorem newSchain_truthful : Truthful (newSchain, {}) where
  version := by
    intro current
    exact absurd current (by decide)
  flag := rfl

def firstSyncPass (successful : Bool) (calls : Nat) :
    List (Label monitorInterface ConfigMove ConfigJob) :=
  .start { syncNode := true, streamVersion := "2.0.0" } ::
    List.replicate calls (.call (firstPass successful))

/-- The version is set although no config was ever generated. -/
theorem config_version_can_be_untruthful :
    ¬ ∀ (world : VersionWorld)
      (labels : List (Label monitorInterface ConfigMove ConfigJob)),
      Truthful world →
      Transition.Always versionHost.step (fun config => Truthful config.world)
        { world } labels := by
  intro claim
  have played : (Transition.play versionHost.step
      { world := (newSchain, {}) } (firstSyncPass false 21)).map
      (fun config => decide (config.world.1.row .configVersion =
        config.world.1.streamVersion) && config.world.2.all.isEmpty) =
      some true := by decide +kernel
  obtain ⟨config, reached, given⟩ := Option.map_eq_some_iff.mp played
  simp only [Bool.and_eq_true, decide_eq_true_eq, List.isEmpty_iff] at given
  have always := claim (newSchain, {}) (firstSyncPass false 21) newSchain_truthful
  obtain ⟨generated, listed, _⟩ := (always.at_play reached).version given.1
  rw [given.2] at listed
  cases listed

instance : ∀ world move, Decidable (truthfulDiscipline.move world move)
  | _, .upgrade _ => inferInstanceAs (Decidable (_ ∧ _))
  | _, .setSyncConfigRun => inferInstanceAs (Decidable (_ = _))

instance (world : VersionWorld) (job : ConfigJob) :
    Decidable (truthfulDiscipline.start world job) :=
  inferInstanceAs (Decidable (job.streamVersion = world.1.streamVersion))

instance (query : MonitorQuery) (answer : Except MonitorError query.Reply)
    (world : VersionWorld) :
    Decidable (truthfulDiscipline.call query answer world) :=
  inferInstanceAs (Decidable (servedTruthfully query answer world = true))

instance (world : VersionWorld) : Decidable (truthfulDiscipline.stop world) :=
  isTrue trivial

/-- A first pass after a successful DKG, which generates the config. -/
theorem firstSyncPass_truthful :
    Transition.Always versionHost.step (fun config => Truthful config.world)
      { world := (newSchain, {}) } (firstSyncPass true 36) := by
  apply config_version_truthful newSchain_truthful
  decide +kernel

end SkaleAdmin.Monitor
