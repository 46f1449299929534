import SkaleAdmin.Monitor.ConfigWorld

/-! Upstream configs are only saved where the key of their rotation is. -/

namespace SkaleAdmin.Monitor

open Interaction PyText Config
open Interaction.Procedure (Sketch sketch_pure sketch_raise sketch_bind
  sketch_attempt sketch_invoke)

/-- `torn` is what a write that raises has left in its file, if it has opened it. -/
structure KeyWorld where
  config : ConfigWorld
  torn : Option Text := none

inductive KeyMove where
  | config (move : ConfigMove)
  | tear (torn : Option Text)

namespace KeyWorld

def move (world : KeyWorld) : KeyMove → Option KeyWorld
  | .config move => (world.config.move move).map fun config => { world with config }
  | .tear torn => some { world with torn }

/-- The directory after a write to `path` that has raised. -/
def tornFiles (world : KeyWorld) (path : FileName) : Directory Text :=
  match world.torn with
  | some text => world.config.files.put path text
  | none => world.config.files

def serve (query : MonitorQuery) (proposed : Except MonitorError query.Reply)
    (world : KeyWorld) : Option (Except MonitorError query.Reply × KeyWorld) :=
  match query, proposed with
  | .writeJson path _, .error error =>
      some (.error error, { world with
        config := { world.config with files := world.tornFiles path } })
  | query, proposed =>
      (world.config.serve query proposed).map fun served =>
        (served.1, { world with config := served.2 })

end KeyWorld

/-- Each job is a run of `RegularConfigMonitor`. -/
def keyHost : Host monitorInterface KeyWorld KeyMove ConfigActionManager
    (Outcome MonitorError Unit × Unit) where
  move := KeyWorld.move
  serve := KeyWorld.serve
  job am := runConfigMonitor (regularConfigMonitor am) ()
  begin _ world := world

structure Upstreams where
  text : UpstreamConfigFilename → Option Text
  configVersion : String

def ConfigWorld.upstreams (world : ConfigWorld) : Upstreams where
  text filename := world.files.read (.upstream filename)
  configVersion := world.row .configVersion

def ConfigWorld.hasKey (world : ConfigWorld) (rotationId : Nat) : Bool :=
  (world.files.read (.secretKey rotationId)).isSome

/-! ### What is noted of a run -/

inductive DkgStage where
  | before
  | running
  | passed
  | failed
  deriving DecidableEq

/-- Until the status is saved, whatever raises makes the DKG fail. -/
def DkgStage.after (stage : DkgStage) :
    (query : MonitorQuery) → Except MonitorError query.Reply → DkgStage
  | .getDkgClient _, .ok _ => .running
  | .getDkgClient _, .error _ => .failed
  | .runDkg _, .ok (status, _) => if status.isDone then stage else .failed
  | .saveRecord setter _, .ok _ =>
      if setter.column = .dkgStatus ∧ stage = .running then .passed else stage
  | _, .ok _ => stage
  | _, .error _ => if stage = .running then .failed else stage

def savesKey (rotationId : Nat) :
    (query : MonitorQuery) → Except MonitorError query.Reply → Bool
  | .writeJson (.secretKey saved) _, .ok _ => saved = rotationId
  | _, _ => false

/-- An upstream config is saved, and its key is not there. -/
def savesKeyless (world : ConfigWorld) : MonitorQuery → Bool
  | .writeJson (.upstream filename) _ => !world.hasKey filename.rotationId
  | _ => false

def setsDone : MonitorQuery → Bool
  | .saveRecord ⟨.dkgStatus, .DONE, _⟩ _ => true
  | _ => false

/-- `found` is what was there when the run began, `keySaved` whether it has written the
key file; `keyless` and `doneEarly` tell of all runs. -/
structure KeyNotes where
  rotationId : Nat
  found : Upstreams
  stage : DkgStage := .before
  keySaved : Bool := false
  keyless : Bool := false
  doneEarly : Bool := false

def keyWatch : Host.Watch monitorInterface KeyWorld KeyMove ConfigActionManager
    KeyNotes where
  call query answer world notes := { notes with
    stage := notes.stage.after query answer
    keySaved := notes.keySaved || savesKey notes.rotationId query answer
    keyless := notes.keyless || savesKeyless world.config query
    doneEarly := notes.doneEarly || (setsDone query && !notes.keySaved) }
  begin am world notes := { notes with
    rotationId := am.checks.rotationId
    found := world.config.upstreams
    stage := .before
    keySaved := false }

/-- No upstream config was saved without its key, the status was not set to DONE before
the key was written, and a run whose DKG has failed or raised leaves what it found. -/
structure Keyed (upstreams : Upstreams) (notes : KeyNotes) : Prop where
  keyless : notes.keyless = false
  doneEarly : notes.doneEarly = false
  untouched : notes.stage = .failed → upstreams = notes.found

/-! ### Outlines -/

structure KeyCore where
  hasKey : Nat → Bool
  upstreams : Upstreams
  notes : KeyNotes

def keyCore (world : KeyWorld × KeyNotes) : KeyCore where
  hasKey := world.1.config.hasKey
  upstreams := world.1.config.upstreams
  notes := world.2

def KeyCore.Sound (core : KeyCore) : Prop :=
  Keyed core.upstreams core.notes

def KeyCore.Untouched (core : KeyCore) : Prop :=
  core.upstreams = core.notes.found

abbrev watchedKeys := keyHost.watch keyWatch

theorem keyCore_moved {world moved : KeyWorld × KeyNotes} {move : KeyMove}
    (taken : watchedKeys.move world move = some moved) : keyCore moved = keyCore world := by
  obtain ⟨plain, noted⟩ := Host.watch_move.mp taken
  obtain ⟨world, notes⟩ := world
  obtain ⟨moved, notes'⟩ := moved
  cases noted
  cases move with
  | config move =>
      cases move with
      | upgrade streamVersion =>
          cases plain
          rfl
      | setSyncConfigRun =>
          cases plain
          have version : world.config.row.set .syncConfigRun true .configVersion =
              world.config.row .configVersion :=
            Web.SChainRecord.set_of_ne (by decide)
          simp only [keyCore, ConfigWorld.upstreams, version]
          rfl
  | tear torn =>
      cases plain
      rfl

variable {α β : Type} {before : KeyCore → Prop} {after : α → KeyCore → Prop}

/-- The body, started where `before` holds, keeps what is to be kept and returns where
`after` holds. -/
def KeyAttains (before : KeyCore → Prop) (body : MonitorM α)
    (after : α → KeyCore → Prop) : Prop :=
  Sketch watchedKeys {} (fun world => (keyCore world).Sound)
    (fun world => before (keyCore world)) body
    (fun result world => after result (keyCore world)) fun _ _ => True

theorem stable_keyCore (assertion : KeyCore → Prop) :
    watchedKeys.Stable {} (fun world => (keyCore world).Sound)
      fun world => assertion (keyCore world) :=
  Host.stable_of_view keyCore assertion fun _ _ _ taken => keyCore_moved taken

theorem key_pure {result : α} (ends : ∀ core, before core → after result core) :
    KeyAttains before (pure result) after :=
  sketch_pure (stable_keyCore before) fun world _ holds => ends (keyCore world) holds

theorem key_raise {error : MonitorError} :
    KeyAttains before (Procedure.raise error) after :=
  sketch_raise (stable_keyCore before) fun _ _ _ => trivial

theorem key_bind {first : MonitorM β} {next : β → MonitorM α} (middle : β → KeyCore → Prop)
    (sketch : KeyAttains before first middle)
    (rest : ∀ result, KeyAttains (middle result) (next result) after) :
    KeyAttains before (first >>= next) after :=
  sketch_bind sketch rest fun _ => Host.stable_true

theorem KeyAttains.strengthen {before' : KeyCore → Prop} {body : MonitorM α}
    (sketch : KeyAttains before body after)
    (stronger : ∀ core, before' core → before core) : KeyAttains before' body after :=
  Sketch.strengthen sketch (stable_keyCore before')
    fun world _ holds => stronger (keyCore world) holds

theorem key_invoke {query : MonitorQuery} {after : query.Reply → KeyCore → Prop}
    (served : ∀ ⦃world world' : KeyWorld⦄ ⦃notes : KeyNotes⦄
      ⦃proposed answer : Except MonitorError query.Reply⦄,
      Keyed world.config.upstreams notes → before (keyCore (world, notes)) →
      world.serve query proposed = some (answer, world') →
      (keyCore (world', keyWatch.call query answer world notes)).Sound ∧
        ∀ reply, answer = .ok reply →
          after reply (keyCore (world', keyWatch.call query answer world notes))) :
    KeyAttains before (invoke query) after := by
  apply sketch_invoke (stable_keyCore before)
  · intro world world' proposed answer kept holds _ taken
    obtain ⟨plain, noted⟩ := Host.watch_serve.mp taken
    obtain ⟨world', notes'⟩ := world'
    cases noted
    obtain ⟨kept', ends⟩ := served kept holds plain
    refine ⟨kept', ?_⟩
    cases answer with
    | ok reply => exact ends reply rfl
    | error error => trivial
  · intro reply
    exact stable_keyCore (after reply)
  · intro error
    exact Host.stable_true

/-! ### Calls -/

def MonitorQuery.isKeyQuiet : MonitorQuery → Bool
  | saveRecord .. | writeJson .. | getDkgClient _ | runDkg _ => false
  | _ => true

theorem KeyWorld.serve_of_not_write {query : MonitorQuery}
    (apart : ∀ path content, query ≠ .writeJson path content) {world world' : KeyWorld}
    {proposed answer : Except MonitorError query.Reply}
    (served : world.serve query proposed = some (answer, world')) :
    ∃ config, world.config.serve query proposed = some (answer, config) ∧
      world' = { world with config } := by
  have plain : (world.config.serve query proposed).map
      (fun served => (served.1, ({ world with config := served.2 } : KeyWorld))) =
      some (answer, world') := by
    cases query with
    | writeJson path content => exact absurd rfl (apart path content)
    | _ => exact served
  obtain ⟨⟨answer', config⟩, taken, same⟩ := Option.map_eq_some_iff.mp plain
  cases same
  exact ⟨config, taken, rfl⟩

theorem serve_quiet {query : MonitorQuery} (quiet : query.isKeyQuiet = true)
    {world world' : ConfigWorld} {proposed answer : Except MonitorError query.Reply}
    (served : world.serve query proposed = some (answer, world')) : world' = world := by
  unfold ConfigWorld.serve at served
  split at served
  all_goals first | (cases served; rfl) | cases quiet

def DkgStage.raised (stage : DkgStage) : DkgStage :=
  if stage = .running then .failed else stage

theorem DkgStage.after_quiet {query : MonitorQuery} (quiet : query.isKeyQuiet = true)
    (stage : DkgStage) (answer : Except MonitorError query.Reply) :
    stage.after query answer =
      match answer with
      | .ok _ => stage
      | .error _ => stage.raised := by
  cases query
  all_goals first | (cases answer <;> rfl) | cases quiet

theorem savesKey_quiet {query : MonitorQuery} (quiet : query.isKeyQuiet = true)
    (rotationId : Nat) (answer : Except MonitorError query.Reply) :
    savesKey rotationId query answer = false := by
  cases query
  all_goals first | rfl | cases quiet

theorem savesKeyless_quiet {query : MonitorQuery} (quiet : query.isKeyQuiet = true)
    (world : ConfigWorld) : savesKeyless world query = false := by
  cases query
  all_goals first | rfl | cases quiet

theorem setsDone_quiet {query : MonitorQuery} (quiet : query.isKeyQuiet = true) :
    setsDone query = false := by
  cases query
  all_goals first | rfl | cases quiet

theorem keyWatch_quiet {query : MonitorQuery} (quiet : query.isKeyQuiet = true)
    (answer : Except MonitorError query.Reply) (world : KeyWorld) (notes : KeyNotes) :
    keyWatch.call query answer world notes =
      match answer with
      | .ok _ => notes
      | .error _ => { notes with stage := notes.stage.raised } := by
  simp only [keyWatch, DkgStage.after_quiet quiet, savesKey_quiet quiet,
    savesKeyless_quiet quiet, setsDone_quiet quiet, Bool.or_false, Bool.false_and]
  cases answer <;> rfl

/-- A call that raises leaves what is to be kept where the run has touched nothing
while the DKG runs. -/
theorem Keyed.raised {upstreams : Upstreams} {notes : KeyNotes} (kept : Keyed upstreams notes)
    (calm : notes.stage = .running → upstreams = notes.found) :
    Keyed upstreams { notes with stage := notes.stage.raised } := by
  refine ⟨kept.keyless, kept.doneEarly, ?_⟩
  intro failed
  unfold DkgStage.raised at failed
  dsimp only at failed ⊢
  split at failed
  case isTrue running => exact calm running
  case isFalse => exact kept.untouched failed

/-- While the DKG runs nothing has been touched. -/
def KeyCalm (before : KeyCore → Prop) : Prop :=
  ∀ core, before core → core.notes.stage = .running → core.Untouched

theorem key_quiet {query : MonitorQuery} (quiet : query.isKeyQuiet = true)
    (calm : KeyCalm before) : KeyAttains before (invoke query) fun _ => before := by
  apply key_invoke
  intro world world' notes proposed answer kept holds served
  obtain ⟨config, plain, rfl⟩ := KeyWorld.serve_of_not_write
    (by rintro path content rfl; cases quiet) served
  cases serve_quiet quiet plain
  rw [keyWatch_quiet quiet]
  cases answer with
  | ok reply => exact ⟨kept, fun _ _ => holds⟩
  | error error => exact ⟨kept.raised (calm _ holds), nofun⟩

theorem key_check (calm : KeyCalm before) (status : Directory Text → Evaluated Bool) :
    KeyAttains before (check status) fun _ => before := by
  apply key_bind fun _ => before
  · exact key_quiet rfl calm
  · intro files
    cases status files with
    | ok passed => exact key_pure fun _ holds => holds
    | error error => exact key_raise

theorem key_loadRecord (calm : KeyCalm before) :
    KeyAttains before (invoke .loadRecord) fun record core =>
      before core ∧ record .configVersion = core.upstreams.configVersion := by
  apply key_invoke
  intro world world' notes proposed answer kept holds served
  obtain ⟨config, plain, rfl⟩ := KeyWorld.serve_of_not_write (by rintro _ _ ⟨⟩) served
  cases serve_quiet rfl plain
  rw [keyWatch_quiet rfl]
  cases answer with
  | ok reply =>
      refine ⟨kept, ?_⟩
      intro record same
      cases same
      obtain ⟨_, row⟩ := serve_loadRecord plain
      exact ⟨holds, by rw [← row]; rfl⟩
  | error error => exact ⟨kept.raised (calm _ holds), nofun⟩

theorem KeyWorld.serve_saveRecord {setter : Web.Setter} {copy : Web.SChainRecord}
    {world world' : KeyWorld} {proposed answer : Except MonitorError Unit}
    (served : world.serve (.saveRecord setter copy) proposed = some (answer, world')) :
    (∃ error, answer = .error error ∧ world' = world) ∨
      answer = .ok () ∧ world' = { world with config := { world.config with
        row := Web.Table.saved setter copy world.config.row } } := by
  obtain ⟨config, plain, rfl⟩ := KeyWorld.serve_of_not_write (by rintro _ _ ⟨⟩) served
  cases answer with
  | error error =>
      cases serve_error plain
      exact .inl ⟨error, rfl, rfl⟩
  | ok reply =>
      cases Monitor.serve_saveRecord plain
      exact .inr ⟨rfl, rfl⟩

theorem saved_configVersion {setter : Web.Setter} {copy row : Web.SChainRecord}
    (apart : setter.column ≠ .configVersion)
    (same : copy .configVersion = row .configVersion) :
    Web.Table.saved setter copy row .configVersion = row .configVersion := by
  unfold Web.Table.saved
  split
  · exact Web.SChainRecord.set_of_ne (Ne.symm apart)
  · exact same

theorem keyWatch_saveRecord {setter : Web.Setter} {copy : Web.SChainRecord}
    (answer : Except MonitorError Unit) (world : KeyWorld) (notes : KeyNotes)
    (late : setsDone (.saveRecord setter copy) = true → notes.keySaved = true) :
    keyWatch.call (.saveRecord setter copy) answer world notes =
      { notes with stage := notes.stage.after (.saveRecord setter copy) answer } := by
  have punctual : (setsDone (.saveRecord setter copy) && !notes.keySaved) = false := by
    cases sets : setsDone (.saveRecord setter copy) with
    | false => rfl
    | true => rw [late sets]; rfl
  simp only [keyWatch, punctual, savesKey, savesKeyless, Bool.or_false]

theorem key_setOn {record : Web.SChainRecord} {setter : Web.Setter}
    {after : KeyCore → Prop} (apart : setter.column ≠ .configVersion) (calm : KeyCalm before)
    (late : ∀ core copy, before core → setsDone (.saveRecord setter copy) = true →
      core.notes.keySaved = true)
    (next : ∀ core copy, core.Sound → before core →
      let core' := { core with notes := { core.notes with
        stage := core.notes.stage.after (.saveRecord setter copy) (.ok ()) } }
      core'.Sound ∧ after core') :
    KeyAttains (fun core => before core ∧
        record .configVersion = core.upstreams.configVersion)
      (setOn record setter) fun _ => after := by
  apply key_bind fun _ => after
  · apply key_invoke
    rintro world world' notes proposed answer kept ⟨holds, same⟩ served
    rw [keyWatch_saveRecord answer world notes (late _ _ holds)]
    rcases KeyWorld.serve_saveRecord served with ⟨error, rfl, rfl⟩ | ⟨rfl, rfl⟩
    · exact ⟨kept.raised (calm _ holds), nofun⟩
    · have copied : record.set setter.column setter.value .configVersion =
          world.config.row .configVersion := by
        rw [Web.SChainRecord.set_of_ne (Ne.symm apart)]
        exact same
      have version := saved_configVersion apart copied
      have upstreams : ConfigWorld.upstreams { world.config with
          row := Web.Table.saved setter (record.set setter.column setter.value)
            world.config.row } = world.config.upstreams :=
        congrArg (Upstreams.mk _) version
      obtain ⟨kept', ends⟩ := next (keyCore (world, notes)) _ kept holds
      unfold keyCore
      rw [upstreams]
      exact ⟨kept', fun _ _ => ends⟩
  · intro _
    exact key_pure fun _ holds => holds

/-- A write, whether or not it raises, changes at most its own file, which is there
afterwards if it was there before or the write returns. -/
theorem KeyWorld.serve_writeJson {path : FileName} {content : Document}
    {world world' : KeyWorld} {proposed answer : Except MonitorError Unit}
    (served : world.serve (.writeJson path content) proposed = some (answer, world')) :
    ∃ files, world' = { world with config := { world.config with files } } ∧
      (∀ other, other ≠ path → files.read other = world.config.files.read other) ∧
      ((world.config.files.read path).isSome = true ∨ answer = .ok () →
        (files.read path).isSome = true) := by
  cases proposed with
  | error error =>
      cases served
      refine ⟨world.tornFiles path, rfl, ?_⟩
      unfold tornFiles
      cases world.torn with
      | none =>
          refine ⟨fun _ _ => rfl, ?_⟩
          rintro (there | returned)
          · exact there
          · cases returned
      | some text =>
          refine ⟨fun other apart => Directory.read_put_of_ne _ text apart, ?_⟩
          simp
  | ok reply =>
      cases served
      refine ⟨_, rfl, fun other apart => Directory.read_put_of_ne _ _ apart, ?_⟩
      simp

/-! ### The phases of a run -/

def KeyStarted (rotationId : Nat) (core : KeyCore) : Prop :=
  core.Untouched ∧ core.notes.rotationId = rotationId ∧ core.notes.stage = .before

def InDkg (rotationId : Nat) (core : KeyCore) : Prop :=
  core.Untouched ∧ core.notes.rotationId = rotationId ∧ core.notes.stage = .running

def KeySaved (rotationId : Nat) (core : KeyCore) : Prop :=
  InDkg rotationId core ∧ core.notes.keySaved = true ∧ core.hasKey rotationId = true

def DkgFailed (core : KeyCore) : Prop :=
  core.Untouched ∧ core.notes.stage = .failed

def KeyHeld (rotationId : Nat) (core : KeyCore) : Prop :=
  core.hasKey rotationId = true ∧ core.notes.stage ≠ .running ∧ core.notes.stage ≠ .failed

theorem calm_started (rotationId : Nat) : KeyCalm (KeyStarted rotationId) :=
  fun _ started _ => started.1

theorem calm_keySaved (rotationId : Nat) : KeyCalm (KeySaved rotationId) :=
  fun _ saved _ => saved.1.1

theorem calm_dkgFailed : KeyCalm DkgFailed :=
  fun _ failed _ => failed.1

theorem calm_held (rotationId : Nat) : KeyCalm (KeyHeld rotationId) :=
  fun _ held running => absurd running held.2.1

theorem KeyHeld.keyed {rotationId : Nat} {core : KeyCore} {upstreams : Upstreams}
    (held : KeyHeld rotationId core) (sound : core.Sound) : Keyed upstreams core.notes :=
  ⟨sound.keyless, sound.doneEarly, fun failed => absurd failed held.2.2⟩

theorem key_updLastSeen (calm : KeyCalm before) :
    KeyAttains before updLastSeen fun _ => before := by
  apply key_bind _ (key_loadRecord calm)
  intro record
  apply key_bind _ (key_quiet rfl fun core holds => calm core holds.1)
  intro now
  have notVersion : Web.Column.monitorLastSeen ≠ .configVersion := by decide
  apply key_bind fun _ => before
  · apply key_setOn notVersion calm
    · rintro core copy _ ⟨⟩
    · intro core copy sound holds
      exact ⟨sound, holds⟩
  · intro _
    exact key_pure fun _ holds => holds

theorem key_ifNot {action : MonitorM Unit} (sketch : KeyAttains before action fun _ => before)
    (status : Bool) : KeyAttains before (ifNot status action) fun _ => before := by
  cases status with
  | true => exact key_pure fun _ holds => holds
  | false => exact sketch

theorem hasKey_seen (world : ConfigWorld) (given : Directory Text) (rotationId : Nat) :
    ((ConfigWorld.seen world.files given).read (.secretKey rotationId)).isSome =
      world.hasKey rotationId := by
  unfold ConfigWorld.seen ConfigWorld.hasKey
  split
  · rw [Directory.read_put_of_ne _ _ (by rintro ⟨⟩)]
  · rfl

theorem key_checkDkg (checks : ConfigChecks) (calm : KeyCalm before) :
    KeyAttains before (check fun files => .ok (checks.dkg files)) fun passed core =>
      before core ∧ core.hasKey checks.rotationId = passed := by
  apply key_bind fun files core =>
    before core ∧ core.hasKey checks.rotationId = checks.dkg files
  · apply key_invoke
    intro world world' notes proposed answer kept holds served
    obtain ⟨config, plain, rfl⟩ := KeyWorld.serve_of_not_write (by rintro _ _ ⟨⟩) served
    cases serve_quiet rfl plain
    rw [keyWatch_quiet rfl]
    cases answer with
    | error error => exact ⟨kept.raised (calm _ holds), nofun⟩
    | ok reply =>
        refine ⟨kept, ?_⟩
        intro files same
        cases same
        obtain ⟨_, given, rfl⟩ := serve_readFiles plain
        exact ⟨holds, (hasKey_seen world.config given checks.rotationId).symm⟩
  · intro files
    exact key_pure fun _ holds => holds

theorem key_getDkgClient (rotationId : Nat) :
    KeyAttains (KeyStarted rotationId) (invoke (.getDkgClient rotationId)) fun _ =>
      InDkg rotationId := by
  apply key_invoke
  rintro world world' notes proposed answer kept ⟨untouched, same, _⟩ served
  obtain ⟨config, plain, rfl⟩ := KeyWorld.serve_of_not_write (by rintro _ _ ⟨⟩) served
  cases serve_silent rfl plain
  have quiet : keyWatch.call (.getDkgClient rotationId) answer world notes =
      { notes with stage := notes.stage.after (.getDkgClient rotationId) answer } := by
    simp only [keyWatch, savesKey, savesKeyless, setsDone, Bool.or_false, Bool.false_and]
  rw [quiet]
  cases answer with
  | ok reply => exact ⟨⟨kept.keyless, kept.doneEarly, nofun⟩, fun _ _ => ⟨untouched, same, rfl⟩⟩
  | error error => exact ⟨⟨kept.keyless, kept.doneEarly, fun _ => untouched⟩, nofun⟩

theorem key_runDkg (rotationId : Nat) :
    KeyAttains (InDkg rotationId) (invoke (.runDkg rotationId)) fun result =>
      if result.1.isDone then InDkg rotationId else DkgFailed := by
  apply key_invoke
  rintro world world' notes proposed answer kept ⟨untouched, same, running⟩ served
  obtain ⟨config, plain, rfl⟩ := KeyWorld.serve_of_not_write (by rintro _ _ ⟨⟩) served
  cases serve_silent rfl plain
  have quiet : keyWatch.call (.runDkg rotationId) answer world notes =
      { notes with stage := notes.stage.after (.runDkg rotationId) answer } := by
    simp only [keyWatch, savesKey, savesKeyless, setsDone, Bool.or_false, Bool.false_and]
  rw [quiet]
  cases answer with
  | error error => exact ⟨⟨kept.keyless, kept.doneEarly, fun _ => untouched⟩, nofun⟩
  | ok reply =>
      refine ⟨⟨kept.keyless, kept.doneEarly, fun _ => untouched⟩, ?_⟩
      intro result same'
      cases same'
      cases done : reply.1.isDone with
      | true => exact ⟨untouched, same, by simpa [keyCore, DkgStage.after, done] using running⟩
      | false => exact ⟨untouched, by simp [keyCore, DkgStage.after, done]⟩

theorem upstreams_of_read_eq {world : ConfigWorld} {files : Directory Text}
    (same : ∀ filename, files.read (.upstream filename) =
      world.files.read (.upstream filename)) :
    ConfigWorld.upstreams { world with files } = world.upstreams :=
  congrArg (fun text => Upstreams.mk text (world.row .configVersion)) (funext same)

theorem key_saveDkgResults (rotationId : Nat) (keysData : Document) :
    KeyAttains (InDkg rotationId) (invoke (.writeJson (.secretKey rotationId) keysData))
      fun _ => KeySaved rotationId := by
  apply key_invoke
  rintro world world' notes proposed answer kept ⟨untouched, same, running⟩ served
  obtain ⟨files, rfl, others, there⟩ := KeyWorld.serve_writeJson served
  have upstreams : ConfigWorld.upstreams { world.config with files } = notes.found :=
    (upstreams_of_read_eq fun filename => others _ (by rintro ⟨⟩)).trans untouched
  have noted : keyWatch.call (.writeJson (.secretKey rotationId) keysData) answer world notes =
      { notes with
        stage := notes.stage.after (.writeJson (.secretKey rotationId) keysData) answer
        keySaved := notes.keySaved || savesKey notes.rotationId
          (.writeJson (.secretKey rotationId) keysData) answer } := by
    simp only [keyWatch, savesKeyless, setsDone, Bool.or_false, Bool.false_and]
  rw [noted]
  refine ⟨⟨kept.keyless, kept.doneEarly, fun _ => upstreams⟩, ?_⟩
  intro reply returned
  subst returned
  have saved : decide (rotationId = notes.rotationId) = true := decide_eq_true same.symm
  exact ⟨⟨upstreams, same, running⟩, by simp [keyCore, savesKey, saved],
    there (.inr rfl)⟩

theorem key_setRecord {setter : Web.Setter} {after : KeyCore → Prop} (calm : KeyCalm before)
    (sketch : ∀ record, KeyAttains
      (fun core => before core ∧ record .configVersion = core.upstreams.configVersion)
      (setOn record setter) fun _ => after) :
    KeyAttains before (setRecord setter) fun _ => after := by
  apply key_bind _ (key_loadRecord calm)
  intro record
  apply key_bind _ (sketch record)
  intro _
  exact key_pure fun _ holds => holds

theorem key_setStatus_saved (rotationId : Nat) (status : Dkg.DKGStatus) :
    KeyAttains (KeySaved rotationId) (setRecord (Web.setDkgStatus status)) fun _ =>
      KeyHeld rotationId := by
  have apart : Web.Column.dkgStatus ≠ .configVersion := by decide
  apply key_setRecord (calm_keySaved rotationId)
  intro record
  apply key_setOn apart (calm_keySaved rotationId)
  · intro core copy saved _
    exact saved.2.1
  · rintro core copy sound ⟨⟨untouched, _, running⟩, _, there⟩
    have passed : core.notes.stage.after (.saveRecord (Web.setDkgStatus status) copy)
        (.ok ()) = .passed := if_pos ⟨rfl, running⟩
    rw [passed]
    exact ⟨⟨sound.keyless, sound.doneEarly, nofun⟩, there, nofun, nofun⟩

theorem setsDone_iff {status : Dkg.DKGStatus} {copy : Web.SChainRecord} :
    setsDone (.saveRecord (Web.setDkgStatus status) copy) = status.isDone := by
  cases status <;> rfl

theorem key_setStatus_failed {status : Dkg.DKGStatus} (undone : status.isDone = false) :
    KeyAttains DkgFailed (setRecord (Web.setDkgStatus status)) fun _ => DkgFailed := by
  have apart : Web.Column.dkgStatus ≠ .configVersion := by decide
  apply key_setRecord calm_dkgFailed
  intro record
  apply key_setOn apart calm_dkgFailed
  · intro core copy _ sets
    rw [setsDone_iff, undone] at sets
    cases sets
  · rintro core copy sound ⟨untouched, failed⟩
    have still : core.notes.stage.after (.saveRecord (Web.setDkgStatus status) copy)
        (.ok ()) = .failed := by
      rw [failed]
      rfl
    rw [still]
    exact ⟨⟨sound.keyless, sound.doneEarly, fun _ => untouched⟩, untouched, rfl⟩

theorem key_dkg (am : ConfigActionManager) :
    KeyAttains (KeyStarted am.checks.rotationId) am.dkg fun _ => KeyHeld am.checks.rotationId := by
  apply key_bind _ (key_checkDkg am.checks (calm_started _))
  intro initialStatus
  cases initialStatus with
  | true =>
      apply key_pure
      rintro core ⟨⟨_, _, stage⟩, there⟩
      refine ⟨there, ?_, ?_⟩ <;> rw [stage] <;> nofun
  | false =>
      apply key_bind _ ((key_getDkgClient _).strengthen fun _ started => started.1)
      intro _
      apply key_bind _ (key_runDkg _)
      rintro ⟨status, keysData⟩
      dsimp only
      cases done : status.isDone with
      | true =>
          apply key_bind _ (key_saveDkgResults _ keysData)
          intro _
          apply key_bind _ (key_setStatus_saved _ status)
          intro _
          exact key_pure fun _ held => held
      | false =>
          apply key_bind fun _ => DkgFailed
          · exact key_pure fun _ failed => failed
          · intro _
            apply key_bind _ (key_setStatus_failed done)
            intro _
            exact key_raise

/-! ### After the DKG -/

variable {rotationId : Nat}

theorem DkgStage.raised_self {stage : DkgStage} (idle : stage ≠ .running) :
    stage.raised = stage :=
  if_neg idle

theorem held_invoke {query : MonitorQuery}
    (keyed : ∀ world, world.hasKey rotationId = true → savesKeyless world query = false)
    (undone : setsDone query = false)
    (same : ∀ stage : DkgStage, ∀ answer, stage ≠ .running → stage.after query answer = stage)
    (there : ∀ ⦃world world' : KeyWorld⦄ ⦃proposed answer⦄,
      world.serve query proposed = some (answer, world') →
      world.config.hasKey rotationId = true → world'.config.hasKey rotationId = true) :
    KeyAttains (KeyHeld rotationId) (invoke query) fun _ => KeyHeld rotationId := by
  apply key_invoke
  rintro world world' notes proposed answer kept held served
  have noted : keyWatch.call query answer world notes =
      { notes with keySaved := notes.keySaved || savesKey notes.rotationId query answer } := by
    simp only [keyWatch, same notes.stage answer held.2.1, keyed world.config held.1, undone,
      Bool.or_false, Bool.false_and]
  rw [noted]
  refine ⟨?_, fun _ _ => ⟨there served held.1, held.2⟩⟩
  exact ⟨kept.keyless, kept.doneEarly, fun failed => absurd failed held.2.2⟩

theorem held_setOn {setter : Web.Setter} (apart : setter.column ≠ .dkgStatus)
    (record : Web.SChainRecord) :
    KeyAttains (KeyHeld rotationId) (setOn record setter) fun _ => KeyHeld rotationId := by
  apply key_bind fun _ => KeyHeld rotationId
  · apply held_invoke
    · intro _ _
      rfl
    · obtain ⟨column, value, only⟩ := setter
      cases column with
      | dkgStatus => exact absurd rfl apart
      | _ => rfl
    · intro stage answer idle
      cases answer with
      | ok reply => exact if_neg fun set => apart set.1
      | error error => exact DkgStage.raised_self idle
    · intro world world' proposed answer served there
      rcases KeyWorld.serve_saveRecord served with ⟨error, rfl, rfl⟩ | ⟨rfl, rfl⟩
      · exact there
      · exact there
  · intro _
    exact key_pure fun _ held => held

theorem held_setRecord {setter : Web.Setter} (apart : setter.column ≠ .dkgStatus) :
    KeyAttains (KeyHeld rotationId) (setRecord setter) fun _ => KeyHeld rotationId := by
  apply key_setRecord (calm_held rotationId)
  intro record
  exact (held_setOn apart record).strengthen fun _ loaded => loaded.1

theorem held_writeJson {path : FileName} (content : Document)
    (own : ∀ filename, path = .upstream filename → filename.rotationId = rotationId) :
    KeyAttains (KeyHeld rotationId) (invoke (.writeJson path content)) fun _ =>
      KeyHeld rotationId := by
  apply held_invoke
  · intro world there
    cases path with
    | upstream filename =>
        rw [savesKeyless, own filename rfl, there]
        rfl
    | _ => rfl
  · rfl
  · intro stage answer idle
    cases answer with
    | ok reply => rfl
    | error error => exact DkgStage.raised_self idle
  · intro world world' proposed answer served there
    obtain ⟨files, rfl, others, here⟩ := KeyWorld.serve_writeJson served
    unfold ConfigWorld.hasKey at there ⊢
    by_cases same : FileName.secretKey rotationId = path
    · subst same
      exact here (.inl there)
    · dsimp only
      rw [others _ same]
      exact there

theorem held_updateSchainConfigVersion :
    KeyAttains (KeyHeld rotationId) ConfigActionManager.updateSchainConfigVersion fun _ =>
      KeyHeld rotationId := by
  apply key_bind _ (key_quiet rfl (calm_held rotationId))
  intro record
  apply key_bind _ (key_quiet rfl (calm_held rotationId))
  intro version
  have apart : Web.Column.configVersion ≠ .dkgStatus := by decide
  apply key_bind _ (held_setOn apart record)
  intro _
  exact key_pure fun _ held => held

theorem held_upstreamConfig (am : ConfigActionManager) :
    KeyAttains (KeyHeld am.checks.rotationId) am.upstreamConfig fun _ =>
      KeyHeld am.checks.rotationId := by
  have calm := calm_held am.checks.rotationId
  apply key_bind _ (key_quiet rfl calm)
  intro newConfig
  apply key_bind fun _ => KeyHeld am.checks.rotationId
  · apply key_bind _ (key_check calm _)
    intro exist
    cases exist with
    | true => exact key_check calm _
    | false => exact key_pure fun _ held => held
  · intro differs
    apply key_bind fun _ => KeyHeld am.checks.rotationId
    · apply key_ifNot
      apply key_bind _ (key_quiet rfl calm)
      intro ts
      apply held_writeJson
      rintro filename ⟨⟩
      rfl
    · intro _
      exact held_updateSchainConfigVersion

theorem held_updateExternalConfig (estate : ExternalState) :
    KeyAttains (KeyHeld rotationId) (ConfigActionManager.updateExternalConfig estate) fun _ =>
      KeyHeld rotationId :=
  held_writeJson _ (by rintro _ ⟨⟩)

theorem held_updateReloadTs (am : ConfigActionManager) (ipMatched : Bool) :
    KeyAttains (KeyHeld rotationId) (am.updateReloadTs ipMatched) fun _ => KeyHeld rotationId := by
  cases ipMatched with
  | true => exact held_updateExternalConfig _
  | false =>
      apply key_bind _ (key_quiet rfl (calm_held rotationId))
      intro nodeIndexInGroup
      cases nodeIndexInGroup with
      | none => exact key_pure fun _ held => held
      | some nodeIndex =>
          apply key_bind fun _ => KeyHeld rotationId
          · unfold calcReloadTs
            apply key_bind fun _ => KeyHeld rotationId
            · cases am.currentNodes with
              | nil => exact key_raise
              | cons node nodes => exact key_pure fun _ held => held
            · intro maxIpChangeTs
              cases maxIpChangeTs with
              | none => exact key_pure fun _ held => held
              | some ts => exact key_pure fun _ held => held
          · intro reloadTs
            exact held_updateExternalConfig _

theorem held_resetConfigRecord :
    KeyAttains (KeyHeld rotationId) ConfigActionManager.resetConfigRecord fun _ =>
      KeyHeld rotationId := by
  have apart : Web.Column.syncConfigRun ≠ .dkgStatus := by decide
  apply key_bind _ held_updateSchainConfigVersion
  intro _
  exact held_setRecord apart

/-! ### Runs -/

theorem key_regularConfigMonitor (am : ConfigActionManager) :
    KeyAttains (KeyStarted am.checks.rotationId) (regularConfigMonitor am) fun _ =>
      KeyHeld am.checks.rotationId := by
  have calm := calm_started am.checks.rotationId
  have heldCalm := calm_held am.checks.rotationId
  apply key_bind _ (key_quiet rfl calm)
  intro isConfigDir
  apply key_bind _ (key_ifNot (key_quiet rfl calm) _)
  intro _
  apply key_bind _ (key_checkDkg am.checks calm)
  intro dkg
  apply key_bind fun _ => KeyHeld am.checks.rotationId
  · cases dkg with
    | true =>
        apply key_pure
        rintro core ⟨⟨_, _, stage⟩, there⟩
        refine ⟨there, ?_, ?_⟩ <;> rw [stage] <;> nofun
    | false => exact (key_dkg am).strengthen fun _ started => started.1
  · intro _
    apply key_bind _ (key_check heldCalm _)
    intro externalState
    apply key_bind _ (key_ifNot (held_updateExternalConfig _) _)
    intro _
    apply key_bind _ (key_check heldCalm _)
    intro upstreamConfig
    apply key_bind _ (key_ifNot (held_upstreamConfig am) _)
    intro _
    apply key_bind _ (key_check heldCalm _)
    intro ipMatched
    apply key_bind _ (held_updateReloadTs am ipMatched)
    intro _
    exact held_resetConfigRecord

theorem key_swallowed {body : MonitorM Unit} {after : Unit → KeyCore → Prop}
    (sketch : KeyAttains before body after) :
    KeyAttains before (Procedure.attempt body fun _ => some (pure ())) fun _ _ => True := by
  have ended : KeyAttains before body fun _ _ => True :=
    Sketch.weaken sketch (fun _ _ _ => trivial) fun _ _ _ => trivial
  apply sketch_attempt _ ended
  · rintro error clause ⟨⟩
    exact sketch_pure Host.stable_true fun _ _ _ => trivial
  · rintro error ⟨⟩
  · intro _
    exact Host.stable_true
  · intro _
    exact Host.stable_true

theorem key_runConfigMonitor (am : ConfigActionManager) :
    KeyAttains (KeyStarted am.checks.rotationId) (runConfigMonitor (regularConfigMonitor am))
      fun _ _ => True := by
  apply key_swallowed
  apply key_bind _ (key_updLastSeen (calm_started am.checks.rotationId))
  intro _
  apply key_bind _ (key_regularConfigMonitor am)
  intro _
  exact key_updLastSeen (calm_held am.checks.rotationId)

theorem key_begun {world : KeyWorld × KeyNotes} {am : ConfigActionManager}
    (sound : (keyCore world).Sound)
    (_ : ({} : Host.Discipline monitorInterface (KeyWorld × KeyNotes) KeyMove
      ConfigActionManager).start world am) :
    (keyCore (watchedKeys.begin am world)).Sound ∧ ∃ before after,
      before (watchedKeys.begin am world) ∧
        watchedKeys.Outline {} (fun world => (keyCore world).Sound) before
          (watchedKeys.job am) after :=
  ⟨⟨sound.keyless, sound.doneEarly, nofun⟩, _, _, ⟨rfl, rfl, rfl⟩,
    key_runConfigMonitor am⟩

def KeyWorld.fresh (world : KeyWorld) : KeyWorld × KeyNotes :=
  (world, { rotationId := 0, found := world.config.upstreams })

/-- Upstream configs need their key, in every sequence of runs of the monitor of regular
nodes, whatever the DKG and the other calls answer, raise or leave behind, and wherever a
run is aborted. -/
theorem config_needs_key (world : KeyWorld)
    (labels : List (Label monitorInterface KeyMove ConfigActionManager)) :
    Transition.Always watchedKeys.step
      (fun config => Keyed config.world.1.config.upstreams config.world.2)
      { world := world.fresh } labels := by
  have moved : ∀ {world world' : KeyWorld × KeyNotes} {move : KeyMove},
      (keyCore world).Sound → watchedKeys.move world move = some world' →
      (keyCore world').Sound := by
    intro world world' move kept taken
    rw [keyCore_moved taken]
    exact kept
  exact Host.always_of_outlines (fun kept _ => moved kept) id key_begun
    (fun config kept => kept) ⟨rfl, rfl, nofun⟩
    (Transition.eachStep_of_mem (fun config label _ => Host.meets_default config label) _)

end SkaleAdmin.Monitor
