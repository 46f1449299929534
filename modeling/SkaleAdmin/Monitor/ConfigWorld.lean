import SkaleAdmin.Monitor.ConfigMonitor
import SkaleAdmin.Library.JsonRoundTrip

/-! The row and the configuration directory of an sChain while its config
pipelines run. -/

namespace SkaleAdmin.Monitor

open Interaction PyText Config

/-- `streamVersion` is what the monitor process has read when it started. -/
structure ConfigJob where
  syncNode : Bool
  streamVersion : String
  deriving DecidableEq

structure ConfigWorld where
  row : Web.SChainRecord
  streamVersion : String
  files : Directory Text
  pipeline : Option ConfigJob := none

inductive ConfigMove where
  | upgrade (streamVersion : String)
  /-- `set_schains_sync_config_run`, which updates the column in place. -/
  | setSyncConfigRun

namespace ConfigWorld

def move (world : ConfigWorld) : ConfigMove → Option ConfigWorld
  | .upgrade streamVersion => some { world with streamVersion }
  | .setSyncConfigRun =>
      some { world with row := world.row.set .syncConfigRun true }

/-- The skaled config is what the skaled pipeline has made of it. -/
def seen (files given : Directory Text) : Directory Text :=
  match given.read .skaled with
  | some text => files.put .skaled text
  | none => files

/-- Every call may raise; what is not recorded in the row or in a file is
answered as it comes. -/
def serve (query : MonitorQuery) (proposed : Except MonitorError query.Reply)
    (world : ConfigWorld) :
    Option (Except MonitorError query.Reply × ConfigWorld) :=
  match query, proposed with
  | _, .error error => some (.error error, world)
  | .loadRecord, .ok _ => some (.ok world.row, world)
  | .saveRecord setter copy, .ok _ =>
      some (.ok (), { world with row := Web.Table.saved setter copy world.row })
  | .readFiles, .ok given => some (.ok (seen world.files given), world)
  | .writeJson path content, .ok _ =>
      some (.ok (), { world with files := world.files.put path content.text })
  | .getSkaleNodeVersion, .ok _ => some (.ok world.streamVersion, world)
  | _, .ok reply => some (.ok reply, world)

end ConfigWorld

def ConfigJob.run (job : ConfigJob) : MonitorM Unit :=
  runConfigPipeline job.syncNode job.streamVersion

def configHost :
    Host monitorInterface ConfigWorld ConfigMove ConfigJob
      (Outcome MonitorError Unit × Unit) where
  move := ConfigWorld.move
  serve := ConfigWorld.serve
  job job := job.run ()
  begin job world := { world with pipeline := some job }
  finish world := { world with pipeline := none }

def MonitorQuery.isSilent : MonitorQuery → Bool
  | loadRecord | saveRecord .. | readFiles | writeJson .. | getSkaleNodeVersion =>
      false
  | _ => true

section Serve

variable {world world' : ConfigWorld}

theorem serve_error {query : MonitorQuery}
    {proposed : Except MonitorError query.Reply} {error : MonitorError}
    (served : world.serve query proposed = some (.error error, world')) :
    world' = world := by
  unfold ConfigWorld.serve at served
  split at served
  all_goals first | (cases served; done) | (cases served; rfl)

theorem serve_silent {query : MonitorQuery} (silent : query.isSilent = true)
    {proposed answer : Except MonitorError query.Reply}
    (served : world.serve query proposed = some (answer, world')) :
    world' = world := by
  unfold ConfigWorld.serve at served
  split at served
  all_goals first | cases silent | (cases served; rfl)

theorem serve_pipeline {query : MonitorQuery}
    {proposed answer : Except MonitorError query.Reply}
    (served : world.serve query proposed = some (answer, world')) :
    world'.pipeline = world.pipeline := by
  unfold ConfigWorld.serve at served
  split at served
  all_goals first | (cases served; done) | (cases served; rfl)

theorem serve_loadRecord {proposed : Except MonitorError Web.SChainRecord}
    {record : Web.SChainRecord}
    (served : world.serve .loadRecord proposed = some (.ok record, world')) :
    world' = world ∧ world.row = record := by
  cases proposed with
  | error error => cases served
  | ok given => cases served; exact ⟨rfl, rfl⟩

theorem serve_readFiles {proposed : Except MonitorError (Directory Text)}
    {files : Directory Text}
    (served : world.serve .readFiles proposed = some (.ok files, world')) :
    world' = world ∧ ∃ given, ConfigWorld.seen world.files given = files := by
  cases proposed with
  | error error => cases served
  | ok given => cases served; exact ⟨rfl, given, rfl⟩

theorem serve_getSkaleNodeVersion {proposed : Except MonitorError String}
    {version : String}
    (served : world.serve .getSkaleNodeVersion proposed =
      some (.ok version, world')) :
    world' = world ∧ world.streamVersion = version := by
  cases proposed with
  | error error => cases served
  | ok given => cases served; exact ⟨rfl, rfl⟩

theorem serve_isLastDkgSuccessful {proposed : Except MonitorError Bool}
    {successful : Bool}
    (served : world.serve .isLastDkgSuccessful proposed =
      some (.ok successful, world')) :
    proposed = .ok successful := by
  cases proposed with
  | error error => cases served
  | ok given => cases served; rfl

theorem serve_saveRecord {setter : Web.Setter} {copy : Web.SChainRecord}
    {proposed : Except MonitorError Unit} {reply : Unit}
    (served : world.serve (.saveRecord setter copy) proposed =
      some (.ok reply, world')) :
    world' = { world with row := Web.Table.saved setter copy world.row } := by
  cases proposed with
  | error error => cases served
  | ok given => cases served; rfl

theorem serve_writeJson {path : FileName} {content : Document}
    {proposed : Except MonitorError Unit} {reply : Unit}
    (served : world.serve (.writeJson path content) proposed =
      some (.ok reply, world')) :
    (∃ given, proposed = .ok given) ∧
      world' = { world with files := world.files.put path content.text } := by
  cases proposed with
  | error error => cases served
  | ok given => cases served; exact ⟨⟨given, rfl⟩, rfl⟩

theorem saved_set (record : Web.SChainRecord) (setter : Web.Setter) :
    Web.Table.saved setter (record.set setter.column setter.value) record =
      record.set setter.column setter.value := by
  unfold Web.Table.saved
  split
  · rw [Web.SChainRecord.set_self]
  · rfl

end Serve

/-! ### Outlines of pipelines that no move of the world disturbs -/

/-- An observer of the pipelines, what is assumed of the steps and what is to
be kept; moves are only allowed while no pipeline runs. -/
structure Audit (G : Type) where
  watch : Host.Watch monitorInterface ConfigWorld ConfigMove ConfigJob G
  discipline : Host.Discipline monitorInterface (ConfigWorld × G) ConfigMove
    ConfigJob
  invariant : ConfigWorld × G → Prop
  still : ∀ world move, discipline.move world move → world.1.pipeline = none
  /-- Neither the invariant nor the observer cares for what is not recorded. -/
  errors : ∀ (query : MonitorQuery) (error : MonitorError) world notes,
    watch.call query (.error error) world notes = notes

namespace Audit

open Interaction.Procedure (Sketch sketch_pure sketch_raise sketch_bind
  sketch_attempt sketch_invoke raise attempt)

variable {G α β : Type} (audit : Audit G)

abbrev host := configHost.watch audit.watch

def Busy (assertion : ConfigWorld × G → Prop) (world : ConfigWorld × G) : Prop :=
  world.1.pipeline ≠ none ∧ assertion world

/-- The body, started in a pipeline where `before` holds, keeps the invariant
and returns where `after` holds; nothing is said of where it raises. -/
def Attains (before : ConfigWorld × G → Prop) (body : MonitorM α)
    (after : α → ConfigWorld × G → Prop) : Prop :=
  Sketch audit.host audit.discipline audit.invariant (Busy before) body
    (fun result => Busy (after result)) fun _ => Busy fun _ => True

variable {audit} {before before' : ConfigWorld × G → Prop}
  {after : α → ConfigWorld × G → Prop} {body : MonitorM α}

theorem stable_busy (assertion : ConfigWorld × G → Prop) :
    audit.host.Stable audit.discipline audit.invariant (Busy assertion) := by
  apply Host.stable_of_still
  intro world move holds allowed
  exact holds.1 (audit.still world move allowed)

theorem attains_pure {result : α}
    (ends : ∀ world, audit.invariant world → before world → after result world) :
    audit.Attains before (pure result) after := by
  apply sketch_pure (stable_busy before)
  intro world kept holds
  exact ⟨holds.1, ends world kept holds.2⟩

theorem attains_raise {error : MonitorError} :
    audit.Attains before (raise error) after :=
  sketch_raise (stable_busy before) fun _ _ holds => ⟨holds.1, trivial⟩

theorem attains_bind {first : MonitorM β} {next : β → MonitorM α}
    (middle : β → ConfigWorld × G → Prop)
    (sketch : audit.Attains before first middle)
    (rest : ∀ result, audit.Attains (middle result) (next result) after) :
    audit.Attains before (first >>= next) after :=
  sketch_bind sketch rest fun _ => stable_busy _

theorem attains_swallowed {body : MonitorM Unit}
    (sketch : audit.Attains before body fun _ _ => True) :
    audit.Attains before (attempt body fun _ => some (pure ())) fun _ _ =>
      True := by
  apply sketch_attempt _ sketch
  · rintro error clause ⟨⟩
    exact attains_pure fun _ _ _ => trivial
  · rintro error ⟨⟩
  · intro _
    exact stable_busy _
  · intro _
    exact stable_busy _

theorem Attains.strengthen (sketch : audit.Attains before body after)
    (stronger : ∀ world, audit.invariant world → before' world → before world) :
    audit.Attains before' body after := by
  apply Sketch.strengthen sketch (stable_busy before')
  intro world kept holds
  exact ⟨holds.1, stronger world kept holds.2⟩

theorem Attains.weaken {after' : α → ConfigWorld × G → Prop}
    (sketch : audit.Attains before body after)
    (weaker : ∀ result world, after result world → after' result world) :
    audit.Attains before body after' := by
  apply Sketch.weaken sketch
  · intro result world holds
    exact ⟨holds.1, weaker result world holds.2⟩
  · intro _ _ holds
    exact holds

theorem attains_of_fact {fact : Prop} (known : ∀ world, before world → fact)
    (outline : fact → audit.Attains before body after) :
    audit.Attains before body after :=
  Host.Outline.of_fact (fun world holds => known world holds.2) outline

theorem attains_invoke {query : MonitorQuery}
    {after : query.Reply → ConfigWorld × G → Prop}
    (served : ∀ ⦃world world' : ConfigWorld × G⦄
      ⦃proposed : Except MonitorError query.Reply⦄ ⦃reply : query.Reply⦄,
      audit.invariant world → before world →
      audit.discipline.call query proposed world →
      world.1.serve query proposed = some (.ok reply, world'.1) →
      world'.2 = audit.watch.call query (.ok reply) world.1 world.2 →
      audit.invariant world' ∧ after reply world') :
    audit.Attains before (invoke query) after := by
  apply sketch_invoke (stable_busy before)
  · intro world world' proposed answer kept holds allowed taken
    obtain ⟨plain, noted⟩ := Host.watch_serve.mp taken
    have running : world'.1.pipeline ≠ none := by
      rw [serve_pipeline plain]
      exact holds.1
    cases answer with
    | ok reply =>
        obtain ⟨kept', holds'⟩ := served kept holds.2 allowed plain noted
        exact ⟨kept', running, holds'⟩
    | error error =>
        have same : world' = world := by
          rw [audit.errors] at noted
          exact Prod.ext (serve_error plain) noted
        rw [same]
        exact ⟨kept, holds.1, trivial⟩
  · intro reply
    exact stable_busy (after reply)
  · intro error
    exact stable_busy _

def Unnoted (audit : Audit G) (query : MonitorQuery) : Prop :=
  ∀ reply world notes, audit.watch.call query (.ok reply) world notes = notes

theorem attains_silent {query : MonitorQuery} (silent : query.isSilent = true)
    (unnoted : audit.Unnoted query) :
    audit.Attains before (invoke query) fun _ => before := by
  apply attains_invoke
  intro world world' proposed reply kept holds _ plain noted
  have same : world' = world := by
    rw [unnoted] at noted
    exact Prod.ext (serve_silent silent plain) noted
  rw [same]
  exact ⟨kept, holds⟩

theorem attains_loadRecord (unnoted : audit.Unnoted .loadRecord) :
    audit.Attains before (invoke .loadRecord) fun record world =>
      before world ∧ world.1.row = record := by
  apply attains_invoke
  intro world world' proposed reply kept holds _ plain noted
  rw [unnoted] at noted
  obtain ⟨unchanged, row⟩ := serve_loadRecord plain
  have same : world' = world := Prod.ext unchanged noted
  rw [same]
  exact ⟨kept, holds, row⟩

theorem attains_setOn {record : Web.SChainRecord} {setter : Web.Setter}
    {after : ConfigWorld × G → Prop}
    (set : ∀ ⦃world world' : ConfigWorld × G⦄, audit.invariant world →
      before world →
      world'.1 = { world.1 with
        row := world.1.row.set setter.column setter.value } →
      world'.2 = audit.watch.call (.saveRecord setter
        (world.1.row.set setter.column setter.value)) (.ok ()) world.1 world.2 →
      audit.invariant world' ∧ after world') :
    audit.Attains (fun world => before world ∧ world.1.row = record)
      (setOn record setter) fun _ => after := by
  apply attains_bind fun _ => after
  · apply attains_invoke
    rintro world world' proposed reply kept ⟨holds, rfl⟩ _ served noted
    have saved := serve_saveRecord served
    rw [saved_set] at saved
    exact set kept holds saved noted
  · intro _
    exact attains_pure fun _ _ holds => holds

theorem attains_check (unnoted : audit.Unnoted .readFiles)
    (status : Directory Text → Evaluated Bool) :
    audit.Attains before (check status) fun passed world =>
      before world ∧ ∃ given,
        status (ConfigWorld.seen world.1.files given) = .ok passed := by
  apply attains_bind fun files world =>
    before world ∧ ∃ given, ConfigWorld.seen world.1.files given = files
  · apply attains_invoke
    intro world world' proposed reply kept holds _ plain noted
    rw [unnoted] at noted
    obtain ⟨unchanged, same⟩ := serve_readFiles plain
    have all : world' = world := Prod.ext unchanged noted
    rw [all]
    exact ⟨kept, holds, same⟩
  · intro files
    cases evaluated : status files with
    | error error => exact attains_raise
    | ok passed =>
        apply attains_pure
        rintro world kept ⟨holds, given, rfl⟩
        exact ⟨holds, given, evaluated⟩

end Audit

/-! ### A new sChain -/

def newSchain : ConfigWorld where
  row := .add "schain" 0 0
  streamVersion := "2.0.0"
  files := []

/-- A node whose last DKG was `successful`, before its first config. -/
def firstPass (successful : Bool) :
    (query : MonitorQuery) → Except MonitorError query.Reply
  | .time => .ok 0
  | .loadRecord => .ok (.add "schain" 0 0)
  | .readFiles => .ok []
  | .getSkaleNodeVersion => .ok "2.0.0"
  | .getRotation => .ok 0
  | .getSyncAgentRanges => .ok []
  | .getCurrentNodes => .ok [⟨"10.0.0.1".toList, 0⟩]
  | .getChainId => .ok 1
  | .hasSchain => .ok true
  | .isLastDkgSuccessful => .ok successful
  | .isConfigDir => .ok true
  | .runDkg _ => .ok (.DONE, ⟨[], .obj [] List.nodup_nil (by rintro _ ⟨⟩)⟩)
  | .createNewUpstreamConfig _ =>
      .ok ⟨[], .obj [] List.nodup_nil (by rintro _ ⟨⟩)⟩
  | .getNodeIndexInGroup => .ok (some 0)
  | .saveRecord .. => .ok ()
  | .writeJson .. => .ok ()
  | .getSchain => .ok ()
  | .initSchainConfigDir => .ok ()
  | .getDkgClient _ => .ok ()
  | _ => .error .attributeError

end SkaleAdmin.Monitor
