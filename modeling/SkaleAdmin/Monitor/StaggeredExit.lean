import SkaleAdmin.Library.Crew
import SkaleAdmin.Monitor.ReloadSchedule
import SkaleAdmin.Monitor.SkaledFootprint

/-! The exits that the nodes of a group schedule after IP changes, while each node
runs its config and skaled pipelines. -/

namespace SkaleAdmin.Monitor

open Interaction PyText Json Config
open Interaction.Procedure (Calls calls_pure calls_raise calls_bind calls_invoke
  calls_attempt)
open Interaction.Ledger (Yields yields_pure yields_raise yields_bind yields_of_calls
  yields_swallowed yields_invoke yields_of_fact)

inductive Role where
  | config
  | skaled
  deriving DecidableEq

/-- `monitor` is the one that runs or ran last, and `byReloadIp` tells whether the
reload monitor for IP changes has written the exit schedule. -/
structure NodeDisk where
  external : Option Text := none
  exitTs : Option Int := none
  monitor : SkaledMonitor := .regular
  byReloadIp : Bool := false

namespace NodeDisk

def seen (disk : NodeDisk) (given : Directory Text) : Directory Text :=
  match disk.external with
  | some text => given.put .external text
  | none => given.remove .external

def reloadTs (disk : NodeDisk) : Option Int :=
  storedReloadTs (disk.seen [])

def pendingExit (disk : NodeDisk) : Option Int :=
  if disk.byReloadIp then disk.exitTs else none

end NodeDisk

/-- The contracts' record of the nodes of a group, in its order, and what is on
their disks. -/
structure GroupWorld (n : Nat) where
  nodes : Fin n → NodeInfo
  disks : Fin n → NodeDisk

inductive GroupMove (n : Nat) where
  | changeIp (node : Fin n) (info : NodeInfo)

namespace GroupWorld

variable {n : Nat}

def move (world : GroupWorld n) : GroupMove n → Option (GroupWorld n)
  | .changeIp node info =>
      some { world with nodes := Function.update world.nodes node info }

def write (world : GroupWorld n) (node : Fin n) (disk : NodeDisk) : GroupWorld n :=
  { world with disks := Function.update world.disks node disk }

@[simp] theorem write_self (world : GroupWorld n) (node : Fin n) (disk : NodeDisk) :
    (world.write node disk).disks node = disk :=
  Function.update_self ..

theorem write_of_ne (world : GroupWorld n) {node other : Fin n}
    (apart : other ≠ node) (disk : NodeDisk) :
    (world.write node disk).disks other = world.disks other :=
  Function.update_of_ne apart ..

def serve (world : GroupWorld n) (worker : Fin n × Role) (query : MonitorQuery)
    (proposed : Except MonitorError query.Reply) :
    Option (Except MonitorError query.Reply × GroupWorld n) :=
  let disk := world.disks worker.1
  match query, proposed with
  | _, .error error => some (.error error, world)
  | .getCurrentNodes, .ok _ => some (.ok (List.ofFn world.nodes), world)
  | .getNodeIndexInGroup, .ok _ => some (.ok (some worker.1), world)
  | .readFiles, .ok given => some (.ok (disk.seen given), world)
  | .writeJson .external content, .ok _ =>
      some (.ok (), world.write worker.1 { disk with external := some content.text })
  | .exitScheduleExists, .ok _ => some (.ok disk.exitTs.isSome, world)
  | .setExitTs ts, .ok _ =>
      some (.ok (), world.write worker.1 { disk with
        exitTs := some ts
        byReloadIp := worker.2 = .skaled ∧ disk.monitor = .reloadIp })
  | .removeExitSchedule, .ok _ =>
      some (.ok (), world.write worker.1 { disk with exitTs := none })
  | .incrSkaledPipeline monitor, .ok _ =>
      some (.ok (), world.write worker.1 { disk with
        monitor := if worker.2 = .skaled then monitor else disk.monitor })
  | _, .ok reply => some (.ok reply, world)

end GroupWorld

def groupCrew (n : Nat) (settings : SkaledSettings) :
    Crew monitorInterface (GroupWorld n) (GroupMove n) (Fin n × Role) String
      (Outcome MonitorError Unit × Unit) where
  move := GroupWorld.move
  serve worker query proposed world := world.serve worker query proposed
  job
    | (_, .config), streamVersion => runConfigPipeline false streamVersion ()
    | (_, .skaled), _ => runSkaledPipeline { settings with syncNode := false } ()

/-! ### Where an exit time comes from -/

section Sources

variable {n : Nat} {settings : SkaledSettings} {changes : Set Int}

/-- The time of an IP change and the delay of the node. -/
def IsDelayed (changes : Set Int) (node : Fin n) (exitTs : Int) : Prop :=
  ∃ ts ∈ changes, exitTs = ts + getNodeDelay node

structure Sourced (changes : Set Int) (world : GroupWorld n) : Prop where
  changed : ∀ node, (world.nodes node).ipChangeTs ∈ changes
  stored : ∀ node reloadTs, (world.disks node).reloadTs = some reloadTs →
    IsDelayed changes node reloadTs
  pending : ∀ node exitTs, (world.disks node).pendingExit = some exitTs →
    IsDelayed changes node exitTs

theorem sourced_write {world : GroupWorld n} {node : Fin n} {disk : NodeDisk}
    (kept : Sourced changes world)
    (stored : ∀ reloadTs, disk.reloadTs = some reloadTs →
      IsDelayed changes node reloadTs)
    (pending : ∀ exitTs, disk.pendingExit = some exitTs →
      IsDelayed changes node exitTs) : Sourced changes (world.write node disk) := by
  refine ⟨kept.changed, ?_, ?_⟩
  · intro other reloadTs given
    by_cases same : other = node
    · subst same
      rw [GroupWorld.write_self] at given
      exact stored reloadTs given
    · rw [GroupWorld.write_of_ne _ same] at given
      exact kept.stored other reloadTs given
  · intro other exitTs given
    by_cases same : other = node
    · subst same
      rw [GroupWorld.write_self] at given
      exact pending exitTs given
    · rw [GroupWorld.write_of_ne _ same] at given
      exact kept.pending other exitTs given

theorem storedReloadTs_seenOn (disk : NodeDisk) (given : Directory Text) :
    storedReloadTs (disk.seen given) = disk.reloadTs := by
  apply storedReloadTs_congr
  unfold NodeDisk.seen
  cases disk.external with
  | none => rw [Directory.read_remove_self, Directory.read_remove_self]
  | some text => rw [Directory.read_put_self, Directory.read_put_self]

theorem sourced_of_serve {world world' : GroupWorld n} {worker : Fin n × Role}
    {query : MonitorQuery} {proposed answer : Except MonitorError query.Reply}
    (kept : Sourced changes world)
    (stores : ∀ content, query = .writeJson .external content → ∀ reloadTs,
      storedReloadTs (Directory.put [] .external content.text) = some reloadTs →
        IsDelayed changes worker.1 reloadTs)
    (schedules : ∀ exitTs, query = .setExitTs exitTs → worker.2 = .skaled →
      (world.disks worker.1).monitor = .reloadIp → IsDelayed changes worker.1 exitTs)
    (served : world.serve worker query proposed = some (answer, world')) :
    Sourced changes world' := by
  unfold GroupWorld.serve at served
  dsimp only at served
  split at served
  case h_5 content _ =>
    cases served
    exact sourced_write kept (stores content rfl) (kept.pending worker.1)
  case h_7 exitTs _ =>
    cases served
    refine sourced_write kept (kept.stored worker.1) ?_
    intro ts given
    simp only [NodeDisk.pendingExit, Option.ite_none_right_eq_some,
      Option.some.injEq, decide_eq_true_eq] at given
    obtain ⟨⟨skaled, monitor⟩, rfl⟩ := given
    exact schedules exitTs rfl skaled monitor
  case h_8 =>
    cases served
    refine sourced_write kept (kept.stored worker.1) ?_
    intro ts given
    simp [NodeDisk.pendingExit] at given
  case h_9 =>
    cases served
    exact sourced_write kept (kept.stored worker.1) (kept.pending worker.1)
  all_goals
    cases served
    exact kept

/-! ### A config pipeline -/

def changesWithin (changes : Set Int) :
    Crew.Discipline monitorInterface (GroupWorld n) (GroupMove n) (Fin n × Role) where
  move
    | _, .changeIp _ info => info.ipChangeTs ∈ changes

def configLedger (settings : SkaledSettings) (changes : Set Int) (node : Fin n) :
    Ledger monitorInterface (GroupWorld n)
      (Crew.Rely monitorInterface (GroupMove n) (Fin n × Role)) String
      (Outcome MonitorError Unit × Unit) Unit where
  host := (groupCrew n settings).host (node, .config)
  discipline := Crew.rely (changesWithin changes) (fun _ _ => True) (node, .config)
  invariant := Sourced changes
  view _ := ()
  unmoved _ _ _ _ := rfl

variable {node : Fin n} {α : Type}

theorem Spares.sourced {body : MonitorM α} (spares : Spares body) {fact : Prop} :
    (configLedger settings changes node).Yields (fun _ => fact) body
      fun _ _ => fact := by
  apply yields_of_calls spares
  intro query world world' proposed answer spared kept known _ served
  refine ⟨sourced_of_serve kept ?_ ?_ served, known⟩
  · rintro content rfl
    cases spared
  · rintro exitTs rfl ⟨⟩

theorem getCurrentNodes_sourced :
    (configLedger settings changes node).Yields (fun _ => True)
      (invoke .getCurrentNodes) fun nodes _ =>
        ∀ info ∈ nodes, info.ipChangeTs ∈ changes := by
  apply yields_invoke
  intro world world' proposed answer kept _ _ served
  cases proposed with
  | error error =>
      obtain ⟨rfl, same⟩ := Prod.mk.inj (Option.some.inj served)
      rw [← same]
      refine ⟨kept, ?_⟩
      rintro _ ⟨⟩
  | ok given =>
      obtain ⟨rfl, same⟩ := Prod.mk.inj (Option.some.inj served)
      rw [← same]
      refine ⟨kept, ?_⟩
      rintro _ ⟨⟩ info member
      obtain ⟨other, rfl⟩ := List.mem_ofFn.mp member
      exact kept.changed other

theorem getNodeIndexInGroup_sourced :
    (configLedger settings changes node).Yields (fun _ => True)
      (ConfigActionManager.nodeIndexInGroup false) fun index _ =>
        ∀ nodeIndex, index = some nodeIndex → nodeIndex = node := by
  apply yields_invoke
  intro world world' proposed answer kept _ _ served
  cases proposed with
  | error error =>
      obtain ⟨rfl, same⟩ := Prod.mk.inj (Option.some.inj served)
      rw [← same]
      refine ⟨kept, ?_⟩
      rintro _ ⟨⟩
  | ok given =>
      obtain ⟨rfl, same⟩ := Prod.mk.inj (Option.some.inj served)
      rw [← same]
      refine ⟨kept, ?_⟩
      rintro _ ⟨⟩ nodeIndex ⟨⟩
      rfl

theorem foldl_max_mem (first : Int) (rest : List Int) :
    rest.foldl max first ∈ first :: rest := by
  induction rest generalizing first with
  | nil => exact List.mem_singleton_self first
  | cons next rest ih =>
      have member := ih (max first next)
      rw [List.foldl_cons]
      rcases List.mem_cons.mp member with same | later
      · rw [same]
        rcases Int.le_total first next with least | least
        · rw [Int.max_eq_right least]
          exact List.mem_cons_of_mem _ List.mem_cons_self
        · rw [Int.max_eq_left least]
          exact List.mem_cons_self
      · exact List.mem_cons_of_mem _ (List.mem_cons_of_mem _ later)

theorem getMaxIpChangeTs_sourced {nodes : List NodeInfo}
    (changed : ∀ info ∈ nodes, info.ipChangeTs ∈ changes) :
    (configLedger settings changes node).Yields (fun _ => True)
      (getMaxIpChangeTs nodes) fun maxIpChangeTs _ =>
        ∀ ts, maxIpChangeTs = some ts → ts ∈ changes := by
  cases nodes with
  | nil => exact yields_raise
  | cons info nodes =>
      refine yields_pure fun _ _ ts given => ?_
      have member := foldl_max_mem info.ipChangeTs (nodes.map NodeInfo.ipChangeTs)
      rw [← List.map_cons (f := NodeInfo.ipChangeTs)] at member
      obtain ⟨latest, listed, same⟩ := List.mem_map.mp member
      split at given
      · cases given
      · cases given
        rw [← same]
        exact changed latest listed

theorem calcReloadTs_sourced {nodes : List NodeInfo} {nodeIndex : Nat}
    (changed : ∀ info ∈ nodes, info.ipChangeTs ∈ changes)
    (own : nodeIndex = node) :
    (configLedger settings changes node).Yields (fun _ => True)
      (calcReloadTs nodes nodeIndex) fun reloadTs _ =>
        ∀ ts, reloadTs = some ts → IsDelayed changes node ts := by
  refine yields_bind _ (getMaxIpChangeTs_sourced changed) fun maxIpChangeTs => ?_
  cases maxIpChangeTs with
  | none => exact yields_pure (by rintro _ _ ts ⟨⟩)
  | some maxIpChangeTs =>
      refine yields_pure fun _ latest ts given => ?_
      cases given
      exact ⟨maxIpChangeTs, latest _ rfl, by rw [own]⟩

theorem updateExternalConfig_sourced {estate : ExternalState}
    (delayed : ∀ ts, estate.reloadTs = some ts → IsDelayed changes node ts) :
    (configLedger settings changes node).Yields (fun _ => True)
      (ConfigActionManager.updateExternalConfig estate) fun _ _ => True := by
  apply yields_invoke
  intro world world' proposed answer kept _ _ served
  refine ⟨sourced_of_serve kept ?_ (by rintro exitTs ⟨⟩) served, fun _ _ => trivial⟩
  intro content same reloadTs stored
  cases same
  rw [storedReloadTs_estate] at stored
  exact delayed reloadTs stored

theorem updateReloadTs_sourced {am : ConfigActionManager} (ipMatched : Bool)
    (changed : ∀ info ∈ am.currentNodes, info.ipChangeTs ∈ changes) :
    (configLedger settings changes node).Yields (fun _ => True)
      (am.updateReloadTs ipMatched) fun _ _ => True := by
  cases ipMatched with
  | true => exact updateExternalConfig_sourced (by rintro ts ⟨⟩)
  | false =>
      refine yields_bind _ getNodeIndexInGroup_sourced fun index => ?_
      cases index with
      | none => exact yields_pure fun _ _ => trivial
      | some nodeIndex =>
          refine yields_of_fact (fun _ known => known nodeIndex rfl) fun own => ?_
          have calculates : (configLedger settings changes node).Yields
              (fun _ => True) (calcReloadTs am.currentNodes nodeIndex)
              fun reloadTs _ => ∀ ts, reloadTs = some ts → IsDelayed changes node ts :=
            calcReloadTs_sourced changed own
          refine yields_bind _ (calculates.strengthen fun _ _ => trivial)
            fun reloadTs => ?_
          refine yields_of_fact (fun _ known => known) fun delayed => ?_
          exact (updateExternalConfig_sourced delayed).strengthen fun _ _ => trivial

theorem regularConfigMonitor_sourced {am : ConfigActionManager}
    (unscheduled : am.checks.estate.reloadTs = none)
    (changed : ∀ info ∈ am.currentNodes, info.ipChangeTs ∈ changes) :
    (configLedger settings changes node).Yields (fun _ => True)
      (regularConfigMonitor am) fun _ _ => True := by
  have writes : (configLedger settings changes node).Yields (fun _ => True)
      am.externalState fun _ _ => True := by
    apply updateExternalConfig_sourced
    intro ts given
    rw [unscheduled] at given
    cases given
  refine yields_bind _ spares_isConfigDir.sourced fun isDir => ?_
  refine yields_bind _ (spares_ifNot spares_configDir isDir).sourced fun _ => ?_
  refine yields_bind _ (spares_check _).sourced fun dkg => ?_
  refine yields_bind _ (spares_ifNot (spares_dkg am) dkg).sourced fun _ => ?_
  refine yields_bind _ (spares_check _).sourced fun external => ?_
  refine yields_bind (fun _ _ => True) ?_ fun _ => ?_
  · cases external with
    | true => exact yields_pure fun _ _ => trivial
    | false => exact writes
  refine yields_bind _ (spares_check _).sourced fun upstream => ?_
  refine yields_bind _ (spares_ifNot (spares_upstreamConfig am) upstream).sourced
    fun _ => ?_
  refine yields_bind _ (spares_check _).sourced fun ips => ?_
  refine yields_bind _ (updateReloadTs_sourced ips changed) fun _ => ?_
  exact spares_resetConfigRecord.sourced

theorem runConfigPipeline_sourced (streamVersion : String) :
    (configLedger settings changes node).Yields (fun _ => True)
      (runConfigPipeline false streamVersion) fun _ _ => True := by
  have spares : ∀ query : MonitorQuery, query.sparesExternal = true →
      (configLedger settings changes node).Yields (fun _ => True) (invoke query)
        fun _ _ => True := fun query spared => (spares_invoke spared).sourced
  refine yields_bind _ (spares .getSchain rfl) fun _ => ?_
  refine yields_bind _ (spares .loadRecord rfl) fun schainRecord => ?_
  refine yields_bind _ (spares .getRotation rfl) fun rotationId => ?_
  refine yields_bind _ (spares .getSyncAgentRanges rfl) fun ranges => ?_
  refine yields_bind _ (spares_isImaLinked false).sourced fun imaLinked => ?_
  refine yields_bind _ (spares .isLastDkgSuccessful rfl) fun lastDkgSuccessful => ?_
  refine yields_bind _ getCurrentNodes_sourced fun currentNodes => ?_
  refine yields_of_fact (fun _ known => known) fun changed => ?_
  refine yields_bind _ (spares_invoke rfl).sourced fun chainId => ?_
  refine yields_bind _ (spares_evaluateConfigChecks _).sourced fun _ => ?_
  apply yields_swallowed
  refine yields_bind _ spares_updLastSeen.sourced fun _ => ?_
  refine yields_bind _ ((regularConfigMonitor_sourced rfl changed).strengthen
    fun _ _ => trivial) fun _ => ?_
  exact spares_updLastSeen.sourced

/-! ### A skaled pipeline -/

theorem disk_of_others {world world' : GroupWorld n} {worker : Fin n × Role}
    {query : MonitorQuery} {proposed answer : Except MonitorError query.Reply}
    (apart : node ≠ worker.1)
    (served : world.serve worker query proposed = some (answer, world')) :
    world'.disks node = world.disks node := by
  unfold GroupWorld.serve at served
  dsimp only at served
  split at served
  all_goals
    cases served
    first | rfl | exact GroupWorld.write_of_ne _ apart _

theorem monitor_of_config {world world' : GroupWorld n}
    {query : MonitorQuery} {proposed answer : Except MonitorError query.Reply}
    (served : world.serve (node, .config) query proposed = some (answer, world')) :
    (world'.disks node).monitor = (world.disks node).monitor := by
  unfold GroupWorld.serve at served
  dsimp only at served
  split at served
  all_goals
    cases served
    simp

theorem monitor_of_others {world world' : GroupWorld n} {other : Fin n × Role}
    {query : MonitorQuery} {proposed answer : Except MonitorError query.Reply}
    (different : ¬ other = (node, .skaled))
    (served : world.serve other query proposed = some (answer, world')) :
    (world'.disks node).monitor = (world.disks node).monitor := by
  obtain ⟨owner, role⟩ := other
  by_cases own : owner = node
  · subst own
    cases role with
    | config => exact monitor_of_config served
    | skaled => exact absurd rfl different
  · rw [disk_of_others (Ne.symm own) served]

/-- The monitor of a node is noted by its skaled pipelines only. -/
def skaledLedger (settings : SkaledSettings) (changes : Set Int) (node : Fin n) :
    Ledger monitorInterface (GroupWorld n)
      (Crew.Rely monitorInterface (GroupMove n) (Fin n × Role)) String
      (Outcome MonitorError Unit × Unit) SkaledMonitor where
  host := (groupCrew n settings).host (node, .skaled)
  discipline := Crew.rely (changesWithin changes) (fun _ _ => True) (node, .skaled)
  invariant := Sourced changes
  view world := (world.disks node).monitor
  unmoved := by
    intro world move moved taken
    cases move with
    | move move =>
        cases move with
        | changeIp other info =>
            rw [← Option.some.inj taken]
    | call other query proposed =>
        obtain ⟨different, moves⟩ := Option.ite_none_left_eq_some.mp taken
        obtain ⟨⟨answer, world'⟩, served, rfl⟩ := Option.map_eq_some_iff.mp moves
        exact monitor_of_others different served

/-- The calls that note no monitor and write no `external.json`. -/
def MonitorQuery.keepsMonitor : MonitorQuery → Bool
  | incrSkaledPipeline _ | writeJson .. => false
  | _ => true

theorem monitor_of_serve {world world' : GroupWorld n} {worker : Fin n × Role}
    {query : MonitorQuery} {proposed answer : Except MonitorError query.Reply}
    (keeps : query.keepsMonitor = true)
    (served : world.serve worker query proposed = some (answer, world')) :
    (world'.disks worker.1).monitor = (world.disks worker.1).monitor := by
  unfold GroupWorld.serve at served
  dsimp only at served
  split at served
  case h_5 | h_9 => cases keeps
  all_goals
    cases served
    simp

theorem sourced_of_keeps {body : MonitorM α} {monitor : SkaledMonitor}
    (other : monitor ≠ .reloadIp)
    (keeps : body.Calls fun query : MonitorQuery => query.keepsMonitor = true) :
    (skaledLedger settings changes node).Yields (fun seen => seen = monitor) body
      fun _ seen => seen = monitor := by
  apply yields_of_calls keeps
  intro query world world' proposed answer kept sourced noted _ served
  refine ⟨sourced_of_serve sourced ?_ ?_ served,
    (monitor_of_serve kept served).trans noted⟩
  · rintro content rfl
    cases kept
  · intro exitTs _ _ reloads
    exact absurd (noted.symm.trans reloads) other

def MonitorQuery.schedulesNothing : MonitorQuery → Bool
  | incrSkaledPipeline _ | writeJson .. | setExitTs _ => false
  | _ => true

theorem harmless_schedulesNothing (query : MonitorQuery)
    (harmless : query.isHarmless = true) : query.schedulesNothing = true := by
  cases query with
  | incrSkaledPipeline | writeJson | setExitTs => cases harmless
  | _ => rfl

theorem keepsMonitor_of_schedulesNothing {query : MonitorQuery}
    (nothing : query.schedulesNothing = true) : query.keepsMonitor = true := by
  cases query with
  | incrSkaledPipeline | writeJson => cases nothing
  | _ => rfl

theorem sourced_of_schedulesNothing {body : MonitorM α}
    {assertion : SkaledMonitor → Prop}
    (calls : body.Calls fun query : MonitorQuery => query.schedulesNothing = true) :
    (skaledLedger settings changes node).Yields assertion body fun _ => assertion := by
  apply yields_of_calls calls
  intro query world world' proposed answer nothing sourced holds _ served
  have same : (world'.disks node).monitor = (world.disks node).monitor :=
    monitor_of_serve (keepsMonitor_of_schedulesNothing nothing) served
  refine ⟨sourced_of_serve sourced ?_ ?_ served, ?_⟩
  · rintro content rfl
    cases nothing
  · rintro exitTs rfl
    cases nothing
  · change assertion (world'.disks node).monitor
    rw [same]
    exact holds

theorem sourced_of_auxiliary {body : MonitorM α} {assertion : SkaledMonitor → Prop}
    (auxiliary : Auxiliary body) :
    (skaledLedger settings changes node).Yields assertion body fun _ => assertion :=
  sourced_of_schedulesNothing (calls_auxiliary harmless_schedulesNothing auxiliary)

theorem readFiles_sourced {assertion : SkaledMonitor → Prop} :
    (skaledLedger settings changes node).Yields assertion (invoke .readFiles)
      fun files seen => assertion seen ∧
        ∀ ts, storedReloadTs files = some ts → IsDelayed changes node ts := by
  apply yields_invoke
  intro world world' proposed answer kept holds _ served
  cases proposed with
  | error error =>
      obtain ⟨rfl, same⟩ := Prod.mk.inj (Option.some.inj served)
      rw [← same]
      refine ⟨kept, ?_⟩
      rintro _ ⟨⟩
  | ok given =>
      obtain ⟨rfl, same⟩ := Prod.mk.inj (Option.some.inj served)
      rw [← same]
      refine ⟨kept, ?_⟩
      rintro _ ⟨⟩
      refine ⟨holds, ?_⟩
      intro ts stored
      rw [storedReloadTs_seenOn] at stored
      exact kept.stored node ts stored

theorem reloadTs_sourced :
    (skaledLedger settings changes node).Yields (fun _ => True)
      SkaledActionManager.reloadTs fun reloadTs _ =>
        ∀ ts, reloadTs = some ts → IsDelayed changes node ts := by
  refine yields_bind _ readFiles_sourced fun files => ?_
  refine yields_of_fact (fun _ holds => holds.2) fun delayed => ?_
  cases evaluated : externalReloadTs files with
  | error error => exact yields_raise
  | ok value =>
      cases value with
      | null => exact yields_pure (by rintro _ _ ts ⟨⟩)
      | num reloadTs =>
          have stored : storedReloadTs files = some reloadTs := by
            rw [storedReloadTs, evaluated]
          refine yields_pure fun _ _ ts given => ?_
          cases given
          exact delayed reloadTs stored
      | _ => exact yields_raise

theorem scheduleSkaledExit_sourced {exitTs : Option Int}
    (delayed : ∀ ts, exitTs = some ts → IsDelayed changes node ts) :
    (skaledLedger settings changes node).Yields (fun _ => True)
      (SkaledActionManager.scheduleSkaledExit exitTs) fun _ _ => True := by
  have calls : (SkaledActionManager.scheduleSkaledExit exitTs).Calls
      fun query : MonitorQuery => query.keepsMonitor = true ∧
        ∀ ts, query = .setExitTs ts → exitTs = some ts := by
    apply SkaledActionManager.calls_scheduleSkaledExit
    · intro query auxiliary
      refine ⟨?_, ?_⟩
      · cases query with
        | incrSkaledPipeline | writeJson => cases auxiliary
        | _ => rfl
      · rintro ts rfl
        cases auxiliary
    · intro ts given
      refine ⟨rfl, ?_⟩
      rintro _ ⟨⟩
      exact given
  apply yields_of_calls calls
  rintro query world world' proposed answer ⟨keeps, given⟩ sourced _ _ served
  refine ⟨sourced_of_serve sourced ?_ ?_ served, trivial⟩
  · rintro content rfl
    cases keeps
  · intro ts same _ _
    exact delayed ts (given ts same)

theorem calls_execute_keeps (am : SkaledActionManager) (monitor : SkaledMonitor) :
    (am.execute monitor).Calls
      fun query : MonitorQuery => query.keepsMonitor = true := by
  have harmless : ∀ query : MonitorQuery, query.isHarmless = true →
      query.keepsMonitor = true := fun query harmless =>
    keepsMonitor_of_schedulesNothing (harmless_schedulesNothing query harmless)
  cases monitor with
  | regular => exact am.calls_regularSkaledMonitor harmless (fun _ _ _ => rfl) rfl
  | repair => exact am.calls_repairSkaledMonitor harmless (fun _ _ => rfl) rfl
  | backup => exact am.calls_backupSkaledMonitor harmless fun _ _ => rfl
  | recreate => exact am.calls_recreateSkaledMonitor harmless fun _ _ _ => rfl
  | updateConfig => exact am.calls_updateConfigSkaledMonitor harmless fun _ _ _ => rfl
  | reloadGroup =>
      exact am.calls_reloadGroupSkaledMonitor harmless (fun _ _ _ => rfl) rfl fun _ => rfl
  | reloadIp =>
      exact am.calls_reloadIpSkaledMonitor harmless (fun _ _ _ => rfl) rfl fun _ => rfl
  | noConfig => exact SkaledActionManager.calls_noConfigSkaledMonitor harmless
  | newNode => exact am.calls_newNodeSkaledMonitor harmless fun _ _ => rfl

theorem reloadIpSkaledMonitor_sourced (am : SkaledActionManager) :
    (skaledLedger settings changes node).Yields (fun _ => True)
      am.reloadIpSkaledMonitor fun _ _ => True := by
  refine yields_bind _ (sourced_of_schedulesNothing (am.calls_watchSkaled
    (ordinary_of harmless_schedulesNothing) rfl (fun _ _ _ _ => rfl) (fun _ _ => rfl)
    rfl true)) fun _ => ?_
  refine yields_bind _ (sourced_of_auxiliary am.auxiliary_imaContainerCheck)
    fun _ => ?_
  refine yields_bind _ (sourced_of_auxiliary (auxiliary_ifNot
    am.auxiliary_imaContainer _)) fun _ => ?_
  refine yields_bind _ reloadTs_sourced fun exitTs => ?_
  refine yields_of_fact (fun _ known => known) fun delayed => ?_
  exact (scheduleSkaledExit_sourced delayed).strengthen fun _ _ => trivial

theorem runSkaledMonitor_sourced (am : SkaledActionManager)
    (monitor : SkaledMonitor) :
    (skaledLedger settings changes node).Yields (fun seen => seen = monitor)
      (runSkaledMonitor (am.execute monitor)) fun _ _ => True := by
  by_cases reloads : monitor = .reloadIp
  · subst reloads
    have updates : (skaledLedger settings changes node).Yields (fun _ => True)
        updLastSeen fun _ _ => True :=
      sourced_of_schedulesNothing (calls_updLastSeen (ordinary_of harmless_schedulesNothing))
    have keepsRecord : (skaledLedger settings changes node).Yields (fun _ => True)
        SkaledActionManager.updSchainRecord fun _ _ => True :=
      sourced_of_schedulesNothing
        (SkaledActionManager.calls_updSchainRecord
          (ordinary_of harmless_schedulesNothing))
    apply yields_swallowed
    refine yields_bind _ (updates.strengthen fun _ _ => trivial) fun _ => ?_
    refine yields_bind _ (reloadIpSkaledMonitor_sourced am) fun _ => ?_
    exact yields_bind _ keepsRecord fun _ => updates
  · have harmless : ∀ query : MonitorQuery, query.isHarmless = true →
        query.keepsMonitor = true := fun query harmless =>
      keepsMonitor_of_schedulesNothing (harmless_schedulesNothing query harmless)
    have calls := calls_runSkaledMonitor harmless (calls_execute_keeps am monitor)
    exact (sourced_of_keeps reloads calls).weaken fun _ _ _ => trivial

theorem incrSkaledPipeline_sourced (monitor : SkaledMonitor) :
    (skaledLedger settings changes node).Yields (fun _ => True)
      (invoke (.incrSkaledPipeline monitor)) fun _ seen => seen = monitor := by
  apply yields_invoke
  intro world world' proposed answer kept _ _ served
  refine ⟨sourced_of_serve kept (by rintro content ⟨⟩) (by rintro ts ⟨⟩) served, ?_⟩
  rintro reply rfl
  cases proposed with
  | error error => cases served
  | ok given =>
      obtain ⟨_, same⟩ := Prod.mk.inj (Option.some.inj served)
      change (world'.disks node).monitor = monitor
      rw [← same, GroupWorld.write_self]
      rfl

theorem runSkaledPipeline_sourced :
    (skaledLedger settings changes node).Yields (fun _ => True)
      (runSkaledPipeline settings) fun _ _ => True := by
  refine yields_bind _ (sourced_of_auxiliary (auxiliary_invoke rfl)) fun _ => ?_
  refine yields_bind _ (sourced_of_auxiliary (auxiliary_invoke rfl)) fun record => ?_
  refine yields_bind _ (sourced_of_auxiliary (auxiliary_invoke rfl))
    fun skaledStatus => ?_
  refine yields_bind _ (sourced_of_auxiliary (auxiliary_invoke rfl))
    fun ncliStatus => ?_
  let am : SkaledActionManager := {
    settings, checksRecord := record, hasNodeCliStatus := ncliStatus.isFound }
  refine yields_bind _ (sourced_of_schedulesNothing (am.calls_getAllChecks
    harmless_schedulesNothing)) fun checkStatus => ?_
  refine yields_bind _ (sourced_of_auxiliary (auxiliary_invoke rfl))
    fun automaticRepair => ?_
  refine yields_bind _ (sourced_of_auxiliary (auxiliary_invoke rfl)) fun _ => ?_
  refine yields_bind _ (sourced_of_auxiliary (auxiliary_getSkaledMonitor _ _))
    fun monitor => ?_
  exact yields_bind _ (incrSkaledPipeline_sourced monitor) fun _ =>
    runSkaledMonitor_sourced am monitor

end Sources

/-! ### Every run -/

/-- The times of the IP changes that the contracts record before or during a
run. -/
def ipChanges {n : Nat} (nodes : Fin n → NodeInfo)
    (labels : List (Crew.Label monitorInterface (GroupMove n) (Fin n × Role) String)) :
    Set Int :=
  { ts | (∃ node, (nodes node).ipChangeTs = ts) ∨
    ∃ node info, .move (.changeIp node info) ∈ labels ∧ info.ipChangeTs = ts }

def FarApart (first second : Int) : Prop :=
  first + CHANGE_IP_DELAY ≤ second ∨ second + CHANGE_IP_DELAY ≤ first

/-- Each exit is scheduled for the change of an IP, and those for the same change
are far enough apart. -/
structure Staggered {n : Nat} (changes : Set Int) (source : Fin n → Int)
    (world : GroupWorld n) : Prop where
  delayed : ∀ node exitTs, (world.disks node).pendingExit = some exitTs →
    source node ∈ changes ∧ exitTs = source node + getNodeDelay node
  apart : ∀ first second firstTs secondTs, first ≠ second →
    source first = source second →
    (world.disks first).pendingExit = some firstTs →
    (world.disks second).pendingExit = some secondTs → FarApart firstTs secondTs

section Runs

variable {n : Nat} {settings : SkaledSettings} {changes : Set Int}

theorem farApart_getNodeDelay {first second : Fin n} (different : first ≠ second)
    (ts : Int) : FarApart (ts + getNodeDelay first) (ts + getNodeDelay second) := by
  have apart : (first : Nat) ≠ second := fun same => different (Fin.ext same)
  simp only [FarApart, getNodeDelay, CHANGE_IP_DELAY]
  omega

theorem staggered_of_sourced {world : GroupWorld n} (sourced : Sourced changes world) :
    ∃ source, Staggered changes source world := by
  let source : Fin n → Int := fun node =>
    ((world.disks node).pendingExit.getD 0) - getNodeDelay node
  have delayed : ∀ node exitTs, (world.disks node).pendingExit = some exitTs →
      source node ∈ changes ∧ exitTs = source node + getNodeDelay node := by
    intro node exitTs pending
    obtain ⟨ts, change, rfl⟩ := sourced.pending node exitTs pending
    have same : source node = ts := by
      simp only [source, pending, Option.getD_some]
      omega
    rw [same]
    exact ⟨change, rfl⟩
  refine ⟨source, delayed, ?_⟩
  intro first second firstTs secondTs different same firstPending secondPending
  rw [(delayed first firstTs firstPending).2, (delayed second secondTs secondPending).2,
    same]
  exact farApart_getNodeDelay different _

theorem sourced_of_move {world world' : GroupWorld n} {move : GroupMove n}
    (kept : Sourced changes world) (within : (changesWithin changes).move world move)
    (moved : world.move move = some world') : Sourced changes world' := by
  cases move with
  | changeIp node info =>
      obtain rfl := Option.some.inj moved
      refine ⟨?_, kept.stored, kept.pending⟩
      intro other
      by_cases same : other = node
      · subst same
        change (Function.update world.nodes other info other).ipChangeTs ∈ changes
        rw [Function.update_self]
        exact within
      · change (Function.update world.nodes node info other).ipChangeTs ∈ changes
        rw [Function.update_of_ne same]
        exact kept.changed other

theorem begun_sourced (worker : Fin n × Role) (streamVersion : String) :
    ((groupCrew n settings).job worker streamVersion).Calls (fun _ => True) ∧
      ∃ before, (∀ world, Sourced changes world → before world) ∧
        ((groupCrew n settings).host worker).Outline
          (Crew.rely (changesWithin changes) (fun _ _ => True) worker)
          (Sourced changes) before ((groupCrew n settings).job worker streamVersion)
          fun _ _ => True := by
  refine ⟨.of_all fun _ => trivial, fun _ => True, fun _ _ => trivial, ?_⟩
  obtain ⟨node, role⟩ := worker
  cases role with
  | config =>
      have outline : (configLedger settings changes node).Yields (fun _ => True)
          (runConfigPipeline false streamVersion) fun _ _ => True :=
        runConfigPipeline_sourced streamVersion
      exact Host.Outline.weaken outline fun _ _ _ _ => trivial
  | skaled =>
      let regular := { settings with syncNode := false }
      have outline : (skaledLedger regular changes node).Yields (fun _ => True)
          (runSkaledPipeline regular) fun _ _ => True := runSkaledPipeline_sourced
      exact Host.Outline.weaken outline fun _ _ _ _ => trivial

/-- A group that has seen IP changes, but no pipelines yet. -/
def newGroup (nodes : Fin n → NodeInfo) : GroupWorld n where
  nodes := nodes
  disks _ := {}

/-- Whatever IPs change when, exits for the same change are far enough apart. -/
theorem exits_staggered (settings : SkaledSettings) (nodes : Fin n → NodeInfo)
    (labels : List (Crew.Label monitorInterface (GroupMove n) (Fin n × Role)
      String)) :
    Transition.Always (groupCrew n settings).step
      (fun config => ∃ source, Staggered (ipChanges nodes labels) source config.world)
      { world := newGroup nodes } labels := by
  let changes := ipChanges nodes labels
  have within : Transition.EachStep (groupCrew n settings).step
      (changesWithin changes).Meets { world := newGroup nodes } labels := by
    apply Transition.eachStep_of_mem
    intro config label listed
    cases label with
    | move move =>
        cases move with
        | changeIp node info => exact .inr ⟨node, info, listed, rfl⟩
    | start => trivial
    | stop => trivial
    | call worker proposed =>
        unfold Crew.Discipline.Meets
        dsimp only
        split <;> trivial
  have begins : Sourced changes (newGroup nodes) := by
    refine ⟨?_, ?_, ?_⟩
    · intro node
      exact .inl ⟨node, rfl⟩
    · rintro node reloadTs ⟨⟩
    · rintro node exitTs ⟨⟩
  exact Crew.always_of_outlines
    (fun kept within moved => sourced_of_move kept within moved) begun_sourced
    (fun _ proved => staggered_of_sourced proved.kept) begins within

end Runs

/-! ### Exits for different changes -/

def outdatedFiles : Directory Text :=
  [(.skaled, dumps nodeConfig), (.upstream { rotationId := 0, ts := 1 },
    dumps (.obj [("skaleConfig".toList, .obj [
      ("sChain".toList, .obj [
        ("nodes".toList, .arr []), ("nodeGroups".toList, .obj [])])])])),
    (.secretKey 0, [])]

def outdatedAnswer : (query : MonitorQuery) → Except MonitorError query.Reply
  | .readFiles => .ok outdatedFiles
  | .observeEndpoint _ => .ok (nodeFiles, fun _ => true)
  | .getSkaleNodeVersion => .ok "2.0.0"
  | .getRotation => .ok 0
  | .getSyncAgentRanges => .ok []
  | .getCurrentNodes => .ok []
  | .getChainId => .ok 1
  | .hasSchain => .ok false
  | .isLastDkgSuccessful | .isConfigDir => .ok true
  | .createNewUpstreamConfig _ => .ok (.ofDocument (ipConfig "10.0.0.1".toList))
  | .getNodeIndexInGroup => .ok none
  | .writeJson .. => .ok ()
  | query => hostAnswer true query

def reloadPasses (node : Fin 2) (ts : Int) (configCalls skaledCalls : Nat) :
    List (Crew.Label monitorInterface (GroupMove 2) (Fin 2 × Role) String) :=
  .move (.changeIp node ⟨"10.0.0.9".toList, ts⟩) ::
    .start (node, .config) "2.0.0" ::
    List.replicate configCalls (.call (node, .config) outdatedAnswer) ++
    .start (node, .skaled) "2.0.0" ::
    List.replicate skaledCalls (.call (node, .skaled) outdatedAnswer)

/-- The second node waits for twice the delay after the first change, and the first
one for a single delay after a change that comes a delay later. -/
theorem exits_can_coincide :
    ¬ ∀ (n : Nat) (settings : SkaledSettings) (nodes : Fin n → NodeInfo)
      (labels : List (Crew.Label monitorInterface (GroupMove n) (Fin n × Role)
        String)),
      Transition.Always (groupCrew n settings).step
        (fun config => ∀ first second firstTs secondTs, first ≠ second →
          (config.world.disks first).pendingExit = some firstTs →
          (config.world.disks second).pendingExit = some secondTs →
            FarApart firstTs secondTs)
        { world := newGroup nodes } labels := by
  intro claim
  let nodes : Fin 2 → NodeInfo := fun _ => ⟨"10.0.0.2".toList, 0⟩
  let labels := reloadPasses 1 1000 40 53 ++ reloadPasses 0 1300 40 53
  have played : (Transition.play (groupCrew 2 {}).step { world := newGroup nodes }
      labels).map (fun config => ((config.world.disks 0).pendingExit,
        (config.world.disks 1).pendingExit)) = some (some 1600, some 1600) := by
    decide +kernel
  obtain ⟨config, reached, given⟩ := Option.map_eq_some_iff.mp played
  obtain ⟨first, second⟩ := Prod.mk.inj given
  have apart := (claim 2 {} nodes labels).at_play reached 0 1 1600 1600
    (by decide) first second
  exact absurd apart (by unfold FarApart; decide)

end SkaleAdmin.Monitor
