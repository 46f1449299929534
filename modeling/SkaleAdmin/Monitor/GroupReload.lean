import SkaleAdmin.Library.Replay
import SkaleAdmin.Monitor.SkaledFootprint

/-! The exit that a monitor schedules for the rotation of the group. -/

namespace SkaleAdmin.Monitor

open Interaction PyText Json Config
open Interaction.Procedure (Takes takes_of_isValue)
open Interaction.Ledger (yields_pure yields_bind yields_of_fact yields_keeping yields_serve)

/-- `rotation` is the content of `rotation.json`. -/
structure ExitWorld where
  files : Directory Text
  skaledStatus : StatusFile
  rotation : Option Value

def exitSchedule (ts : Int) : Value :=
  .obj [("timestamp".toList, .num ts)]

namespace ExitWorld

def exitTs (world : ExitWorld) : Option Value :=
  world.rotation.bind fun content => (getItem "timestamp" content).toOption

def serve (query : MonitorQuery) (proposed : Except MonitorError query.Reply)
    (world : ExitWorld) : Option (Except MonitorError query.Reply × ExitWorld) :=
  match query, proposed with
  | _, .error error => some (.error error, world)
  | .readFiles, .ok _ => some (.ok world.files, world)
  | .readSkaledStatus, .ok _ => some (.ok world.skaledStatus, world)
  | .exitScheduleExists, .ok _ => some (.ok world.rotation.isSome, world)
  | .setExitTs ts, .ok _ =>
      some (.ok (), { world with rotation := some (exitSchedule ts) })
  | .removeExitSchedule, .ok _ => some (.ok (), { world with rotation := none })
  | _, .ok reply => some (.ok reply, world)

end ExitWorld

def exitHost : Host monitorInterface ExitWorld Empty Empty
    (Outcome MonitorError Unit × Unit) where
  move _ move := move.elim
  serve := ExitWorld.serve
  job job := job.elim

def MonitorQuery.keepsSchedule : MonitorQuery → Bool
  | setExitTs _ | removeExitSchedule => false
  | _ => true

section Calls

variable {world world' : ExitWorld} {query : MonitorQuery}

theorem exit_serve_same (keeps : query.keepsSchedule = true)
    {proposed answer : Except MonitorError query.Reply}
    (served : world.serve query proposed = some (answer, world')) : world' = world := by
  unfold ExitWorld.serve at served
  split at served
  case h_5 | h_6 => cases keeps
  all_goals
    cases served
    rfl

theorem exitYields_keeping {α : Type} {body : MonitorM α} {assertion : ExitWorld → Prop}
    (calls : body.Calls fun query : MonitorQuery => query.keepsSchedule = true) :
    (Ledger.ofHost exitHost).Yields assertion body fun _ => assertion :=
  yields_keeping calls fun _ _ _ _ _ keeps served => exit_serve_same keeps served

theorem keepsSchedule_of_ordinary (query : MonitorQuery)
    (ordinary : query.isOrdinary = true) : query.keepsSchedule = true := by
  cases query with
  | setExitTs | removeExitSchedule => cases ordinary
  | _ => rfl

theorem exitYields_read {given : query.Reply} (start : ExitWorld)
    (keeps : query.keepsSchedule = true)
    (reads : ∀ {proposed : Except MonitorError query.Reply} {reply last},
      start.serve query proposed = some (.ok reply, last) → reply = given) :
    (Ledger.ofHost exitHost).Yields (· = start) (invoke query)
      fun reply world => world = start ∧ reply = given := by
  apply yields_serve
  intro world last proposed reply same served
  subst same
  exact ⟨exit_serve_same keeps served, reads served⟩

end Calls

section Schedule

variable {start : ExitWorld} {finishTs : Int}

theorem exitYields_upstreamFinishTs
    (finish : getFinishTsFromLatestUpstream start.files = .ok (some finishTs)) :
    (Ledger.ofHost exitHost).Yields (· = start) SkaledActionManager.upstreamFinishTs
      fun ts world => world = start ∧ ts = some finishTs := by
  have reads : (Ledger.ofHost exitHost).Yields (· = start) (invoke .readFiles)
      fun files world => world = start ∧ files = start.files := by
    apply exitYields_read start rfl
    intro proposed reply last served
    cases proposed <;> cases served
    rfl
  refine yields_bind _ reads fun files => ?_
  apply yields_of_fact (fun _ holds => holds.2)
  rintro rfl
  rw [finish]
  exact yields_pure fun _ holds => ⟨holds.1, rfl⟩

theorem exitYields_isExitScheduled
    (early : start.skaledStatus.exitTimeReached = .ok false) :
    (Ledger.ofHost exitHost).Yields (· = start) SkaledActionManager.isExitScheduled
      fun scheduled world => world = start ∧ scheduled = start.rotation.isSome := by
  have reads : (Ledger.ofHost exitHost).Yields (· = start) (invoke .readSkaledStatus)
      fun status world => world = start ∧ status = start.skaledStatus := by
    apply exitYields_read start rfl
    intro proposed reply last served
    cases proposed <;> cases served
    rfl
  have reached : (Ledger.ofHost exitHost).Yields (· = start) (skaledFlag StatusFile.exitTimeReached)
      fun reached world => world = start ∧ reached = false := by
    refine yields_bind _ reads fun status => ?_
    apply yields_of_fact (fun _ holds => holds.2)
    rintro rfl
    rw [early]
    exact yields_pure fun _ holds => ⟨holds.1, rfl⟩
  refine yields_bind _ reached fun reached => ?_
  apply yields_of_fact (fun _ holds => holds.2)
  rintro rfl
  have exists' : (Ledger.ofHost exitHost).Yields (· = start) (invoke .exitScheduleExists)
      fun found world => world = start ∧ found = start.rotation.isSome := by
    apply exitYields_read start rfl
    intro proposed reply last served
    cases proposed <;> cases served
    rfl
  exact exists'.strengthen fun _ holds => holds.1

theorem exitYields_scheduleSkaledExit
    (early : start.skaledStatus.exitTimeReached = .ok false) :
    (Ledger.ofHost exitHost).Yields (· = start)
      (SkaledActionManager.scheduleSkaledExit (some finishTs))
      fun _ world => world = { start with
        rotation := some (start.rotation.getD (exitSchedule finishTs)) } := by
  refine yields_bind _ (exitYields_isExitScheduled early) fun scheduled => ?_
  apply yields_of_fact (fun _ holds => holds.2)
  rintro rfl
  cases held : start.rotation with
  | some content =>
      refine yields_pure ?_
      rintro world ⟨rfl, _⟩
      rw [Option.getD_some, ← held]
  | none =>
      apply yields_serve
      rintro world last proposed reply ⟨rfl, _⟩ served
      cases proposed <;> cases served
      rfl

variable (am : SkaledActionManager)

theorem exitYields_reloadGroup
    (early : start.skaledStatus.exitTimeReached = .ok false)
    (finish : getFinishTsFromLatestUpstream start.files = .ok (some finishTs)) :
    (Ledger.ofHost exitHost).Yields (· = start) am.reloadGroupSkaledMonitor
      fun _ world => world = { start with
        rotation := some (start.rotation.getD (exitSchedule finishTs)) } := by
  have watches := am.calls_watchSkaled keepsSchedule_of_ordinary rfl
    (fun _ _ _ _ => rfl) (fun _ _ => rfl) rfl false
  refine yields_bind _ (exitYields_keeping watches) fun _ => ?_
  refine yields_bind _ (exitYields_keeping
    (am.calls_imaContainerCheck keepsSchedule_of_ordinary)) fun passed => ?_
  refine yields_bind _ (exitYields_keeping
    (calls_ifNot (am.calls_imaContainer keepsSchedule_of_ordinary) passed)) fun _ => ?_
  refine yields_bind _ (exitYields_upstreamFinishTs finish) fun ts => ?_
  apply yields_of_fact (fun _ holds => holds.2)
  rintro rfl
  exact (exitYields_scheduleSkaledExit early).strengthen fun _ holds => holds.1

theorem rotation_of_reloadGroup {last : ExitWorld}
    (early : start.skaledStatus.exitTimeReached = .ok false)
    (finish : getFinishTsFromLatestUpstream start.files = .ok (some finishTs))
    (takes : Takes exitHost start am.reloadGroupSkaledMonitor (.value ()) last) :
    last.rotation = some (start.rotation.getD (exitSchedule finishTs)) := by
  have ended := takes.yields (exitYields_reloadGroup am early finish) rfl
  rw [ended]

theorem exitTs_of_rotation {last : ExitWorld}
    (rotation : last.rotation = some (start.rotation.getD (exitSchedule finishTs))) :
    last.exitTs = some (.num finishTs) ↔
      start.rotation = none ∨ start.exitTs = some (.num finishTs) := by
  unfold ExitWorld.exitTs
  rw [rotation]
  cases start.rotation with
  | none => exact iff_of_true rfl (.inl rfl)
  | some content => simp

/-- An exit is scheduled for when the latest upstream says that the rotation is finished,
and one that has been scheduled before is kept. -/
theorem reloadGroup_schedules {last : ExitWorld}
    (early : start.skaledStatus.exitTimeReached = .ok false)
    (finish : getFinishTsFromLatestUpstream start.files = .ok (some finishTs))
    (takes : Takes exitHost start am.reloadGroupSkaledMonitor (.value ()) last) :
    last.rotation = some (start.rotation.getD (exitSchedule finishTs)) ∧
      (last.exitTs = some (.num finishTs) ↔
        start.rotation = none ∨ start.exitTs = some (.num finishTs)) := by
  have rotation := rotation_of_reloadGroup am early finish takes
  exact ⟨rotation, exitTs_of_rotation rotation⟩

section Samples

def rotatedFiles : Directory Text :=
  [(.skaled, dumps nodeConfig), (.upstream { rotationId := 1, ts := 1 },
    dumps (.obj [("skaleConfig".toList, .obj [
      ("sChain".toList, .obj [
        ("nodes".toList, .arr []), ("nodeGroups".toList, .obj [
          ("0".toList, .obj [("finish_ts".toList, .num 500)])])])])])),
    (.external, dumps (.obj [("ima_linked".toList, .bool false)]))]

def rotatedWorld (rotation : Option Value) : ExitWorld where
  files := rotatedFiles
  skaledStatus := .missing
  rotation := rotation

def rotatedActions : SkaledActionManager where
  settings := {}
  checksRecord := newRow
  hasNodeCliStatus := false

def rotatedAnswer (query : MonitorQuery) (world : ExitWorld) :
    Except MonitorError query.Reply × ExitWorld :=
  (world.serve query (hostAnswer true query)).getD (hostAnswer true query, world)

theorem exit_serve_isSome (query : MonitorQuery) (world : ExitWorld)
    (proposed : Except MonitorError query.Reply) :
    (world.serve query proposed).isSome = true := by
  unfold ExitWorld.serve
  split <;> rfl

theorem rotatedAnswer_served (query : MonitorQuery) (world : ExitWorld) :
    ∃ proposed, exitHost.serve query proposed world = some (rotatedAnswer query world) := by
  obtain ⟨taken, served⟩ := Option.isSome_iff_exists.mp
    (exit_serve_isSome query world (hostAnswer true query))
  refine ⟨hostAnswer true query, ?_⟩
  unfold rotatedAnswer
  rw [served]
  exact served

theorem rotated_finish :
    getFinishTsFromLatestUpstream rotatedFiles = .ok (some 500) := by
  decide +kernel

theorem rotated_takes (world : ExitWorld)
    (ended : (rotatedActions.reloadGroupSkaledMonitor.served rotatedAnswer
      world).1.isValue = true) :
    ∃ last, Takes exitHost world rotatedActions.reloadGroupSkaledMonitor (.value ()) last :=
  ⟨_, takes_of_isValue rotatedAnswer_served ended⟩

theorem reloadGroup_schedules_rotation :
    ∃ last, Takes exitHost (rotatedWorld none) rotatedActions.reloadGroupSkaledMonitor
        (.value ()) last ∧
      last.rotation = some (exitSchedule 500) ∧
      (last.exitTs = some (.num 500) ↔
        (rotatedWorld none).rotation = none ∨
          (rotatedWorld none).exitTs = some (.num 500)) := by
  obtain ⟨last, takes⟩ := rotated_takes (rotatedWorld none) (by decide +kernel)
  exact ⟨last, takes, reloadGroup_schedules rotatedActions rfl rotated_finish takes⟩

/-- An exit that is already scheduled for 100 stays. -/
theorem reloadGroup_keeps_schedule :
    ∃ last, Takes exitHost (rotatedWorld (some (exitSchedule 100)))
        rotatedActions.reloadGroupSkaledMonitor (.value ()) last ∧
      (rotatedWorld (some (exitSchedule 100))).skaledStatus.exitTimeReached = .ok false ∧
      getFinishTsFromLatestUpstream last.files = .ok (some 500) ∧
      last.exitTs = some (.num 100) := by
  obtain ⟨last, takes⟩ :=
    rotated_takes (rotatedWorld (some (exitSchedule 100))) (by decide +kernel)
  obtain rfl := takes.yields (exitYields_reloadGroup rotatedActions rfl rotated_finish) rfl
  exact ⟨_, takes, rfl, rotated_finish, rfl⟩

end Samples

end Schedule

end SkaleAdmin.Monitor
