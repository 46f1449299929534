import SkaleAdmin.Process.Manager

/-! How many monitors a schain has. -/

namespace SkaleAdmin.Process

open Interaction

def Proc.isReported (proc : Proc) : Bool :=
  match proc.role with
  | .monitor _ stage => stage.isReported
  | .foreign => true

namespace World

def SingleMonitors (world : World) : Prop :=
  ∀ schain pid other proc rival, world.procs pid = some proc →
    world.procs other = some rival → proc.monitorOf = some schain →
    rival.monitorOf = some schain → pid = other

/-- What a monitor at `stage` has made sure of. -/
def Written (world : World) (pid : Pid) (schain : String) : Stage → Prop
  | .starting => True
  | .updating => ∃ ts, world.tmp schain = some ⟨some pid, ts⟩
  | .working => ∃ ts, world.report schain = some ⟨some pid, ts⟩
  | .setting read =>
      read.pid = some pid ∧ ∃ ts, world.report schain = some ⟨some pid, ts⟩
  | .moving =>
      (∃ ts, world.tmp schain = some ⟨some pid, ts⟩) ∧
        ∃ ts, world.report schain = some ⟨some pid, ts⟩

structure Single (world : World) : Prop where
  single : world.SingleMonitors
  written : ∀ pid birth schain stage,
    world.procs pid = some ⟨birth, .monitor schain stage⟩ →
      world.Written pid schain stage
  nonzero : world.procs 0 = none

def Unmonitored (schain : String) (world : World) : Prop :=
  ∀ pid proc, world.procs pid = some proc → proc.monitorOf ≠ some schain

/-- A live monitor of the schain has the pid `pid`. -/
def MonitoredAt (schain : String) (pid : Pid) (world : World) : Prop :=
  ∀ other proc, world.procs other = some proc →
    proc.monitorOf = some schain → other = pid

/-- A live monitor of the schain is past `process_report.update`. -/
def Reported (schain : String) (world : World) : Prop :=
  ∀ pid proc, world.procs pid = some proc → proc.monitorOf = some schain →
    proc.isReported

section Step

variable {world world' : World} {schain : String} {pid : Pid}

theorem proc_of_monitorOf {proc : Proc} (monitor : proc.monitorOf = some schain) :
    ∃ birth stage, proc = ⟨birth, .monitor schain stage⟩ := by
  obtain ⟨birth, role⟩ := proc
  cases role with
  | monitor other stage =>
      cases monitor
      exact ⟨birth, stage, rfl⟩
  | foreign => cases monitor

theorem Written.report {stage : Stage} (written : world.Written pid schain stage)
    (reported : stage.isReported) :
    ∃ ts, world.report schain = some ⟨some pid, ts⟩ := by
  cases stage with
  | starting => cases reported
  | updating => cases reported
  | working => exact written
  | setting read => exact written.2
  | moving => exact written.2

theorem moveReport_report {report : Report}
    (saved : world.tmp schain = some report) :
    (world.moveReport schain).report schain = some report := by
  simp [moveReport, saved]

theorem moveReport_of_ne {other : String} (apart : other ≠ schain) :
    (world.moveReport schain).report other = world.report other ∧
      (world.moveReport schain).tmp other = world.tmp other := by
  unfold moveReport
  split <;> simp [apart]

theorem monitorStep_of_ne (world : World) (pid : Pid) (ts : Int) (birth : Nat)
    (stage : Stage) {other : String} (apart : other ≠ schain) :
    (world.monitorStep pid ts birth schain stage).report other =
        world.report other ∧
      (world.monitorStep pid ts birth schain stage).tmp other =
        world.tmp other := by
  cases stage with
  | updating => exact moveReport_of_ne apart
  | moving => exact moveReport_of_ne apart
  | _ => simp [monitorStep, putProc, putTmp, apart]

theorem written_monitorStep {ts : Int} {birth : Nat} {stage : Stage}
    (written : world.Written pid schain stage) :
    (world.monitorStep pid ts birth schain stage).Written pid schain
      (world.nextStage schain stage) := by
  cases stage with
  | starting => exact ⟨some ts, by simp [monitorStep, putProc, putTmp]⟩
  | updating =>
      obtain ⟨saved, held⟩ := written
      exact ⟨saved, moveReport_report held⟩
  | working =>
      obtain ⟨old, held⟩ := written
      refine ⟨?_, old, held⟩
      rw [held]
      rfl
  | setting read =>
      obtain ⟨named, old, held⟩ := written
      refine ⟨⟨some ts, ?_⟩, old, held⟩
      simp [monitorStep, putProc, putTmp, named]
  | moving =>
      obtain ⟨⟨saved, held⟩, _⟩ := written
      exact ⟨saved, moveReport_report held⟩

theorem Written.of_files {stage : Stage} (written : world.Written pid schain stage)
    (report : world'.report schain = world.report schain)
    (tmp : world'.tmp schain = world.tmp schain) :
    world'.Written pid schain stage := by
  cases stage with
  | starting => trivial
  | _ => simpa [Written, report, tmp] using written

theorem isReported_nextStage {stage : Stage} (reported : stage.isReported) :
    (world.nextStage schain stage).isReported := by
  cases stage <;> first | rfl | cases reported

/-- The monitors after a step were there before, and stay reported. -/
def OnlyLoses (world world' : World) : Prop :=
  ∀ pid proc schain, world'.procs pid = some proc →
    proc.monitorOf = some schain →
    ∃ before, world.procs pid = some before ∧
      before.monitorOf = some schain ∧ (before.isReported → proc.isReported)

theorem move_onlyLoses {move : Move} (moved : world.move move = some world') :
    world.OnlyLoses world' := by
  intro other proc name alive monitor
  cases move with
  | clock now =>
      cases moved
      exact ⟨proc, alive, monitor, id⟩
  | spawn pid =>
      obtain ⟨_, _, rfl⟩ := born_eq moved
      rw [putProc_procs] at alive
      split at alive
      · cases alive
        cases monitor
      · exact ⟨proc, alive, monitor, id⟩
  | exit pid =>
      cases moved
      by_cases same : other = pid
      · subst same
        simp at alive
      · simp only [Function.update_of_ne same] at alive
        exact ⟨proc, alive, monitor, id⟩
  | monitor pid ts =>
      simp only [World.move] at moved
      split at moved
      case h_2 => cases moved
      case h_1 birth schain stage held =>
        cases moved
        rw [monitorStep_procs] at alive
        by_cases same : other = pid
        · subst same
          rw [Function.update_self] at alive
          cases alive
          exact ⟨_, held, monitor, isReported_nextStage⟩
        · rw [Function.update_of_ne same] at alive
          exact ⟨proc, alive, monitor, id⟩

theorem OnlyLoses.single (loses : world.OnlyLoses world')
    (single : world.SingleMonitors) : world'.SingleMonitors := by
  intro schain pid other proc rival alive rivalAlive monitor rivalMonitor
  obtain ⟨before, held, monitors, _⟩ := loses pid proc schain alive monitor
  obtain ⟨rivalBefore, rivalHeld, rivalMonitors, _⟩ :=
    loses other rival schain rivalAlive rivalMonitor
  exact single schain pid other before rivalBefore held rivalHeld monitors
    rivalMonitors

theorem Single.monitorStep {ts : Int} {birth : Nat} {stage : Stage}
    (single : world.Single)
    (held : world.procs pid = some ⟨birth, .monitor schain stage⟩)
    (loses : world.OnlyLoses (world.monitorStep pid ts birth schain stage)) :
    (world.monitorStep pid ts birth schain stage).Single := by
  refine ⟨loses.single single.single, ?_, ?_⟩
  · intro other otherBirth name later alive
    rw [monitorStep_procs] at alive
    by_cases same : other = pid
    · subst same
      rw [Function.update_self] at alive
      cases alive
      exact written_monitorStep (single.written other birth schain stage held)
    · rw [Function.update_of_ne same] at alive
      have apart : name ≠ schain := by
        intro equal
        subst equal
        exact same (single.single name other pid _ _ alive held rfl rfl)
      have files := world.monitorStep_of_ne pid ts birth stage apart
      exact (single.written other otherBirth name later alive).of_files
        files.1 files.2
  · rw [monitorStep_procs, Function.update_of_ne, single.nonzero]
    intro zero
    subst zero
    rw [single.nonzero] at held
    cases held

theorem Single.move {move : Move} (single : world.Single)
    (moved : world.move move = some world') : world'.Single := by
  have loses := move_onlyLoses moved
  cases move with
  | clock now =>
      cases moved
      exact ⟨single.single, single.written, single.nonzero⟩
  | spawn pid =>
      obtain ⟨nonzero, _, rfl⟩ := born_eq moved
      refine ⟨loses.single single.single, ?_, ?_⟩
      · intro other birth name stage alive
        rw [putProc_procs] at alive
        split at alive
        · cases alive
        · exact single.written other birth name stage alive
      · rw [putProc_procs, if_neg (Ne.symm nonzero)]
        exact single.nonzero
  | exit pid =>
      cases moved
      refine ⟨loses.single single.single, ?_, ?_⟩
      · intro other birth name stage alive
        by_cases same : other = pid
        · subst same
          simp at alive
        · simp only [Function.update_of_ne same] at alive
          exact single.written other birth name stage alive
      · by_cases zero : 0 = pid
        · simp [zero]
        · simp only [Function.update_of_ne zero]
          exact single.nonzero
  | monitor pid ts =>
      simp only [World.move] at moved
      split at moved
      case h_2 => cases moved
      case h_1 held =>
        cases moved
        exact single.monitorStep held loses

theorem Single.born {name : String} (single : world.Single)
    (unmonitored : world.Unmonitored name)
    (born : world.born pid (.monitor name .starting) = some world') :
    world'.Single := by
  obtain ⟨nonzero, _, rfl⟩ := born_eq born
  have known : ∀ other proc schain, other ≠ pid →
      world.procs other = some proc → proc.monitorOf = some schain →
      schain ≠ name := by
    intro other proc schain _ alive monitor equal
    subst equal
    exact unmonitored other proc alive monitor
  refine ⟨?_, ?_, ?_⟩
  · intro schain other third proc rival alive rivalAlive monitor rivalMonitor
    simp only [putProc_procs] at alive rivalAlive
    split at alive <;> split at rivalAlive
    case isTrue.isTrue first second => rw [first, second]
    case isTrue.isFalse first second =>
      cases alive
      cases monitor
      exact absurd rfl (known third rival _ second rivalAlive rivalMonitor)
    case isFalse.isTrue first second =>
      cases rivalAlive
      cases rivalMonitor
      exact absurd rfl (known other proc _ first alive monitor)
    case isFalse.isFalse =>
      exact single.single schain other third proc rival alive rivalAlive
        monitor rivalMonitor
  · intro other birth schain stage alive
    simp only [putProc_procs] at alive
    split at alive
    · cases alive
      trivial
    · exact single.written other birth schain stage alive
  · simp only [putProc_procs, if_neg (Ne.symm nonzero)]
    exact single.nonzero

theorem serve_files {query : PmQuery} {proposed answer : Except PyError query.Reply}
    (served : world.serve query proposed = some (answer, world'))
    (starts : ∀ name, query ≠ .startProcess name) :
    world'.procs = world.procs ∧ world'.report = world.report ∧
      world'.tmp = world.tmp := by
  cases serve_cases served with
  | starts name => exact absurd rfl (starts name)
  | _ => exact ⟨rfl, rfl, rfl⟩

theorem Single.of_files (single : world.Single)
    (files : world'.procs = world.procs ∧ world'.report = world.report ∧
      world'.tmp = world.tmp) : world'.Single := by
  obtain ⟨procs, report, tmp⟩ := files
  refine ⟨?_, ?_, ?_⟩
  · intro schain pid other proc rival alive rivalAlive
    rw [procs] at alive rivalAlive
    exact single.single schain pid other proc rival alive rivalAlive
  · intro pid birth schain stage alive
    rw [procs] at alive
    exact (single.written pid birth schain stage alive).of_files
      (congrFun report schain) (congrFun tmp schain)
  · rw [procs]
    exact single.nonzero

end Step

end World

/-- Whenever a pass looks for the report of a schain, the live monitors of the
schain have reported. -/
def reportedFirst : Host.Discipline pmInterface World Move PmJob where
  call
    | .isReportExist name, _, world => world.Reported name
    | _, _, _ => True

section Sketches

open Procedure World

variable {α : Type} {schain : String} {pid : Pid}

/-- Every run of the body keeps `Single`. -/
abbrev StartsOne (before : World → Prop) (body : PmM α)
    (value : α → World → Prop) : Prop :=
  Sketch pmHost reportedFirst Single before body value fun _ _ => True

theorem stable_unmonitored :
    pmHost.Stable reportedFirst Single (Unmonitored schain) := by
  intro world moved move _ unmonitored _ taken pid proc alive monitor
  obtain ⟨before, held, monitors, _⟩ :=
    move_onlyLoses taken pid proc schain alive monitor
  exact unmonitored pid before held monitors

theorem stable_monitoredAt :
    pmHost.Stable reportedFirst Single (MonitoredAt schain pid) := by
  intro world moved move _ monitored _ taken other proc alive monitor
  obtain ⟨before, held, monitors, _⟩ :=
    move_onlyLoses taken other proc schain alive monitor
  exact monitored other before held monitors

theorem stable_reported :
    pmHost.Stable reportedFirst Single (Reported schain) := by
  intro world moved move _ reported _ taken other proc alive monitor
  obtain ⟨before, held, monitors, kept⟩ :=
    move_onlyLoses taken other proc schain alive monitor
  exact kept (reported other before held monitors)

theorem startsOne_pure {result : α} :
    StartsOne (fun _ => True) (pure result) fun _ _ => True :=
  sketch_pure Host.stable_true fun _ _ _ => trivial

theorem startsOne_bind {β : Type} {before : World → Prop} {first : PmM β}
    {next : β → PmM α} {middle : β → World → Prop} {value : α → World → Prop}
    (sketch : StartsOne before first middle)
    (rest : ∀ result, StartsOne (middle result) (next result) value) :
    StartsOne before (first >>= next) value :=
  sketch_bind sketch rest fun _ => Host.stable_true

theorem startsOne_invoke {query : PmQuery} {assertion : World → Prop}
    (stable : pmHost.Stable reportedFirst Single assertion)
    (aboutProcs : ∀ {world world' : World}, world'.procs = world.procs →
      assertion world → assertion world')
    (starts : ∀ name, query ≠ .startProcess name) :
    StartsOne assertion (invoke query) fun _ => assertion := by
  apply sketch_invoke stable
  · intro world world' proposed answer single holds _ served
    have files := serve_files served starts
    refine ⟨single.of_files files, ?_⟩
    cases answer with
    | ok reply => exact aboutProcs files.1 holds
    | error error => trivial
  · exact fun _ => stable
  · exact fun _ => Host.stable_true

theorem startsOne_ask {query : PmQuery}
    (starts : ∀ name, query ≠ .startProcess name) :
    StartsOne (fun _ => True) (invoke query) fun _ _ => True :=
  startsOne_invoke Host.stable_true (fun _ holds => holds) starts

theorem startsOne_isReportExist :
    StartsOne (fun _ => True) (invoke (.isReportExist schain))
      fun found world =>
        if found then Reported schain world else Unmonitored schain world := by
  apply sketch_invoke Host.stable_true
  · intro world world' proposed answer single _ reported served
    cases served
    refine ⟨single.of_files ⟨rfl, rfl, rfl⟩, ?_⟩
    cases report : world.report schain with
    | some held =>
        simp only [Option.isSome_some]
        exact reported
    | none =>
        simp only [Option.isSome_none]
        intro pid proc alive monitor
        obtain ⟨birth, stage, rfl⟩ := proc_of_monitorOf monitor
        have written := single.written pid birth schain stage alive
        obtain ⟨ts, held⟩ := written.report (reported pid _ alive rfl)
        rw [report] at held
        cases held
  · intro found
    cases found with
    | true => exact stable_reported
    | false => exact stable_unmonitored
  · exact fun _ => Host.stable_true

theorem startsOne_readPid :
    StartsOne (Reported schain) (invoke (.readPid schain))
      fun pid => MonitoredAt schain pid := by
  apply sketch_invoke stable_reported
  · intro world world' proposed answer single reported _ served
    simp only [pmHost, World.serve] at served
    split at served <;> cases served <;>
      refine ⟨single.of_files ⟨rfl, rfl, rfl⟩, ?_⟩
    case h_1 pid ts held =>
      intro other proc alive monitor
      obtain ⟨birth, stage, rfl⟩ := proc_of_monitorOf monitor
      have written := single.written other birth schain stage alive
      obtain ⟨ts, named⟩ := written.report (reported other _ alive rfl)
      rw [held] at named
      cases named
      rfl
    all_goals trivial
  · exact fun _ => stable_monitoredAt
  · exact fun _ => Host.stable_true

theorem startsOne_getSchainProcessInfo :
    StartsOne (fun _ => True) (getSchainProcessInfo schain)
      fun info => match info with
        | some (pid, _) => MonitoredAt schain pid
        | none => Unmonitored schain := by
  apply startsOne_bind startsOne_isReportExist
  intro found
  cases found with
  | true =>
      apply startsOne_bind startsOne_readPid
      intro pid
      apply startsOne_bind
      · exact startsOne_invoke stable_monitoredAt
          (fun same holds => by simpa only [MonitoredAt, same] using holds)
          fun _ => by simp
      · intro ts
        exact sketch_pure stable_monitoredAt fun _ _ holds => holds
  | false => exact sketch_pure stable_unmonitored fun _ _ holds => holds

theorem startsOne_osKillZero :
    Sketch pmHost reportedFirst Single (MonitoredAt schain pid)
      (invoke (.osKillZero pid)) (fun _ _ => True)
      fun _ => Unmonitored schain := by
  apply sketch_invoke stable_monitoredAt
  · intro world world' proposed answer single monitored _ served
    simp only [pmHost, World.serve] at served
    split at served <;> cases served <;>
      refine ⟨single, ?_⟩
    case h_1 => trivial
    case h_2 dead =>
      intro other proc alive monitor
      obtain rfl := monitored other proc alive monitor
      rw [dead] at alive
      cases alive
  · exact fun _ => Host.stable_true
  · exact fun _ => stable_unmonitored

theorem stable_notAlive {alive : Bool} :
    pmHost.Stable reportedFirst Single fun world =>
      alive = false → Unmonitored schain world := by
  intro world moved move single holds allowed taken dead
  exact stable_unmonitored single (holds dead) allowed taken

theorem startsOne_isMonitorProcessAlive :
    StartsOne (MonitoredAt schain pid) (isMonitorProcessAlive pid)
      fun alive world => alive = false → Unmonitored schain world := by
  unfold isMonitorProcessAlive
  split
  case isTrue =>
    apply sketch_attempt fun _ => Unmonitored schain
    · apply sketch_bind startsOne_osKillZero
      · intro _
        apply sketch_pure Host.stable_true
        intro world _ _ absurdity
        cases absurdity
      · exact fun _ => stable_unmonitored
    · intro error clause clauseOf
      cases error with
      | osError =>
          cases clauseOf
          exact sketch_pure stable_unmonitored fun _ _ holds _ => holds
      | _ => cases clauseOf
    · intro error _ _ _
      trivial
    · exact fun _ => stable_notAlive
    · exact fun _ => stable_unmonitored
  case isFalse zero =>
    apply sketch_pure stable_monitoredAt
    intro world single monitored _ other proc alive monitor
    obtain rfl := monitored other proc alive monitor
    rw [not_not.mp zero, single.nonzero] at alive
    cases alive

theorem startsOne_startMonitor :
    StartsOne (Unmonitored schain) (startMonitor schain) fun _ _ => True := by
  refine startsOne_bind (?_ : StartsOne _ _ fun _ _ => True)
    fun _ => startsOne_pure
  apply sketch_invoke stable_unmonitored
  · intro world world' proposed answer single unmonitored _ served
    have outcome : world.Served (.startProcess schain) proposed world' :=
      serve_cases served
    have safe : world'.Single := by
      cases outcome with
      | same => exact single
      | starts _ pid _ born => exact single.born unmonitored born
    refine ⟨safe, ?_⟩
    cases answer <;> trivial
  · exact fun _ => Host.stable_true
  · exact fun _ => Host.stable_true

theorem startsOne_getAllowedDiff {timeout : Option Int} :
    StartsOne (fun _ => True) (getAllowedDiff timeout) fun _ _ => True := by
  cases timeout with
  | some given => exact startsOne_pure
  | none =>
      exact startsOne_bind (startsOne_ask fun _ => by simp)
        fun _ => startsOne_pure

theorem startsOne_terminateProcess {killTimeout : Int} :
    StartsOne (fun _ => True) (terminateProcess pid killTimeout)
      fun _ _ => True := by
  unfold terminateProcess
  split
  case isFalse => exact startsOne_pure
  case isTrue =>
    refine startsOne_bind (?_ : StartsOne _ _ fun _ _ => True) ?_
    · apply sketch_attempt fun _ _ => True
      · exact startsOne_bind (startsOne_ask fun _ => by simp)
          fun _ => startsOne_pure
      · intro error clause clauseOf
        cases clauseOf
        exact startsOne_pure
      · exact fun _ _ _ _ => trivial
      · exact fun _ => Host.stable_true
      · exact fun _ => Host.stable_true
    · intro found
      cases found with
      | none => exact startsOne_pure
      | some process =>
          apply sketch_attempt fun _ _ => True
          · exact startsOne_bind (startsOne_ask fun _ => by simp)
              fun _ => startsOne_ask fun _ => by simp
          · intro error clause clauseOf
            cases error with
            | timeoutExpired =>
                cases clauseOf
                exact startsOne_ask fun _ => by simp
            | _ =>
                cases clauseOf
                exact startsOne_pure
          · exact fun _ _ _ _ => trivial
          · exact fun _ => Host.stable_true
          · exact fun _ => Host.stable_true

theorem startsOne_checkTimeout {allowedDiff pts : Int} :
    StartsOne (fun _ => True) (checkTimeout allowedDiff pid pts)
      fun _ _ => True := by
  apply startsOne_bind (startsOne_ask fun _ => by simp)
  intro now
  split
  · exact startsOne_terminateProcess
  · exact startsOne_pure

theorem startsOne_runPmSchain {struct : Schain} {timeout : Option Int} :
    StartsOne (fun _ => True) (runPmSchain struct timeout) fun _ _ => True := by
  apply startsOne_bind startsOne_getAllowedDiff
  intro allowedDiff
  apply startsOne_bind startsOne_getSchainProcessInfo
  intro info
  cases info with
  | none => exact startsOne_startMonitor
  | some reported =>
      apply startsOne_bind startsOne_isMonitorProcessAlive
      intro alive
      cases alive with
      | true =>
          exact startsOne_checkTimeout.strengthen stable_notAlive
            fun _ _ _ => trivial
      | false =>
          exact startsOne_startMonitor.strengthen stable_notAlive
            fun _ _ holds => holds rfl

theorem startsOne_collectLeavingSchains (history : List String) :
    StartsOne (fun _ => True) (collectLeavingSchains history)
      fun _ _ => True := by
  induction history with
  | nil => exact startsOne_pure
  | cons schainId rest ih =>
      apply startsOne_bind (startsOne_ask fun _ => by simp)
      intro struct
      apply startsOne_bind (startsOne_ask fun _ => by simp)
      intro rotating
      apply startsOne_bind ih
      intro leavingSchains
      split <;> exact startsOne_pure

theorem startsOne_runPmSchains (structs : List Schain) :
    StartsOne (fun _ => True) (runPmSchains structs) fun _ _ => True := by
  induction structs with
  | nil => exact startsOne_pure
  | cons struct rest ih =>
      exact startsOne_bind startsOne_runPmSchain fun _ => ih

theorem startsOne_runProcessManager {nodeId : Nat} :
    StartsOne (fun _ => True) (runProcessManager nodeId) fun _ _ => True := by
  apply startsOne_bind (startsOne_ask fun _ => by simp)
  intro _
  apply startsOne_bind
  · apply startsOne_bind (startsOne_ask fun _ => by simp)
    intro schains
    apply startsOne_bind
    · exact startsOne_bind (startsOne_ask fun _ => by simp)
        startsOne_collectLeavingSchains
    · exact fun _ => startsOne_pure
  · exact startsOne_runPmSchains

end Sketches

/-- Passes of the process manager leave a schain with at most one monitor, as
long as a monitor has reported before its schain is looked at again. -/
theorem single_monitor_of_reported (labels : List PmLabel)
    (reported : Transition.EachStep pmHost.step reportedFirst.Meets
      { world := World.empty } labels) :
    Transition.Always pmHost.step (fun config => config.world.SingleMonitors)
      { world := World.empty } labels := by
  apply Host.always_of_outlines fun single _ => World.Single.move single
  · intro world single
    exact single.of_files ⟨rfl, rfl, rfl⟩
  · intro world job single _
    refine ⟨single, fun _ => True,
      Procedure.Ends (fun _ _ => True) fun _ _ => True, trivial, ?_⟩
    cases job with
    | processManager nodeId => exact startsOne_runProcessManager
    | pmSchain struct timeout => exact startsOne_runPmSchain
  · intro config single
    exact single.single
  · refine ⟨?_, ?_, rfl⟩
    · intro schain pid other proc rival absurdity
      cases absurdity
    · intro pid birth schain stage absurdity
      cases absurdity
  · exact reported

/-- The contracts list the schain both as assigned and as leaving; the started
processes get the pid `pid`. -/
def listedTwice (pid : Pid) : (query : PmQuery) → Except PyError query.Reply
  | .notifyIfNotEnoughBalance => .ok ()
  | .getDkgTimeout => .ok 1800
  | .getSchainsForNode _ => .ok [⟨"schain", true⟩]
  | .getLeavingHistory _ => .ok ["id"]
  | .getSchain _ => .ok ⟨"schain", false⟩
  | .isRotationActive _ => .ok true
  | .startProcess _ => .ok pid
  | _ => .error .osError

/-- One pass, in which the second look finds no report yet. -/
def overlappingPass : List PmLabel :=
  [.start (.processManager 0), .call (listedTwice 7), .call (listedTwice 7),
    .call (listedTwice 7), .call (listedTwice 7), .call (listedTwice 7),
    .call (listedTwice 7), .call (listedTwice 7), .call (listedTwice 7),
    .call (listedTwice 8), .call (listedTwice 8), .call (listedTwice 8)]

theorem schain_can_get_two_monitors :
    ¬ ∀ labels : List PmLabel,
      Transition.Always pmHost.step (fun config => config.world.SingleMonitors)
        { world := World.empty } labels := by
  intro claim
  have ended := (claim overlappingPass).at_play rfl
  have same := ended "schain" 7 8 ⟨0, .monitor "schain" .starting⟩
    ⟨1, .monitor "schain" .starting⟩ rfl rfl rfl rfl
  cases same

def reportedPass : List PmLabel :=
  [.start (.pmSchain ⟨"schain", true⟩ (some 60)), .call (listedTwice 7),
    .call (listedTwice 7), .move (.monitor 7 0), .move (.monitor 7 0),
    .start (.pmSchain ⟨"schain", true⟩ (some 60)), .call (listedTwice 8),
    .call (listedTwice 8), .call (listedTwice 8), .call (listedTwice 8),
    .call (listedTwice 8)]

theorem reportedPass_single :
    Transition.Always pmHost.step (fun config => config.world.SingleMonitors)
      { world := World.empty } reportedPass := by
  apply single_monitor_of_reported
  intro next taken
  cases taken
  refine ⟨trivial, ?_⟩
  intro next taken
  cases taken
  refine ⟨?_, ?_⟩
  · intro pid proc alive
    cases alive
  iterate 4
    intro next taken
    cases taken
    refine ⟨trivial, ?_⟩
  intro next taken
  cases taken
  refine ⟨?_, ?_⟩
  · intro pid proc alive _
    by_cases started : pid = 7
    · subst started
      cases alive
      rfl
    · simp [pmHost, World.monitorStep, World.putProc, World.putTmp,
        World.moveReport, started] at alive
      cases alive
  · iterate 4
      intro next taken
      cases taken
      refine ⟨trivial, ?_⟩
    trivial

end SkaleAdmin.Process
