import SkaleAdmin.Library.Interleaving
import Mathlib.Logic.Function.Basic

/-! Processes of the node, the report files of the schain monitors and the
calls that `run_process_manager` makes. -/

namespace SkaleAdmin.Process

open Interaction

abbrev Pid := Nat

/-- The content of `process.json`. -/
structure Report where
  pid : Option Pid := none
  ts : Option Int := none
  deriving DecidableEq

/-- Where a monitor stands in writing its report. -/
inductive Stage where
  /-- Before `process_report.update`. -/
  | starting
  /-- `update` has saved the temporary file. -/
  | updating
  | working
  /-- The setter of `ts` has read the report. -/
  | setting (report : Report)
  /-- The setter of `ts` has saved the temporary file. -/
  | moving
  deriving DecidableEq

def Stage.isReported : Stage → Bool
  | .starting | .updating => false
  | _ => true

inductive Role where
  | monitor (schain : String) (stage : Stage)
  | foreign
  deriving DecidableEq

/-- A process; `birth` tells it from every other one that has had its pid. -/
structure Proc where
  birth : Nat
  role : Role
  deriving DecidableEq

def Proc.monitorOf (proc : Proc) : Option String :=
  match proc.role with
  | .monitor schain _ => some schain
  | .foreign => none

/-- A termination signal, the schain whose pass sent it and the process that
received it. -/
structure Signal where
  sentFor : Option String
  receiver : Proc

/-- `lookup` is the schain whose report the running pass has looked for and the
pid it has read there.  A zombie keeps its place in `procs`. -/
structure World where
  now : Int
  procs : Pid → Option Proc
  report : String → Option Report
  tmp : String → Option Report
  births : Nat
  lookup : Option (String × Option Pid)
  signals : List Signal

def World.empty : World where
  now := 0
  procs := fun _ => none
  report := fun _ => none
  tmp := fun _ => none
  births := 0
  lookup := none
  signals := []

inductive Move where
  | clock (now : Int)
  | spawn (pid : Pid)
  | exit (pid : Pid)
  /-- The next step of the monitor `pid` in writing its report; `ts` is the
  time it writes. -/
  | monitor (pid : Pid) (ts : Int)

namespace World

def putProc (world : World) (pid : Pid) (proc : Proc) : World :=
  { world with procs := Function.update world.procs pid (some proc) }

def putTmp (world : World) (schain : String) (report : Report) : World :=
  { world with tmp := Function.update world.tmp schain (some report) }

def moveReport (world : World) (schain : String) : World :=
  match world.tmp schain with
  | some report =>
      { world with
        report := Function.update world.report schain (some report)
        tmp := Function.update world.tmp schain none }
  | none => world

/-- A process gets a pid that no other process has. -/
def born (world : World) (pid : Pid) (role : Role) : Option World :=
  if pid ≠ 0 ∧ world.procs pid = none then
    some { world.putProc pid ⟨world.births, role⟩ with
      births := world.births + 1 }
  else
    none

/-- `process_report.update(pid, ts)` in `start_tasks`, then the setter of `ts`
over and over. -/
def monitorStep (world : World) (pid : Pid) (ts : Int) (birth : Nat)
    (schain : String) : Stage → World
  | .starting =>
      (world.putTmp schain ⟨pid, ts⟩).putProc pid ⟨birth, .monitor schain .updating⟩
  | .updating =>
      (world.moveReport schain).putProc pid ⟨birth, .monitor schain .working⟩
  | .working =>
      world.putProc pid
        ⟨birth, .monitor schain (.setting ((world.report schain).getD {}))⟩
  | .setting report =>
      (world.putTmp schain { report with ts }).putProc pid
        ⟨birth, .monitor schain .moving⟩
  | .moving =>
      (world.moveReport schain).putProc pid ⟨birth, .monitor schain .working⟩

def move (world : World) : Move → Option World
  | .clock now => some { world with now }
  | .spawn pid => world.born pid .foreign
  | .exit pid =>
      some { world with procs := Function.update world.procs pid none }
  | .monitor pid ts =>
      match world.procs pid with
      | some ⟨birth, .monitor schain stage⟩ =>
          some (world.monitorStep pid ts birth schain stage)
      | _ => none

def signal (world : World) (receiver : Proc) : World :=
  { world with
    signals := ⟨world.lookup.map Prod.fst, receiver⟩ :: world.signals }

section Lemmas

variable {world world' : World} {schain other : String} {pid otherPid : Pid}

theorem putProc_procs {proc : Proc} :
    (world.putProc pid proc).procs otherPid =
      if otherPid = pid then some proc else world.procs otherPid := by
  by_cases same : otherPid = pid
  · subst same
    simp [putProc]
  · simp [putProc, same]

theorem putTmp_tmp {report : Report} :
    (world.putTmp schain report).tmp other =
      if other = schain then some report else world.tmp other := by
  by_cases same : other = schain
  · subst same
    simp [putTmp]
  · simp [putTmp, same]

@[simp] theorem moveReport_procs :
    (world.moveReport schain).procs = world.procs := by
  unfold moveReport
  split <;> rfl

@[simp] theorem moveReport_signals :
    (world.moveReport schain).signals = world.signals := by
  unfold moveReport
  split <;> rfl

@[simp] theorem moveReport_lookup :
    (world.moveReport schain).lookup = world.lookup := by
  unfold moveReport
  split <;> rfl

theorem born_eq {role : Role} (born : world.born pid role = some world') :
    pid ≠ 0 ∧ world.procs pid = none ∧
      world' = { world.putProc pid ⟨world.births, role⟩ with
        births := world.births + 1 } := by
  unfold World.born at born
  split at born
  case isTrue free =>
    exact ⟨free.1, free.2, (Option.some.inj born).symm⟩
  case isFalse => cases born

def nextStage (world : World) (schain : String) : Stage → Stage
  | .starting => .updating
  | .updating => .working
  | .working => .setting ((world.report schain).getD {})
  | .setting _ => .moving
  | .moving => .working

theorem monitorStep_procs (world : World) (pid : Pid) (ts : Int) (birth : Nat)
    (schain : String) (stage : Stage) :
    (world.monitorStep pid ts birth schain stage).procs =
      Function.update world.procs pid
        (some ⟨birth, .monitor schain (world.nextStage schain stage)⟩) := by
  cases stage <;> simp [monitorStep, putProc, putTmp, nextStage]

theorem monitorStep_signals (world : World) (pid : Pid) (ts : Int)
    (birth : Nat) (schain : String) (stage : Stage) :
    (world.monitorStep pid ts birth schain stage).signals = world.signals := by
  cases stage <;> simp [monitorStep, putProc, putTmp]

theorem monitorStep_lookup (world : World) (pid : Pid) (ts : Int)
    (birth : Nat) (schain : String) (stage : Stage) :
    (world.monitorStep pid ts birth schain stage).lookup = world.lookup := by
  cases stage <;> simp [monitorStep, putProc, putTmp]

theorem move_lookup (world : World) (move : Move) (moved : World)
    (taken : world.move move = some moved) : moved.lookup = world.lookup := by
  cases move with
  | clock now => cases taken; rfl
  | spawn pid =>
      obtain ⟨_, _, rfl⟩ := born_eq taken
      rfl
  | exit pid => cases taken; rfl
  | monitor pid ts =>
      simp only [World.move] at taken
      split at taken
      · cases taken
        exact monitorStep_lookup ..
      · cases taken

end Lemmas

end World

structure Schain where
  name : String
  active : Bool
  deriving DecidableEq

inductive PyError where
  | noSuchProcess
  | timeoutExpired
  | keyError
  | osError
  | otherError (message : String)
  deriving DecidableEq

/-- A process object of psutil is a pid together with the identity of the
process that had it when the object was made. -/
structure PsutilProcess where
  pid : Pid
  birth : Nat

inductive PmQuery where
  | notifyIfNotEnoughBalance
  | getDkgTimeout
  | getSchainsForNode (nodeId : Nat)
  | getLeavingHistory (nodeId : Nat)
  | getSchain (schainId : String)
  | isRotationActive (name : String)
  | isReportExist (name : String)
  | readPid (name : String)
  | readTs (name : String)
  | osKillZero (pid : Pid)
  | time
  | psutilProcess (pid : Pid)
  | osKillSigterm (pid : Pid)
  | wait (process : PsutilProcess) (timeout : Int)
  | kill (process : PsutilProcess)
  | startProcess (name : String)

@[reducible] def PmQuery.Reply : PmQuery → Type
  | notifyIfNotEnoughBalance | osKillZero _ | osKillSigterm _ | wait ..
  | kill _ => Unit
  | getDkgTimeout | readTs _ | time => Int
  | getSchainsForNode _ => List Schain
  | getLeavingHistory _ => List String
  | getSchain _ => Schain
  | isRotationActive _ | isReportExist _ => Bool
  | readPid _ | startProcess _ => Pid
  | psutilProcess _ => PsutilProcess

abbrev pmInterface : Interface :=
  fallible PmQuery PmQuery.Reply PyError

abbrev PmM (α : Type) := Procedure pmInterface Unit PyError α

abbrev invoke (query : PmQuery) : PmM query.Reply :=
  Procedure.invoke query

namespace World

/-- The process that `process` was made for, if it is still there. -/
def find (world : World) (process : PsutilProcess) : Option Proc :=
  (world.procs process.pid).filter fun proc => proc.birth == process.birth

/-- The contracts answer as they like; files and processes are as they stand. -/
def serve : (query : PmQuery) → Except PyError query.Reply → World →
    Option (Except PyError query.Reply × World)
  | .isReportExist name, _, world =>
      some (.ok (world.report name).isSome,
        { world with lookup := some (name, none) })
  | .readPid name, _, world =>
      match world.report name with
      | some ⟨some pid, _⟩ =>
          some (.ok pid, { world with lookup := some (name, some pid) })
      | some ⟨none, _⟩ => some (.error .keyError, world)
      | none => some (.error .osError, world)
  | .readTs name, _, world =>
      match world.report name with
      | some ⟨_, some ts⟩ => some (.ok ts, world)
      | some ⟨_, none⟩ => some (.error .keyError, world)
      | none => some (.error .osError, world)
  | .osKillZero pid, _, world =>
      match world.procs pid with
      | some _ => some (.ok (), world)
      | none => some (.error .osError, world)
  | .time, _, world => some (.ok world.now, world)
  | .psutilProcess pid, _, world =>
      match world.procs pid with
      | some proc => some (.ok ⟨pid, proc.birth⟩, world)
      | none => some (.error .noSuchProcess, world)
  | .osKillSigterm pid, _, world =>
      match world.procs pid with
      | some proc => some (.ok (), world.signal proc)
      | none => some (.error .osError, world)
  -- psutil may take a process that has the pid of the ended one for it
  | .wait process _, proposed, world =>
      match world.find process, proposed with
      | none, .ok _ => some (.ok (), world)
      | _, _ => some (.error .timeoutExpired, world)
  | .kill process, _, world =>
      match world.find process with
      | some proc => some (.ok (), world.signal proc)
      | none => some (.error .noSuchProcess, world)
  | .startProcess name, proposed, world =>
      match proposed with
      | .ok pid =>
          (world.born pid (.monitor name .starting)).map fun started =>
            (.ok pid, started)
      | .error error => some (.error error, world)
  | .notifyIfNotEnoughBalance, proposed, world
  | .getDkgTimeout, proposed, world
  | .getSchainsForNode _, proposed, world
  | .getLeavingHistory _, proposed, world
  | .getSchain _, proposed, world
  | .isRotationActive _, proposed, world => some (proposed, world)

/-- What a call can do to the world. -/
inductive Served (world : World) :
    (query : PmQuery) → Except PyError query.Reply → World → Prop
  | same (query : PmQuery) (proposed : Except PyError query.Reply) :
      Served world query proposed world
  | looksFor (name : String) (proposed : Except PyError Bool) :
      Served world (.isReportExist name) proposed
        { world with lookup := some (name, none) }
  | reads (name : String) (pid : Pid) (ts : Option Int)
      (proposed : Except PyError Pid)
      (held : world.report name = some ⟨some pid, ts⟩) :
      Served world (.readPid name) proposed
        { world with lookup := some (name, some pid) }
  | terminates (pid : Pid) (receiver : Proc) (proposed : Except PyError Unit)
      (alive : world.procs pid = some receiver) :
      Served world (.osKillSigterm pid) proposed (world.signal receiver)
  | kills (process : PsutilProcess) (receiver : Proc)
      (proposed : Except PyError Unit)
      (alive : world.procs process.pid = some receiver) :
      Served world (.kill process) proposed (world.signal receiver)
  | starts (name : String) (pid : Pid) (world' : World)
      (born : world.born pid (.monitor name .starting) = some world') :
      Served world (.startProcess name) (.ok pid) world'

theorem serve_cases {world world' : World} {query : PmQuery}
    {proposed answer : Except PyError query.Reply}
    (served : world.serve query proposed = some (answer, world')) :
    world.Served query proposed world' := by
  cases query with
  | isReportExist name =>
      cases served
      exact .looksFor name proposed
  | readPid name =>
      simp only [serve] at served
      split at served <;> cases served
      · exact .reads name _ _ proposed (by assumption)
      · exact .same ..
      · exact .same ..
  | osKillSigterm pid =>
      simp only [serve] at served
      split at served <;> cases served
      · exact .terminates pid _ proposed (by assumption)
      · exact .same ..
  | kill process =>
      simp only [serve] at served
      split at served <;> cases served
      case h_1 receiver found =>
        exact .kills process receiver proposed (Option.filter_eq_some_iff.mp found).1
      case h_2 => exact .same ..
  | startProcess name =>
      simp only [serve] at served
      split at served
      case h_1 pid =>
        obtain ⟨started, born, same⟩ := Option.map_eq_some_iff.mp served
        cases same
        exact .starts name pid _ born
      case h_2 =>
        cases served
        exact .same ..
  | readTs name =>
      simp only [serve] at served
      split at served <;> cases served <;> exact .same ..
  | osKillZero pid =>
      simp only [serve] at served
      split at served <;> cases served <;> exact .same ..
  | psutilProcess pid =>
      simp only [serve] at served
      split at served <;> cases served <;> exact .same ..
  | wait process timeout =>
      simp only [serve] at served
      split at served <;> cases served <;> exact .same ..
  | _ =>
      cases served
      exact .same ..

end World

end SkaleAdmin.Process
