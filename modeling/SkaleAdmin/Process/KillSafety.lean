import SkaleAdmin.Process.Manager

/-! Whom the process manager terminates. -/

namespace SkaleAdmin.Process

open Interaction

def PmQuery.isSilent : PmQuery → Bool
  | .osKillSigterm _ | .kill _ => false
  | _ => true

namespace World

/-- `pid` stands in the report of `schain`, or is on its way there, or has been
read from there by the running pass. -/
inductive Recorded (world : World) (schain : String) (pid : Pid) : Prop
  | inReport (report : Report) (held : world.report schain = some report)
      (named : report.pid = some pid)
  | inTmp (report : Report) (held : world.tmp schain = some report)
      (named : report.pid = some pid)
  | inSetter (report : Report) (holder : Pid) (birth : Nat)
      (held : world.procs holder =
        some ⟨birth, .monitor schain (.setting report)⟩)
      (named : report.pid = some pid)
  | lookedUp (held : world.lookup = some (schain, some pid))

/-- Every signal was received by a monitor of the schain it was sent for. -/
def SignalsOwn (world : World) : Prop :=
  ∀ signal ∈ world.signals, ∃ schain, signal.sentFor = some schain ∧
    signal.receiver.monitorOf = some schain

/-- A process with a recorded pid is a monitor of the schain that records it. -/
def Owned (world : World) : Prop :=
  ∀ schain pid proc, world.Recorded schain pid → world.procs pid = some proc →
    proc.monitorOf = some schain

/-- What holds of every world between two steps. -/
structure KillsOwn (world : World) : Prop where
  owned : world.Owned
  signals : world.SignalsOwn

section Recorded

variable {world : World} {schain other : String} {pid otherPid : Pid}

theorem Recorded.of_putTmp {report : Report}
    (recorded : (world.putTmp schain report).Recorded other pid) :
    world.Recorded other pid ∨ other = schain ∧ report.pid = some pid := by
  cases recorded with
  | inReport found held named => exact .inl (.inReport found held named)
  | inTmp found held named =>
      rw [putTmp_tmp] at held
      split at held
      · cases held
        exact .inr ⟨by assumption, named⟩
      · exact .inl (.inTmp found held named)
  | inSetter found holder birth held named =>
      exact .inl (.inSetter found holder birth held named)
  | lookedUp held => exact .inl (.lookedUp held)

theorem Recorded.of_moveReport
    (recorded : (world.moveReport schain).Recorded other pid) :
    world.Recorded other pid := by
  unfold moveReport at recorded
  split at recorded
  case h_2 => exact recorded
  case h_1 report saved =>
    cases recorded with
    | inReport found held named =>
        by_cases same : other = schain
        · subst same
          simp only [Function.update_self] at held
          cases held
          exact .inTmp report saved named
        · simp only [Function.update_of_ne same] at held
          exact .inReport found held named
    | inTmp found held named =>
        by_cases same : other = schain
        · subst same
          simp at held
        · simp only [Function.update_of_ne same] at held
          exact .inTmp found held named
    | inSetter found holder birth held named =>
        exact .inSetter found holder birth held named
    | lookedUp held => exact .lookedUp held

theorem Recorded.of_putProc {birth : Nat} {stage : Stage}
    (recorded : (world.putProc otherPid ⟨birth, .monitor schain stage⟩).Recorded
      other pid) :
    world.Recorded other pid ∨
      other = schain ∧ ∃ report, stage = .setting report ∧
        report.pid = some pid := by
  cases recorded with
  | inReport found held named => exact .inl (.inReport found held named)
  | inTmp found held named => exact .inl (.inTmp found held named)
  | inSetter found holder birth' held named =>
      rw [putProc_procs] at held
      split at held
      · cases held
        exact .inr ⟨rfl, found, rfl, named⟩
      · exact .inl (.inSetter found holder birth' held named)
  | lookedUp held => exact .inl (.lookedUp held)

theorem Recorded.of_monitorStep {ts : Int} {birth : Nat} {stage : Stage}
    (monitor : world.procs otherPid = some ⟨birth, .monitor schain stage⟩)
    (recorded : (world.monitorStep otherPid ts birth schain stage).Recorded
      other pid) :
    world.Recorded other pid ∨ other = schain ∧ pid = otherPid := by
  cases stage with
  | starting =>
      rcases recorded.of_putProc with recorded | ⟨_, _, absurdity, _⟩
      · rcases recorded.of_putTmp with recorded | ⟨same, named⟩
        · exact .inl recorded
        · exact .inr ⟨same, (Option.some.inj named).symm⟩
      · cases absurdity
  | updating =>
      rcases recorded.of_putProc with recorded | ⟨_, _, absurdity, _⟩
      · exact .inl recorded.of_moveReport
      · cases absurdity
  | working =>
      rcases recorded.of_putProc with recorded | ⟨rfl, report, same, named⟩
      · exact .inl recorded
      · cases same
        cases held : world.report other with
        | none => simp [held] at named
        | some report => exact .inl (.inReport report held (by simpa [held] using named))
  | setting report =>
      rcases recorded.of_putProc with recorded | ⟨_, _, absurdity, _⟩
      · rcases recorded.of_putTmp with recorded | ⟨rfl, named⟩
        · exact .inl recorded
        · exact .inl (.inSetter report otherPid birth monitor named)
      · cases absurdity
  | moving =>
      rcases recorded.of_putProc with recorded | ⟨_, _, absurdity, _⟩
      · exact .inl recorded.of_moveReport
      · cases absurdity

end Recorded

section Step

variable {world world' : World}

theorem Owned.of_fewer (owned : world.Owned)
    (recorded : ∀ schain pid, world'.Recorded schain pid →
      world.Recorded schain pid)
    (procs : ∀ pid proc, world'.procs pid = some proc →
      world.procs pid = some proc) : world'.Owned := by
  intro schain pid proc named alive
  exact owned schain pid proc (recorded schain pid named) (procs pid proc alive)

theorem KillsOwn.born {pid : Pid} {role : Role} (kills : world.KillsOwn)
    (born : world.born pid role = some world')
    (silent : ∀ schain report, role ≠ .monitor schain (.setting report))
    (fits : ∀ schain, world.Recorded schain pid →
      ∃ stage, role = .monitor schain stage) : world'.KillsOwn := by
  obtain ⟨_, _, rfl⟩ := born_eq born
  refine ⟨?_, kills.signals⟩
  have recorded : ∀ schain other,
      World.Recorded { world.putProc pid ⟨world.births, role⟩ with
        births := world.births + 1 } schain other →
        world.Recorded schain other := by
    intro schain other named
    cases named with
    | inReport found held named => exact .inReport found held named
    | inTmp found held named => exact .inTmp found held named
    | inSetter found holder birth held named =>
        simp only [putProc_procs] at held
        split at held
        · cases held
          exact absurd rfl (silent schain found)
        · exact .inSetter found holder birth held named
    | lookedUp held => exact .lookedUp held
  intro schain other proc named alive
  simp only [putProc_procs] at alive
  split at alive
  case isTrue same =>
    subst same
    cases alive
    obtain ⟨stage, rfl⟩ := fits schain (recorded schain other named)
    rfl
  case isFalse =>
    exact kills.owned schain other proc (recorded schain other named) alive

theorem KillsOwn.monitorStep {pid : Pid} {ts : Int} {birth : Nat}
    {schain : String} {stage : Stage} (kills : world.KillsOwn)
    (monitor : world.procs pid = some ⟨birth, .monitor schain stage⟩) :
    (world.monitorStep pid ts birth schain stage).KillsOwn := by
  constructor
  · intro other named proc recorded alive
    have origin := recorded.of_monitorStep monitor
    rw [monitorStep_procs] at alive
    by_cases same : named = pid
    · subst same
      rw [Function.update_self] at alive
      cases alive
      rcases origin with recorded | ⟨rfl, _⟩
      · have owner := kills.owned other named _ recorded monitor
        exact owner
      · rfl
    · rw [Function.update_of_ne same] at alive
      rcases origin with recorded | ⟨_, absurdity⟩
      · exact kills.owned other named proc recorded alive
      · exact absurd absurdity same
  · intro signal sent
    rw [monitorStep_signals] at sent
    exact kills.signals signal sent

end Step

/-- No process is given a pid that a schain records, unless it is a monitor of
that schain. -/
def keepsPids : Host.Discipline pmInterface World Move PmJob where
  move
    | world, .spawn pid => ∀ schain, ¬ world.Recorded schain pid
    | _, _ => True
  call
    | .startProcess name, .ok pid, world =>
        ∀ schain, world.Recorded schain pid → schain = name
    | _, _, _ => True

theorem KillsOwn.move {world world' : World} {move : Move}
    (kills : world.KillsOwn) (allowed : keepsPids.move world move)
    (moved : world.move move = some world') : world'.KillsOwn := by
  cases move with
  | clock now =>
      obtain rfl := Option.some.inj moved
      refine ⟨kills.owned.of_fewer ?_ fun _ _ alive => alive, kills.signals⟩
      intro schain pid named
      cases named with
      | inReport found held named => exact .inReport found held named
      | inTmp found held named => exact .inTmp found held named
      | inSetter found holder birth held named =>
          exact .inSetter found holder birth held named
      | lookedUp held => exact .lookedUp held
  | spawn pid =>
      apply kills.born moved
      · intro schain report absurdity
        cases absurdity
      · intro schain named
        exact absurd named (allowed schain)
  | exit pid =>
      obtain rfl := Option.some.inj moved
      have remaining : ∀ other proc,
          Function.update world.procs pid none other = some proc →
            world.procs other = some proc := by
        intro other proc alive
        by_cases same : other = pid
        · subst same
          simp at alive
        · rwa [Function.update_of_ne same] at alive
      refine ⟨kills.owned.of_fewer ?_ remaining, kills.signals⟩
      intro schain other named
      cases named with
      | inReport found held named => exact .inReport found held named
      | inTmp found held named => exact .inTmp found held named
      | inSetter found holder birth held named =>
          exact .inSetter found holder birth (remaining holder _ held) named
      | lookedUp held => exact .lookedUp held
  | monitor pid ts =>
      simp only [World.move] at moved
      split at moved
      · obtain rfl := Option.some.inj moved
        exact kills.monitorStep (by assumption)
      · cases moved

theorem KillsOwn.lookup {world : World} {lookup : Option (String × Option Pid)}
    (kills : world.KillsOwn)
    (named : ∀ schain pid, lookup = some (schain, some pid) →
      world.Recorded schain pid) :
    World.KillsOwn { world with lookup } := by
  refine ⟨kills.owned.of_fewer ?_ fun _ _ alive => alive, kills.signals⟩
  intro schain pid recorded
  cases recorded with
  | inReport found held same => exact .inReport found held same
  | inTmp found held same => exact .inTmp found held same
  | inSetter found holder birth held same =>
      exact .inSetter found holder birth held same
  | lookedUp held => exact named schain pid held

theorem KillsOwn.serve {world world' : World} {query : PmQuery}
    {proposed answer : Except PyError query.Reply} (kills : world.KillsOwn)
    (silent : query.isSilent) (allowed : keepsPids.call query proposed world)
    (served : world.serve query proposed = some (answer, world')) :
    world'.KillsOwn := by
  cases serve_cases served with
  | same => exact kills
  | looksFor name =>
      apply kills.lookup
      intro schain pid absurdity
      cases absurdity
  | reads name pid ts _ held =>
      apply kills.lookup
      intro schain other same
      cases same
      exact .inReport _ held rfl
  | terminates => cases silent
  | kills => cases silent
  | starts name pid _ born =>
      apply kills.born born
      · intro schain report absurdity
        cases absurdity
      · intro schain recorded
        rw [allowed schain recorded]
        exact ⟨_, rfl⟩

/-- A process at the pid that the pass has looked up belongs to the schain. -/
theorem KillsOwn.signal {world : World} {schain : String} {pid : Pid}
    {receiver : Proc} (kills : world.KillsOwn)
    (looked : world.lookup = some (schain, some pid))
    (alive : world.procs pid = some receiver) :
    (world.signal receiver).KillsOwn := by
  constructor
  · intro other named proc recorded living
    apply kills.owned other named proc ?_ living
    cases recorded with
    | inReport found held same => exact .inReport found held same
    | inTmp found held same => exact .inTmp found held same
    | inSetter found holder birth held same =>
        exact .inSetter found holder birth held same
    | lookedUp held => exact .lookedUp held
  · intro signal sent
    rcases List.mem_cons.mp sent with rfl | sent
    · refine ⟨schain, ?_, kills.owned schain pid receiver (.lookedUp looked) alive⟩
      simp [looked]
    · exact kills.signals signal sent

/-- The running pass has read `pid` in the report of `schain`. -/
def Looked (schain : String) (pid : Pid) (world : World) : Prop :=
  world.lookup = some (schain, some pid)

end World

def PmQuery.keepsLookup : PmQuery → Bool
  | .isReportExist _ | .readPid _ => false
  | _ => true

theorem serve_lookup {world world' : World} {query : PmQuery}
    {proposed answer : Except PyError query.Reply} (keeps : query.keepsLookup)
    (served : world.serve query proposed = some (answer, world')) :
    world'.lookup = world.lookup := by
  cases World.serve_cases served with
  | looksFor name => cases keeps
  | reads name => cases keeps
  | starts name pid _ born =>
      obtain ⟨_, _, rfl⟩ := World.born_eq born
      rfl
  | _ => rfl

section Sketches

open Procedure World

variable {α : Type} {schain : String} {pid : Pid}

/-- Every run of the body keeps `KillsOwn`. -/
abbrev Spares (before : World → Prop) (body : PmM α)
    (value : α → World → Prop) (raised : PyError → World → Prop) : Prop :=
  Sketch pmHost keepsPids KillsOwn before body value raised

theorem stable_looked :
    pmHost.Stable keepsPids KillsOwn (Looked schain pid) :=
  Host.stable_of_view World.lookup (· = some (schain, some pid)) move_lookup

theorem spares_pure {result : α} :
    Spares (fun _ => True) (pure result) (fun _ _ => True) fun _ _ => True :=
  sketch_pure Host.stable_true fun _ _ _ => trivial

theorem spares_bind {β : Type} {before : World → Prop} {first : PmM β}
    {next : β → PmM α} {middle : β → World → Prop} {value : α → World → Prop}
    (sketch : Spares before first middle fun _ _ => True)
    (rest : ∀ result, Spares (middle result) (next result) value
      fun _ _ => True) :
    Spares before (first >>= next) value fun _ _ => True :=
  sketch_bind sketch rest fun _ => Host.stable_true

theorem spares_invoke {query : PmQuery} (silent : query.isSilent) :
    Spares (fun _ => True) (invoke query) (fun _ _ => True) fun _ _ => True := by
  apply sketch_invoke Host.stable_true
  · intro world world' proposed answer kills _ allowed served
    refine ⟨kills.serve silent allowed served, ?_⟩
    cases answer <;> trivial
  · exact fun _ => Host.stable_true
  · exact fun _ => Host.stable_true

theorem spares_invoke_looked {query : PmQuery} (silent : query.isSilent)
    (keeps : query.keepsLookup) :
    Spares (Looked schain pid) (invoke query) (fun _ => Looked schain pid)
      fun _ => Looked schain pid := by
  apply sketch_invoke stable_looked
  · intro world world' proposed answer kills looked allowed served
    have same : Looked schain pid world' :=
      (serve_lookup keeps served).trans looked
    refine ⟨kills.serve silent allowed served, ?_⟩
    cases answer <;> exact same
  · exact fun _ => stable_looked
  · exact fun _ => stable_looked

/-- A call that signals at most the process with the pid that the pass has
read. -/
theorem spares_signal {query : PmQuery} (keeps : query.keepsLookup)
    (signals : (∃ process, query = .kill process ∧ process.pid = pid) ∨
      query = .osKillSigterm pid) :
    Spares (Looked schain pid) (invoke query) (fun _ => Looked schain pid)
      fun _ => Looked schain pid := by
  apply sketch_invoke stable_looked
  · intro world world' proposed answer kills looked _ served
    have looked' : Looked schain pid world' :=
      (serve_lookup keeps served).trans looked
    have outcome : world.Served query proposed world' := serve_cases served
    have safe : world'.KillsOwn := by
      rcases signals with ⟨process, rfl, rfl⟩ | rfl
      · cases outcome with
        | same => exact kills
        | kills _ receiver _ alive => exact kills.signal looked alive
      · cases outcome with
        | same => exact kills
        | terminates _ receiver _ alive => exact kills.signal looked alive
    refine ⟨safe, ?_⟩
    cases answer <;> exact looked'
  · exact fun _ => stable_looked
  · exact fun _ => stable_looked

theorem spares_psutilProcess :
    Spares (Looked schain pid) (invoke (.psutilProcess pid))
      (fun process world => Looked schain pid world ∧ process.pid = pid)
      fun _ _ => True := by
  apply sketch_invoke stable_looked
  · intro world world' proposed answer kills looked allowed served
    simp only [pmHost, World.serve] at served
    split at served
    · cases served
      exact ⟨kills, looked, rfl⟩
    · cases served
      exact ⟨kills, trivial⟩
  · intro process
    exact stable_looked.and (Host.stable_const _)
  · exact fun _ => Host.stable_true

theorem spares_findProcess :
    Spares (Looked schain pid) (findProcess pid)
      (fun found world => ∀ process, found = some process →
        Looked schain pid world ∧ process.pid = pid)
      fun _ _ => True := by
  have stable : ∀ found : Option PsutilProcess,
      pmHost.Stable keepsPids KillsOwn fun world => ∀ process,
        found = some process → Looked schain pid world ∧ process.pid = pid := by
    intro found world moved move kills holds allowed taken process same
    obtain ⟨looked, named⟩ := holds process same
    exact ⟨stable_looked kills looked allowed taken, named⟩
  apply sketch_attempt fun _ _ => True
  · apply spares_bind spares_psutilProcess
    intro process
    apply sketch_pure (stable_looked.and (Host.stable_const _))
    intro world _ holds other same
    cases same
    exact holds
  · intro error clause clauseOf
    cases clauseOf
    apply sketch_pure Host.stable_true
    intro world _ _ process absurdity
    cases absurdity
  · intro error _ _ _
    trivial
  · exact stable
  · exact fun _ => Host.stable_true

theorem spares_stopProcess {process : PsutilProcess} {killTimeout : Int}
    (same : process.pid = pid) :
    Spares (Looked schain pid) (stopProcess process killTimeout)
      (fun _ _ => True) fun _ _ => True := by
  subst same
  apply sketch_attempt fun _ => Looked schain process.pid
  · apply sketch_bind (spares_signal rfl (.inr rfl))
    · intro _
      exact Sketch.weaken (spares_invoke_looked rfl rfl)
        (fun _ _ _ => trivial) fun _ _ holds => holds
    · exact fun _ => stable_looked
  · intro error clause clauseOf
    cases error with
    | timeoutExpired =>
        cases clauseOf
        exact Sketch.weaken (spares_signal rfl (.inl ⟨process, rfl, rfl⟩)) (fun _ _ _ => trivial)
          fun _ _ _ => trivial
    | _ =>
        cases clauseOf
        exact sketch_pure stable_looked fun _ _ _ => trivial
  · intro error _ _ _
    trivial
  · exact fun _ => Host.stable_true
  · exact fun _ => stable_looked

theorem spares_terminateProcess {killTimeout : Int} :
    Spares (Looked schain pid) (terminateProcess pid killTimeout)
      (fun _ _ => True) fun _ _ => True := by
  unfold terminateProcess
  split
  case isFalse => exact sketch_pure stable_looked fun _ _ _ => trivial
  case isTrue =>
    apply spares_bind spares_findProcess
    intro found
    cases found with
    | some process =>
        apply Host.Outline.of_fact fun world holds => (holds process rfl).2
        intro same
        apply (spares_stopProcess same).strengthen
        · intro world moved move kills holds allowed taken other found
          obtain ⟨looked, named⟩ := holds other found
          exact ⟨stable_looked kills looked allowed taken, named⟩
        · intro world _ holds
          exact (holds process rfl).1
    | none =>
        apply sketch_pure
        · intro world moved move _ _ _ _ process absurdity
          cases absurdity
        · intro world _ _
          trivial

theorem spares_checkTimeout {allowedDiff pts : Int} :
    Spares (Looked schain pid) (checkTimeout allowedDiff pid pts)
      (fun _ _ => True) fun _ _ => True := by
  apply spares_bind ((spares_invoke_looked rfl rfl).weaken
    (fun _ _ holds => holds) fun _ _ _ => trivial)
  intro now
  split
  · exact spares_terminateProcess
  · exact sketch_pure stable_looked fun _ _ _ => trivial

theorem spares_isMonitorProcessAlive :
    Spares (Looked schain pid) (isMonitorProcessAlive pid)
      (fun _ => Looked schain pid) fun _ _ => True := by
  unfold isMonitorProcessAlive
  split
  case isFalse => exact sketch_pure stable_looked fun _ _ holds => holds
  case isTrue =>
    apply sketch_attempt fun _ => Looked schain pid
    · apply sketch_bind (spares_invoke_looked rfl rfl)
      · intro _
        exact sketch_pure stable_looked fun _ _ holds => holds
      · exact fun _ => stable_looked
    · intro error clause clauseOf
      cases error with
      | osError =>
          cases clauseOf
          exact sketch_pure stable_looked fun _ _ holds => holds
      | _ => cases clauseOf
    · intro error _ _ _
      trivial
    · exact fun _ => stable_looked
    · exact fun _ => stable_looked

theorem spares_readPid :
    Spares (fun _ => True) (invoke (.readPid schain))
      (fun pid => Looked schain pid) fun _ _ => True := by
  apply sketch_invoke Host.stable_true
  · intro world world' proposed answer kills _ allowed served
    refine ⟨kills.serve rfl allowed served, ?_⟩
    simp only [pmHost, World.serve] at served
    split at served <;> cases served <;> trivial
  · exact fun _ => stable_looked
  · exact fun _ => Host.stable_true

theorem spares_getSchainProcessInfo :
    Spares (fun _ => True) (getSchainProcessInfo schain)
      (fun info world => ∀ pid pts, info = some (pid, pts) →
        Looked schain pid world)
      fun _ _ => True := by
  apply spares_bind (spares_invoke rfl)
  intro found
  split
  · apply spares_bind spares_readPid
    intro pid
    apply spares_bind ((spares_invoke_looked rfl rfl).weaken
      (fun _ _ holds => holds) fun _ _ _ => trivial)
    intro ts
    apply sketch_pure stable_looked
    intro world _ looked other pts same
    cases same
    exact looked
  · apply sketch_pure Host.stable_true
    intro world _ _ pid pts absurdity
    cases absurdity

theorem spares_startMonitor :
    Spares (fun _ => True) (startMonitor schain) (fun _ _ => True)
      fun _ _ => True :=
  spares_bind (spares_invoke rfl) fun _ => spares_pure

theorem spares_getAllowedDiff {timeout : Option Int} :
    Spares (fun _ => True) (getAllowedDiff timeout) (fun _ _ => True)
      fun _ _ => True := by
  cases timeout with
  | some given => exact spares_pure
  | none => exact spares_bind (spares_invoke rfl) fun _ => spares_pure

theorem spares_runPmSchain {struct : Schain} {timeout : Option Int} :
    Spares (fun _ => True) (runPmSchain struct timeout) (fun _ _ => True)
      fun _ _ => True := by
  apply spares_bind spares_getAllowedDiff
  intro allowedDiff
  apply spares_bind spares_getSchainProcessInfo
  intro info
  have stable : pmHost.Stable keepsPids KillsOwn fun world => ∀ pid pts,
      info = some (pid, pts) → Looked struct.name pid world := by
    intro world moved move kills holds allowed taken pid pts same
    exact stable_looked kills (holds pid pts same) allowed taken
  cases info with
  | none => exact spares_startMonitor.strengthen stable fun _ _ _ => trivial
  | some reported =>
      obtain ⟨pid, pts⟩ := reported
      have looked : Spares (Looked struct.name pid)
          (do
            if ← isMonitorProcessAlive pid then
              checkTimeout allowedDiff pid pts
            else
              startMonitor struct.name)
          (fun _ _ => True) fun _ _ => True := by
        apply spares_bind spares_isMonitorProcessAlive
        intro alive
        split
        · exact spares_checkTimeout
        · exact spares_startMonitor.strengthen stable_looked
            fun _ _ _ => trivial
      exact looked.strengthen stable fun world _ holds => holds pid pts rfl

theorem spares_collectLeavingSchains (history : List String) :
    Spares (fun _ => True) (collectLeavingSchains history) (fun _ _ => True)
      fun _ _ => True := by
  induction history with
  | nil => exact spares_pure
  | cons schainId rest ih =>
      apply spares_bind (spares_invoke rfl)
      intro struct
      apply spares_bind (spares_invoke rfl)
      intro rotating
      apply spares_bind ih
      intro leavingSchains
      split <;> exact spares_pure

theorem spares_runPmSchains (structs : List Schain) :
    Spares (fun _ => True) (runPmSchains structs) (fun _ _ => True)
      fun _ _ => True := by
  induction structs with
  | nil => exact spares_pure
  | cons struct rest ih => exact spares_bind spares_runPmSchain fun _ => ih

theorem spares_runProcessManager {nodeId : Nat} :
    Spares (fun _ => True) (runProcessManager nodeId) (fun _ _ => True)
      fun _ _ => True := by
  apply spares_bind (spares_invoke rfl)
  intro _
  apply spares_bind
  · apply spares_bind (spares_invoke rfl)
    intro schains
    apply spares_bind
    · exact spares_bind (spares_invoke rfl) spares_collectLeavingSchains
    · exact fun _ => spares_pure
  · exact spares_runPmSchains

end Sketches

/-- Passes of the process manager, whatever else happens on the node, terminate
only monitors of the schain that they are about, as long as the system gives no
other process a pid that a report records. -/
theorem only_own_monitors_terminated (labels : List PmLabel)
    (kept : Transition.EachStep pmHost.step World.keepsPids.Meets
      { world := World.empty } labels) :
    Transition.Always pmHost.step (fun config => config.world.SignalsOwn)
      { world := World.empty } labels := by
  apply Host.always_of_outlines World.KillsOwn.move
  · intro world kills
    apply kills.lookup
    intro schain pid absurdity
    cases absurdity
  · intro world job kills _
    refine ⟨kills, fun _ => True,
      Procedure.Ends (fun _ _ => True) fun _ _ => True, trivial, ?_⟩
    cases job with
    | processManager nodeId => exact spares_runProcessManager
    | pmSchain struct timeout => exact spares_runPmSchain
  · intro config kills
    exact kills.signals
  · refine ⟨?_, ?_⟩
    · intro schain pid proc _ absurdity
      cases absurdity
    · intro signal absurdity
      cases absurdity
  · exact kept

def startsAtSeven : (query : PmQuery) → Except PyError query.Reply
  | .getDkgTimeout => .ok 1800
  | .startProcess _ => .ok 7
  | _ => .error .osError

def hungMonitor : List PmLabel :=
  [.start (.pmSchain ⟨"schain", true⟩ none), .call startsAtSeven,
    .call startsAtSeven, .call startsAtSeven, .move (.monitor 7 0),
    .move (.monitor 7 0), .move (.clock 5000),
    .start (.pmSchain ⟨"schain", true⟩ none), .call startsAtSeven,
    .call startsAtSeven, .call startsAtSeven, .call startsAtSeven,
    .call startsAtSeven, .call startsAtSeven, .call startsAtSeven,
    .call startsAtSeven]

theorem hungMonitor_terminated :
    Transition.Always pmHost.step (fun config => config.world.SignalsOwn)
      { world := World.empty } hungMonitor := by
  apply only_own_monitors_terminated
  iterate 3
    intro next taken
    cases taken
    refine ⟨trivial, ?_⟩
  intro next taken
  cases taken
  refine ⟨?_, ?_⟩
  · intro schain recorded
    cases recorded with
    | inReport report held => cases held
    | inTmp report held => cases held
    | inSetter report holder birth held => cases held
    | lookedUp held => cases held
  · iterate 12
      intro next taken
      cases taken
      refine ⟨trivial, ?_⟩
    trivial

/-- The monitor of pid 7 reports and exits, another process gets the pid, and
the pass finds the report too old. -/
def reusedPid : List PmLabel :=
  [.start (.pmSchain ⟨"schain", true⟩ none), .call startsAtSeven,
    .call startsAtSeven, .call startsAtSeven, .move (.monitor 7 0),
    .move (.monitor 7 0), .move (.exit 7), .move (.spawn 7),
    .move (.clock 5000), .start (.pmSchain ⟨"schain", true⟩ none),
    .call startsAtSeven, .call startsAtSeven, .call startsAtSeven,
    .call startsAtSeven, .call startsAtSeven, .call startsAtSeven,
    .call startsAtSeven, .call startsAtSeven]

theorem foreign_process_can_be_terminated :
    ¬ ∀ labels : List PmLabel,
      Transition.Always pmHost.step (fun config => config.world.SignalsOwn)
        { world := World.empty } labels := by
  intro claim
  have ended := (claim reusedPid).at_play rfl
  obtain ⟨schain, _, own⟩ := ended _ (List.mem_singleton.mpr rfl)
  cases own

end SkaleAdmin.Process
