import SkaleAdmin.Library.Replay
import SkaleAdmin.Monitor.RpcAccount

/-! The range of the restart counters of a row, and that restarts are counted. -/

namespace SkaleAdmin.Monitor

open Interaction PyText Json Config
open Interaction.Procedure (Takes takes_pure takes_bind takes_bind_raised takes_invoke
  takes_invoke_raised calls_bind calls_invoke calls_pure)
open Interaction.Ledger (yields_pure yields_bind yields_invoke yields_of_calls)

/-- The operations on the counters of a row; the handlers get the row as it is when they
are called. -/
inductive CounterCall where
  | monitorSchainContainer (options : ContainerOptions)
  | handleFailedSchainRpc
  | skaledRpc (checksRecord : Web.SChainRecord)
  | resetRestartCounter
  | resetFailedCounters
  | resetCounters
  | updSchainRecord
  | updLastSeen
  /-- A setter of another column. -/
  | upkeep (setter : Web.Setter)
      (other : setter.column ≠ .restartCount ∧ setter.column ≠ .failedRpcCount)

def CounterCall.body (settings : SkaledSettings) : CounterCall → MonitorM Unit
  | monitorSchainContainer options => do
      let schainRecord ← invoke .loadRecord
      Monitor.monitorSchainContainer settings schainRecord options
  | handleFailedSchainRpc => do
      let schainRecord ← invoke .loadRecord
      Monitor.handleFailedSchainRpc settings schainRecord
  | skaledRpc checksRecord =>
      SkaledActionManager.skaledRpc { settings, checksRecord, hasNodeCliStatus := false }
  | resetRestartCounter => SkaledActionManager.resetRestartCounter
  | resetFailedCounters => do
      let schainRecord ← invoke .loadRecord
      Monitor.resetFailedCounters schainRecord
  | resetCounters => SkaledActionManager.resetCounters
  | updSchainRecord => SkaledActionManager.updSchainRecord
  | updLastSeen => Monitor.updLastSeen
  | upkeep setter _ => setRecord setter

/-- `awaiting` tells that a handler has restarted skaled and not counted that yet, `early`
that this was done with too many restarts counted, and `skipped` that a counter was then
set to something else first. -/
structure CounterWorld where
  row : Web.SChainRecord
  awaiting : Bool := false
  early : Bool := false
  skipped : Bool := false

namespace CounterWorld

section Serving

variable (settings : SkaledSettings) (world : CounterWorld)

def restarted : CounterWorld :=
  { world with
    awaiting := true
    early := world.early || settings.maxSchainRestartCount ≤ world.row .restartCount }

def counts (setter : Web.Setter) : Bool :=
  setter.column = .restartCount ∨ setter.column = .failedRpcCount

/-- A restart is counted by the restart count that is one larger. -/
def saved (setter : Web.Setter) (copy : Web.SChainRecord) : CounterWorld :=
  let row := Web.Table.saved setter copy world.row
  if counts setter then
    let counted := setter.column = .restartCount ∧
      row .restartCount = world.row .restartCount + 1
    { world with
      row
      awaiting := false
      skipped := world.skipped || (world.awaiting && !decide counted) }
  else
    { world with row }

def serve (query : MonitorQuery) (proposed : Except MonitorError query.Reply)
    (world : CounterWorld) : Option (Except MonitorError query.Reply × CounterWorld) :=
  match query, proposed with
  | _, .error error => some (.error error, world)
  | .loadRecord, .ok _ => some (.ok world.row, world)
  | .saveRecord setter copy, .ok _ => some (.ok (), world.saved setter copy)
  | .restartContainer _, .ok _ => some (.ok (), world.restarted settings)
  | _, .ok reply => some (.ok reply, world)

/-- Both counters are in their range. -/
structure InRange (settings : SkaledSettings) (row : Web.SChainRecord) : Prop where
  restartCount : 0 ≤ row .restartCount ∧
    row .restartCount ≤ settings.maxSchainRestartCount
  failedRpcCount : 0 ≤ row .failedRpcCount ∧
    row .failedRpcCount ≤ settings.maxSchainFailedRpcCount + 1

structure Sound : Prop where
  inRange : InRange settings world.row
  timely : world.early = false
  counted : world.skipped = false

end Serving

end CounterWorld

/-- One call after the other; what one was cut short of is forgotten. -/
def counterHost (settings : SkaledSettings) :
    Host monitorInterface CounterWorld Empty CounterCall
      (Outcome MonitorError Unit × Unit) where
  move _ move := move.elim
  serve := CounterWorld.serve settings
  job call := call.body settings ()
  begin _ world := { world with awaiting := false }

def counterLedger (settings : SkaledSettings) :
    Ledger monitorInterface CounterWorld Empty CounterCall
      (Outcome MonitorError Unit × Unit) CounterWorld where
  host := counterHost settings
  discipline := {}
  invariant := CounterWorld.Sound settings
  view := id
  unmoved _ move := move.elim

def MonitorQuery.leavesCounters : MonitorQuery → Bool
  | saveRecord .. | restartContainer _ => false
  | _ => true

section Calls

open CounterWorld

variable {settings : SkaledSettings} {world world' : CounterWorld}

theorem counter_serve_same {query : MonitorQuery} (leaves : query.leavesCounters = true)
    {proposed answer : Except MonitorError query.Reply}
    (served : CounterWorld.serve settings query proposed world = some (answer, world')) :
    world' = world := by
  unfold CounterWorld.serve at served
  split at served
  case h_3 | h_4 => cases leaves
  all_goals
    cases served
    rfl

theorem counterYields_leaving {α : Type} {body : MonitorM α}
    {assertion : CounterWorld → Prop}
    (calls : body.Calls fun query : MonitorQuery => query.leavesCounters = true) :
    (counterLedger settings).Yields assertion body fun _ => assertion := by
  apply yields_of_calls calls
  intro query world world' proposed answer leaves kept holds _ served
  rw [counter_serve_same leaves served]
  exact ⟨kept, holds⟩

theorem leaves_of_auxiliary (query : MonitorQuery) (auxiliary : query.isAuxiliary = true) :
    query.leavesCounters = true := by
  cases query with
  | saveRecord | restartContainer => cases auxiliary
  | _ => rfl

theorem counterYields_auxiliary {α : Type} {body : MonitorM α}
    {assertion : CounterWorld → Prop} (auxiliary : Auxiliary body) :
    (counterLedger settings).Yields assertion body fun _ => assertion :=
  counterYields_leaving (auxiliary.mono leaves_of_auxiliary)

def Copies (record : Web.SChainRecord) (world : CounterWorld) : Prop :=
  record .restartCount = world.row .restartCount ∧
    record .failedRpcCount = world.row .failedRpcCount

/-- A restart that is `due` to be counted can be counted. -/
def Countable (settings : SkaledSettings) (due : Bool) (world : CounterWorld) : Prop :=
  world.awaiting = due ∧
    (due = true → world.row .restartCount < settings.maxSchainRestartCount)

theorem counterYields_load {assertion : CounterWorld → Prop} :
    (counterLedger settings).Yields assertion (invoke .loadRecord)
      fun record world => Copies record world ∧ assertion world := by
  apply yields_invoke
  intro world world' proposed answer kept holds _ served
  have same : world' = world := counter_serve_same rfl served
  subst same
  refine ⟨kept, ?_⟩
  rintro record rfl
  cases proposed with
  | error error => cases served
  | ok given =>
      cases served
      exact ⟨⟨rfl, rfl⟩, holds⟩

theorem inRange_congr {row row' : Web.SChainRecord}
    (restart : row' .restartCount = row .restartCount)
    (failed : row' .failedRpcCount = row .failedRpcCount) (range : InRange settings row) :
    InRange settings row' := by
  constructor
  · rw [restart]
    exact range.restartCount
  · rw [failed]
    exact range.failedRpcCount

theorem counterYields_setOn {record : Web.SChainRecord} {setter : Web.Setter}
    {before after : CounterWorld → Prop}
    (kept : ∀ world, world.Sound settings → Copies record world → before world →
      let saved := world.saved setter (record.set setter.column setter.value)
      saved.Sound settings ∧ after saved) :
    (counterLedger settings).Yields (fun world => Copies record world ∧ before world)
      (setOn record setter) fun copy world => Copies copy world ∧ after world := by
  let copy := record.set setter.column setter.value
  have saves : (counterLedger settings).Yields
      (fun world => Copies record world ∧ before world)
      (invoke (.saveRecord setter copy)) fun _ world => Copies copy world ∧ after world := by
    apply yields_invoke
    intro world world' proposed answer sound holds _ served
    cases proposed with
    | error error =>
        have same : world' = world := by
          cases served
          rfl
        rw [same]
        refine ⟨sound, ?_⟩
        rintro reply rfl
        cases served
    | ok given =>
        cases served
        obtain ⟨copies, holds⟩ := holds
        obtain ⟨sound', holds'⟩ := kept world sound copies holds
        refine ⟨sound', fun _ _ => ⟨?_, holds'⟩⟩
        have row : (world.saved setter copy).row = Web.Table.saved setter copy world.row := by
          unfold CounterWorld.saved
          dsimp only
          split <;> rfl
        change Copies copy (world.saved setter copy)
        unfold Copies
        rw [row]
        exact ⟨(saved_counters copies.1).symm, (saved_counters copies.2).symm⟩
  exact yields_bind _ saves fun _ => yields_pure fun _ holds => holds

section Setters

variable {record : Web.SChainRecord} {setter : Web.Setter} {due : Bool}

theorem setOn_other (restart : setter.column ≠ .restartCount)
    (failed : setter.column ≠ .failedRpcCount) :
    (counterLedger settings).Yields
      (fun world => Copies record world ∧ Countable settings due world)
      (setOn record setter)
      fun copy world => Copies copy world ∧ Countable settings due world := by
  apply counterYields_setOn
  rintro world sound copies countable saved
  have uncounted : counts setter = false := by simp [counts, restart, failed]
  have same : saved = { world with
      row := Web.Table.saved setter (record.set setter.column setter.value) world.row } := by
    simp only [saved, CounterWorld.saved, uncounted]
    rfl
  have restartCount : Web.Table.saved setter (record.set setter.column setter.value)
      world.row .restartCount = world.row .restartCount := by
    rw [saved_counters copies.1, Web.SChainRecord.set_of_ne (Ne.symm restart), copies.1]
  have failedRpcCount : Web.Table.saved setter (record.set setter.column setter.value)
      world.row .failedRpcCount = world.row .failedRpcCount := by
    rw [saved_counters copies.2, Web.SChainRecord.set_of_ne (Ne.symm failed), copies.2]
  rw [same]
  refine ⟨⟨inRange_congr restartCount failedRpcCount sound.inRange, sound.timely,
    sound.counted⟩, countable.1, ?_⟩
  intro isDue
  exact lt_of_eq_of_lt restartCount (countable.2 isDue)

theorem setOn_counter (isCounter : counts setter = true)
    (range : ∀ row, InRange settings row → record .restartCount = row .restartCount →
      record .failedRpcCount = row .failedRpcCount →
      (due = true → row .restartCount < settings.maxSchainRestartCount) →
      InRange settings (record.set setter.column setter.value))
    (raises : due = true → setter = Web.setRestartCount (record .restartCount + 1)) :
    (counterLedger settings).Yields
      (fun world => Copies record world ∧ Countable settings due world)
      (setOn record setter)
      fun copy world => Copies copy world ∧ Countable settings false world := by
  apply counterYields_setOn
  rintro world sound copies ⟨awaiting, room⟩ saved
  have restartCount : Web.Table.saved setter (record.set setter.column setter.value)
      world.row .restartCount = record.set setter.column setter.value .restartCount :=
    saved_counters copies.1
  have inRange := inRange_congr restartCount (saved_counters copies.2)
    (range world.row sound.inRange copies.1 copies.2 room)
  have counted : (world.awaiting && !decide (setter.column = .restartCount ∧
      Web.Table.saved setter (record.set setter.column setter.value) world.row
        .restartCount = world.row .restartCount + 1)) = false := by
    rw [awaiting]
    cases due with
    | false => rfl
    | true =>
        obtain rfl := raises rfl
        have raised : record.set .restartCount (record .restartCount + 1) .restartCount =
            world.row .restartCount + 1 := by
          rw [Web.SChainRecord.set_self, copies.1]
        rw [restartCount]
        simpa [Web.setRestartCount] using raised
  have same : saved = { world with
      row := Web.Table.saved setter (record.set setter.column setter.value) world.row
      awaiting := false } := by
    simp only [saved, CounterWorld.saved, isCounter, if_true, counted, Bool.or_false]
  rw [same]
  exact ⟨⟨inRange, sound.timely, sound.counted⟩, rfl, by simp⟩

theorem setOn_restartCount {value : Int}
    (range : ∀ row, InRange settings row → record .restartCount = row .restartCount →
      (due = true → row .restartCount < settings.maxSchainRestartCount) →
      0 ≤ value ∧ value ≤ settings.maxSchainRestartCount)
    (raises : due = true → value = record .restartCount + 1) :
    (counterLedger settings).Yields
      (fun world => Copies record world ∧ Countable settings due world)
      (setOn record (Web.setRestartCount value))
      fun copy world => Copies copy world ∧ Countable settings false world := by
  apply setOn_counter
  · rfl
  · intro row inRange restart failed room
    constructor
    · rw [Web.setRestartCount, Web.SChainRecord.set_self]
      exact range row inRange restart room
    · rw [Web.setRestartCount, Web.SChainRecord.set_of_ne (by rintro ⟨⟩), failed]
      exact inRange.failedRpcCount
  · intro isDue
    rw [raises isDue]

theorem setOn_failedRpcCount {value : Int}
    (range : ∀ row, InRange settings row →
      record .failedRpcCount = row .failedRpcCount →
      0 ≤ value ∧ value ≤ settings.maxSchainFailedRpcCount + 1) :
    (counterLedger settings).Yields
      (fun world => Copies record world ∧ Countable settings false world)
      (setOn record (Web.setFailedRpcCount value))
      fun copy world => Copies copy world ∧ Countable settings false world := by
  apply setOn_counter
  · rfl
  · intro row inRange restart failed _
    constructor
    · rw [Web.setFailedRpcCount, Web.SChainRecord.set_of_ne (by rintro ⟨⟩), restart]
      exact inRange.restartCount
    · rw [Web.setFailedRpcCount, Web.SChainRecord.set_self]
      exact range row inRange failed
  · rintro ⟨⟩

theorem setOn_restartCount_zero :
    (counterLedger settings).Yields
      (fun world => Copies record world ∧ Countable settings false world)
      (setOn record (Web.setRestartCount 0))
      fun copy world => Copies copy world ∧ Countable settings false world := by
  apply setOn_restartCount
  · intro row inRange _ _
    exact ⟨le_refl 0, inRange.restartCount.1.trans inRange.restartCount.2⟩
  · rintro ⟨⟩

theorem setOn_failedRpcCount_zero :
    (counterLedger settings).Yields
      (fun world => Copies record world ∧ Countable settings false world)
      (setOn record (Web.setFailedRpcCount 0))
      fun copy world => Copies copy world ∧ Countable settings false world := by
  apply setOn_failedRpcCount
  intro row inRange _
  exact ⟨le_refl 0, inRange.failedRpcCount.1.trans inRange.failedRpcCount.2⟩

end Setters

theorem counter_restart {record : Web.SChainRecord} (stuckRpc : Bool)
    (few : record .restartCount < settings.maxSchainRestartCount) :
    (counterLedger settings).Yields
      (fun world => Copies record world ∧ Countable settings false world)
      (invoke (.restartContainer stuckRpc))
      fun _ world => Copies record world ∧ Countable settings true world := by
  apply yields_invoke
  rintro world world' proposed answer sound ⟨copies, _⟩ _ served
  have room : world.row .restartCount < settings.maxSchainRestartCount :=
    lt_of_eq_of_lt copies.1.symm few
  cases proposed with
  | error error =>
      cases served
      refine ⟨sound, ?_⟩
      rintro reply ⟨⟩
  | ok given =>
      cases served
      refine ⟨⟨sound.inRange, ?_, sound.counted⟩, fun _ _ => ⟨copies, rfl, fun _ => room⟩⟩
      change (world.early || decide _) = false
      rw [sound.timely, Bool.false_or, decide_eq_false_iff_not, Int.not_le]
      exact room

/-! ### The operations -/

theorem resetFailedCounters_sound {record : Web.SChainRecord} :
    (counterLedger settings).Yields
      (fun world => Copies record world ∧ Countable settings false world)
      (resetFailedCounters record) fun _ => Countable settings false := by
  refine yields_bind _ setOn_restartCount_zero fun record => ?_
  refine yields_bind _ setOn_failedRpcCount_zero fun _ => ?_
  exact yields_pure fun _ holds => holds.2

theorem updateSslChangeDate_sound {record : Web.SChainRecord} {due : Bool} :
    (counterLedger settings).Yields
      (fun world => Copies record world ∧ Countable settings due world)
      (updateSslChangeDate record)
      fun copy world => Copies copy world ∧ Countable settings due world := by
  refine yields_bind _ (counterYields_auxiliary (auxiliary_invoke rfl)) fun date => ?_
  cases date with
  | none => exact yields_pure fun _ holds => holds
  | some date => exact setOn_other (by rintro ⟨⟩) (by rintro ⟨⟩)

theorem startSchainContainer_sound {record : Web.SChainRecord}
    (options : ContainerOptions) :
    (counterLedger settings).Yields
      (fun world => Copies record world ∧ Countable settings false world)
      (startSchainContainer record options) fun _ => Countable settings false := by
  refine yields_bind _ (counterYields_leaving (calls_invoke rfl)) fun _ => ?_
  refine yields_bind _ updateSslChangeDate_sound fun record => ?_
  exact resetFailedCounters_sound

/-- The restart is counted before the other counter is touched. -/
theorem restartFailedContainer_sound {record : Web.SChainRecord} :
    (counterLedger settings).Yields
      (fun world => Copies record world ∧ Countable settings false world)
      (restartFailedContainer settings record) fun _ => Countable settings false := by
  unfold restartFailedContainer
  split
  · rename_i few
    refine yields_bind _ (counter_restart false few) fun _ => ?_
    refine yields_bind _ updateSslChangeDate_sound fun record => ?_
    refine yields_bind _ (setOn_restartCount ?_ fun _ => rfl) fun record => ?_
    · intro row inRange same room
      rw [same]
      exact ⟨Int.le_add_one inRange.restartCount.1, room rfl⟩
    · refine yields_bind _ setOn_failedRpcCount_zero fun _ => ?_
      exact yields_pure fun _ holds => holds.2
  · exact yields_pure fun _ holds => holds.2

theorem watchSchainContainer_sound {record : Web.SChainRecord} :
    (counterLedger settings).Yields
      (fun world => Copies record world ∧ Countable settings false world)
      (watchSchainContainer settings record) fun _ => Countable settings false := by
  refine yields_bind _ (counterYields_auxiliary auxiliary_needsRepair) fun repair => ?_
  cases repair with
  | true => exact resetFailedCounters_sound
  | false =>
      refine yields_bind _ (counterYields_auxiliary auxiliary_isSchainContainerFailed)
        fun failed => ?_
      cases failed with
      | true => exact restartFailedContainer_sound
      | false =>
          refine yields_bind _ setOn_restartCount_zero fun _ => ?_
          exact yields_pure fun _ holds => holds.2

theorem monitorSchainContainer_sound {record : Web.SChainRecord}
    (options : ContainerOptions) :
    (counterLedger settings).Yields
      (fun world => Copies record world ∧ Countable settings false world)
      (monitorSchainContainer settings record options)
      fun _ => Countable settings false := by
  refine yields_bind _ (counterYields_auxiliary (auxiliary_invoke rfl))
    fun volumeExists => ?_
  cases volumeExists with
  | false => exact yields_pure fun _ holds => holds.2
  | true =>
      refine yields_bind _ (counterYields_auxiliary (auxiliary_skaledFlag _))
        fun reached => ?_
      cases aborts : reached && options.abortOnExit with
      | true => exact resetFailedCounters_sound
      | false =>
          refine yields_bind _ (counterYields_auxiliary (auxiliary_invoke rfl))
            fun found => ?_
          cases found with
          | true => exact watchSchainContainer_sound
          | false => exact startSchainContainer_sound options

theorem restartStuckContainer_sound {record : Web.SChainRecord} :
    (counterLedger settings).Yields
      (fun world => Copies record world ∧ Countable settings false world)
      (restartStuckContainer settings record)
      fun copy world => Copies copy world ∧ Countable settings false world := by
  unfold restartStuckContainer
  split
  · rename_i few
    refine yields_bind _ (counter_restart true few) fun _ => ?_
    refine setOn_restartCount ?_ fun _ => rfl
    intro row inRange same room
    rw [same]
    exact ⟨Int.le_add_one inRange.restartCount.1, room rfl⟩
  · exact yields_pure fun _ holds => holds

theorem handleFailedRpc_sound {record : Web.SChainRecord} :
    (counterLedger settings).Yields
      (fun world => Copies record world ∧ Countable settings false world)
      (handleFailedRpc settings record) fun _ => Countable settings false := by
  have forgets : ∀ {record}, (counterLedger settings).Yields
      (fun world => Copies record world ∧ Countable settings false world)
      (do let _ ← setOn record (Web.setFailedRpcCount 0))
      fun _ => Countable settings false := fun {record} =>
    yields_bind _ setOn_failedRpcCount_zero fun _ => yields_pure fun _ holds => holds.2
  refine yields_bind _ (counterYields_auxiliary (auxiliary_skaledFlag _))
    fun reached => ?_
  cases reached with
  | true => exact forgets
  | false =>
      refine yields_bind _ (counterYields_auxiliary (auxiliary_skaledFlag _))
        fun downloading => ?_
      cases downloading with
      | true => exact forgets
      | false =>
          simp only [Bool.false_eq_true, if_false]
          split
          · exact yields_bind _ restartStuckContainer_sound fun _ => forgets
          · rename_i few
            refine yields_bind _ (setOn_failedRpcCount ?_) fun _ => ?_
            · intro row inRange same
              refine ⟨?_, Int.add_le_add_right (Int.not_lt.mp few) 1⟩
              rw [same]
              exact Int.le_add_one inRange.failedRpcCount.1
            · exact yields_pure fun _ holds => holds.2

theorem handleFailedSchainRpc_sound {record : Web.SChainRecord} :
    (counterLedger settings).Yields
      (fun world => Copies record world ∧ Countable settings false world)
      (handleFailedSchainRpc settings record) fun _ => Countable settings false := by
  refine yields_bind _ (counterYields_auxiliary (auxiliary_invoke rfl)) fun found => ?_
  cases found with
  | false => exact yields_pure fun _ holds => holds.2
  | true =>
      refine yields_bind _ (counterYields_auxiliary (auxiliary_invoke rfl))
        fun running => ?_
      cases running with
      | false => exact yields_pure fun _ holds => holds.2
      | true => exact handleFailedRpc_sound

theorem setRecord_sound {setter : Web.Setter}
    (saves : ∀ {record}, (counterLedger settings).Yields
      (fun world => Copies record world ∧ Countable settings false world)
      (setOn record setter)
      fun copy world => Copies copy world ∧ Countable settings false world) :
    (counterLedger settings).Yields (Countable settings false) (setRecord setter)
      fun _ => Countable settings false := by
  refine yields_bind _ counterYields_load fun record => ?_
  refine yields_bind _ saves fun _ => ?_
  exact yields_pure fun _ holds => holds.2

theorem skaledRpc_sound {am : SkaledActionManager} (same : am.settings = settings) :
    (counterLedger settings).Yields (Countable settings false) am.skaledRpc
      fun _ => Countable settings false := by
  have checks : am.rpcCheck.Calls fun query : MonitorQuery =>
      query.leavesCounters = true :=
    calls_bind (calls_invoke rfl) fun _ => calls_evaluate _
  refine yields_bind _ (counterYields_leaving checks) fun passed => ?_
  cases passed with
  | true => exact setRecord_sound setOn_failedRpcCount_zero
  | false =>
      refine yields_bind _ (counterYields_auxiliary SkaledActionManager.auxiliary_displaySkaledLogs)
        fun _ => ?_
      refine yields_bind _ counterYields_load fun record => ?_
      rw [same]
      exact handleFailedSchainRpc_sound

theorem resetCounters_sound :
    (counterLedger settings).Yields (Countable settings false)
      SkaledActionManager.resetCounters fun _ => Countable settings false := by
  refine yields_bind _ (setRecord_sound setOn_restartCount_zero) fun _ => ?_
  refine yields_bind _ (setRecord_sound setOn_failedRpcCount_zero) fun _ => ?_
  exact setRecord_sound (setOn_other (by rintro ⟨⟩) (by rintro ⟨⟩))

theorem updSchainRecord_sound :
    (counterLedger settings).Yields (Countable settings false)
      SkaledActionManager.updSchainRecord fun _ => Countable settings false := by
  refine yields_bind _ counterYields_load fun record => ?_
  have firstRun : (counterLedger settings).Yields (Countable settings false)
      (ifNot (!record .firstRun) do
        setRecord (Web.setRestartCount 0)
        setRecord (Web.setFailedRpcCount 0)) fun _ => Countable settings false := by
    unfold ifNot
    split
    · exact yields_pure fun _ holds => holds
    · exact yields_bind _ (setRecord_sound setOn_restartCount_zero) fun _ =>
        setRecord_sound setOn_failedRpcCount_zero
  refine yields_bind _ (firstRun.strengthen fun _ holds => holds.2) fun _ => ?_
  refine yields_bind _ (setRecord_sound (setOn_other (by rintro ⟨⟩) (by rintro ⟨⟩)))
    fun _ => ?_
  exact setRecord_sound (setOn_other (by rintro ⟨⟩) (by rintro ⟨⟩))

theorem updLastSeen_sound :
    (counterLedger settings).Yields (Countable settings false) updLastSeen
      fun _ => Countable settings false := by
  refine yields_bind _ counterYields_load fun record => ?_
  refine yields_bind _ (counterYields_auxiliary (auxiliary_invoke rfl)) fun now => ?_
  refine yields_bind _ (setOn_other (by rintro ⟨⟩) (by rintro ⟨⟩)) fun _ => ?_
  exact yields_pure fun _ holds => holds.2

theorem body_sound (call : CounterCall) :
    (counterLedger settings).Yields (Countable settings false) (call.body settings)
      fun _ => Countable settings false := by
  cases call with
  | monitorSchainContainer options =>
      exact yields_bind _ counterYields_load fun _ => monitorSchainContainer_sound options
  | handleFailedSchainRpc =>
      exact yields_bind _ counterYields_load fun _ => handleFailedSchainRpc_sound
  | skaledRpc checksRecord => exact skaledRpc_sound rfl
  | resetRestartCounter => exact setRecord_sound setOn_restartCount_zero
  | resetFailedCounters =>
      exact yields_bind _ counterYields_load fun _ => resetFailedCounters_sound
  | resetCounters => exact resetCounters_sound
  | updSchainRecord => exact updSchainRecord_sound
  | updLastSeen => exact updLastSeen_sound
  | upkeep setter other => exact setRecord_sound (setOn_other other.1 other.2)

/-- In every state that calls one after the other reach, the counters are in range and all
restarts were in order; a call that has returned has counted its restart. -/
theorem restart_counters_sound (row : Web.SChainRecord) (start : InRange settings row) :
    (∀ labels : List (Label monitorInterface Empty CounterCall),
        Transition.Always (counterHost settings).step
          (fun config => config.world.Sound settings) { world := { row } } labels) ∧
      ∀ (call : CounterCall) (world last : CounterWorld), world.Sound settings →
        world.awaiting = false →
        Takes (counterHost settings) world (call.body settings) (.value ()) last →
        last.awaiting = false := by
  constructor
  · intro labels
    refine Host.always_of_outlines ?_ ?_ ?_ (fun _ sound => sound) ⟨start, rfl, rfl⟩
      (Transition.eachStep_of_mem (fun config label _ => Host.meets_default config label) _)
    · intro world world' move _ _ moved
      exact move.elim
    · intro world sound
      exact sound
    · intro world call sound _
      exact ⟨⟨sound.inRange, sound.timely, sound.counted⟩, _, _,
        ⟨rfl, by simp⟩, body_sound call⟩
  · intro call world last sound idle takes
    have ended := takes.ends (body_sound call) (fun _ _ _ => trivial) sound
      ⟨idle, by simp⟩
    exact ended.2.1

end Calls

section Samples

open CounterWorld

variable {settings : SkaledSettings} {world last : CounterWorld}

def sampleCounters : Web.SChainRecord :=
  .add "schain" 0 0

theorem sampleCounters_inRange : InRange {} sampleCounters :=
  ⟨by decide, by decide⟩

def failedContainer : (query : MonitorQuery) → Except MonitorError query.Reply
  | .containerExitCode => .ok 1
  | query => hostAnswer false query

def countedRestart : List (Label monitorInterface Empty CounterCall) :=
  .start (.monitorSchainContainer {}) :: List.replicate 12 (.call failedContainer)

theorem countedRestart_sound :
    (Transition.play (counterHost {}).step { world := { row := sampleCounters } }
      countedRestart).map (fun config => (config.running.isSome,
        config.world.row .restartCount, config.world.awaiting)) = some (false, 1, false) ∧
    Transition.Always (counterHost {}).step (fun config => config.world.Sound {})
      { world := { row := sampleCounters } } countedRestart :=
  ⟨by decide +kernel, (restart_counters_sound sampleCounters sampleCounters_inRange).1 _⟩

theorem takes_reply {query : MonitorQuery} (reply : query.Reply)
    (served : CounterWorld.serve settings query (.ok reply) world =
      some (.ok reply, last)) :
    Takes (counterHost settings) world (invoke query) (.value reply) last :=
  takes_invoke served

theorem takes_failure {query : MonitorQuery} (error : MonitorError)
    (served : (counterHost settings).serve query (.error error) world =
      some (.error error, last)) :
    Takes (counterHost settings) world (invoke query) (.raised error) last := by
  apply takes_invoke_raised
  exact served

theorem takes_skaledFlag {flag : StatusFile → Evaluated Bool}
    (unset : flag .missing = .ok false) :
    Takes (counterHost settings) world (skaledFlag flag) (.value false) world := by
  refine takes_bind (takes_reply StatusFile.missing rfl) ?_
  rw [unset]
  exact takes_pure false

theorem takes_uncounted_restart :
    Takes (counterHost {}) { row := sampleCounters }
      ((CounterCall.monitorSchainContainer {}).body {})
      (.raised (.otherError "FileNotFoundError"))
      (CounterWorld.restarted {} { row := sampleCounters }) := by
  have undated : Takes (counterHost {}) (CounterWorld.restarted {} { row := sampleCounters })
      (invoke .sslFilesChangeDate) (.raised (.otherError "FileNotFoundError"))
      (CounterWorld.restarted {} { row := sampleCounters }) :=
    takes_failure (.otherError "FileNotFoundError") rfl
  refine takes_bind (takes_reply sampleCounters rfl) ?_
  refine takes_bind (takes_reply true rfl) ?_
  refine takes_bind (takes_skaledFlag rfl) ?_
  refine takes_bind (takes_reply true rfl) ?_
  have unneeded : Takes (counterHost {}) { row := sampleCounters } needsRepair
      (.value false) { row := sampleCounters } :=
    takes_bind (takes_skaledFlag rfl) (takes_pure false)
  have failed : Takes (counterHost {}) { row := sampleCounters } isSchainContainerFailed
      (.value true) { row := sampleCounters } := by
    refine takes_bind (takes_reply false rfl) ?_
    refine takes_bind (takes_reply true rfl) ?_
    exact takes_bind (takes_reply (1 : Int) rfl) (takes_pure true)
  refine takes_bind unneeded (takes_bind failed ?_)
  refine takes_bind (takes_reply () rfl) ?_
  exact takes_bind_raised (takes_bind_raised undated)

/-- The restart is not counted, and another operation on the counters comes next. -/
theorem restart_uncounted :
    ∃ failed reset : CounterWorld,
      Takes (counterHost {}) { row := sampleCounters }
        ((CounterCall.monitorSchainContainer {}).body {})
        (.raised (.otherError "FileNotFoundError")) failed ∧
      failed.awaiting = true ∧ failed.row = sampleCounters ∧
      Takes (counterHost {}) failed (CounterCall.resetRestartCounter.body {}) (.value ())
        reset ∧
      reset.skipped = true := by
  refine ⟨_, (CounterWorld.restarted {} { row := sampleCounters }).saved
    (Web.setRestartCount 0) (sampleCounters.set .restartCount 0),
    takes_uncounted_restart, rfl, rfl, ?_, ?_⟩
  · refine takes_bind (takes_reply sampleCounters rfl) ?_
    refine takes_bind (takes_bind (takes_reply () rfl) (takes_pure _)) ?_
    exact takes_pure ()
  · decide

end Samples

end SkaleAdmin.Monitor
