import SkaleAdmin.Library.Serving
import SkaleAdmin.Monitor.RowColumn

/-! The repairs that the node CLI requests, along a sequence of skaled passes. -/

namespace SkaleAdmin.Monitor

open Interaction Json
open Interaction.Procedure (Sketch Ends raises_pure raises_raise raises_bind
  raises_invoke raises_ite sketch_bind sketch_invoke sketch_pure sketch_raise
  served_bind served_attempt)
open ColumnKeeper
open SkaledActionManager (repairContainerCheck updateRepairTs)

/-- How the calls of a pass are answered; what the node CLI has requested by the
time it is asked is among the answers. -/
abbrev PassAnswers := Nat → (query : MonitorQuery) → Except String query.Reply

/-- The row while a pass goes on, with the number of calls and the time that was
read last. -/
structure PassWorld where
  row : Web.SChainRecord
  answers : PassAnswers
  calls : Nat := 0
  clock : Int := 0

namespace PassWorld

def answer (world : PassWorld) (query : MonitorQuery)
    (given : Except String query.Reply) :
    Except MonitorError query.Reply × PassWorld :=
  match query, given with
  | _, .error message => (.error (.otherError message), world)
  | .loadRecord, .ok _ => (.ok world.row, world)
  | .saveRecord setter copy, .ok _ =>
      (.ok (), { world with row := Web.Table.saved setter copy world.row })
  | .time, .ok now => (.ok now, { world with clock := now })
  | _, .ok reply => (.ok reply, world)

def serve (query : MonitorQuery) (world : PassWorld) :
    Except MonitorError query.Reply × PassWorld :=
  { world with calls := world.calls + 1 }.answer query (world.answers world.calls query)

end PassWorld

/-- Where `execute` of the chosen monitor begins, if the pass comes to it. -/
def executeStart (settings : SkaledSettings) (world : PassWorld) :
    Option (SkaledActionManager × SkaledMonitor × PassWorld) :=
  match (chooseSkaledMonitor settings).served PassWorld.serve world with
  | (.value (am, monitor), chosen) =>
      match updLastSeen.served PassWorld.serve chosen with
      | (.value _, seen) => some (am, monitor, seen)
      | _ => none
  | _ => none

/-- The row that the passes leave, the time at which `RepairSkaledMonitor.execute`
ended last, and whether it ever ended with an internal error. -/
structure RepairState where
  row : Web.SChainRecord
  repaired : Option Int := none
  internalError : Bool := false

/-- No call raises an `AttributeError`. -/
def RepairState.step (settings : SkaledSettings) (state : RepairState)
    (answers : PassAnswers) : Option RepairState :=
  let world : PassWorld := { row := state.row, answers }
  let row := ((runSkaledPipeline settings).served PassWorld.serve world).2.row
  match executeStart settings world with
  | some (am, .repair, seen) =>
      match am.repairSkaledMonitor.served PassWorld.serve seen with
      | (.value _, ended) => some { state with row, repaired := some ended.clock }
      | (.raised .attributeError, _) => some { state with row, internalError := true }
      | _ => some { state with row }
  | _ => some { state with row }

/-- The node CLI has requested a repair as of `repairTs`. -/
def serveRequest (repairTs : Int) (query : MonitorQuery) (world : Unit) :
    Except MonitorError query.Reply × Unit :=
  match query with
  | .readNodeCliStatus =>
      (.ok (.json (.obj [("repair_ts".toList, .num repairTs)])), world)
  | _ => (.error .attributeError, world)

def MonitorChoice.repairModeFor (choice : MonitorChoice) (settings : SkaledSettings)
    (repairTs : Int) : Outcome MonitorError Bool :=
  ((choice.isRepairMode settings).served (serveRequest repairTs) ()).1

/-- No execution has ended with an internal error, and since the last one just
the later requests ask for a repair. -/
def RepairState.ServedOnce (settings : SkaledSettings) (state : RepairState) : Prop :=
  state.internalError = false ∧
    ∀ choice : MonitorChoice, choice.schainRecord = state.row →
      choice.hasNodeCliStatus = true → choice.automaticRepair = false →
      ∀ ended, state.repaired = some ended → ∀ repairTs,
        choice.repairModeFor settings repairTs = .value (decide (ended < repairTs))

/-- Where a repair is executed, the container that it has removed is not found
running, and local time is UTC if it ends. -/
def RepairState.Timely (settings : SkaledSettings) (state : RepairState)
    (answers : PassAnswers) : Prop :=
  ∀ am seen, executeStart settings { row := state.row, answers } =
      some (am, .repair, seen) →
    (SkaledActionManager.repairContainerCheck.served PassWorld.serve seen).1 ≠
        .value true ∧
      ((am.repairSkaledMonitor.served PassWorld.serve seen).1 = .value () →
        settings.utcOffset = 0)

/-! ### Repair mode -/

theorem repairModeFor_eq (choice : MonitorChoice) (settings : SkaledSettings)
    (repairTs : Int) (found : choice.hasNodeCliStatus = true)
    (manual : choice.automaticRepair = false) :
    choice.repairModeFor settings repairTs =
      .value (decide
        (choice.schainRecord .repairDate - settings.utcOffset < repairTs)) := by
  have requested : (choice.isRepairRequested settings).served
      (serveRequest repairTs) () =
        (.value (decide (choice.repairTs settings < repairTs)), ()) := by
    unfold MonitorChoice.isRepairRequested
    rw [if_pos found]
    rfl
  unfold MonitorChoice.repairModeFor MonitorChoice.isRepairMode
  rw [served_bind, requested]
  change _ = Outcome.value (decide (choice.repairTs settings < repairTs))
  cases decide (choice.repairTs settings < repairTs) with
  | true => rfl
  | false =>
      simp only [manual, Bool.false_eq_true, if_false]
      rfl

/-! ### Internal errors -/

theorem passWorld_serve_error {query : MonitorQuery} {world : PassWorld}
    {error : MonitorError} (raised : (world.serve query).1 = .error error) :
    error ≠ .attributeError := by
  rintro rfl
  unfold PassWorld.serve at raised
  generalize world.answers world.calls query = given at raised
  cases given with
  | error message => cases raised
  | ok reply => cases query <;> cases raised

/-- Only what a call raises may be an `AttributeError`. -/
abbrev Foreign {α : Type} (body : MonitorM α) : Prop :=
  body.Raises fun error => error ≠ .attributeError

section Foreign

variable {α : Type}

theorem foreign_evaluate (evaluated : Config.Evaluated α) :
    Foreign (evaluate evaluated) := by
  cases evaluated with
  | ok value => exact raises_pure value
  | error error => exact raises_raise fun same => by cases same

theorem foreign_ifNot {action : MonitorM Unit} (foreign : Foreign action)
    (status : Bool) : Foreign (ifNot status action) := by
  cases status with
  | true => exact raises_pure ()
  | false => exact foreign

theorem foreign_setOn (record : Web.SChainRecord) (setter : Web.Setter) :
    Foreign (setOn record setter) :=
  raises_bind (raises_invoke _) fun _ => raises_pure _

theorem foreign_skaledFlag (flag : StatusFile → Config.Evaluated Bool) :
    Foreign (skaledFlag flag) :=
  raises_bind (raises_invoke _) fun _ => foreign_evaluate _

theorem foreign_updateSslChangeDate (record : Web.SChainRecord) :
    Foreign (updateSslChangeDate record) := by
  refine raises_bind (raises_invoke _) fun date => ?_
  cases date with
  | none => exact raises_pure record
  | some date => exact foreign_setOn _ _

theorem foreign_resetFailedCounters (record : Web.SChainRecord) :
    Foreign (resetFailedCounters record) :=
  raises_bind (foreign_setOn _ _) fun _ =>
    raises_bind (foreign_setOn _ _) fun _ => raises_pure ()

theorem foreign_restartFailedContainer (settings : SkaledSettings)
    (record : Web.SChainRecord) :
    Foreign (restartFailedContainer settings record) := by
  unfold restartFailedContainer
  split
  · refine raises_bind (raises_invoke _) fun _ => ?_
    refine raises_bind (foreign_updateSslChangeDate _) fun _ => ?_
    refine raises_bind (foreign_setOn _ _) fun _ => ?_
    exact raises_bind (foreign_setOn _ _) fun _ => raises_pure ()
  · exact raises_pure ()

theorem foreign_watchSchainContainer (settings : SkaledSettings)
    (record : Web.SChainRecord) : Foreign (watchSchainContainer settings record) := by
  have repair : Foreign needsRepair :=
    raises_ite (foreign_skaledFlag _) (foreign_skaledFlag _) (raises_pure false)
  have failed : Foreign isSchainContainerFailed :=
    raises_bind (raises_invoke _) fun _ => raises_bind (raises_invoke _) fun _ =>
      raises_bind (raises_invoke _) fun _ => raises_pure _
  apply raises_ite repair (foreign_resetFailedCounters record)
  apply raises_ite failed (foreign_restartFailedContainer settings record)
  exact raises_bind (foreign_setOn _ _) fun _ => raises_pure ()

theorem foreign_monitorSchainContainer (settings : SkaledSettings)
    (record : Web.SChainRecord) (options : ContainerOptions) :
    Foreign (monitorSchainContainer settings record options) := by
  refine raises_ite (raises_invoke _) ?_ (raises_pure ())
  refine raises_bind (foreign_skaledFlag _) fun reached => ?_
  split
  · exact foreign_resetFailedCounters record
  apply raises_ite (raises_invoke _) (foreign_watchSchainContainer settings record)
  refine raises_bind (raises_invoke _) fun _ => ?_
  exact raises_bind (foreign_updateSslChangeDate record) fun _ =>
    foreign_resetFailedCounters _

namespace SkaledActionManager

variable (am : SkaledActionManager)

theorem foreign_repairContainerCheck : Foreign repairContainerCheck := by
  have rules : Foreign firewallRulesCheck :=
    raises_bind (raises_invoke _) fun _ => foreign_evaluate _
  have configures : Foreign (configureRules false) := by
    refine raises_bind (raises_invoke _) fun _ => ?_
    refine raises_bind (foreign_evaluate _) fun _ => ?_
    refine raises_bind (foreign_evaluate _) fun _ => ?_
    refine raises_bind (foreign_evaluate _) fun _ => ?_
    refine raises_bind (foreign_evaluate _) fun _ => ?_
    refine raises_bind (raises_invoke _) fun _ => ?_
    exact raises_bind (foreign_evaluate _) fun _ => raises_invoke _
  have creates : Foreign volume :=
    raises_bind (raises_invoke _) fun _ => foreign_ifNot
      (raises_bind (raises_invoke _) fun _ => foreign_ifNot (raises_invoke _) _) _
  refine raises_bind (raises_invoke _) fun _ => ?_
  refine raises_bind (raises_invoke _) fun _ => ?_
  refine raises_bind (raises_bind (raises_invoke _) fun _ => raises_invoke _)
    fun _ => ?_
  refine raises_bind rules fun _ => ?_
  refine raises_bind (foreign_ifNot (raises_bind rules fun _ =>
    foreign_ifNot configures _) _) fun _ => ?_
  refine raises_bind (raises_invoke _) fun _ => ?_
  exact raises_bind (foreign_ifNot creates _) fun _ => raises_invoke _

theorem foreign_repairRest : Foreign (am.repairRest false) := by
  have snapshot : Foreign am.snapshotFrom := by
    unfold snapshotFrom
    split
    · exact raises_bind (raises_invoke _) fun _ => foreign_evaluate _
    · exact raises_pure _
  refine raises_bind (raises_bind snapshot fun _ => raises_bind (raises_invoke _)
    fun _ => foreign_monitorSchainContainer _ _ _) fun _ => ?_
  refine raises_bind (raises_invoke _) fun _ => ?_
  exact raises_bind (raises_invoke _) fun _ =>
    raises_bind (foreign_setOn _ _) fun _ => raises_pure ()

/-- The object lacks the method that is called where the container is found
running. -/
theorem internalError_iff (world : PassWorld) :
    (am.repairSkaledMonitor.served PassWorld.serve world).1 = .raised .attributeError ↔
      (repairContainerCheck.served PassWorld.serve world).1 = .value true := by
  rw [repairSkaledMonitor_eq, served_bind]
  cases checked : repairContainerCheck.served PassWorld.serve world with
  | mk outcome found =>
      cases outcome with
      | value running =>
          cases running with
          | true => exact iff_of_true rfl rfl
          | false =>
              refine iff_of_false (fun raised => ?_) (by simp)
              exact am.foreign_repairRest.served
                (fun _ _ _ => passWorld_serve_error) raised rfl
      | raised error =>
          refine iff_of_false (fun raised => ?_) (by simp)
          have from_check : (repairContainerCheck.served PassWorld.serve world).1 =
              .raised error := by rw [checked]
          cases raised
          exact foreign_repairContainerCheck.served
            (fun _ _ _ => passWorld_serve_error) from_check rfl
      | running => exact iff_of_false (by simp) (by simp)

end SkaledActionManager

end Foreign

/-! ### The date of the last repair -/

abbrev passHost : Host monitorInterface PassWorld Empty Empty Unit :=
  aloneHost PassWorld.serve

def DatedAs (date : Int) (world : PassWorld) : Prop :=
  world.row .repairDate = date

theorem passWorld_serve_row {query : MonitorQuery} {world : PassWorld}
    (unsaved : ∀ setter copy, query ≠ .saveRecord setter copy) :
    (world.serve query).2.row = world.row := by
  unfold PassWorld.serve
  generalize world.answers world.calls query = given
  cases given with
  | error message => rfl
  | ok reply =>
      cases query with
      | saveRecord setter copy => exact absurd rfl (unsaved setter copy)
      | _ => rfl

theorem passWorld_serve_clock {query : MonitorQuery} {world : PassWorld}
    (timeless : query ≠ .time) : (world.serve query).2.clock = world.clock := by
  unfold PassWorld.serve
  generalize world.answers world.calls query = given
  cases given with
  | error message => rfl
  | ok reply =>
      cases query with
      | time => exact absurd rfl timeless
      | _ => rfl

theorem passWorld_serve_loadRecord {world : PassWorld} {record : Web.SChainRecord}
    (loaded : (world.serve .loadRecord).1 = .ok record) : world.row = record := by
  unfold PassWorld.serve at loaded
  generalize world.answers world.calls .loadRecord = given at loaded
  cases given with
  | error message => cases loaded
  | ok reply => exact Except.ok.inj loaded

theorem passWorld_serve_saveRecord (world : PassWorld) (setter : Web.Setter)
    (copy : Web.SChainRecord) (column : Web.Column) (apart : setter.column ≠ column)
    (same : world.row column = copy column) :
    (world.serve (.saveRecord setter copy)).2.row column = copy column := by
  unfold PassWorld.serve
  generalize world.answers world.calls (.saveRecord setter copy) = given
  cases given with
  | error message => exact same
  | ok reply =>
      change Web.Table.saved setter copy world.row column = copy column
      unfold Web.Table.saved
      split
      · rw [Web.SChainRecord.set_of_ne apart.symm, same]
      · rfl

theorem passHost_serve {query : MonitorQuery}
    {proposed answer : Except MonitorError query.Reply} {world world' : PassWorld}
    (served : passHost.serve query proposed world = some (answer, world')) :
    (world.serve query).1 = answer ∧ (world.serve query).2 = world' :=
  Prod.mk.inj (Option.some.inj served)

theorem repairDate_keeper (date : Int) :
    ColumnKeeper passHost {} (DatedAs date) .repairDate fun value _ => value = date := by
  constructor
  · intro value world moved move
    exact move.elim
  · intro query proposed answer world world' value quiet dated holds _ served
    obtain ⟨_, rfl⟩ := passHost_serve served
    refine ⟨?_, holds⟩
    unfold DatedAs
    rw [passWorld_serve_row]
    · exact dated
    · intro setter copy same
      rw [same] at quiet
      cases quiet
  · intro proposed record world world' value dated _ served
    obtain ⟨loaded, _⟩ := passHost_serve served
    rw [← passWorld_serve_loadRecord loaded]
    exact dated
  · intro setter copy proposed answer world world' apart dated holds _ served
    obtain ⟨_, rfl⟩ := passHost_serve served
    refine ⟨?_, holds⟩
    exact (passWorld_serve_saveRecord world setter copy .repairDate apart
      (Eq.trans dated holds.symm)).trans holds

theorem repairDate_actions (date : Int) : (repairDate_keeper date).Actions := by
  apply actions_of_plain
  · decide
  · intro query proposed answer world world' value unsaved dated holds _ served
    obtain ⟨_, rfl⟩ := passHost_serve served
    refine ⟨?_, holds⟩
    unfold DatedAs
    rw [passWorld_serve_row unsaved]
    exact dated

section Passes

variable {α : Type} {world : PassWorld}

theorem repairDate_kept {body : MonitorM α}
    (keeps : ∀ date, (repairDate_keeper date).Keeps body) :
    (body.served PassWorld.serve world).2.row .repairDate = world.row .repairDate :=
  (Program.served_of_outline (keeps (world.row .repairDate)) rfl ⟨_, rfl⟩).1

/-- What an execution of `RepairSkaledMonitor` leaves. -/
def Redated (before : PassWorld) : Outcome MonitorError Unit × PassWorld → Prop
  | (.value _, ended) => ended.row .repairDate = ended.clock
  | (_, ended) => ended.row .repairDate = before.row .repairDate

theorem redated_of_same {before : PassWorld} {ended : Outcome MonitorError Unit × PassWorld}
    (same : before.row .repairDate = world.row .repairDate)
    (redated : Redated before ended) : Redated world ended := by
  obtain ⟨outcome, after⟩ := ended
  cases outcome with
  | value result => exact redated
  | raised error => exact Eq.trans redated same
  | running => exact Eq.trans redated same

theorem redated_updateRepairTs {now : Int} (read : world.clock = now) :
    Redated world ((SkaledActionManager.updateRepairTs now).served PassWorld.serve
      world) := by
  unfold SkaledActionManager.updateRepairTs setRecord setOn
  rw [served_bind, Procedure.served_invoke]
  have row : (world.serve .loadRecord).2.row = world.row :=
    passWorld_serve_row (by simp)
  have clock : (world.serve .loadRecord).2.clock = world.clock :=
    passWorld_serve_clock (by simp)
  generalize world.serve .loadRecord = loaded at row clock ⊢
  obtain ⟨answer, after⟩ := loaded
  cases answer with
  | error error => exact congrFun row _
  | ok record =>
      simp only [Outcome.ofAnswer]
      rw [served_bind, served_bind, Procedure.served_invoke]
      unfold PassWorld.serve
      generalize after.answers after.calls _ = given
      cases given with
      | error message => exact congrFun row _
      | ok reply =>
          change record.set .repairDate now .repairDate = after.clock
          rw [Web.SChainRecord.set_self, clock, read]

theorem redated_timed :
    Redated world ((invoke .time >>= fun now => updateRepairTs now).served
      PassWorld.serve world) := by
  rw [served_bind, Procedure.served_invoke]
  have row : (world.serve .time).2.row = world.row := passWorld_serve_row (by simp)
  unfold PassWorld.serve at row ⊢
  generalize world.answers world.calls .time = given at row ⊢
  cases given with
  | error message => exact congrFun row _
  | ok now =>
      apply redated_of_same (congrFun row _)
      exact redated_updateRepairTs rfl

theorem redated_repair (am : SkaledActionManager) :
    Redated world (am.repairSkaledMonitor.served PassWorld.serve world) := by
  have checks : (repairContainerCheck.served PassWorld.serve world).2.row .repairDate =
      world.row .repairDate :=
    repairDate_kept fun date => keeps_repairContainerCheck
  rw [SkaledActionManager.repairSkaledMonitor_eq, served_bind]
  generalize repairContainerCheck.served PassWorld.serve world = checked at checks ⊢
  obtain ⟨outcome, found⟩ := checked
  cases outcome with
  | raised error => exact checks
  | running => exact checks
  | value running =>
      cases running with
      | true => exact checks
      | false =>
          change Redated world (Procedure.served PassWorld.serve
            (am.skaledContainer true >>= fun _ => (invoke .time >>= fun now =>
              updateRepairTs now)) found)
          apply redated_of_same checks
          have starts : ((am.skaledContainer true).served PassWorld.serve
              found).2.row .repairDate = found.row .repairDate :=
            repairDate_kept fun date =>
              keeps_skaledContainer (repairDate_actions date) am _ _ _
          rw [served_bind]
          generalize (am.skaledContainer true).served PassWorld.serve found = started
            at starts ⊢
          obtain ⟨outcome, after⟩ := started
          cases outcome with
          | raised error => exact starts
          | running => exact starts
          | value _ =>
              apply redated_of_same starts
              exact redated_timed

def closeRun : MonitorM Unit := do
  SkaledActionManager.updSchainRecord
  updLastSeen

theorem repairDate_closeRun :
    (closeRun.served PassWorld.serve world).2.row .repairDate =
      world.row .repairDate :=
  repairDate_kept fun date =>
    keeps_bind (keeps_updSchainRecord (repairDate_actions date)) fun _ =>
      keeps_updLastSeen (repairDate_actions date)

theorem repairDate_runSkaledMonitor {execute : MonitorM Unit} {seen : PassWorld}
    (started : updLastSeen.served PassWorld.serve world = (.value (), seen)) :
    ((runSkaledMonitor execute).served PassWorld.serve world).2.row .repairDate =
      (execute.served PassWorld.serve seen).2.row .repairDate := by
  unfold runSkaledMonitor
  rw [served_attempt, served_bind, started]
  dsimp only
  rw [served_bind]
  generalize execute.served PassWorld.serve seen = executed
  obtain ⟨outcome, ended⟩ := executed
  cases outcome with
  | raised error => rfl
  | running => rfl
  | value _ =>
      have kept := @repairDate_closeRun ended
      dsimp only
      rw [show (do
        SkaledActionManager.updSchainRecord
        updLastSeen) = closeRun from rfl]
      generalize closeRun.served PassWorld.serve ended = closed at kept ⊢
      obtain ⟨outcome, closed⟩ := closed
      cases outcome with
      | value _ => exact kept
      | raised error => exact kept
      | running => exact kept

/-- A pass changes the date only where it executes a repair. -/
theorem repairDate_pass (settings : SkaledSettings) :
    match executeStart settings world with
    | some (am, .repair, seen) =>
        seen.row .repairDate = world.row .repairDate ∧
          ((runSkaledPipeline settings).served PassWorld.serve world).2.row .repairDate =
            (am.repairSkaledMonitor.served PassWorld.serve seen).2.row .repairDate
    | _ =>
        ((runSkaledPipeline settings).served PassWorld.serve world).2.row .repairDate =
          world.row .repairDate := by
  have chooses : ((chooseSkaledMonitor settings).served PassWorld.serve
      world).2.row .repairDate = world.row .repairDate :=
    repairDate_kept fun date => keeps_of_quiet (quiet_chooseSkaledMonitor settings)
  unfold executeStart
  rw [runSkaledPipeline_eq, served_bind]
  generalize (chooseSkaledMonitor settings).served PassWorld.serve world = chosen
    at chooses ⊢
  obtain ⟨outcome, chosen⟩ := chosen
  cases outcome with
  | raised error => exact chooses
  | running => exact chooses
  | value choice =>
      obtain ⟨am, monitor⟩ := choice
      have sees : (updLastSeen.served PassWorld.serve chosen).2.row .repairDate =
          chosen.row .repairDate :=
        repairDate_kept fun date => keeps_updLastSeen (repairDate_actions date)
      cases started : updLastSeen.served PassWorld.serve chosen with
      | mk outcome seen =>
          rw [started] at sees
          cases outcome with
          | raised error =>
              dsimp only
              unfold runSkaledMonitor
              rw [served_attempt, served_bind, started]
              exact sees.trans chooses
          | running =>
              dsimp only
              unfold runSkaledMonitor
              rw [served_attempt, served_bind, started]
              exact sees.trans chooses
          | value _ =>
              have ends : _ = ((am.execute monitor).served PassWorld.serve
                seen).2.row .repairDate := repairDate_runSkaledMonitor started
              have kept : monitor ≠ .repair →
                  ((am.execute monitor).served PassWorld.serve seen).2.row .repairDate =
                    seen.row .repairDate := fun other =>
                repairDate_kept fun date => keeps_execute (repairDate_actions date) am
                  fun repair => absurd repair other
              dsimp only
              rw [started]
              cases monitor with
              | repair =>
                  exact ⟨sees.trans chooses, ends⟩
              | _ => exact ends.trans ((kept (by simp)).trans (sees.trans chooses))

end Passes

/-! ### Passes -/

/-- The row tells when the last execution ended. -/
def RepairState.Dated (state : RepairState) : Prop :=
  ∀ ended, state.repaired = some ended → state.row .repairDate = ended

section Steps

variable {settings : SkaledSettings} {state next : RepairState} {answers : PassAnswers}

/-- The later requests are those that the row tells apart just in UTC. -/
theorem servedOnce_iff (dated : state.Dated) :
    state.ServedOnce settings ↔
      state.internalError = false ∧ (state.repaired.isSome → settings.utcOffset = 0) := by
  apply and_congr_right
  intro _
  constructor
  · intro served executed
    obtain ⟨ended, same⟩ := Option.isSome_iff_exists.mp executed
    let choice : MonitorChoice := {
      checkStatus := ⟨true, true, true⟩
      schainRecord := state.row
      hasSkaledStatus := false
      hasNodeCliStatus := true
      automaticRepair := false }
    have asks : ∀ repairTs,
        (ended - settings.utcOffset < repairTs ↔ ended < repairTs) := by
      intro repairTs
      have mode := served choice rfl rfl rfl ended same repairTs
      rw [repairModeFor_eq choice settings repairTs rfl rfl] at mode
      have stored : choice.schainRecord .repairDate = ended := dated ended same
      rw [stored] at mode
      exact decide_eq_decide.mp (Outcome.value.inj mode)
    have below := asks (ended - settings.utcOffset)
    have above := asks ended
    omega
  · intro utc choice record found manual ended same repairTs
    have offset : settings.utcOffset = 0 := utc (by rw [same]; rfl)
    rw [repairModeFor_eq choice settings repairTs found manual, record,
      dated ended same, offset, Int.sub_zero]

/-- The ways a pass changes the state. -/
inductive RepairState.Passed (settings : SkaledSettings) (state : RepairState)
    (answers : PassAnswers) (next : RepairState) : Prop
  | elsewhere
      (unexecuted : ∀ am seen, executeStart settings { row := state.row, answers } ≠
        some (am, .repair, seen))
      (error : next.internalError = state.internalError)
      (repaired : next.repaired = state.repaired)
      (date : next.row .repairDate = state.row .repairDate)
  | executed {am : SkaledActionManager} {seen ended : PassWorld}
      (start : executeStart settings { row := state.row, answers } =
        some (am, .repair, seen))
      (ends : am.repairSkaledMonitor.served PassWorld.serve seen = (.value (), ended))
      (error : next.internalError = state.internalError)
      (repaired : next.repaired = some ended.clock)
      (date : next.row .repairDate = ended.clock)
  | raised {am : SkaledActionManager} {seen : PassWorld}
      (start : executeStart settings { row := state.row, answers } =
        some (am, .repair, seen))
      (unended : (am.repairSkaledMonitor.served PassWorld.serve seen).1 ≠ .value ())
      (error : next.internalError = true ↔ state.internalError = true ∨
        (am.repairSkaledMonitor.served PassWorld.serve seen).1 =
          .raised .attributeError)
      (repaired : next.repaired = state.repaired)
      (date : next.row .repairDate = state.row .repairDate)

theorem passed_of_step (taken : state.step settings answers = some next) :
    state.Passed settings answers next := by
  have row := @repairDate_pass { row := state.row, answers } settings
  unfold RepairState.step at taken
  dsimp only at taken
  generalize started : executeStart settings { row := state.row, answers } = start
    at row taken
  rcases start with _ | ⟨am, monitor, seen⟩
  · cases taken
    exact .elsewhere (by simp [started]) rfl rfl row
  · cases monitor with
    | repair =>
        obtain ⟨same, row⟩ := row
        have redated := @redated_repair seen am
        dsimp only at taken
        cases executed : am.repairSkaledMonitor.served PassWorld.serve seen with
        | mk outcome ended =>
            rw [executed] at row redated taken
            cases outcome with
            | value _ =>
                cases taken
                exact .executed started executed rfl rfl (row.trans redated)
            | raised error =>
                have date := row.trans (Eq.trans redated same)
                cases error with
                | attributeError =>
                    cases taken
                    exact .raised started (by simp [executed]) (by simp [executed]) rfl date
                | _ =>
                    cases taken
                    exact .raised started (by simp [executed]) (by simp [executed]) rfl date
            | running =>
                have date := row.trans (Eq.trans redated same)
                cases taken
                exact .raised started (by simp [executed]) (by simp [executed]) rfl date
    | _ =>
        cases taken
        exact .elsewhere (by simp [started]) rfl rfl row

theorem dated_of_step (dated : state.Dated)
    (taken : state.step settings answers = some next) : next.Dated := by
  intro ended same
  cases passed_of_step taken with
  | elsewhere _ _ repaired date => exact date.trans (dated ended (repaired ▸ same))
  | executed _ _ _ repaired date =>
      rw [repaired] at same
      exact date.trans (Option.some.inj same)
  | raised _ _ _ repaired date => exact date.trans (dated ended (repaired ▸ same))

theorem servedOnce_step_iff (dated : state.Dated) (served : state.ServedOnce settings)
    (taken : state.step settings answers = some next) :
    next.ServedOnce settings ↔ state.Timely settings answers := by
  rw [servedOnce_iff (dated_of_step dated taken)]
  obtain ⟨sound, utc⟩ := (servedOnce_iff dated).mp served
  unfold RepairState.Timely
  cases passed_of_step taken with
  | elsewhere unexecuted error repaired _ =>
      rw [error, repaired]
      refine iff_of_true ⟨sound, utc⟩ ?_
      intro am seen start
      exact absurd start (unexecuted am seen)
  | @executed am seen ended start ends error repaired _ =>
      rw [error, repaired, start]
      constructor
      · intro meets am seen same
        cases same
        refine ⟨?_, fun _ => meets.2 rfl⟩
        intro found
        have raised := (am.internalError_iff seen).mpr found
        rw [ends] at raised
        cases raised
      · intro timely
        obtain ⟨_, offset⟩ := timely am seen rfl
        exact ⟨sound, fun _ => offset (by rw [ends])⟩
  | @raised am seen start unended error repaired _ =>
      rw [repaired, start]
      constructor
      · intro meets am seen same
        cases same
        refine ⟨?_, fun ended => absurd ended unended⟩
        intro found
        have internal := error.mpr (.inr ((am.internalError_iff seen).mpr found))
        rw [meets.1] at internal
        cases internal
      · intro timely
        obtain ⟨unfound, _⟩ := timely am seen rfl
        refine ⟨Bool.eq_false_iff.mpr fun internal => ?_, utc⟩
        rcases error.mp internal with earlier | here
        · rw [sound] at earlier
          cases earlier
        · exact unfound ((am.internalError_iff seen).mp here)

end Steps

/-- Each request is served exactly once as long as each repair that ends does so
where local time is UTC, and none finds the container running that it has
removed. -/
theorem repair_served_once_iff (settings : SkaledSettings) (row : Web.SChainRecord)
    (passes : List PassAnswers) :
    Transition.Always (RepairState.step settings) (RepairState.ServedOnce settings)
        { row } passes ↔
      Transition.EachStep (RepairState.step settings) (RepairState.Timely settings)
        { row } passes := by
  apply @Transition.always_iff_eachStep _ _ _ RepairState.Dated
  · intro state next answers dated _ taken
    exact dated_of_step dated taken
  · intro state next answers dated served taken
    exact servedOnce_step_iff dated served taken
  · intro ended absurdity
    cases absurdity
  · refine ⟨rfl, ?_⟩
    intro choice _ _ _ ended absurdity
    cases absurdity

/-! ### A repair -/

/-- The node CLI requests a repair as of 50; the removed container is found
running or not. -/
def requestAnswers (found : Bool) : PassAnswers
  | _, .readNodeCliStatus => .ok (.json (.obj [("repair_ts".toList, .num 50)]))
  | _, .isContainerRunning _ => .ok found
  | _, query =>
      match hostAnswer false query with
      | .ok reply => .ok reply
      | .error _ => .error "unexpected"

/-- An hour ahead of UTC the repair of 50 that has ended at 100 is asked for
again. -/
theorem served_repair_can_repeat :
    ¬ ∀ (settings : SkaledSettings) (row : Web.SChainRecord)
      (passes : List PassAnswers),
      Transition.Always (RepairState.step settings) (RepairState.ServedOnce settings)
        { row } passes := by
  intro claim
  let settings : SkaledSettings := { utcOffset := 3600 }
  have played : (Transition.play (RepairState.step settings) { row := newRow }
      [requestAnswers false]).map (fun state => (state.repaired, state.row .repairDate)) =
        some (some 100, 100) := by
    decide +kernel
  obtain ⟨state, reached, left⟩ := Option.map_eq_some_iff.mp played
  obtain ⟨repaired, date⟩ := Prod.mk.inj left
  let choice : MonitorChoice := {
    checkStatus := ⟨true, true, true⟩
    schainRecord := state.row
    hasSkaledStatus := false
    hasNodeCliStatus := true
    automaticRepair := false }
  have mode := ((claim settings newRow _).at_play reached).2 choice rfl rfl rfl 100
    repaired 50
  rw [repairModeFor_eq choice settings 50 rfl rfl] at mode
  change Outcome.value (decide (state.row .repairDate - 3600 < 50)) = _ at mode
  rw [date] at mode
  cases mode

end SkaleAdmin.Monitor
