import SkaleAdmin.Monitor.SkaledWorld

/-! An account of the restarts of skaled whose RPC endpoint does not answer, and
what each call does to it. -/

namespace SkaleAdmin.Monitor

open Interaction PyText Json Config
open Interaction.Procedure (Calls calls_pure calls_raise calls_bind calls_invoke
  calls_attempt)
open Interaction.Ledger (yields_pure yields_raise yields_bind yields_of_calls
  yields_swallowed yields_invoke yields_of_fact)

/-- `restarts` are those by `handle_failed_schain_rpc`.  The next fields are about the
passes in which the RPC check failed since it succeeded or the container was started,
to which `due` is set until the row forgets earlier failures; `stale` tells that a
check failed before that, and `hasty` that a restart came too early. -/
structure RpcNotes where
  restarts : Nat := 0
  failing : Nat := 0
  passFailed : Bool := false
  passSucceeded : Bool := false
  due : Bool := false
  stale : Bool := false
  hasty : Bool := false
  /-- All the passes in which the RPC check failed. -/
  failedPasses : Nat := 0
  /-- The running pass is one of them. -/
  noted : Bool := false
  /-- The failures have not been put back since the last restart. -/
  unreset : Bool := false
  /-- A pass began so. -/
  lapsed : Bool := false

/-- The failures that the row counts, with the notes. -/
structure Seen where
  failedRpcCount : Int
  notes : RpcNotes

namespace Seen

variable (seen : Seen)

def begun : Seen :=
  { seen with
    notes := { seen.notes with
      passFailed := false
      passSucceeded := false
      noted := false
      lapsed := seen.notes.lapsed || seen.notes.unreset } }

def succeeded : Seen :=
  { seen with
    notes := { seen.notes with
      failing := 0
      passFailed := false
      passSucceeded := true
      due := seen.failedRpcCount ≠ 0 } }

/-- A pass in which the check succeeded as well is not counted. -/
def failed : Seen :=
  { seen with
    notes := { seen.notes with
      failing :=
        if seen.notes.passFailed || seen.notes.passSucceeded then seen.notes.failing
        else seen.notes.failing + 1
      passFailed := true
      stale := seen.notes.stale || seen.notes.due
      failedPasses :=
        if seen.notes.noted then seen.notes.failedPasses
        else seen.notes.failedPasses + 1
      noted := true } }

def started : Seen :=
  { seen with
    notes := { seen.notes with
      failing := 0, passFailed := false, due := seen.failedRpcCount ≠ 0 } }

/-- Started by `handle_failed_schain_rpc`. -/
def restarted (maxSchainFailedRpcCount : Int) : Seen :=
  { seen with
    notes := { seen.started.notes with
      restarts := seen.notes.restarts + 1
      unreset := true
      hasty := seen.notes.hasty || seen.notes.failing ≤ maxSchainFailedRpcCount } }

def saved (failedRpcCount : Int) : Seen where
  failedRpcCount := failedRpcCount
  notes := { seen.notes with
    due := seen.notes.due && failedRpcCount ≠ 0
    unreset := seen.notes.unreset && failedRpcCount ≠ 0 }

end Seen

def Seen.of (row : Web.SChainRecord) (notes : RpcNotes) : Seen where
  failedRpcCount := row .failedRpcCount
  notes := notes

def rpcWatch (settings : SkaledSettings) :
    Host.Watch monitorInterface SkaledWorld SkaledMove Unit RpcNotes where
  call
    | .observeEndpoint _, .ok (files, answers), world, notes =>
        match SkaledChecks.rpc files answers with
        | .ok true => (Seen.of world.row notes).succeeded.notes
        | .ok false => (Seen.of world.row notes).failed.notes
        | .error _ => notes
    | .saveRecord setter copy, .ok _, world, notes =>
        ((Seen.of world.row notes).saved
          (Web.Table.saved setter copy world.row .failedRpcCount)).notes
    | .runSchainContainer .., .ok _, world, notes
    | .restartContainer false, .ok _, world, notes =>
        (Seen.of world.row notes).started.notes
    | .restartContainer true, .ok _, world, notes =>
        ((Seen.of world.row notes).restarted settings.maxSchainFailedRpcCount).notes
    | _, _, _, notes => notes
  begin _ world notes := (Seen.of world.row notes).begun.notes

abbrev RpcWorld := SkaledWorld × RpcNotes

def seenIn (world : RpcWorld) : Seen := .of world.1.row world.2

def rpcHost (settings : SkaledSettings) := (skaledHost settings).watch (rpcWatch settings)

/-- What a row of an earlier run says: the passes that it has counted have
failed. -/
def RpcNotes.start (row : Web.SChainRecord) : RpcNotes where
  failing := (row .failedRpcCount).toNat
  failedPasses := (row .failedRpcCount).toNat

/-! ### What is kept -/

def SkaledSettings.passesToRestart (settings : SkaledSettings) : Nat :=
  (settings.maxSchainFailedRpcCount + 1).toNat + 1

/-- The failed passes that the restarts took and that the row counts. -/
def Seen.spent (settings : SkaledSettings) (seen : Seen) : Nat :=
  seen.notes.restarts * settings.passesToRestart +
    if seen.notes.unreset then 0 else seen.failedRpcCount.toNat

structure RpcAccounted (settings : SkaledSettings) (seen : Seen) : Prop where
  spent : seen.notes.lapsed = false → seen.spent settings ≤ seen.notes.failedPasses
  resolved : seen.notes.stale = false → seen.notes.due = false →
    seen.failedRpcCount ≤ seen.notes.failing + 1
  unhurried : seen.notes.stale = false → seen.notes.hasty = false

/-- `handle_failed_schain_rpc` has not counted this pass yet. -/
structure Uncounted (settings : SkaledSettings) (seen : Seen) : Prop where
  resolved : seen.notes.stale = false → seen.notes.due = false →
    (seen.notes.passFailed || seen.notes.passSucceeded) = true →
      seen.failedRpcCount ≤ seen.notes.failing
  unspent : seen.notes.lapsed = false → seen.notes.unreset = false ∧
    (seen.notes.noted = true → seen.spent settings < seen.notes.failedPasses)

structure Failing (settings : SkaledSettings) (seen : Seen) : Prop where
  resolved : seen.notes.stale = false →
    seen.notes.due = false ∧ seen.failedRpcCount ≤ seen.notes.failing
  unspent : seen.notes.lapsed = false → seen.notes.unreset = false ∧
    seen.spent settings < seen.notes.failedPasses

/-- What holds before and after that the pass is counted. -/
def At (settings : SkaledSettings) (fresh : Bool) (seen : Seen) : Prop :=
  fresh = true → Uncounted settings seen

section Seen

variable {settings : SkaledSettings} {seen : Seen}

theorem rpcAccounted_begun (kept : RpcAccounted settings seen) :
    RpcAccounted settings seen.begun := by
  refine ⟨fun punctual => ?_, kept.resolved, kept.unhurried⟩
  exact kept.spent (Bool.or_eq_false_iff.mp punctual).1

theorem uncounted_begun : Uncounted settings seen.begun := by
  refine ⟨?_, fun punctual => ⟨(Bool.or_eq_false_iff.mp punctual).2, nofun⟩⟩
  intro _ _ checked
  cases checked

theorem rpcAccounted_succeeded (kept : RpcAccounted settings seen) :
    RpcAccounted settings seen.succeeded := by
  refine ⟨kept.spent, ?_, kept.unhurried⟩
  intro _ forgotten
  have none : seen.failedRpcCount = 0 := by simpa [Seen.succeeded] using forgotten
  simp [Seen.succeeded, none]

theorem uncounted_succeeded (uncounted : Uncounted settings seen) :
    Uncounted settings seen.succeeded := by
  refine ⟨?_, uncounted.unspent⟩
  intro _ forgotten _
  have none : seen.failedRpcCount = 0 := by simpa [Seen.succeeded] using forgotten
  simp [Seen.succeeded, none]

theorem failing_failed (kept : RpcAccounted settings seen)
    (uncounted : Uncounted settings seen) : Failing settings seen.failed := by
  constructor
  · intro unstale
    obtain ⟨unstale, forgotten⟩ := Bool.or_eq_false_iff.mp unstale
    refine ⟨forgotten, ?_⟩
    have most := kept.resolved unstale forgotten
    cases checked : seen.notes.passFailed || seen.notes.passSucceeded with
    | true =>
        simp only [Seen.failed, checked, if_true]
        exact uncounted.resolved unstale forgotten checked
    | false =>
        simp only [Seen.failed, checked, Bool.false_eq_true, if_false]
        omega
  · intro punctual
    obtain ⟨reset, noted⟩ := uncounted.unspent punctual
    refine ⟨reset, ?_⟩
    have most : seen.failed.spent settings ≤ seen.notes.failedPasses := kept.spent punctual
    change seen.failed.spent settings < if _ then _ else _
    split
    · rename_i earlier
      exact noted earlier
    · exact Nat.lt_succ_of_le most

theorem rpcAccounted_failed (kept : RpcAccounted settings seen) :
    RpcAccounted settings seen.failed := by
  refine ⟨?_, ?_, ?_⟩
  · intro punctual
    have most : seen.failed.spent settings ≤ seen.notes.failedPasses := kept.spent punctual
    change seen.failed.spent settings ≤ if _ then _ else _
    split
    · exact most
    · exact Nat.le_succ_of_le most
  · intro unstale forgotten
    obtain ⟨unstale, _⟩ := Bool.or_eq_false_iff.mp unstale
    have most := kept.resolved unstale forgotten
    change seen.failedRpcCount ≤ (if _ then _ else _ : Nat) + 1
    split
    · exact most
    · push_cast
      omega
  · intro unstale
    exact kept.unhurried (Bool.or_eq_false_iff.mp unstale).1

theorem Failing.uncounted (failing : Failing settings seen) : Uncounted settings seen :=
  ⟨fun unstale _ _ => (failing.resolved unstale).2, fun punctual =>
    ⟨(failing.unspent punctual).1, fun _ => (failing.unspent punctual).2⟩⟩

theorem rpcAccounted_started (kept : RpcAccounted settings seen) :
    RpcAccounted settings seen.started := by
  refine ⟨kept.spent, ?_, kept.unhurried⟩
  intro _ forgotten
  have none : seen.failedRpcCount = 0 := by simpa [Seen.started] using forgotten
  simp [Seen.started, none]

theorem uncounted_started (uncounted : Uncounted settings seen) :
    Uncounted settings seen.started := by
  refine ⟨?_, uncounted.unspent⟩
  intro _ forgotten _
  have none : seen.failedRpcCount = 0 := by simpa [Seen.started] using forgotten
  simp [Seen.started, none]

/-- A restart takes the failed passes that the row has counted, and this one. -/
theorem rpcAccounted_restarted (kept : RpcAccounted settings seen)
    (failing : Failing settings seen)
    (stuck : settings.maxSchainFailedRpcCount < seen.failedRpcCount) :
    RpcAccounted settings (seen.restarted settings.maxSchainFailedRpcCount) := by
  refine ⟨?_, (rpcAccounted_started kept).resolved, ?_⟩
  · intro punctual
    obtain ⟨reset, unspent⟩ := failing.unspent punctual
    have taken : settings.passesToRestart ≤ seen.failedRpcCount.toNat + 1 := by
      unfold SkaledSettings.passesToRestart
      omega
    simp only [Seen.spent, reset, Bool.false_eq_true, if_false] at unspent
    change (seen.notes.restarts + 1) * settings.passesToRestart + 0 ≤
      seen.notes.failedPasses
    rw [Nat.succ_mul]
    omega
  · intro unstale
    have most := (failing.resolved unstale).2
    have late : ¬ (seen.notes.failing : Int) ≤ settings.maxSchainFailedRpcCount := by
      omega
    simp only [Seen.restarted, kept.unhurried unstale, Bool.false_or]
    exact decide_eq_false late

/-- The count of the failures is left or put to zero, or raised by one in a failed pass
that is not counted yet. -/
theorem rpcAccounted_saved {failedRpcCount : Int} (kept : RpcAccounted settings seen)
    (failures : failedRpcCount = seen.failedRpcCount ∨ failedRpcCount = 0 ∨
      failedRpcCount = seen.failedRpcCount + 1 ∧ Failing settings seen) :
    RpcAccounted settings (seen.saved failedRpcCount) := by
  refine ⟨?_, ?_, kept.unhurried⟩
  · intro punctual
    have most := kept.spent punctual
    simp only [Seen.spent, Seen.saved, Bool.and_eq_true, decide_eq_true_eq] at most ⊢
    cases unreset : seen.notes.unreset with
    | true =>
        simp only [unreset, if_true, true_and] at most ⊢
        split <;> omega
    | false =>
        simp only [unreset, Bool.false_eq_true, if_false, false_and] at most ⊢
        rcases failures with rfl | rfl | ⟨rfl, failing⟩
        · exact most
        · omega
        · have more := (failing.unspent punctual).2
          simp only [Seen.spent, unreset, Bool.false_eq_true, if_false] at more
          omega
  · intro unstale forgotten
    simp only [Seen.saved]
    rcases Bool.and_eq_false_iff.mp forgotten with undue | none
    · have most := kept.resolved unstale undue
      rcases failures with rfl | rfl | ⟨rfl, failing⟩
      · exact most
      · omega
      · have few := (failing.resolved unstale).2
        omega
    · have zero : failedRpcCount = 0 := by simpa using none
      omega

theorem uncounted_saved {failedRpcCount : Int} (uncounted : Uncounted settings seen)
    (failures : failedRpcCount = seen.failedRpcCount ∨ failedRpcCount = 0) :
    Uncounted settings (seen.saved failedRpcCount) := by
  constructor
  · intro unstale forgotten checked
    simp only [Seen.saved]
    rcases failures with rfl | rfl
    · rcases Bool.and_eq_false_iff.mp forgotten with undue | none
      · exact uncounted.resolved unstale undue checked
      · have zero : seen.failedRpcCount = 0 := by simpa using none
        omega
    · omega
  · intro punctual
    obtain ⟨reset, noted⟩ := uncounted.unspent punctual
    have still : (seen.saved failedRpcCount).notes.unreset = false := by
      simp only [Seen.saved, reset, Bool.false_and]
    refine ⟨still, fun earlier => ?_⟩
    have more := noted earlier
    simp only [Seen.spent, still, reset, Bool.false_eq_true, if_false] at more ⊢
    simp only [Seen.saved]
    omega

end Seen

/-! ### The calls -/

def rpcLedger (settings : SkaledSettings) :
    Ledger monitorInterface RpcWorld SkaledMove Unit
      (Outcome MonitorError Unit × Unit) Seen where
  host := rpcHost settings
  discipline := {}
  invariant world := RpcAccounted settings (seenIn world)
  view := seenIn
  unmoved := by
    intro world move moved taken
    obtain ⟨plain, noted⟩ := Host.watch_move.mp taken
    unfold seenIn
    rw [noted]
    cases move with
    | update column value =>
        obtain ⟨others, same⟩ := Option.ite_none_left_eq_some.mp plain
        rw [← Option.some.inj same]
        simp only [Seen.of, Seen.mk.injEq]
        exact ⟨Web.SChainRecord.set_of_ne (Ne.symm (not_or.mp others).2), rfl⟩
    | removeContainer =>
        rw [← Option.some.inj plain]
        rfl

def MonitorQuery.isUncounted : MonitorQuery → Bool
  | saveRecord .. | runSchainContainer .. | restartContainer _ | observeEndpoint _ =>
      false
  | _ => true

def Held (record : Web.SChainRecord) (seen : Seen) : Prop :=
  record .failedRpcCount = seen.failedRpcCount

section Calls

variable {settings : SkaledSettings}

theorem seen_of_quiet {query : MonitorQuery} (quiet : query.isUncounted = true)
    {proposed answer : Except MonitorError query.Reply} {world world' : RpcWorld}
    (served : (rpcHost settings).serve query proposed world =
      some (answer, world')) : seenIn world' = seenIn world := by
  obtain ⟨plain, noted⟩ := Host.watch_serve.mp served
  have unnoted : world'.2 = world.2 := by
    rw [noted]
    unfold rpcWatch
    dsimp only
    split <;> first | rfl | cases quiet
  have row : world'.1.row = world.1.row := by
    refine skaled_serve_row ?_ plain
    rintro setter copy rfl
    cases quiet
  simp only [seenIn, unnoted, row]

theorem yields_quiet {α : Type} {body : MonitorM α} {assertion : Seen → Prop}
    (calls : body.Calls fun query : MonitorQuery => query.isUncounted = true) :
    (rpcLedger settings).Yields assertion body fun _ => assertion := by
  apply yields_of_calls calls
  intro query world world' proposed answer quiet kept holds _ served
  have same := seen_of_quiet quiet served
  constructor
  · change RpcAccounted settings (seenIn world')
    rw [same]
    exact kept
  · change assertion (seenIn world')
    rw [same]
    exact holds

theorem uncounted_of_auxiliary (query : MonitorQuery) (auxiliary : query.isAuxiliary = true) :
    query.isUncounted = true := by
  cases query with
  | saveRecord | runSchainContainer | restartContainer | observeEndpoint =>
      cases auxiliary
  | _ => rfl

theorem yields_auxiliary {α : Type} {body : MonitorM α} {assertion : Seen → Prop}
    (auxiliary : Auxiliary body) :
    (rpcLedger settings).Yields assertion body fun _ => assertion :=
  yields_quiet (auxiliary.mono uncounted_of_auxiliary)

theorem loadRecord_yields {assertion : Seen → Prop} :
    (rpcLedger settings).Yields assertion (invoke .loadRecord)
      fun record seen => Held record seen ∧ assertion seen := by
  apply yields_invoke
  intro world world' proposed answer kept holds _ served
  have same := seen_of_quiet rfl served
  constructor
  · change RpcAccounted settings (seenIn world')
    rw [same]
    exact kept
  · rintro record rfl
    obtain ⟨_, loaded⟩ := skaled_serve_loadRecord (Host.watch_serve.mp served).1
    change Held record (seenIn world') ∧ assertion (seenIn world')
    rw [same]
    subst loaded
    exact ⟨rfl, holds⟩

theorem seen_of_error {query : MonitorQuery} {error : MonitorError}
    {proposed : Except MonitorError query.Reply} {world world' : RpcWorld}
    (served : (rpcHost settings).serve query proposed world =
      some (.error error, world')) : seenIn world' = seenIn world := by
  obtain ⟨plain, noted⟩ := Host.watch_serve.mp served
  have same : world'.1 = world.1 := skaled_serve_error plain
  have unnoted : world'.2 = world.2 := by
    rw [noted]
    cases query with
    | restartContainer stuckRpc => cases stuckRpc <;> rfl
    | _ => rfl
  simp only [seenIn, unnoted, same]

theorem seenIn_of_notes {world world' : RpcWorld} {notes : RpcNotes}
    (row : world'.1.row = world.1.row) (noted : world'.2 = notes) :
    seenIn world' = .of world.1.row notes := by
  simp only [seenIn, row, noted]

theorem yields_effect {query : MonitorQuery} {before : Seen → Prop}
    {after : query.Reply → Seen → Prop} (effect : query.Reply → Seen → Seen)
    (effected : ∀ ⦃reply proposed⦄ ⦃world world' : RpcWorld⦄,
      (rpcHost settings).serve query proposed world = some (.ok reply, world') →
      seenIn world' = effect reply (seenIn world))
    (kept : ∀ reply seen, RpcAccounted settings seen → before seen →
      RpcAccounted settings (effect reply seen) ∧ after reply (effect reply seen)) :
    (rpcLedger settings).Yields before (invoke query) after := by
  apply yields_invoke
  intro world world' proposed answer accounted holds _ served
  cases answer with
  | error error =>
      refine ⟨?_, ?_⟩
      · change RpcAccounted settings (seenIn world')
        rw [seen_of_error served]
        exact accounted
      · rintro reply ⟨⟩
  | ok reply =>
      obtain ⟨kept', holds'⟩ := kept reply _ accounted holds
      refine ⟨?_, ?_⟩
      · change RpcAccounted settings (seenIn world')
        rw [effected served]
        exact kept'
      · rintro _ ⟨⟩
        change after reply (seenIn world')
        rw [effected served]
        exact holds'

def Seen.checked (evaluated : Evaluated Bool) (seen : Seen) : Seen :=
  match evaluated with
  | .ok true => seen.succeeded
  | .ok false => seen.failed
  | .error _ => seen

theorem observeEndpoint_yields (timeout : Int) :
    (rpcLedger settings).Yields (Uncounted settings) (invoke (.observeEndpoint timeout))
      fun observed seen => Uncounted settings seen ∧
        (SkaledChecks.rpc observed.1 observed.2 = .ok false → Failing settings seen) := by
  apply yields_effect
    fun (observed : Directory Text × (Int → Bool)) seen =>
      seen.checked (SkaledChecks.rpc observed.1 observed.2)
  · intro observed proposed world world' served
    obtain ⟨plain, noted⟩ := Host.watch_serve.mp served
    rw [seenIn_of_notes (skaled_serve_row (by rintro setter copy ⟨⟩) plain) noted]
    unfold Seen.checked rpcWatch
    dsimp only
    split <;> rfl
  · intro observed seen kept uncounted
    generalize SkaledChecks.rpc observed.1 observed.2 = evaluated
    cases evaluated with
    | error error => exact ⟨kept, uncounted, by rintro ⟨⟩⟩
    | ok passed =>
        cases passed with
        | true =>
            exact ⟨rpcAccounted_succeeded kept, uncounted_succeeded uncounted, by rintro ⟨⟩⟩
        | false =>
            have failing := failing_failed kept uncounted
            exact ⟨rpcAccounted_failed kept, failing.uncounted, fun _ => failing⟩

theorem starts_yields {fresh : Bool} {record : Web.SChainRecord} {query : MonitorQuery}
    (unsaved : ∀ setter copy, query ≠ .saveRecord setter copy)
    (starts : ∀ (world : SkaledWorld) (notes : RpcNotes) (reply : query.Reply),
      (rpcWatch settings).call query (.ok reply) world notes =
        (Seen.of world.row notes).started.notes) :
    (rpcLedger settings).Yields (fun seen => Held record seen ∧ At settings fresh seen)
      (invoke query) fun _ seen => Held record seen ∧ At settings fresh seen := by
  apply yields_effect fun _ => Seen.started
  · intro reply proposed world world' served
    obtain ⟨plain, noted⟩ := Host.watch_serve.mp served
    exact seenIn_of_notes (skaled_serve_row unsaved plain) (noted.trans (starts ..))
  · rintro reply seen kept ⟨held, holds⟩
    exact ⟨rpcAccounted_started kept, held, fun fresh => uncounted_started (holds fresh)⟩

theorem runSchainContainer_yields {fresh : Bool} {record : Web.SChainRecord}
    (downloadSnapshot : Bool) (startTs : Option Int) (snapshotFrom : Value) :
    (rpcLedger settings).Yields (fun seen => Held record seen ∧ At settings fresh seen)
      (invoke (.runSchainContainer downloadSnapshot startTs snapshotFrom))
      fun _ seen => Held record seen ∧ At settings fresh seen := by
  exact starts_yields (by rintro setter copy ⟨⟩) fun _ _ _ => rfl

theorem restartContainer_yields {fresh : Bool} {record : Web.SChainRecord} :
    (rpcLedger settings).Yields (fun seen => Held record seen ∧ At settings fresh seen)
      (invoke (.restartContainer false))
      fun _ seen => Held record seen ∧ At settings fresh seen := by
  exact starts_yields (by rintro setter copy ⟨⟩) fun _ _ _ => rfl

theorem restartStuck_yields {record : Web.SChainRecord}
    (stuck : settings.maxSchainFailedRpcCount < record .failedRpcCount) :
    (rpcLedger settings).Yields (fun seen => Held record seen ∧ Failing settings seen)
      (invoke (.restartContainer true)) fun _ seen => Held record seen := by
  apply yields_effect fun _ seen => seen.restarted settings.maxSchainFailedRpcCount
  · intro reply proposed world world' served
    obtain ⟨plain, noted⟩ := Host.watch_serve.mp served
    exact seenIn_of_notes (skaled_serve_row (by rintro setter copy ⟨⟩) plain) noted
  · rintro reply seen kept ⟨held, failing⟩
    refine ⟨rpcAccounted_restarted kept failing ?_, held⟩
    rw [← held]
    exact stuck

theorem saved_counters {record stored : Web.SChainRecord} {setter : Web.Setter}
    {column : Web.Column} (same : record column = stored column) :
    Web.Table.saved setter (record.set setter.column setter.value) stored column =
      record.set setter.column setter.value column := by
  unfold Web.Table.saved
  split
  · by_cases here : column = setter.column
    · subst here
      rw [Web.SChainRecord.set_self]
    · rw [Web.SChainRecord.set_of_ne here, Web.SChainRecord.set_of_ne here, same]
  · rfl

theorem setOn_yields {record : Web.SChainRecord} {setter : Web.Setter}
    {before after : Seen → Prop}
    (kept : ∀ seen, RpcAccounted settings seen → Held record seen → before seen →
      let copy := record.set setter.column setter.value
      let seen' := seen.saved (copy .failedRpcCount)
      RpcAccounted settings seen' ∧ after seen') :
    (rpcLedger settings).Yields (fun seen => Held record seen ∧ before seen)
      (setOn record setter) fun copy seen => Held copy seen ∧ after seen := by
  let copy := record.set setter.column setter.value
  have saves : (rpcLedger settings).Yields
      (fun seen => Held record seen ∧ before seen)
      (invoke (.saveRecord setter copy)) fun _ seen => Held copy seen ∧ after seen := by
    apply yields_invoke
    intro world world' proposed answer accounted holds _ served
    cases answer with
    | error error =>
        refine ⟨?_, ?_⟩
        · change RpcAccounted settings (seenIn world')
          rw [seen_of_error served]
          exact accounted
        · rintro reply ⟨⟩
    | ok reply =>
        obtain ⟨held, holds⟩ := holds
        obtain ⟨plain, noted⟩ := Host.watch_serve.mp served
        have row := skaled_serve_saveRecord plain
        have failed : Web.Table.saved setter copy world.1.row .failedRpcCount =
            copy .failedRpcCount := saved_counters held
        have notes : world'.2 = ((seenIn world).saved
            (Web.Table.saved setter copy world.1.row .failedRpcCount)).notes := noted
        have seen : seenIn world' = (seenIn world).saved (copy .failedRpcCount) := by
          simp only [seenIn, Seen.of, row, notes, failed]
          rfl
        obtain ⟨kept', holds'⟩ := kept _ accounted held holds
        refine ⟨?_, ?_⟩
        · change RpcAccounted settings (seenIn world')
          rw [seen]
          exact kept'
        · rintro _ ⟨⟩
          change Held copy (seenIn world') ∧ after (seenIn world')
          rw [seen]
          exact ⟨rfl, holds'⟩
  exact yields_bind _ saves fun _ => yields_pure fun _ holds => holds

end Calls

end SkaleAdmin.Monitor
