import SkaleAdmin.Dkg.Structures
import SkaleAdmin.Library.Transition
import Mathlib.Logic.Function.Basic

/-! The database row of an sChain and the objects that hold copies of it. -/

namespace SkaleAdmin.Web

open Dkg

inductive Column where
  | name
  | addedAt
  | dkgStatus
  | isDeleted
  | firstRun
  | newSchain
  | repairMode
  | needsReload
  | backupRun
  | syncConfigRun
  | monitorLastSeen
  | monitorId
  | configVersion
  | snapshotFrom
  | restartCount
  | failedRpcCount
  | sslChangeDate
  | repairDate
  deriving DecidableEq

/-- Dates are counted in seconds. -/
@[reducible] def Column.Value : Column → Type
  | name | configVersion | snapshotFrom => String
  | addedAt | monitorLastSeen | sslChangeDate | repairDate => Int
  | dkgStatus => DKGStatus
  | isDeleted | firstRun | newSchain | repairMode | needsReload | backupRun
  | syncConfigRun => Bool
  | monitorId | restartCount | failedRpcCount => Int

def SChainRecord := (column : Column) → column.Value

def DEFAULT_CONFIG_VERSION : String := "0.0.0"

namespace SChainRecord

/-- The row that `add` creates; `started` is when the module was loaded. -/
def add (name : String) (now started : Int) : SChainRecord
  | .name => name
  | .addedAt => now
  | .dkgStatus => .NOT_STARTED
  | .isDeleted => false
  | .firstRun => true
  | .newSchain => true
  | .repairMode => false
  | .needsReload => false
  | .backupRun => false
  | .syncConfigRun => false
  | .monitorLastSeen => now
  | .monitorId => 0
  | .configVersion => DEFAULT_CONFIG_VERSION
  | .snapshotFrom => ""
  | .restartCount => 0
  | .failedRpcCount => 0
  | .sslChangeDate => started
  | .repairDate => started

def set (record : SChainRecord) (column : Column) (value : column.Value) :
    SChainRecord :=
  Function.update record column value

@[simp] theorem set_self {record : SChainRecord} {column : Column}
    {value : column.Value} : record.set column value column = value :=
  Function.update_self ..

theorem set_of_ne {record : SChainRecord} {column other : Column}
    {value : column.Value} (apart : other ≠ column) :
    record.set column value other = record other :=
  Function.update_of_ne apart ..

theorem eq_set_iff {record other : SChainRecord} {column : Column}
    {value : column.Value} (same : record column = value) :
    record = other.set column value ↔
      ∀ rest, rest ≠ column → record rest = other rest := by
  constructor
  · intro equality rest apart
    rw [equality, set_of_ne apart]
  · intro agree
    funext rest
    by_cases here : rest = column
    · subst here
      rw [set_self, same]
    · rw [set_of_ne here, agree rest here]

end SChainRecord

/-- A setter assigns one column and saves the object, with `only` set just
that column of it. -/
structure Setter where
  column : Column
  value : column.Value
  only : Bool := false

section Setters

def setDkgStatus (val : DKGStatus) : Setter := { column := .dkgStatus, value := val }

def dkgStarted : Setter := setDkgStatus .IN_PROGRESS

def dkgFailed : Setter := setDkgStatus .FAILED

def dkgKeyGenerationError : Setter := setDkgStatus .KEY_GENERATION_ERROR

def dkgDone : Setter := setDkgStatus .DONE

def setDeleted : Setter := { column := .isDeleted, value := true }

def setFirstRun (val : Bool) : Setter :=
  { column := .firstRun, value := val, only := true }

def setBackupRun (val : Bool) : Setter :=
  { column := .backupRun, value := val, only := true }

def setRepairMode (value : Bool) : Setter := { column := .repairMode, value }

def setNewSchain (value : Bool) : Setter := { column := .newSchain, value }

def setNeedsReload (value : Bool) : Setter := { column := .needsReload, value }

def setMonitorLastSeen (value : Int) : Setter :=
  { column := .monitorLastSeen, value }

def setMonitorId (value : Int) : Setter := { column := .monitorId, value }

def setConfigVersion (value : String) : Setter := { column := .configVersion, value }

def setRestartCount (value : Int) : Setter := { column := .restartCount, value }

def setFailedRpcCount (value : Int) : Setter := { column := .failedRpcCount, value }

def setSnapshotFrom (value : String) : Setter := { column := .snapshotFrom, value }

def resetFailedCounters : List Setter := [setRestartCount 0, setFailedRpcCount 0]

def setSslChangeDate (value : Int) : Setter := { column := .sslChangeDate, value }

def setSyncConfigRun (value : Bool) : Setter := { column := .syncConfigRun, value }

def setRepairDate (value : Int) : Setter := { column := .repairDate, value }

end Setters

/-- An object loaded from the row; `pending` is a setter that has assigned its
column but not saved yet. -/
structure Holder where
  copy : SChainRecord
  pending : Option Setter := none

/-- The row, the objects that hold it, and the value that the last setter gave
each column. -/
structure Table (H : Type) where
  stored : SChainRecord
  holders : H → Option Holder
  lastSet : SChainRecord

inductive Access (H : Type) where
  | load (holder : H)
  | assign (holder : H) (setter : Setter)
  | save (holder : H)
  /-- A query that updates a column in place. -/
  | update (column : Column) (value : column.Value)

namespace Table

variable {H : Type} [DecidableEq H]

def start (row : SChainRecord) : Table H where
  stored := row
  holders := fun _ => none
  lastSet := row

def put (table : Table H) (name : H) (holder : Holder) : Table H :=
  { table with holders := Function.update table.holders name (some holder) }

/-- `save()` writes every column of the object, `save(only=[..])` one. -/
def saved (setter : Setter) (copy stored : SChainRecord) : SChainRecord :=
  if setter.only then stored.set setter.column (copy setter.column) else copy

def step (table : Table H) : Access H → Option (Table H)
  | .load name =>
      match table.holders name with
      | some ⟨_, some _⟩ => none
      | _ => some (table.put name { copy := table.stored })
  | .assign name setter =>
      match table.holders name with
      | some ⟨copy, none⟩ =>
          some (table.put name
            { copy := copy.set setter.column setter.value
              pending := some setter })
      | _ => none
  | .save name =>
      match table.holders name with
      | some ⟨copy, some setter⟩ =>
          some { table.put name { copy } with
            stored := saved setter copy table.stored
            lastSet := table.lastSet.set setter.column setter.value }
      | _ => none
  | .update column value =>
      some { table with
        stored := table.stored.set column value
        lastSet := table.lastSet.set column value }

/-- Every column holds the value that the last setter gave it. -/
def Faithful (table : Table H) : Prop :=
  table.stored = table.lastSet

/-- An object that is about to be saved as a whole agrees in its other columns
with what the last setters gave them. -/
def Fresh (table : Table H) : Access H → Prop
  | .save name =>
      ∀ copy setter, table.holders name = some ⟨copy, some setter⟩ →
        setter.only = false →
        ∀ column, column ≠ setter.column → copy column = table.lastSet column
  | _ => True

/-- A pending setter has assigned its value. -/
def Assigned (table : Table H) : Prop :=
  ∀ name copy setter, table.holders name = some ⟨copy, some setter⟩ →
    copy setter.column = setter.value

theorem put_holders (table : Table H) (name other : H) (holder : Holder) :
    (table.put name holder).holders other =
      if other = name then some holder else table.holders other := by
  by_cases same : other = name
  · subst same
    simp [put]
  · simp [put, same]

theorem assigned_put {table : Table H} {name : H} {holder : Holder}
    (assigned : table.Assigned)
    (new : ∀ setter, holder.pending = some setter →
      holder.copy setter.column = setter.value) :
    (table.put name holder).Assigned := by
  intro other copy setter held
  rw [put_holders] at held
  split at held
  · obtain rfl := Option.some.inj held
    exact new setter rfl
  · exact assigned other copy setter held

theorem step_assigned {table table' : Table H} {access : Access H}
    (assigned : table.Assigned) (taken : table.step access = some table') :
    table'.Assigned := by
  cases access with
  | load name =>
      simp only [step] at taken
      split at taken
      · cases taken
      · obtain rfl := Option.some.inj taken
        apply assigned_put assigned
        intro setter absurdity
        cases absurdity
  | assign name setter =>
      simp only [step] at taken
      split at taken
      · obtain rfl := Option.some.inj taken
        apply assigned_put assigned
        intro other same
        obtain rfl := Option.some.inj same
        exact SChainRecord.set_self
      · cases taken
  | save name =>
      simp only [step] at taken
      split at taken
      · obtain rfl := Option.some.inj taken
        apply assigned_put assigned
        intro setter absurdity
        cases absurdity
      · cases taken
  | update column value =>
      obtain rfl := Option.some.inj taken
      exact assigned

/-- A save keeps the row faithful exactly when its object is fresh. -/
theorem step_faithful_iff {table table' : Table H} {access : Access H}
    (assigned : table.Assigned) (faithful : table.Faithful)
    (taken : table.step access = some table') :
    table'.Faithful ↔ table.Fresh access := by
  cases access with
  | load name =>
      simp only [step] at taken
      split at taken
      · cases taken
      · obtain rfl := Option.some.inj taken
        exact iff_of_true faithful trivial
  | assign name setter =>
      simp only [step] at taken
      split at taken
      · obtain rfl := Option.some.inj taken
        exact iff_of_true faithful trivial
      · cases taken
  | save name =>
      simp only [step] at taken
      split at taken
      case h_2 => cases taken
      case h_1 copy setter held =>
        obtain rfl := Option.some.inj taken
        have value := assigned name copy setter held
        have fresh_iff : table.Fresh (.save name) ↔
            (setter.only = false → ∀ column, column ≠ setter.column →
              copy column = table.lastSet column) := by
          constructor
          · intro fresh whole
            exact fresh copy setter held whole
          · intro fresh other otherSetter sameHolder whole
            rw [held] at sameHolder
            cases sameHolder
            exact fresh whole
        rw [fresh_iff]
        change saved setter copy table.stored =
          table.lastSet.set setter.column setter.value ↔ _
        unfold saved
        cases mode : setter.only with
        | true =>
            rw [if_pos rfl, value, show table.stored = table.lastSet from faithful]
            exact iff_of_true rfl fun whole => by cases whole
        | false =>
            rw [if_neg Bool.false_ne_true, SChainRecord.eq_set_iff value]
            exact ⟨fun agree _ => agree, fun agree => agree rfl⟩
  | update column value =>
      obtain rfl := Option.some.inj taken
      refine iff_of_true ?_ trivial
      change table.stored.set column value = table.lastSet.set column value
      rw [show table.stored = table.lastSet from faithful]

/-- No update is lost along any interleaving of loads, setters and saves
exactly when every save of a whole object is of a fresh one. -/
theorem no_lost_update_iff (row : SChainRecord) (accesses : List (Access H)) :
    Transition.Always step Faithful (start row) accesses ↔
      Transition.EachStep step Fresh (start row) accesses := by
  apply Transition.always_iff_eachStep
    (fun assigned _ => step_assigned assigned) step_faithful_iff
  · intro name copy setter held
    cases held
  · rfl

/-- The API asks for a new sync while the skaled pipeline holds a copy of the
row; the pipeline then counts a restart and its save takes the request back. -/
theorem sync_request_can_be_lost :
    ¬ ∀ (row : SChainRecord) (accesses : List (Access Bool)),
      Transition.Always step Faithful (start row) accesses := by
  intro claim
  have always := claim (SChainRecord.add "schain" 0 0)
    [.load true, .load false, .assign true (setSyncConfigRun true), .save true,
      .assign false (setRestartCount 1), .save false]
  have assigned := ((always.2 _ rfl).2 _ rfl).2 _ rfl
  have saved := ((assigned.2 _ rfl).2 _ rfl).2 _ rfl
  have reverted := congrFun saved Column.syncConfigRun
  cases reverted

end Table

end SkaleAdmin.Web
