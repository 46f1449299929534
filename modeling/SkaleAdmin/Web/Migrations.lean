import SkaleAdmin.Library.Interruption
import SkaleAdmin.Web.SChainRecord

/-! The database part of a start of the admin, call by call: `create_tables`, `run_migrations`
and the updates of all rows. -/

namespace SkaleAdmin.Web

open Interaction

/-! ### The table -/

abbrev StoredRow := (column : Column) → Option column.Value

/-- A table without columns is not there. -/
structure StoredTable where
  columns : List Column
  rows : List StoredRow
  missing : columns = [] → rows = []

def modelColumns : List Column :=
  [.name, .addedAt, .dkgStatus, .isDeleted, .firstRun, .newSchain, .repairMode, .needsReload,
    .backupRun, .syncConfigRun, .monitorLastSeen, .monitorId, .configVersion, .snapshotFrom,
    .restartCount, .failedRpcCount, .sslChangeDate, .repairDate]

def StoredRow.put (row : StoredRow) (column : Column) (value : Option column.Value) :
    StoredRow :=
  Function.update row column value

/-- `UPDATE` on one row; a condition on NULL is not met. -/
def StoredRow.update (column : Column) (value : column.Value)
    (condition : StoredRow → Bool) (row : StoredRow) : StoredRow :=
  if condition row then row.put column (some value) else row

def StoredTable.mapRows (table : StoredTable) (change : StoredRow → StoredRow) : StoredTable :=
  { table with
    rows := table.rows.map change
    missing := fun empty => by rw [table.missing empty, List.map_nil] }

def createdTable : StoredTable where
  columns := modelColumns
  rows := []
  missing _ := rfl

/-! ### Calls of the database -/

inductive Field (column : Column) where
  | null
  | default (value : column.Value)

/-- What the rows hold when the column has been added. -/
def Field.value {column : Column} : Field column → Option column.Value
  | null => none
  | default value => some value

def Field.isNull {column : Column} : Field column → Bool
  | null => true
  | default _ => false

inductive Call where
  | tableExists
  | createTable
  | getColumns
  | playhouseMigrate (column : Column) (field : Field column)
  | update (column : Column) (value : column.Value) (condition : StoredRow → Bool)

@[reducible] def Call.Reply : Call → Type
  | tableExists => Bool
  | getColumns => List Column
  | _ => Unit

abbrev database : Interface where
  Query := Call
  Answer := Call.Reply

abbrev DatabaseM := Program database

def pose (call : Call) : DatabaseM call.Reply :=
  .call call .done

/-- What `migrate(migrator.add_column(..))` makes of the table. -/
abbrev Playhouse := (column : Column) → Field column → StoredTable → StoredTable

/-- What the library says of a column that the table has not: it is added behind the others,
with the default of its field in all rows. -/
structure Playhouse.Documented (playhouse : Playhouse) : Prop where
  columns : ∀ column field table, column ∉ table.columns →
    (playhouse column field table).columns = table.columns ++ [column]
  rows : ∀ column field table, column ∉ table.columns →
    (playhouse column field table).rows = table.rows.map fun row => row.put column field.value

def serveCall (playhouse : Playhouse) :
    (call : Call) → StoredTable → call.Reply × StoredTable
  | .tableExists, table => (!table.columns.isEmpty, table)
  | .createTable, _ => ((), createdTable)
  | .getColumns, table => (table.columns, table)
  | .playhouseMigrate column field, table => ((), playhouse column field table)
  | .update column value condition, table =>
      ((), table.mapRows (StoredRow.update column value condition))

/-! ### `web/migrations.py` -/

def findColumn (column : Column) : DatabaseM (Option Column) := do
  let columns ← pose .getColumns
  return columns.find? (· = column)

/-- A call of `add_column`. -/
structure Migration where
  column : Column
  field : Field column

def addColumn (migration : Migration) : DatabaseM Unit := do
  if (← findColumn migration.column).isNone then
    pose (.playhouseMigrate migration.column migration.field)

def addNewSchainField : Migration := ⟨.newSchain, .default true⟩

def addRepairModeField : Migration := ⟨.repairMode, .default false⟩

def addNeedsReloadField : Migration := ⟨.needsReload, .default false⟩

def addMonitorLastSeenField : Migration := ⟨.monitorLastSeen, .null⟩

def addMonitorIdField : Migration := ⟨.monitorId, .default (0 : Int)⟩

def addConfigVersionField : Migration := ⟨.configVersion, .default DEFAULT_CONFIG_VERSION⟩

def addRestartCountField : Migration := ⟨.restartCount, .default (0 : Int)⟩

def addFailedRpcCountField : Migration := ⟨.failedRpcCount, .default (0 : Int)⟩

def addSslChangeDateField (now : Int) : Migration := ⟨.sslChangeDate, .default now⟩

def addFailedSnapshotFrom : Migration := ⟨.snapshotFrom, .default ""⟩

def addBackupRunField : Migration := ⟨.backupRun, .default false⟩

def addSyncConfigRunField : Migration := ⟨.syncConfigRun, .default false⟩

def addRepairDateField (now : Int) : Migration := ⟨.repairDate, .default now⟩

/-- The dates are those of the two calls that take them. -/
def migrations (sslNow repairNow : Int) : List Migration :=
  [addNewSchainField, addRepairModeField, addNeedsReloadField,
    addMonitorLastSeenField, addMonitorIdField, addConfigVersionField,
    addRestartCountField, addFailedRpcCountField,
    addSslChangeDateField sslNow,
    addFailedSnapshotFrom,
    addBackupRunField, addSyncConfigRunField,
    addRepairDateField repairNow]

def addColumns : List Migration → DatabaseM Unit
  | [] => return ()
  | migration :: rest => do
      addColumn migration
      addColumns rest

def runMigrations (sslNow repairNow : Int) : DatabaseM Unit :=
  addColumns (migrations sslNow repairNow)

/-! ### `web/models/schain.py` -/

def createTables : DatabaseM Unit := do
  if !(← pose .tableExists) then
    pose .createTable

def setSchainsFirstRun : DatabaseM Unit :=
  pose (.update .firstRun true fun row => row .firstRun = some false)

def setSchainsBackupRun : DatabaseM Unit :=
  pose (.update .backupRun true fun row => row .backupRun = some false)

/-- Python's `and` of the two conditions is the second of them. -/
def setSchainsSyncConfigRun (chain : String) : DatabaseM Unit :=
  if chain = "all" then
    pose (.update .syncConfigRun true fun row => row .syncConfigRun = some false)
  else
    pose (.update .syncConfigRun true fun row => row .name = some chain)

def setSchainsMonitorId : DatabaseM Unit :=
  pose (.update .monitorId (0 : Int) fun row =>
    match row .monitorId with
    | some monitorId => decide (monitorId ≠ (0 : Int))
    | none => false)

/-! ### A start of the admin -/

structure StartOptions where
  backupRun : Bool := false
  pullConfigForSchain : String := ""
  sslNow : Int
  repairNow : Int

def StartOptions.setBackupRun (options : StartOptions) : DatabaseM Unit :=
  if options.backupRun then setSchainsBackupRun else return ()

def StartOptions.setSyncConfigRun (options : StartOptions) : DatabaseM Unit :=
  if options.pullConfigForSchain = "" then return ()
  else setSchainsSyncConfigRun options.pullConfigForSchain

def init (options : StartOptions) : DatabaseM Unit := do
  createTables
  runMigrations options.sslNow options.repairNow
  setSchainsFirstRun
  setSchainsMonitorId
  options.setBackupRun
  options.setSyncConfigRun

/-- A start that is killed after a number of its calls. -/
structure Start where
  options : StartOptions
  calls : Nat

def Start.stop (playhouse : Playhouse) (start : Start) (table : StoredTable) :
    Option Call × StoredTable :=
  Program.stop (serveCall playhouse) start.calls (init start.options) table

/-- What is left of the table after the starts. -/
def afterStarts (playhouse : Playhouse) : List Start → StoredTable → StoredTable
  | [], table => table
  | start :: starts, table => afterStarts playhouse starts (start.stop playhouse table).2

end SkaleAdmin.Web
