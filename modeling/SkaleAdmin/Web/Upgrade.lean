import SkaleAdmin.Web.Migrations

/-! What the table goes through while the admin of a later release is started, and killed,
again and again. -/

namespace SkaleAdmin.Web

open Interaction Interaction.Program

/-! ### What no call takes away -/

/-- The columns that a start sets in all rows. -/
def resetColumns : List Column := [.firstRun, .monitorId, .backupRun, .syncConfigRun]

/-- The cells of the columns are the same, up to those that a start sets, and none of them is
emptied. -/
def KeepsCells (columns : List Column) (row row' : StoredRow) : Prop :=
  ∀ column ∈ columns, (column ∉ resetColumns → row' column = row column) ∧
    (row column ≠ none → row' column ≠ none)

/-- The table has gained columns at most, which are filled, and each row is there still. -/
structure Extends (table table' : StoredTable) : Prop where
  columns : table.columns <+: table'.columns
  rows : List.Forall₂ (KeepsCells table.columns) table.rows table'.rows
  filled : ∀ column ∈ table'.columns, column ∉ table.columns → column ≠ .monitorLastSeen →
    ∀ row ∈ table'.rows, row column ≠ none

variable {table middle table' : StoredTable} {column : Column} {playhouse : Playhouse}

theorem keepsCells_refl (columns : List Column) (row : StoredRow) : KeepsCells columns row row :=
  fun _ _ => ⟨fun _ => rfl, id⟩

theorem Extends.refl (table : StoredTable) : Extends table table where
  columns := List.prefix_refl _
  rows := List.forall₂_same.mpr fun row _ => keepsCells_refl _ row
  filled _ there absent := absurd there absent

theorem exists_row {property : StoredRow → StoredRow → Prop} {rows rows' : List StoredRow}
    (related : List.Forall₂ property rows rows') {row' : StoredRow} (member : row' ∈ rows') :
    ∃ row ∈ rows, property row row' := by
  induction related with
  | nil => cases member
  | cons first _ ih =>
      rcases List.mem_cons.mp member with rfl | later
      · exact ⟨_, List.mem_cons_self, first⟩
      · obtain ⟨row, there, here⟩ := ih later
        exact ⟨row, List.mem_cons_of_mem _ there, here⟩

theorem Extends.trans (first : Extends table middle) (second : Extends middle table') :
    Extends table table' where
  columns := first.columns.trans second.columns
  rows := by
    have both : ∀ {rows between rows' : List StoredRow},
        List.Forall₂ (KeepsCells table.columns) rows between →
        List.Forall₂ (KeepsCells middle.columns) between rows' →
        List.Forall₂ (KeepsCells table.columns) rows rows' := by
      intro rows between rows' here
      induction here generalizing rows' with
      | nil =>
          intro later
          cases later
          exact .nil
      | cons row _ ih =>
          intro later
          cases later with
          | cons row' rest =>
              refine .cons (fun column member => ?_) (ih rest)
              have within := first.columns.subset member
              obtain ⟨same, kept⟩ := row column member
              obtain ⟨same', kept'⟩ := row' column within
              exact ⟨fun apart => (same' apart).trans (same apart), fun some => kept' (kept some)⟩
    exact both first.rows second.rows
  filled column there absent notSeen row member := by
    by_cases between : column ∈ middle.columns
    · obtain ⟨row', here, cells⟩ := exists_row second.rows member
      exact (cells column between).2 (first.filled column between absent notSeen row' here)
    · exact second.filled column there between notSeen row member

theorem Extends.mem (extends_ : Extends table table') (member : column ∈ table.columns) :
    column ∈ table'.columns :=
  extends_.columns.subset member

theorem extends_composes : Composes (I := database) fun table stopped =>
    Extends table stopped.2 :=
  fun _ _ _ first second => first.trans second

/-! ### The calls -/

theorem put_self {row : StoredRow} {value : Option column.Value} :
    row.put column value column = value :=
  Function.update_self ..

theorem put_of_ne {row : StoredRow} {other : Column} {value : Option column.Value}
    (apart : other ≠ column) : row.put column value other = row other :=
  Function.update_of_ne apart ..

theorem update_of_ne {row : StoredRow} {other : Column} {value : column.Value}
    {condition : StoredRow → Bool} (apart : other ≠ column) :
    row.update column value condition other = row other := by
  unfold StoredRow.update
  split
  · exact put_of_ne apart
  · rfl

theorem update_ne_none {row : StoredRow} {other : Column} {value : column.Value}
    {condition : StoredRow → Bool} (some : row other ≠ none) :
    row.update column value condition other ≠ none := by
  by_cases here : other = column
  · subst here
    unfold StoredRow.update
    split
    · rw [put_self]
      exact nofun
    · exact some
  · rwa [update_of_ne here]

theorem extends_update {reset : Column} {value : reset.Value} {condition : StoredRow → Bool}
    (isReset : reset ∈ resetColumns) (table : StoredTable) :
    Extends table (table.mapRows (StoredRow.update reset value condition)) where
  columns := List.prefix_refl _
  rows := by
    refine List.forall₂_map_right_iff.mpr (List.forall₂_same.mpr fun row _ column _ => ?_)
    refine ⟨fun apart => update_of_ne ?_, update_ne_none⟩
    rintro rfl
    exact apart isReset
  filled _ there absent := absurd there absent

theorem leaves_update {reset : Column} {value : reset.Value} {condition : StoredRow → Bool}
    (isReset : reset ∈ resetColumns) :
    Leaves (serveCall playhouse) (fun table stopped => Extends table stopped.2)
      (pose (.update reset value condition)) :=
  leaves_call .refl fun table => extends_update isReset table

/-! ### A migration -/

theorem find_column (column : Column) (columns : List Column) :
    (columns.find? (· = column)).isNone = true ↔ column ∉ columns := by
  rw [Option.isNone_iff_eq_none, List.find?_eq_none]
  constructor
  · intro apart member
    exact apart column member (decide_eq_true rfl)
  · rintro absent other member same
    exact absent (of_decide_eq_true same ▸ member)

def addAbsent (migration : Migration) (found : Option Column) : DatabaseM Unit :=
  if found.isNone then pose (.playhouseMigrate migration.column migration.field) else .done ()

theorem stop_addColumn (migration : Migration) (calls : Nat) (table : StoredTable) :
    stop (serveCall playhouse) (calls + 1) (addColumn migration) table =
      if migration.column ∈ table.columns then (none, table)
      else stop (serveCall playhouse) calls
        (pose (.playhouseMigrate migration.column migration.field)) table := by
  have looked : stop (serveCall playhouse) (calls + 1) (addColumn migration) table =
      stop (serveCall playhouse) calls
        (addAbsent migration (table.columns.find? (· = migration.column))) table := rfl
  rw [looked, addAbsent]
  by_cases missing : (table.columns.find? (· = migration.column)).isNone = true
  · rw [if_pos missing, if_neg ((find_column _ _).mp missing)]
  · have there := not_not.mp (mt (find_column _ _).mpr missing)
    rw [if_neg missing, if_pos there, stop_done]

theorem extends_playhouse (documented : playhouse.Documented) {field : Field column}
    (filled : column ≠ .monitorLastSeen → field ≠ .null) (absent : column ∉ table.columns) :
    Extends table (playhouse column field table) where
  columns := by
    rw [documented.columns column field table absent]
    exact List.prefix_append _ _
  rows := by
    rw [documented.rows column field table absent]
    refine List.forall₂_map_right_iff.mpr (List.forall₂_same.mpr fun row _ other member => ?_)
    have apart : other ≠ column := by
      rintro rfl
      exact absent member
    rw [put_of_ne apart]
    exact ⟨fun _ => rfl, id⟩
  filled other there unlisted notSeen row member := by
    rw [documented.columns column field table absent, List.mem_append, List.mem_singleton] at there
    obtain rfl := there.resolve_left unlisted
    rw [documented.rows other field table absent] at member
    obtain ⟨before, _, rfl⟩ := List.mem_map.mp member
    rw [put_self]
    cases field with
    | null => exact absurd rfl (filled notSeen)
    | default value => exact nofun

theorem leaves_addColumn (documented : playhouse.Documented) (migration : Migration)
    (filled : migration.column ≠ .monitorLastSeen → migration.field ≠ .null) :
    Leaves (serveCall playhouse) (fun table stopped => Extends table stopped.2 ∧
      (stopped.1 = none → migration.column ∈ stopped.2.columns)) (addColumn migration) := by
  intro calls table
  cases calls with
  | zero => exact ⟨.refl table, nofun⟩
  | succ calls =>
      rw [stop_addColumn]
      split
      · rename_i there
        exact ⟨.refl table, fun _ => there⟩
      · rename_i absent
        cases calls with
        | zero => exact ⟨.refl table, nofun⟩
        | succ calls =>
            rw [pose, stop_succ_call, stop_done]
            refine ⟨extends_playhouse documented filled absent, fun _ => ?_⟩
            have columns := documented.columns _ migration.field table absent
            change migration.column ∈ (playhouse _ _ table).columns
            rw [columns]
            exact List.mem_append_right _ (List.mem_singleton_self _)

theorem leaves_addColumns (documented : playhouse.Documented) {list : List Migration}
    (filled : ∀ migration ∈ list, migration.column ≠ .monitorLastSeen →
      migration.field ≠ .null) :
    Leaves (serveCall playhouse) (fun table stopped => Extends table stopped.2 ∧
      (stopped.1 = none → ∀ migration ∈ list, migration.column ∈ stopped.2.columns))
      (addColumns list) := by
  induction list with
  | nil => exact leaves_done fun table => ⟨.refl table, fun _ _ member => nomatch member⟩
  | cons migration rest ih =>
      refine Leaves.sequence (fun held => ⟨held.1, nofun⟩) ?_
        (leaves_addColumn documented migration (filled migration List.mem_cons_self)) fun _ =>
        ih fun other member => filled other (List.mem_cons_of_mem _ member)
      rintro table middle stopped ⟨first, there⟩ ⟨second, others⟩
      refine ⟨first.trans second, fun ended other member => ?_⟩
      rcases List.mem_cons.mp member with rfl | later
      · exact second.mem (there rfl)
      · exact others ended other later

theorem nullable_migrations (sslNow repairNow : Int) :
    (migrations sslNow repairNow).filter (fun migration => migration.field.isNull) =
      [addMonitorLastSeenField] :=
  rfl

theorem filled_of_migrations {sslNow repairNow : Int} {migration : Migration}
    (member : migration ∈ migrations sslNow repairNow)
    (notSeen : migration.column ≠ .monitorLastSeen) : migration.field ≠ .null := by
  intro null
  have nullable : migration ∈
      (migrations sslNow repairNow).filter fun migration => migration.field.isNull :=
    List.mem_filter.mpr ⟨member, by rw [null]; rfl⟩
  rw [nullable_migrations, List.mem_singleton] at nullable
  subst nullable
  exact notSeen rfl

/-! ### A start -/

theorem stop_createTables (calls : Nat) (table : StoredTable) :
    stop (serveCall playhouse) (calls + 1) createTables table =
      if table.columns = [] then stop (serveCall playhouse) calls (pose .createTable) table
      else (none, table) := by
  have looked : stop (serveCall playhouse) (calls + 1) createTables table =
      stop (serveCall playhouse) calls
        (if (!(!table.columns.isEmpty)) = true then pose .createTable else .done ()) table := rfl
  rw [looked]
  cases table.columns with
  | nil => rfl
  | cons first columns =>
      rw [if_neg (List.cons_ne_nil _ _)]
      exact stop_done calls () table

theorem leaves_createTables :
    Leaves (serveCall playhouse) (fun table stopped => Extends table stopped.2) createTables := by
  intro calls table
  cases calls with
  | zero => exact .refl table
  | succ calls =>
      rw [stop_createTables]
      split
      · rename_i empty
        cases calls with
        | zero => exact .refl table
        | succ calls =>
            rw [pose, stop_succ_call, stop_done]
            have unread := table.missing empty
            refine ⟨?_, ?_, fun _ _ _ _ row member => nomatch member⟩
            · rw [empty]
              exact List.nil_prefix
            · rw [unread]
              exact .nil
      · exact .refl table

/-- `init` after `create_tables`. -/
def upgrade (options : StartOptions) : DatabaseM Unit := do
  runMigrations options.sslNow options.repairNow
  setSchainsFirstRun
  setSchainsMonitorId
  options.setBackupRun
  options.setSyncConfigRun

theorem leaves_upgrade (documented : playhouse.Documented) (options : StartOptions) :
    Leaves (serveCall playhouse) (fun table stopped => Extends table stopped.2)
      (upgrade options) := by
  have filled : ∀ migration ∈ migrations options.sslNow options.repairNow,
      migration.column ≠ .monitorLastSeen → migration.field ≠ .null :=
    fun _ => filled_of_migrations
  have migrated := leaves_addColumns documented filled
  refine Leaves.bind extends_composes (migrated.mono And.left) fun _ => ?_
  refine Leaves.bind extends_composes (leaves_update (by decide)) fun _ => ?_
  refine Leaves.bind extends_composes (leaves_update (by decide)) fun _ => ?_
  refine Leaves.bind extends_composes ?_ fun _ => ?_
  · unfold StartOptions.setBackupRun
    split
    · exact leaves_update (by decide)
    · exact leaves_done .refl
  · unfold StartOptions.setSyncConfigRun setSchainsSyncConfigRun
    split
    · exact leaves_done .refl
    · split
      · exact leaves_update (by decide)
      · exact leaves_update (by decide)

theorem leaves_init (documented : playhouse.Documented) (options : StartOptions) :
    Leaves (serveCall playhouse) (fun table stopped => Extends table stopped.2) (init options) :=
  Leaves.bind extends_composes leaves_createTables fun _ => leaves_upgrade documented options

theorem extends_afterStarts (documented : playhouse.Documented) (starts : List Start)
    (table : StoredTable) : Extends table (afterStarts playhouse starts table) := by
  induction starts generalizing table with
  | nil => exact .refl table
  | cons start starts ih =>
      exact (leaves_init documented start.options start.calls table).trans (ih _)

/-! ### A start that ends -/

def baseColumns : List Column := [.name, .addedAt, .dkgStatus, .isDeleted, .firstRun]

theorem mem_base_or_migrated (sslNow repairNow : Int) (column : Column) :
    column ∈ baseColumns ∨ ∃ migration ∈ migrations sslNow repairNow,
      migration.column = column := by
  have listed : ∀ column : Column, column ∈ baseColumns ∨
      column ∈ (migrations sslNow repairNow).map Migration.column := by
    have undated : (migrations sslNow repairNow).map Migration.column =
        (migrations 0 0).map Migration.column := rfl
    rw [undated]
    intro column
    cases column <;> decide
  rw [← List.mem_map]
  exact listed column

/-- The table is not there yet, or is that of some release. -/
def Founded (table : StoredTable) : Prop :=
  table.columns = [] ∨ ∀ column ∈ baseColumns, column ∈ table.columns

theorem ends_createTables :
    Leaves (serveCall playhouse)
      (Ends fun table table' => Founded table → ∀ column ∈ baseColumns, column ∈ table'.columns)
      createTables := by
  intro calls table ended founded
  cases calls with
  | zero => cases ended
  | succ calls =>
      rw [stop_createTables] at ended ⊢
      split at ended
      · rename_i empty
        rw [if_pos empty]
        cases calls with
        | zero => cases ended
        | succ calls =>
            rw [pose, stop_succ_call, stop_done]
            have created : ∀ column ∈ baseColumns, column ∈ modelColumns := by decide
            exact created
      · rename_i there
        rw [if_neg there]
        exact founded.resolve_left there

/-- The flags are as a start sets them; NULL is not set. -/
structure IsReset (table : StoredTable) : Prop where
  firstRun : ∀ row ∈ table.rows, row .firstRun ≠ some false
  monitorId : ∀ row ∈ table.rows, ∀ monitorId : Int,
    row .monitorId = some monitorId → monitorId = 0

theorem ends_update {post : StoredTable → StoredTable → Prop} {reset : Column}
    {value : reset.Value} {condition : StoredRow → Bool}
    (updated : ∀ table, post table (table.mapRows (StoredRow.update reset value condition))) :
    Leaves (serveCall playhouse) (Ends post) (pose (.update reset value condition)) :=
  leaves_call (fun _ unended => nomatch unended) fun table _ => updated table

structure Spares (flags : List Column) (table table' : StoredTable) : Prop where
  columns : table'.columns = table.columns
  rows : ∀ row' ∈ table'.rows, ∃ row ∈ table.rows, ∀ flag ∈ flags, row' flag = row flag

theorem spares_refl (flags : List Column) (table : StoredTable) : Spares flags table table :=
  ⟨rfl, fun row member => ⟨row, member, fun _ _ => rfl⟩⟩

theorem spares_update {flags : List Column} {reset : Column} {value : reset.Value}
    {condition : StoredRow → Bool} (apart : reset ∉ flags) (table : StoredTable) :
    Spares flags table (table.mapRows (StoredRow.update reset value condition)) where
  columns := rfl
  rows row' member := by
    obtain ⟨row, there, rfl⟩ := List.mem_map.mp member
    refine ⟨row, there, fun flag listed => update_of_ne ?_⟩
    rintro rfl
    exact apart listed

theorem Spares.trans {flags : List Column} (first : Spares flags table middle)
    (second : Spares flags middle table') : Spares flags table table' where
  columns := second.columns.trans first.columns
  rows row' member := by
    obtain ⟨between, there, same⟩ := second.rows row' member
    obtain ⟨row, found, kept⟩ := first.rows between there
    exact ⟨row, found, fun flag listed => (same flag listed).trans (kept flag listed)⟩

theorem IsReset.of_spares (isReset : IsReset table)
    (spares : Spares [.firstRun, .monitorId] table table') : IsReset table' where
  firstRun row' member := by
    obtain ⟨row, there, same⟩ := spares.rows row' member
    rw [same .firstRun (by decide)]
    exact isReset.firstRun row there
  monitorId row' member monitorId held := by
    obtain ⟨row, there, same⟩ := spares.rows row' member
    rw [same .monitorId (by decide)] at held
    exact isReset.monitorId row there monitorId held

theorem ends_setSchainsFirstRun :
    Leaves (serveCall playhouse)
      (Ends fun table table' => table'.columns = table.columns ∧
        ∀ row ∈ table'.rows, row .firstRun ≠ some false)
      setSchainsFirstRun := by
  refine ends_update fun table => ⟨rfl, fun row member => ?_⟩
  obtain ⟨before, _, rfl⟩ := List.mem_map.mp member
  unfold StoredRow.update
  split
  · rw [put_self]
    exact nofun
  · rename_i unchosen
    exact fun held => unchosen (decide_eq_true held)

theorem ends_setSchainsMonitorId :
    Leaves (serveCall playhouse)
      (Ends fun table table' => Spares [.firstRun] table table' ∧
        ∀ row ∈ table'.rows, ∀ monitorId : Int, row .monitorId = some monitorId → monitorId = 0)
      setSchainsMonitorId := by
  refine ends_update fun table => ⟨spares_update (by decide) table, fun row member => ?_⟩
  obtain ⟨before, _, rfl⟩ := List.mem_map.mp member
  intro monitorId
  unfold StoredRow.update
  split
  · rw [put_self]
    exact fun held => (Option.some.inj held).symm
  · rename_i unchosen
    intro held
    dsimp only at unchosen
    rw [held] at unchosen
    exact not_not.mp fun nonzero => unchosen (decide_eq_true nonzero)

theorem ends_setBackupRun (options : StartOptions) :
    Leaves (serveCall playhouse) (Ends (Spares [.firstRun, .monitorId])) options.setBackupRun := by
  unfold StartOptions.setBackupRun
  split
  · exact ends_update fun table => spares_update (by decide) table
  · exact leaves_done fun table _ => spares_refl _ table

theorem ends_setSyncConfigRun (options : StartOptions) :
    Leaves (serveCall playhouse) (Ends (Spares [.firstRun, .monitorId]))
      options.setSyncConfigRun := by
  unfold StartOptions.setSyncConfigRun setSchainsSyncConfigRun
  split
  · exact leaves_done fun table _ => spares_refl _ table
  · split
    · exact ends_update fun table => spares_update (by decide) table
    · exact ends_update fun table => spares_update (by decide) table

/-- A start that ends leaves every column of the model, and the flags of all rows reset. -/
theorem ends_init (documented : playhouse.Documented) (options : StartOptions) :
    Leaves (serveCall playhouse)
      (Ends fun table table' => Founded table →
        (∀ column, column ∈ table'.columns) ∧ IsReset table')
      (init options) := by
  have unset : Leaves (serveCall playhouse) (Ends (Spares [.firstRun, .monitorId]))
      (options.setBackupRun.bind fun _ => options.setSyncConfigRun) :=
    ends_bind (fun first second => first.trans second) (ends_setBackupRun options) fun _ =>
      ends_setSyncConfigRun options
  have numbered : Leaves (serveCall playhouse)
      (Ends fun table table' => table'.columns = table.columns ∧
        ((∀ row ∈ table.rows, row .firstRun ≠ some false) → IsReset table'))
      (setSchainsMonitorId.bind fun _ =>
        options.setBackupRun.bind fun _ => options.setSyncConfigRun) := by
    refine ends_bind ?_ ends_setSchainsMonitorId fun _ => unset
    rintro table middle table' ⟨spares, zero⟩ later
    refine ⟨later.columns.trans spares.columns, fun first => ?_⟩
    refine IsReset.of_spares ⟨fun row' member => ?_, zero⟩ later
    obtain ⟨row, there, same⟩ := spares.rows row' member
    rw [same .firstRun (List.mem_singleton_self _)]
    exact first row there
  have flagged : Leaves (serveCall playhouse)
      (Ends fun table table' => table'.columns = table.columns ∧ IsReset table')
      (setSchainsFirstRun.bind fun _ => setSchainsMonitorId.bind fun _ =>
        options.setBackupRun.bind fun _ => options.setSyncConfigRun) := by
    refine ends_bind ?_ ends_setSchainsFirstRun fun _ => numbered
    rintro table middle table' ⟨same, first⟩ ⟨later, reset⟩
    exact ⟨later.trans same, reset first⟩
  have migrated : Leaves (serveCall playhouse)
      (Ends fun table table' => (∀ column ∈ baseColumns, column ∈ table.columns) →
        (∀ column, column ∈ table'.columns) ∧ IsReset table')
      (upgrade options) := by
    have added : Leaves (serveCall playhouse)
        (Ends fun table table' => Extends table table' ∧
          ∀ migration ∈ migrations options.sslNow options.repairNow,
            migration.column ∈ table'.columns)
        (runMigrations options.sslNow options.repairNow) :=
      (leaves_addColumns documented fun _ member => filled_of_migrations member).mono
        fun held ended => ⟨held.1, held.2 ended⟩
    refine ends_bind ?_ added fun _ => flagged
    rintro table middle table' ⟨extends_, added⟩ ⟨same, reset⟩ base
    refine ⟨fun column => ?_, reset⟩
    rw [same]
    rcases mem_base_or_migrated options.sslNow options.repairNow column with
      listed | ⟨migration, member, rfl⟩
    · exact extends_.mem (base column listed)
    · exact added migration member
  refine ends_bind ?_ ends_createTables fun _ => migrated
  exact fun based complete founded => complete (based founded)

theorem founded_createTables :
    Leaves (serveCall playhouse) (fun table stopped => Founded table → Founded stopped.2)
      createTables := by
  intro calls table founded
  cases calls with
  | zero => exact founded
  | succ calls =>
      rw [stop_createTables]
      split
      · cases calls with
        | zero => exact founded
        | succ calls =>
            rw [pose, stop_succ_call, stop_done]
            have created : ∀ column ∈ baseColumns, column ∈ modelColumns := by decide
            exact .inr created
      · exact founded

theorem founded_afterStarts (documented : playhouse.Documented) (starts : List Start)
    (founded : Founded table) :
    Founded (afterStarts playhouse starts table) := by
  have kept : ∀ options, Leaves (serveCall playhouse)
      (fun table stopped => Founded table → Founded stopped.2) (init options) := by
    intro options
    refine (founded_createTables.and ends_createTables).sequence (fun both => both.1) ?_
      fun _ => leaves_upgrade documented options
    intro table middle stopped both extends_ founded
    exact .inr fun column listed => extends_.mem (both.2 rfl founded column listed)
  induction starts generalizing table with
  | nil => exact founded
  | cons start starts ih => exact ih (kept start.options start.calls table founded)

/-- However often the starts of later releases are killed between two calls, they take nothing
away and leave no new column empty; and after one that ends the table has every column of the
model, with the flags of all rows reset. -/
theorem upgrade_of_starts (documented : playhouse.Documented) (starts : List Start)
    (last : Start) (founded : Founded table)
    (ended : (last.stop playhouse (afterStarts playhouse starts table)).1 = none) :
    Extends table (afterStarts playhouse starts table) ∧
      Extends table (last.stop playhouse (afterStarts playhouse starts table)).2 ∧
      (∀ column, column ∈ (last.stop playhouse (afterStarts playhouse starts table)).2.columns) ∧
      IsReset (last.stop playhouse (afterStarts playhouse starts table)).2 := by
  obtain ⟨complete, reset⟩ := ends_init documented last.options last.calls
    (afterStarts playhouse starts table) ended (founded_afterStarts documented starts founded)
  have earlier := extends_afterStarts documented starts table
  exact ⟨earlier, earlier.trans (leaves_init documented last.options last.calls _), complete, reset⟩

/-! ### An upgrade that is killed -/

def addsLast : Playhouse := fun column field table =>
  { table.mapRows fun row => row.put column field.value with
    columns := table.columns ++ [column]
    missing := fun empty => by simp at empty }

theorem addsLast_documented : Playhouse.Documented addsLast where
  columns _ _ _ _ := rfl
  rows _ _ _ _ := rfl

def firstRelease : StoredTable where
  columns := baseColumns
  rows := [fun
    | .name => some "schain"
    | .addedAt => some (1 : Int)
    | .dkgStatus => some .DONE
    | .isDeleted => some false
    | .firstRun => some false
    | _ => none]
  missing := nofun

def killedStart : Start where
  options := { sslNow := 5, repairNow := 5 }
  calls := 6

def wholeStart : Start where
  options := { sslNow := 9, repairNow := 9 }
  calls := 100

theorem firstRelease_upgraded :
    let killed := afterStarts addsLast [killedStart] firstRelease
    killed.columns = baseColumns ++ [.newSchain, .repairMode] ∧
      Extends firstRelease killed ∧
      Extends firstRelease (wholeStart.stop addsLast killed).2 ∧
      (∀ column, column ∈ (wholeStart.stop addsLast killed).2.columns) ∧
      IsReset (wholeStart.stop addsLast killed).2 :=
  ⟨by decide, upgrade_of_starts addsLast_documented [killedStart] wholeStart
    (.inr fun _ listed => listed) (by decide)⟩

end SkaleAdmin.Web
