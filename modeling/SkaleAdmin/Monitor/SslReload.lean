import SkaleAdmin.Library.Serving
import SkaleAdmin.Monitor.RowColumn

/-! The SSL certificate on disk, the one that skaled runs with, and the date that
tells them apart. -/

namespace SkaleAdmin.Monitor

open Interaction
open Interaction.Procedure (Sketch sketch_bind sketch_invoke sketch_pure)
open ColumnKeeper

/-- `version` counts the contents that the file has had. -/
structure Certificate where
  version : Nat
  date : Int
  deriving DecidableEq

/-- `container` tells whether the command of the container names the SSL files, and
`process` which version skaled has loaded.  `starting` holds from where a job starts
skaled to where it reads the date of the files. -/
structure SslWorld where
  row : Web.SChainRecord
  /-- The objects of the row that other threads and processes hold. -/
  objects : Nat → Option Web.SChainRecord := fun _ => none
  certificate : Option Certificate
  container : Option Bool := none
  process : Option (Option Nat) := none
  dockerUp : Bool := true
  starting : Bool := false
  /-- The dates that the files and the row have had. -/
  dates : List Int

inductive SslMove where
  /-- The file of the certificate gets another content. -/
  | replace (date : Int)
  | exit
  /-- Docker or an operator. -/
  | restart
  /-- What a call that raises may have done. -/
  | launch
  | remove
  | setDocker (up : Bool)
  | update (column : Web.Column) (value : column.Value)
  | load (object : Nat)
  | save (object : Nat) (setter : Web.Setter)

namespace SslWorld

variable (world : SslWorld)

def version : Option Nat :=
  world.certificate.map Certificate.version

/-- The certificate is loaded where skaled starts. -/
def booted : SslWorld :=
  match world.container with
  | none => world
  | some true => { world with process := some world.version }
  | some false => { world with process := some none }

/-- `get_ssl_filepath` names the files if there are any. -/
def launched : SslWorld :=
  { world with container := some world.certificate.isSome }.booted

def removed : SslWorld :=
  { world with container := none, process := none }

def isStale : Bool :=
  match world.process, world.certificate with
  | some (some loaded), some certificate => decide (loaded < certificate.version)
  | _, _ => false

def replaced (date : Int) : SslWorld :=
  let version := world.version.elim 0 (· + 1)
  { world with certificate := some { version, date }, dates := date :: world.dates }

/-- Only jobs set `ssl_change_date`. -/
def move : SslMove → Option SslWorld
  | .replace date => some (world.replaced date)
  | .exit => some { world with process := none }
  | .restart => some world.booted
  | .launch => if world.container.isSome then none else some world.launched
  | .remove => some world.removed
  | .setDocker dockerUp => some { world with dockerUp }
  | .update column value =>
      if column = .sslChangeDate then none
      else some { world with row := world.row.set column value }
  | .load object =>
      some { world with
        objects := Function.update world.objects object (some world.row) }
  | .save object setter =>
      match world.objects object with
      | none => none
      | some copy =>
          if setter.column = .sslChangeDate then none
          else
            let copy := copy.set setter.column setter.value
            some { world with
              row := Web.Table.saved setter copy world.row
              objects := Function.update world.objects object (some copy) }

/-- `DockerUtils.restart` passes over an error of Docker. -/
def serve (query : MonitorQuery) (proposed : Except MonitorError query.Reply)
    (world : SslWorld) : Option (Except MonitorError query.Reply × SslWorld) :=
  match query, proposed with
  | _, .error error => some (.error error, world)
  | .loadRecord, .ok _ => some (.ok world.row, world)
  | .saveRecord setter copy, .ok _ =>
      some (.ok (), { world with row := Web.Table.saved setter copy world.row })
  | .isContainerExists .schain, .ok _ => some (.ok world.container.isSome, world)
  | .isContainerRunning .schain, .ok _ => some (.ok world.process.isSome, world)
  | .removeContainer .schain, .ok found =>
      some (.ok found, if found then world.removed else world)
  | .runSchainContainer .., .ok _ =>
      if world.container.isSome then none
      else some (.ok (), { world.launched with starting := true })
  | .restartContainer stuckRpc, .ok _ =>
      let restarted := if world.dockerUp then world.booted else world
      some (.ok (), { restarted with starting := world.starting || !stuckRpc })
  | .sslFilesChangeDate, .ok _ =>
      some (.ok (world.certificate.map Certificate.date), { world with starting := false })
  | _, .ok reply => some (.ok reply, world)

end SslWorld

inductive SslJob where
  | pipeline (settings : SkaledSettings)
  | restart (am : SkaledActionManager)

def SslJob.run : SslJob → MonitorM Unit
  | pipeline settings => runSkaledPipeline settings
  | restart am => am.restartSkaledContainer

def sslHost : Host monitorInterface SslWorld SslMove SslJob
    (Outcome MonitorError Unit × Unit) where
  move := SslWorld.move
  serve := SslWorld.serve
  job job := job.run ()
  begin _ world := { world with starting := false }
  finish world := { world with starting := false }

def isFresh (world : SslWorld) : SslMove → Bool
  | .replace date => !world.dates.contains date
  | _ => true

def isInTime (query : MonitorQuery) (world : SslWorld) : Bool :=
  match query with
  | .sslFilesChangeDate => !(world.starting && world.isStale)
  | _ => true

/-- A file gets a date that neither it nor the row has had, and where a job reads
the date to record it skaled runs with the certificate of the moment. -/
abbrev recordedInTime : Host.Discipline monitorInterface SslWorld SslMove SslJob where
  move world move := isFresh world move = true
  call query _ world := isInTime query world = true

def serveDate (query : MonitorQuery) (world : SslWorld) :
    Except MonitorError query.Reply × SslWorld :=
  match query with
  | .sslFilesChangeDate => (.ok (world.certificate.map Certificate.date), world)
  | _ => (.error .attributeError, world)

/-- `ssl_reload_needed` of the row tells of an older certificate. -/
def ReloadNoticed (world : SslWorld) : Prop :=
  world.isStale = true →
    ((sslReloadNeeded world.row).served serveDate world).1 = .value true

/-! ### Safe dates -/

/-- The date may be recorded. -/
def Safe (date : Int) (world : SslWorld) : Prop :=
  date ∈ world.dates ∧
    ∀ certificate, world.certificate = some certificate → date = certificate.date →
      world.isStale = false

/-- Every date that the row and its objects hold may be recorded. -/
structure Kept (world : SslWorld) : Prop where
  row : Safe (world.row .sslChangeDate) world
  objects : ∀ name copy, world.objects name = some copy →
    Safe (copy .sslChangeDate) world
  files : ∀ certificate, world.certificate = some certificate →
    certificate.date ∈ world.dates

structure SslCalm (world world' : SslWorld) : Prop where
  dates : world'.dates = world.dates
  certificate : world'.certificate = world.certificate
  stale : world'.isStale = true → world.isStale = true

section SslCalm

variable {world world' : SslWorld} {date : Int}

theorem SslCalm.refl (world : SslWorld) : SslCalm world world :=
  ⟨rfl, rfl, fun stale => stale⟩

theorem Safe.of_calm (safe : Safe date world) (calm : SslCalm world world') :
    Safe date world' := by
  constructor
  · rw [calm.dates]
    exact safe.1
  · intro certificate here same
    rw [calm.certificate] at here
    apply Bool.eq_false_iff.mpr
    intro stale
    have fresh := safe.2 certificate here same
    rw [calm.stale stale] at fresh
    cases fresh

theorem Safe.of_replaced (safe : Safe date world) {replacement : Int}
    (fresh : replacement ∉ world.dates) : Safe date (world.replaced replacement) := by
  refine ⟨List.mem_cons_of_mem _ safe.1, ?_⟩
  intro certificate here same
  cases here
  subst same
  exact absurd safe.1 fresh

theorem Kept.of_calm (kept : Kept world) (calm : SslCalm world world')
    (row : world'.row = world.row) (objects : world'.objects = world.objects) :
    Kept world' := by
  constructor
  · rw [row]
    exact kept.row.of_calm calm
  · intro name copy held
    rw [objects] at held
    exact (kept.objects name copy held).of_calm calm
  · intro certificate here
    rw [calm.certificate] at here
    rw [calm.dates]
    exact kept.files certificate here

theorem Kept.of_replaced (kept : Kept world) (fresh : date ∉ world.dates) :
    Kept (world.replaced date) := by
  constructor
  · exact kept.row.of_replaced fresh
  · intro name copy held
    exact (kept.objects name copy held).of_replaced fresh
  · intro certificate here
    cases here
    exact List.mem_cons_self

theorem calm_booted (world : SslWorld) : SslCalm world world.booted := by
  unfold SslWorld.booted
  cases world.container with
  | none => exact SslCalm.refl world
  | some named =>
      cases named with
      | false => exact ⟨rfl, rfl, fun stale => by cases stale⟩
      | true =>
          refine ⟨rfl, rfl, fun stale => ?_⟩
          unfold SslWorld.isStale SslWorld.version at stale
          cases here : world.certificate with
          | none => simp [here] at stale
          | some certificate => simp [here] at stale

theorem calm_launched (world : SslWorld) : SslCalm world world.launched :=
  have calm := calm_booted { world with container := some world.certificate.isSome }
  ⟨calm.dates, calm.certificate, calm.stale⟩

theorem calm_removed (world : SslWorld) : SslCalm world world.removed :=
  ⟨rfl, rfl, fun stale => by cases stale⟩

theorem booted_row (world : SslWorld) : world.booted.row = world.row := by
  unfold SslWorld.booted
  split <;> rfl

theorem booted_objects (world : SslWorld) : world.booted.objects = world.objects := by
  unfold SslWorld.booted
  split <;> rfl

theorem booted_starting (world : SslWorld) : world.booted.starting = world.starting := by
  unfold SslWorld.booted
  split <;> rfl

end SslCalm

section Moves

variable {world world' : SslWorld} {date : Int}

theorem Kept.of_row (kept : Kept world) {row : Web.SChainRecord}
    (safe : Safe (row .sslChangeDate) world) : Kept { world with row } :=
  ⟨safe, kept.objects, kept.files⟩

theorem safe_saved (kept : Kept world) {setter : Web.Setter} {copy : Web.SChainRecord}
    (safe : Safe (copy .sslChangeDate) world) :
    Safe (Web.Table.saved setter copy world.row .sslChangeDate) world := by
  unfold Web.Table.saved
  split
  · by_cases here : setter.column = .sslChangeDate
    · rw [here, Web.SChainRecord.set_self]
      exact safe
    · rw [Web.SChainRecord.set_of_ne (Ne.symm here)]
      exact kept.row
  · exact safe

theorem Kept.of_object (kept : Kept world) {copy : Web.SChainRecord}
    (safe : Safe (copy .sslChangeDate) world) (object : Nat) :
    Kept { world with objects := Function.update world.objects object (some copy) } := by
  refine ⟨kept.row, ?_, kept.files⟩
  intro name held same
  by_cases here : name = object
  · subst here
    simp only [Function.update_self] at same
    cases same
    exact safe
  · simp only [Function.update_of_ne here] at same
    exact kept.objects name held same

theorem calm_of_move {move : SslMove} (moved : world.move move = some world') :
    (∃ date, move = .replace date ∧ world' = world.replaced date) ∨
      SslCalm world world' ∧ (Kept world → Kept world') := by
  cases move with
  | replace date =>
      obtain rfl := Option.some.inj moved
      exact .inl ⟨date, rfl, rfl⟩
  | exit =>
      obtain rfl := Option.some.inj moved
      have calm : SslCalm world { world with process := none } :=
        ⟨rfl, rfl, fun stale => by cases stale⟩
      exact .inr ⟨calm, fun kept => kept.of_calm calm rfl rfl⟩
  | restart =>
      obtain rfl := Option.some.inj moved
      have calm := calm_booted world
      exact .inr ⟨calm, fun kept =>
        kept.of_calm calm (booted_row world) (booted_objects world)⟩
  | launch =>
      obtain ⟨_, taken⟩ := Option.ite_none_left_eq_some.mp moved
      cases taken
      have calm := calm_launched world
      exact .inr ⟨calm, fun kept =>
        kept.of_calm calm (booted_row _) (booted_objects _)⟩
  | remove =>
      obtain rfl := Option.some.inj moved
      have calm := calm_removed world
      exact .inr ⟨calm, fun kept => kept.of_calm calm rfl rfl⟩
  | setDocker up =>
      obtain rfl := Option.some.inj moved
      exact .inr ⟨⟨rfl, rfl, id⟩, fun kept => kept.of_calm ⟨rfl, rfl, id⟩ rfl rfl⟩
  | update column value =>
      obtain ⟨apart, taken⟩ := Option.ite_none_left_eq_some.mp moved
      cases taken
      refine .inr ⟨⟨rfl, rfl, id⟩, fun kept => kept.of_row ?_⟩
      rw [Web.SChainRecord.set_of_ne (Ne.symm apart)]
      exact kept.row
  | load object =>
      obtain rfl := Option.some.inj moved
      exact .inr ⟨⟨rfl, rfl, id⟩, fun kept => kept.of_object kept.row object⟩
  | save object setter =>
      unfold SslWorld.move at moved
      cases held : world.objects object with
      | none => simp [held] at moved
      | some copy =>
          simp only [held] at moved
          obtain ⟨apart, taken⟩ := Option.ite_none_left_eq_some.mp moved
          cases taken
          refine .inr ⟨⟨rfl, rfl, id⟩, fun kept => ?_⟩
          have safe : Safe ((copy.set setter.column setter.value) .sslChangeDate)
              world := by
            rw [Web.SChainRecord.set_of_ne (Ne.symm apart)]
            exact kept.objects object copy held
          exact (kept.of_row (safe_saved kept safe)).of_object safe object

theorem safe_of_move {move : SslMove} (safe : Safe date world)
    (fresh : isFresh world move = true) (moved : world.move move = some world') :
    Safe date world' := by
  rcases calm_of_move moved with ⟨replacement, rfl, rfl⟩ | ⟨calm, _⟩
  · exact safe.of_replaced (by simpa [isFresh] using fresh)
  · exact safe.of_calm calm

theorem kept_of_move {move : SslMove} (kept : Kept world)
    (fresh : isFresh world move = true) (moved : world.move move = some world') :
    Kept world' := by
  rcases calm_of_move moved with ⟨replacement, rfl, rfl⟩ | ⟨_, keeps⟩
  · exact kept.of_replaced (by simpa [isFresh] using fresh)
  · exact keeps kept

theorem starting_of_move {move : SslMove} (moved : world.move move = some world') :
    world'.starting = world.starting := by
  cases move with
  | launch =>
      obtain ⟨_, taken⟩ := Option.ite_none_left_eq_some.mp moved
      cases taken
      exact booted_starting _
  | update column value =>
      obtain ⟨_, taken⟩ := Option.ite_none_left_eq_some.mp moved
      cases taken
      rfl
  | save object setter =>
      unfold SslWorld.move at moved
      cases held : world.objects object with
      | none => simp [held] at moved
      | some copy =>
          simp only [held] at moved
          obtain ⟨_, taken⟩ := Option.ite_none_left_eq_some.mp moved
          cases taken
          rfl
  | restart =>
      obtain rfl := Option.some.inj moved
      exact booted_starting world
  | _ =>
      obtain rfl := Option.some.inj moved
      rfl

end Moves

/-! ### Calls -/

section Calls

variable {world world' : SslWorld} {date : Int} {query : MonitorQuery}
  {proposed answer : Except MonitorError query.Reply}

theorem calm_of_serve (unsaved : ∀ setter copy, query ≠ .saveRecord setter copy)
    (served : world.serve query proposed = some (answer, world')) :
    SslCalm world world' ∧ world'.row = world.row ∧ world'.objects = world.objects := by
  unfold SslWorld.serve at served
  split at served
  case h_3 => exact absurd rfl (unsaved _ _)
  case h_6 type found =>
    cases served
    split
    · exact ⟨calm_removed world, rfl, rfl⟩
    · exact ⟨SslCalm.refl world, rfl, rfl⟩
  case h_7 =>
    obtain ⟨_, taken⟩ := Option.ite_none_left_eq_some.mp served
    cases taken
    have calm := calm_launched world
    exact ⟨⟨calm.dates, calm.certificate, calm.stale⟩, booted_row _, booted_objects _⟩
  case h_8 =>
    cases served
    dsimp only
    split
    · have calm := calm_booted world
      exact ⟨⟨calm.dates, calm.certificate, calm.stale⟩, booted_row _, booted_objects _⟩
    · exact ⟨⟨rfl, rfl, id⟩, rfl, rfl⟩
  all_goals
    cases served
    exact ⟨⟨rfl, rfl, id⟩, rfl, rfl⟩

theorem ssl_serve_loadRecord {proposed : Except MonitorError Web.SChainRecord}
    {record : Web.SChainRecord}
    (served : world.serve .loadRecord proposed = some (.ok record, world')) :
    world' = world ∧ record = world.row := by
  cases proposed with
  | error error => cases served
  | ok given =>
      cases served
      exact ⟨rfl, rfl⟩

theorem kept_of_save {setter : Web.Setter} {copy : Web.SChainRecord}
    {proposed answer : Except MonitorError Unit} (kept : Kept world)
    (safe : Safe (copy .sslChangeDate) world)
    (served : world.serve (.saveRecord setter copy) proposed = some (answer, world')) :
    Kept world' ∧ Safe (copy .sslChangeDate) world' := by
  cases proposed with
  | error error =>
      cases served
      exact ⟨kept, safe⟩
  | ok given =>
      cases served
      exact ⟨kept.of_row (safe_saved kept safe), safe⟩

/-- The date that is read may be recorded unless skaled has become stale since a job
started it. -/
theorem safe_of_date {proposed : Except MonitorError (Option Int)} (kept : Kept world)
    (fresh : world.isStale = false)
    (served : world.serve .sslFilesChangeDate proposed =
      some (.ok (some date), world')) : Safe date world' := by
  cases proposed with
  | error error => cases served
  | ok given =>
      obtain ⟨answered, rfl⟩ := Prod.mk.inj (Option.some.inj served)
      obtain ⟨certificate, here, rfl⟩ :=
        Option.map_eq_some_iff.mp (Except.ok.inj answered)
      exact ⟨kept.files certificate here, fun _ _ _ => fresh⟩

theorem starting_of_serve {reply : query.Reply}
    (starts : (∃ downloadSnapshot startTs snapshotFrom,
        query = .runSchainContainer downloadSnapshot startTs snapshotFrom) ∨
      query = .restartContainer false)
    (served : world.serve query proposed = some (.ok reply, world')) :
    world'.starting = true := by
  rcases starts with ⟨downloadSnapshot, startTs, snapshotFrom, rfl⟩ | rfl
  · cases proposed with
    | error error => cases served
    | ok given =>
        obtain ⟨_, taken⟩ := Option.ite_none_left_eq_some.mp served
        cases taken
        rfl
  · cases proposed with
    | error error => cases served
    | ok given =>
        cases served
        exact Bool.or_true _

end Calls

/-! ### The column -/

theorem sslChangeDate_keeper :
    ColumnKeeper sslHost recordedInTime Kept .sslChangeDate Safe := by
  constructor
  · intro date world moved move _ safe fresh taken
    exact safe_of_move safe fresh taken
  · intro query proposed answer world world' date quiet kept safe _ served
    have unsaved : ∀ setter copy, query ≠ .saveRecord setter copy := by
      intro setter copy same
      rw [same] at quiet
      cases quiet
    obtain ⟨calm, row, objects⟩ := calm_of_serve unsaved served
    exact ⟨kept.of_calm calm row objects, safe.of_calm calm⟩
  · intro proposed record world world' date kept _ served
    obtain ⟨_, rfl⟩ := ssl_serve_loadRecord served
    exact kept.row
  · intro setter copy proposed answer world world' _ kept safe _ served
    exact kept_of_save kept safe served

def SslStarted (date : Int) (world : SslWorld) : Prop :=
  Safe date world ∧ world.starting = true

theorem stable_started (date : Int) :
    sslHost.Stable recordedInTime Kept (SslStarted date) := by
  intro world moved move _ started fresh taken
  refine ⟨safe_of_move started.1 fresh taken, ?_⟩
  rw [starting_of_move taken]
  exact started.2

theorem stable_dates (date : Int) (given : Option Int) :
    sslHost.Stable recordedInTime Kept fun world =>
      Safe date world ∧ ∀ read, given = some read → Safe read world := by
  intro world moved move _ safe fresh taken
  refine ⟨safe_of_move safe.1 fresh taken, ?_⟩
  intro read same
  exact safe_of_move (safe.2 read same) fresh taken

section Actions

variable {α : Type} {record : Web.SChainRecord}

theorem sketch_setSslChangeDate (date : Int) :
    Sketch sslHost recordedInTime Kept (Safe date)
      (setOn record (Web.setSslChangeDate date)) sslChangeDate_keeper.Current
      fun _ => sslChangeDate_keeper.Held := by
  let copy := record.set .sslChangeDate date
  have dated : copy .sslChangeDate = date := Web.SChainRecord.set_self
  have saves : Sketch sslHost recordedInTime Kept (Safe date)
      (invoke (.saveRecord (Web.setSslChangeDate date) copy))
      (fun _ => sslChangeDate_keeper.Current copy)
      fun _ => sslChangeDate_keeper.Held := by
    apply sketch_invoke (sslChangeDate_keeper.stable date)
    · intro world world' proposed answer kept safe _ served
      rw [← dated] at safe
      obtain ⟨kept', safe'⟩ := kept_of_save kept safe served
      refine ⟨kept', ?_⟩
      cases answer with
      | ok reply => exact safe'
      | error error => exact ⟨_, safe'⟩
    · intro reply
      exact stable_current
    · intro error
      exact stable_held
  refine sketch_bind saves (fun _ => ?_) fun _ => stable_held
  exact sketch_pure stable_current fun _ _ safe => safe

theorem sketch_updateSslChangeDate :
    Sketch sslHost recordedInTime Kept (SslStarted (record .sslChangeDate))
      (updateSslChangeDate record) sslChangeDate_keeper.Current
      fun _ => sslChangeDate_keeper.Held := by
  have reads : Sketch sslHost recordedInTime Kept (SslStarted (record .sslChangeDate))
      (invoke .sslFilesChangeDate)
      (fun given world => Safe (record .sslChangeDate) world ∧
        ∀ read, given = some read → Safe read world)
      fun _ => sslChangeDate_keeper.Held := by
    apply sketch_invoke (stable_started _)
    · intro world world' proposed answer kept started inTime served
      obtain ⟨kept', safe'⟩ :=
        sslChangeDate_keeper.quiet rfl kept started.1 inTime served
      refine ⟨kept', ?_⟩
      cases answer with
      | error error => exact ⟨_, safe'⟩
      | ok given =>
          refine ⟨safe', ?_⟩
          rintro read rfl
          apply safe_of_date kept _ served
          have fresh : (!(world.starting && world.isStale)) = true := inTime
          rw [started.2, Bool.true_and, Bool.not_eq_true'] at fresh
          exact fresh
    · intro given
      exact stable_dates _ given
    · intro error
      exact stable_held
  refine sketch_bind reads (fun given => ?_) fun _ => stable_held
  cases given with
  | none => exact sketch_pure (stable_dates _ _) fun _ _ safe => safe.1
  | some date =>
      exact (sketch_setSslChangeDate date).strengthen (stable_dates _ _)
        fun _ _ safe => safe.2 date rfl

theorem sketch_start {query : MonitorQuery} (date : Int)
    (starts : (∃ downloadSnapshot startTs snapshotFrom,
        query = .runSchainContainer downloadSnapshot startTs snapshotFrom) ∨
      query = .restartContainer false) :
    Sketch sslHost recordedInTime Kept (Safe date) (invoke query)
      (fun _ => SslStarted date) fun _ => sslChangeDate_keeper.Held := by
  have unsaved : ∀ setter copy, query ≠ .saveRecord setter copy := by
    rcases starts with ⟨_, _, _, rfl⟩ | rfl <;> simp
  apply sketch_invoke (sslChangeDate_keeper.stable date)
  · intro world world' proposed answer kept safe _ served
    obtain ⟨calm, row, objects⟩ := calm_of_serve unsaved served
    refine ⟨kept.of_calm calm row objects, ?_⟩
    cases answer with
    | ok reply => exact ⟨safe.of_calm calm, starting_of_serve starts served⟩
    | error error => exact ⟨_, safe.of_calm calm⟩
  · intro reply
    exact stable_started date
  · intro error
    exact stable_held

theorem spends_started {query : MonitorQuery}
    (starts : (∃ downloadSnapshot startTs snapshotFrom,
        query = .runSchainContainer downloadSnapshot startTs snapshotFrom) ∨
      query = .restartContainer false)
    {next : Web.SChainRecord → MonitorM α}
    (rest : ∀ record, sslChangeDate_keeper.Spends record (next record)) :
    sslChangeDate_keeper.Spends record
      (invoke query >>= fun _ => updateSslChangeDate record >>= next) := by
  refine sketch_bind (sketch_start _ starts) (fun _ => ?_) fun _ => stable_held
  exact sketch_bind sketch_updateSslChangeDate rest fun _ => stable_held

theorem sketch_loadStarted (date : Int) :
    Sketch sslHost recordedInTime Kept (SslStarted date) (invoke .loadRecord)
      (fun record => SslStarted (record .sslChangeDate))
      fun _ => sslChangeDate_keeper.Held := by
  apply sketch_invoke (stable_started date)
  · intro world world' proposed answer kept started _ served
    cases answer with
    | ok record =>
        obtain ⟨rfl, rfl⟩ := ssl_serve_loadRecord served
        exact ⟨kept, kept.row, started.2⟩
    | error error =>
        obtain ⟨kept', safe'⟩ :=
          sslChangeDate_keeper.quiet rfl kept started.1 rfl served
        exact ⟨kept', _, safe'⟩
  · intro record
    exact stable_started _
  · intro error
    exact stable_held

theorem sketch_restartStuck (date : Int) :
    Sketch sslHost recordedInTime Kept (Safe date) (invoke (.restartContainer true))
      (fun _ => Safe date) fun _ => sslChangeDate_keeper.Held := by
  apply sketch_invoke (sslChangeDate_keeper.stable date)
  · intro world world' proposed answer kept safe _ served
    obtain ⟨calm, row, objects⟩ := calm_of_serve (by simp) served
    refine ⟨kept.of_calm calm row objects, ?_⟩
    cases answer with
    | ok reply => exact safe.of_calm calm
    | error error => exact ⟨_, safe.of_calm calm⟩
  · intro reply
    exact sslChangeDate_keeper.stable date
  · intro error
    exact stable_held

theorem sslChangeDate_actions : sslChangeDate_keeper.Actions := by
  constructor
  · decide
  · intro record options
    apply spends_started (.inl ⟨_, _, _, rfl⟩)
    intro record
    refine passes_bind_spends (passes_setOn ?_) fun record => spends_setOn ?_
    · decide
    · decide
  · intro settings record
    unfold restartFailedContainer
    split
    · apply spends_started (.inr rfl)
      intro record
      refine passes_bind_spends (passes_setOn ?_) fun record => spends_setOn ?_
      · simp [Web.setRestartCount]
      · simp [Web.setFailedRpcCount]
    · exact spends_pure ()
  · intro settings record
    unfold restartStuckContainer
    split
    · have counts : sslChangeDate_keeper.Passes record
          (setOn record (Web.setRestartCount (record .restartCount + 1))) := by
        apply passes_setOn
        simp [Web.setRestartCount]
      exact sketch_bind (sketch_restartStuck _) (fun _ => counts) fun _ => stable_held
    · exact passes_pure

end Actions

/-! ### Jobs -/

theorem keeps_restartSkaledContainer (am : SkaledActionManager) :
    sslChangeDate_keeper.Keeps am.restartSkaledContainer := by
  apply keeps_ite (keeps_invoke rfl)
  · apply Host.Outline.of_exists
    intro date
    refine sketch_bind (sketch_start date (.inr rfl)) (fun _ => ?_) fun _ => stable_held
    refine sketch_bind (sketch_loadStarted date) (fun record => ?_)
      fun _ => stable_held
    refine sketch_bind sketch_updateSslChangeDate (fun record => ?_)
      fun _ => stable_held
    exact sketch_pure stable_current fun _ _ safe => ⟨_, safe⟩
  · exact keeps_skaledContainer sslChangeDate_actions am _ _ _

theorem keeps_sslJob (job : SslJob) : sslChangeDate_keeper.Keeps job.run := by
  cases job with
  | pipeline settings =>
      apply keeps_runSkaledPipeline sslChangeDate_actions
      intro ts
      apply keeps_setRecord
      simp [Web.setRepairDate]
  | restart am => exact keeps_restartSkaledContainer am

theorem reloadNoticed_of_kept {world : SslWorld} (kept : Kept world) :
    ReloadNoticed world := by
  intro stale
  cases here : world.certificate with
  | none =>
      simp [SslWorld.isStale, here] at stale
  | some certificate =>
      have changed : certificate.date ≠ world.row .sslChangeDate := by
        intro same
        have fresh := kept.row.2 certificate here same.symm
        rw [stale] at fresh
        cases fresh
      unfold sslReloadNeeded
      rw [Procedure.served_bind, Procedure.served_invoke]
      simp only [serveDate, here, Option.map_some, Outcome.ofAnswer]
      change Outcome.value (decide (certificate.date ≠ world.row .sslChangeDate)) = _
      rw [decide_eq_true changed]

def SslWorld.start (row : Web.SChainRecord) (certificate : Option Certificate) :
    SslWorld where
  row
  certificate
  dates := row .sslChangeDate :: (certificate.map Certificate.date).toList

theorem kept_start (row : Web.SChainRecord) (certificate : Option Certificate) :
    Kept (SslWorld.start row certificate) := by
  constructor
  · exact ⟨List.mem_cons_self, fun _ _ _ => rfl⟩
  · rintro name copy ⟨⟩
  · rintro given rfl
    exact List.mem_cons_of_mem _ (List.mem_singleton_self _)

/-- Where the dates are recorded in time, `ssl_reload_needed` tells of an older
certificate all along. -/
theorem ssl_reload_noticed (row : Web.SChainRecord) (certificate : Option Certificate)
    (labels : List (Label monitorInterface SslMove SslJob))
    (inTime : Transition.EachStep sslHost.step recordedInTime.Meets
      { world := .start row certificate } labels) :
    Transition.Always sslHost.step (fun config => ReloadNoticed config.world)
      { world := .start row certificate } labels := by
  have settled : ∀ {world : SslWorld}, Kept world →
      Kept { world with starting := false } :=
    fun kept => kept.of_calm ⟨rfl, rfl, id⟩ rfl rfl
  have moves : ∀ {world world' : SslWorld} {move : SslMove}, Kept world →
      recordedInTime.move world move → sslHost.move world move = some world' →
      Kept world' :=
    fun kept fresh moved => kept_of_move kept fresh moved
  apply Host.always_of_outlines moves settled ?_ ?_ (kept_start row certificate) inTime
  · intro world job kept _
    refine ⟨settled kept, _, _, ?_, keeps_sslJob job⟩
    exact ⟨_, (settled kept).row⟩
  · intro config kept
    exact reloadNoticed_of_kept kept

def startingPass (calls : Nat) : List (Label monitorInterface SslMove SslJob) :=
  .start (.pipeline {}) :: List.replicate calls (.call (hostAnswer false))

/-- The certificate is replaced after its date was recorded. -/
theorem later_certificate_noticed :
    Transition.Always sslHost.step (fun config => ReloadNoticed config.world)
      { world := .start newRow (some { version := 0, date := 5 }) }
      (startingPass 40 ++ [.move (.replace 9)]) :=
  ssl_reload_noticed _ _ _ (by decide +kernel)

abbrev freshDates : Host.Discipline monitorInterface SslWorld SslMove SslJob where
  move world move := isFresh world move = true

/-- A certificate that is replaced once skaled has loaded it and before its date is
read is taken for the one that skaled runs with. -/
theorem ssl_reload_can_be_missed :
    ¬ ∀ (row : Web.SChainRecord) (certificate : Option Certificate)
      (labels : List (Label monitorInterface SslMove SslJob)),
      Transition.EachStep sslHost.step freshDates.Meets
        { world := .start row certificate } labels →
      Transition.Always sslHost.step (fun config => ReloadNoticed config.world)
        { world := .start row certificate } labels := by
  intro claim
  let certificate : Certificate := { version := 0, date := 5 }
  let start : Configuration monitorInterface SslWorld
      (Outcome MonitorError Unit × Unit) := { world := .start newRow (some certificate) }
  let labels := startingPass 38 ++
    .move (.replace 9) :: List.replicate 2 (.call (hostAnswer false))
  have fresh : Transition.EachStep sslHost.step freshDates.Meets start labels := by
    decide +kernel
  have played : (Transition.play sslHost.step start labels).map
      (fun config => (config.world.isStale,
        ((sslReloadNeeded config.world.row).served serveDate config.world).1.value?)) =
      some (true, some false) := by
    decide +kernel
  obtain ⟨config, reached, seen⟩ := Option.map_eq_some_iff.mp played
  obtain ⟨stale, needed⟩ := Prod.mk.inj seen
  have noticed := (claim _ _ labels fresh).at_play reached stale
  rw [noticed] at needed
  cases needed

end SkaleAdmin.Monitor
