import SkaleAdmin.Monitor.SkaledFootprint

/-! The volume that a repair has removed, and what the calls of a skaled pass do to
it. -/

namespace SkaleAdmin.Monitor

open Interaction PyText Json Config
open Interaction.Procedure (calls_bind calls_invoke)
open Interaction.Ledger (yields_pure yields_raise yields_bind yields_of_calls
  yields_invoke)

def saysYes : Evaluated Bool → Bool
  | .ok value => value
  | .error _ => false

/-- There is a status, and it requests a repair after `repairTs`. -/
def StatusFile.requestsRepair (repairTs : Int) (status : StatusFile) : Bool :=
  status.isFound && saysYes (status.requestsRepairAfter repairTs)

def StatusFile.needsRepair (status : StatusFile) : Bool :=
  status.isFound && saysYes status.clearDataDir && saysYes status.startFromSnapshot

/-- `pending`: a removed volume waits for a start from a snapshot, `plainStart`:
skaled was started in another way meanwhile. -/
structure RepairNotes where
  pending : Bool := false
  plainStart : Bool := false
  /-- By what the node CLI's status said last. -/
  requested : Bool := false
  /-- The removal answered a request. -/
  byRequest : Bool := false
  /-- The repair date of the row at the removal. -/
  date : Int := 0
  /-- The volume was created anew. -/
  created : Bool := false

def repairWatch (settings : SkaledSettings) :
    Host.Watch monitorInterface SkaledWorld SkaledMove Unit RepairNotes where
  call
    | .readNodeCliStatus, .ok status, world, notes =>
        { notes with
          requested :=
            status.requestsRepair (world.row .repairDate - settings.utcOffset) }
    | .removeVolume, .ok _, world, notes =>
        { notes with
          pending := true
          byRequest := notes.requested
          date := world.row .repairDate
          created := false }
    | .createDataVolume, .ok _, _, notes => { notes with created := true }
    | .runSchainContainer true _ _, .ok _, _, notes =>
        { notes with pending := false }
    | .runSchainContainer false _ _, .ok _, _, notes =>
        { notes with plainStart := notes.plainStart || notes.pending }
    | .restartContainer _, .ok _, world, notes =>
        { notes with
          plainStart := notes.plainStart || (notes.pending && world.container) }
    | _, _, _, notes => notes

abbrev RepairWorld := SkaledWorld × RepairNotes

def repairHost (settings : SkaledSettings) :=
  (skaledHost settings).watch (repairWatch settings)

/-- While a removed volume waits, what the repair was made for is still there: the
request of the node CLI, or else the need that skaled has stated; skaled has not
reached its exit time; and Docker knows what was created and what was not. -/
def causeLasts (settings : SkaledSettings) : (query : MonitorQuery) →
    Except MonitorError query.Reply → RepairWorld → Bool
  | .readNodeCliStatus, .ok status, (_, notes) =>
      !notes.pending || !notes.byRequest ||
        status.requestsRepair (notes.date - settings.utcOffset)
  | .readSkaledStatus, .ok status, (_, notes) =>
      !notes.pending ||
        (!saysYes status.exitTimeReached && (notes.byRequest || status.needsRepair))
  | .getAutomaticRepairOption, .ok automatic, (_, notes) =>
      !notes.pending || notes.byRequest || automatic
  | .isVolumeExists, .ok found, (_, notes) => !notes.pending || found == notes.created
  | .isContainerRunning .schain, .ok running, (world, _) => !running || world.container
  | _, _, _ => true

def repairDateStays : RepairWorld → SkaledMove → Bool
  | (_, notes), .update .repairDate _ => !notes.pending
  | _, _ => true

abbrev repairDiscipline (settings : SkaledSettings) :
    Host.Discipline monitorInterface RepairWorld SkaledMove Unit :=
  .ofTests (causeLasts settings) repairDateStays

/-- Nothing uses the removed volume yet, and its repair is not dated yet. -/
structure Restorable (settings : SkaledSettings) (world : RepairWorld) : Prop where
  unused : world.2.pending = true → world.1.container = false
  undated : world.2.pending = true → world.1.row .repairDate = world.2.date
  regular : settings.syncNode = true → world.2.pending = false
  snapshot : world.2.plainStart = false

def repairLedger (settings : SkaledSettings) :
    Ledger monitorInterface RepairWorld SkaledMove Unit
      (Outcome MonitorError Unit × Unit) RepairNotes where
  host := repairHost settings
  discipline := repairDiscipline settings
  invariant := Restorable settings
  view := Prod.snd
  unmoved := by
    intro world move moved taken
    exact (Host.watch_move.mp taken).2

/-! ### What the calls do to the volume -/

def MonitorQuery.removesVolume : MonitorQuery → Bool
  | removeVolume => true
  | _ => false

/-- The calls that can do no harm to a waiting volume, whatever is saved. -/
def MonitorQuery.sparesVolume : MonitorQuery → Bool
  | saveRecord .. | removeVolume | runSchainContainer false .. => false
  | _ => true

structure RepairNotes.Since (earlier later : RepairNotes) : Prop where
  pending : later.pending = true → earlier.pending = true
  byRequest : later.byRequest = earlier.byRequest
  date : later.date = earlier.date
  created : earlier.created = true → later.created = true

def Lasting (assertion : RepairNotes → Prop) : Prop :=
  ∀ ⦃earlier later : RepairNotes⦄, earlier.Since later → assertion earlier →
    assertion later

/-- No volume waits. -/
def Mended (notes : RepairNotes) : Prop :=
  notes.pending = false

/-- A fact about the repair whose volume still waits. -/
def Waiting (fact : Bool → Int → Prop) (notes : RepairNotes) : Prop :=
  notes.pending = true → fact notes.byRequest notes.date

def Created (notes : RepairNotes) : Prop :=
  notes.pending = true → notes.created = true

abbrev Undated (record : Web.SChainRecord) : RepairNotes → Prop :=
  Waiting fun _ date => record .repairDate = date

theorem lasting_true : Lasting fun _ => True :=
  fun _ _ _ _ => trivial

theorem lasting_mended : Lasting Mended := by
  intro earlier later since mended
  unfold Mended at mended ⊢
  cases waits : later.pending with
  | false => rfl
  | true => rw [since.pending waits] at mended; cases mended

theorem lasting_waiting (fact : Bool → Int → Prop) : Lasting (Waiting fact) := by
  intro earlier later since holds waits
  rw [since.byRequest, since.date]
  exact holds (since.pending waits)

theorem lasting_created : Lasting Created :=
  fun _ _ since holds waits => since.created (holds (since.pending waits))

theorem Lasting.and {first second : RepairNotes → Prop} (lasts : Lasting first)
    (lastsToo : Lasting second) : Lasting fun notes => first notes ∧ second notes :=
  fun _ _ since holds => ⟨lasts since holds.1, lastsToo since holds.2⟩

theorem mended_of_waiting {notes : RepairNotes}
    (never : ¬ notes.pending = true) : Mended notes :=
  Bool.eq_false_iff.mpr never

theorem Mended.waiting {notes : RepairNotes} (mended : Mended notes)
    (fact : Bool → Int → Prop) : Waiting fact notes :=
  fun waits => absurd waits (Bool.eq_false_iff.mp mended)

section Serve

variable {settings : SkaledSettings} {query : MonitorQuery}
  {proposed answer : Except MonitorError query.Reply} {world world' : RepairWorld}

theorem since_of_serve (stays : query.removesVolume = false)
    (served : (repairHost settings).serve query proposed world =
      some (answer, world')) : world.2.Since world'.2 := by
  obtain ⟨_, noted⟩ := Host.watch_serve.mp served
  rw [noted]
  unfold repairWatch
  dsimp only
  split
  · exact ⟨id, rfl, rfl, id⟩
  · cases stays
  · exact ⟨id, rfl, rfl, fun _ => rfl⟩
  · exact ⟨(fun absurdity => nomatch absurdity), rfl, rfl, id⟩
  · exact ⟨id, rfl, rfl, id⟩
  · exact ⟨id, rfl, rfl, id⟩
  · exact ⟨id, rfl, rfl, id⟩

theorem Restorable.of_same (kept : Restorable settings world)
    (container : world'.1.container = world.1.container)
    (row : world'.1.row = world.1.row) (since : world.2.Since world'.2)
    (plainStart : world'.2.plainStart = world.2.plainStart) :
    Restorable settings world' := by
  refine ⟨fun waits => ?_, fun waits => ?_, fun syncNode => ?_, ?_⟩
  · rw [container]
    exact kept.unused (since.pending waits)
  · rw [row, since.date]
    exact kept.undated (since.pending waits)
  · exact lasting_mended since (kept.regular syncNode)
  · rw [plainStart]
    exact kept.snapshot

theorem restorable_of_error {error : MonitorError} (kept : Restorable settings world)
    (served : (repairHost settings).serve query proposed world =
      some (.error error, world')) : Restorable settings world' := by
  obtain ⟨plain, noted⟩ := Host.watch_serve.mp served
  have unnoted : (repairWatch settings).call query (.error error) world.1 world.2 =
      world.2 := by
    cases query with
    | runSchainContainer downloadSnapshot => cases downloadSnapshot <;> rfl
    | _ => rfl
  have same : world' = world := Prod.ext (skaled_serve_error plain) (noted.trans unnoted)
  rw [same]
  exact kept

theorem restorable_of_removeVolume {proposed answer : Except MonitorError Unit}
    (kept : Restorable settings world) (regular : settings.syncNode = false)
    (served : (repairHost settings).serve .removeVolume proposed world =
      some (answer, world')) : Restorable settings world' := by
  cases answer with
  | error error => exact restorable_of_error kept served
  | ok reply =>
      obtain ⟨plain, noted⟩ := Host.watch_serve.mp served
      cases proposed with
      | error error => cases plain
      | ok given =>
          obtain ⟨unused, taken⟩ := Option.ite_none_left_eq_some.mp plain
          obtain ⟨_, same⟩ := Prod.mk.inj (Option.some.inj taken)
          refine ⟨fun _ => ?_, fun _ => ?_, fun syncNode => ?_, ?_⟩
          · rw [← same]
            exact Bool.eq_false_iff.mpr unused
          · rw [← same, noted]
            rfl
          · rw [regular] at syncNode
            cases syncNode
          · rw [noted]
            exact kept.snapshot

theorem restorable_of_runSchainContainer {downloadSnapshot : Bool}
    {startTs : Option Int} {snapshotFrom : Value}
    {proposed answer : Except MonitorError Unit} (kept : Restorable settings world)
    (safe : downloadSnapshot = true ∨ Mended world.2)
    (served : (repairHost settings).serve
      (.runSchainContainer downloadSnapshot startTs snapshotFrom) proposed world =
      some (answer, world')) : Restorable settings world' := by
  cases answer with
  | error error => exact restorable_of_error kept served
  | ok reply =>
      have since := since_of_serve rfl served
      have mended : Mended world'.2 := by
        rcases safe with rfl | mended
        · exact congrArg RepairNotes.pending (Host.watch_serve.mp served).2
        · exact lasting_mended since mended
      have waits : world'.2.pending ≠ true := Bool.eq_false_iff.mp mended
      refine ⟨fun absurdity => absurd absurdity waits,
        fun absurdity => absurd absurdity waits, fun _ => mended, ?_⟩
      rw [(Host.watch_serve.mp served).2]
      rcases safe with rfl | mended
      · exact kept.snapshot
      · cases downloadSnapshot with
        | true => exact kept.snapshot
        | false =>
            change (world.2.plainStart || world.2.pending) = false
            rw [kept.snapshot, mended, Bool.or_self]

theorem restorable_of_restartContainer {stuckRpc : Bool}
    {proposed answer : Except MonitorError Unit}
    (kept : Restorable settings world)
    (served : (repairHost settings).serve (.restartContainer stuckRpc) proposed
      world = some (answer, world')) : Restorable settings world' := by
  cases answer with
  | error error => exact restorable_of_error kept served
  | ok reply =>
      obtain ⟨plain, noted⟩ := Host.watch_serve.mp served
      cases proposed with
      | error error => cases plain
      | ok given =>
          obtain ⟨_, same⟩ := Prod.mk.inj (Option.some.inj plain)
          have idle : (world.2.pending && world.1.container) = false := by
            cases waits : world.2.pending with
            | false => rfl
            | true => exact kept.unused waits
          refine kept.of_same (by rw [← same]) (by rw [← same]) (since_of_serve rfl served)
            ?_
          rw [noted]
          change (world.2.plainStart || (world.2.pending && world.1.container)) = _
          rw [idle, Bool.or_false]

theorem restorable_of_removeContainer {proposed answer : Except MonitorError Bool}
    (kept : Restorable settings world)
    (served : (repairHost settings).serve (.removeContainer .schain) proposed
      world = some (answer, world')) : Restorable settings world' := by
  obtain ⟨plain, noted⟩ := Host.watch_serve.mp served
  cases proposed with
  | error error =>
      obtain ⟨rfl, same⟩ := Prod.mk.inj (Option.some.inj plain)
      exact restorable_of_error kept served
  | ok found =>
      obtain ⟨rfl, same⟩ := Prod.mk.inj (Option.some.inj plain)
      have unnoted : world'.2 = world.2 := noted
      refine ⟨fun waits => ?_, ?_, ?_, ?_⟩
      · rw [unnoted] at waits
        rw [← same]
        change (world.1.container && !found) = false
        rw [kept.unused waits, Bool.false_and]
      · rw [unnoted, ← same]
        exact kept.undated
      · rw [unnoted]
        exact kept.regular
      · rw [unnoted]
        exact kept.snapshot

theorem restorable_of_auxiliary (kept : Restorable settings world)
    (auxiliary : query.isAuxiliary = true)
    (served : (repairHost settings).serve query proposed world =
      some (answer, world')) : Restorable settings world' := by
  obtain ⟨plain, noted⟩ := Host.watch_serve.mp served
  have same : world'.1 = world.1 := skaled_serve_auxiliary auxiliary plain
  have stays : query.removesVolume = false := by
    cases query <;> first | rfl | cases auxiliary
  refine kept.of_same (by rw [same]) (by rw [same]) (since_of_serve stays served) ?_
  rw [noted]
  unfold repairWatch
  dsimp only
  split <;> first | rfl | cases auxiliary

/-- A call that spares the volume keeps what is known of it. -/
theorem restorable_of_spares (kept : Restorable settings world)
    (spares : query.sparesVolume = true)
    (served : (repairHost settings).serve query proposed world =
      some (answer, world')) : Restorable settings world' := by
  cases auxiliary : query.isAuxiliary with
  | true => exact restorable_of_auxiliary kept auxiliary served
  | false =>
      cases query with
      | removeVolume | saveRecord => cases spares
      | runSchainContainer downloadSnapshot startTs snapshotFrom =>
          cases downloadSnapshot with
          | true => exact restorable_of_runSchainContainer kept (.inl rfl) served
          | false => cases spares
      | restartContainer => exact restorable_of_restartContainer kept served
      | removeContainer type =>
          cases type with
          | schain => exact restorable_of_removeContainer kept served
          | ima => cases auxiliary
      | observeEndpoint | incrSkaledPipeline | setExitTs | writeJson =>
          obtain ⟨plain, noted⟩ := Host.watch_serve.mp served
          have same : world'.1 = world.1 := by
            cases proposed <;>
              exact (Prod.mk.inj (Option.some.inj plain)).2.symm
          exact kept.of_same (by rw [same]) (by rw [same]) (since_of_serve rfl served)
            (congrArg RepairNotes.plainStart noted)
      | _ => cases auxiliary

theorem restorable_of_saveRecord {setter : Web.Setter} {copy : Web.SChainRecord}
    {proposed answer : Except MonitorError Unit} (kept : Restorable settings world)
    (undated : Undated copy world.2)
    (served : (repairHost settings).serve (.saveRecord setter copy) proposed world =
      some (answer, world')) : Restorable settings world' := by
  cases answer with
  | error error => exact restorable_of_error kept served
  | ok reply =>
      obtain ⟨plain, noted⟩ := Host.watch_serve.mp served
      have saved := skaled_serve_saveRecord plain
      have unnoted : world'.2 = world.2 := noted
      refine ⟨?_, fun waits => ?_, ?_, ?_⟩
      · rw [unnoted, saved]
        exact kept.unused
      · rw [unnoted] at waits
        have same : copy .repairDate = world.1.row .repairDate :=
          (undated waits).trans (kept.undated waits).symm
        rw [unnoted, saved, ← kept.undated waits]
        change Web.Table.saved setter copy world.1.row .repairDate = _
        unfold Web.Table.saved
        split
        · by_cases dates : setter.column = .repairDate
          · rw [dates, Web.SChainRecord.set_self, same]
          · exact Web.SChainRecord.set_of_ne (Ne.symm dates)
        · exact same
      · rw [unnoted]
        exact kept.regular
      · rw [unnoted]
        exact kept.snapshot

theorem restorable_of_mended (kept : Restorable settings world) (mended : Mended world.2)
    (stays : query.removesVolume = false)
    (served : (repairHost settings).serve query proposed world =
      some (answer, world')) : Restorable settings world' := by
  cases spares : query.sparesVolume with
  | true => exact restorable_of_spares kept spares served
  | false =>
      cases query with
      | saveRecord => exact restorable_of_saveRecord kept (mended.waiting _) served
      | runSchainContainer =>
          exact restorable_of_runSchainContainer kept (.inr mended) served
      | removeVolume => cases stays
      | _ => cases spares

end Serve

/-! ### The calls of a pass -/

section Calls

variable {settings : SkaledSettings} {α : Type} {assertion : RepairNotes → Prop}

theorem keepsVolume_of_spares {query : MonitorQuery}
    (spares : query.sparesVolume = true) : query.removesVolume = false := by
  cases query <;> first | rfl | cases spares

theorem spares_of_isAuxiliary {query : MonitorQuery}
    (auxiliary : query.isAuxiliary = true) : query.sparesVolume = true := by
  cases query <;> first | rfl | cases auxiliary

theorem harmless_keepsVolume (query : MonitorQuery)
    (harmless : query.isHarmless = true) : query.removesVolume = false := by
  cases query <;> first | rfl | cases harmless

theorem yields_of_spares (lasts : Lasting assertion) {body : MonitorM α}
    (calls : body.Calls fun query : MonitorQuery => query.sparesVolume = true) :
    (repairLedger settings).Yields assertion body fun _ => assertion := by
  apply yields_of_calls calls
  intro query world world' proposed answer spares kept holds _ served
  exact ⟨restorable_of_spares kept spares served,
    lasts (since_of_serve (keepsVolume_of_spares spares) served) holds⟩

theorem yields_of_auxiliary (lasts : Lasting assertion) {body : MonitorM α}
    (auxiliary : Auxiliary body) :
    (repairLedger settings).Yields assertion body fun _ => assertion :=
  yields_of_spares lasts (auxiliary.mono fun _ => spares_of_isAuxiliary)

theorem yields_spare (lasts : Lasting assertion) {query : MonitorQuery}
    (spares : query.sparesVolume = true) :
    (repairLedger settings).Yields assertion (invoke query) fun _ => assertion :=
  yields_of_spares lasts (calls_invoke spares)

theorem mended_yields {body : MonitorM α}
    (calls : body.Calls fun query : MonitorQuery => query.removesVolume = false) :
    (repairLedger settings).Yields Mended body fun _ => Mended := by
  apply yields_of_calls calls
  intro query world world' proposed answer stays kept mended _ served
  exact ⟨restorable_of_mended kept mended stays served,
    lasting_mended (since_of_serve stays served) mended⟩

/-- What an answer tells of the volume. -/
theorem yields_told {query : MonitorQuery} {after : query.Reply → RepairNotes → Prop}
    (spares : query.sparesVolume = true)
    (told : ∀ ⦃world world' : RepairWorld⦄
      ⦃proposed : Except MonitorError query.Reply⦄ ⦃reply : query.Reply⦄,
      Restorable settings world → assertion world.2 →
      causeLasts settings query proposed world = true →
      (repairHost settings).serve query proposed world = some (.ok reply, world') →
      after reply world'.2) :
    (repairLedger settings).Yields assertion (invoke query) after := by
  apply yields_invoke
  intro world world' proposed answer kept holds allowed served
  refine ⟨restorable_of_spares kept spares served, ?_⟩
  rintro reply rfl
  exact told kept holds allowed served

def MonitorQuery.isTelling : MonitorQuery → Bool
  | readNodeCliStatus | readSkaledStatus | getAutomaticRepairOption | isVolumeExists
  | isContainerRunning _ => true
  | _ => false

theorem told_serve {query : MonitorQuery} (telling : query.isTelling = true)
    {proposed : Except MonitorError query.Reply} {reply : query.Reply}
    {world world' : RepairWorld}
    (served : (repairHost settings).serve query proposed world =
      some (.ok reply, world')) : proposed = .ok reply := by
  obtain ⟨plain, _⟩ := Host.watch_serve.mp served
  cases proposed with
  | error error => cases query <;> cases plain
  | ok given =>
      cases query <;> first
        | exact congrArg _ (Except.ok.inj (Prod.mk.inj (Option.some.inj plain)).1)
        | cases telling

theorem yields_telling {query : MonitorQuery} (lasts : Lasting assertion)
    (telling : query.isTelling = true) (fact : query.Reply → Bool → Int → Prop)
    (told : ∀ reply world, Restorable settings world → assertion world.2 →
      causeLasts settings query (.ok reply) world = true → world.2.pending = true →
      fact reply world.2.byRequest world.2.date) :
    (repairLedger settings).Yields assertion (invoke query) fun reply notes =>
      assertion notes ∧ Waiting (fact reply) notes := by
  have spares : query.sparesVolume = true := by
    cases query <;> first | rfl | cases telling
  apply yields_told spares
  intro world world' proposed reply kept holds allowed served
  have since := since_of_serve (keepsVolume_of_spares spares) served
  refine ⟨lasts since holds, lasting_waiting _ since fun waits => ?_⟩
  obtain rfl := told_serve telling served
  exact told reply world kept holds allowed waits

theorem yields_evaluate {result : Evaluated α} {after : α → RepairNotes → Prop}
    (ends : ∀ value, result = .ok value → ∀ notes, assertion notes → after value notes) :
    (repairLedger settings).Yields assertion (evaluate result) after := by
  cases result with
  | ok value => exact yields_pure (ends value rfl)
  | error error => exact yields_raise

theorem loadRecord_undated (lasts : Lasting assertion) :
    (repairLedger settings).Yields assertion (invoke .loadRecord) fun record notes =>
      assertion notes ∧ Undated record notes := by
  apply yields_told rfl
  intro world world' proposed record kept holds _ served
  obtain ⟨plain, noted⟩ := Host.watch_serve.mp served
  obtain ⟨_, same⟩ := skaled_serve_loadRecord plain
  have since := since_of_serve rfl served
  refine ⟨lasts since holds, fun waits => ?_⟩
  rw [← same, since.date]
  exact kept.undated (since.pending waits)

theorem setOn_undated (lasts : Lasting assertion) {record : Web.SChainRecord}
    {setter : Web.Setter} (apart : setter.column ≠ .repairDate) :
    (repairLedger settings).Yields (fun notes => assertion notes ∧ Undated record notes)
      (setOn record setter) fun _ => assertion := by
  have copied : Undated (record.set setter.column setter.value) = Undated record := by
    unfold Undated
    rw [Web.SChainRecord.set_of_ne apart.symm]
  refine yields_bind (fun _ => assertion) (yields_invoke ?_) fun _ =>
    yields_pure fun _ holds => holds
  intro world world' proposed answer kept holds _ served
  rw [← copied] at holds
  refine ⟨restorable_of_saveRecord kept holds.2 served, ?_⟩
  intro _ _
  exact lasts (since_of_serve rfl served) holds.1

theorem setRecord_keeps (lasts : Lasting assertion) {setter : Web.Setter}
    (apart : setter.column ≠ .repairDate) :
    (repairLedger settings).Yields assertion (setRecord setter) fun _ => assertion := by
  refine yields_bind _ (loadRecord_undated lasts) fun record => ?_
  exact yields_bind _ (setOn_undated lasts apart) fun _ => yields_pure fun _ holds => holds

theorem updLastSeen_keeps (lasts : Lasting assertion) :
    (repairLedger settings).Yields assertion updLastSeen fun _ => assertion := by
  refine yields_bind _ (loadRecord_undated lasts) fun record => ?_
  refine yields_bind _ (yields_spare (lasts.and (lasting_waiting _)) rfl) fun now => ?_
  have apart : (Web.setMonitorLastSeen now).column ≠ .repairDate := by
    simp [Web.setMonitorLastSeen]
  exact yields_bind _ (setOn_undated lasts apart) fun _ => yields_pure fun _ holds => holds

theorem updSchainRecord_keeps :
    (repairLedger settings).Yields (fun _ => True) SkaledActionManager.updSchainRecord
      fun _ _ => True := by
  have counters : (repairLedger settings).Yields (fun _ => True) (do
      setRecord (Web.setRestartCount 0)
      setRecord (Web.setFailedRpcCount 0)) fun _ _ => True := by
    refine yields_bind _ (setRecord_keeps lasting_true ?_) fun _ =>
      setRecord_keeps lasting_true ?_
    · simp [Web.setRestartCount]
    · simp [Web.setFailedRpcCount]
  refine yields_bind _ (yields_spare lasting_true rfl) fun record => ?_
  refine yields_bind (fun _ _ => True) ?_ fun _ => ?_
  · cases !record .firstRun with
    | true => exact yields_pure fun _ _ => trivial
    | false => exact counters
  refine yields_bind _ (setRecord_keeps lasting_true ?_) fun _ =>
    setRecord_keeps lasting_true ?_
  · simp [Web.setFirstRun]
  · simp [Web.setNewSchain]

theorem isContainerRunning_yields (lasts : Lasting assertion) :
    (repairLedger settings).Yields assertion (invoke (.isContainerRunning .schain))
      fun running notes => assertion notes ∧ Waiting (fun _ _ => running = false) notes := by
  apply yields_telling lasts rfl
  intro running world kept _ allowed waits
  change (!running || world.1.container) = true at allowed
  rw [kept.unused waits, Bool.or_false] at allowed
  exact Bool.not_eq_eq_eq_not.mp allowed

end Calls

end SkaleAdmin.Monitor
