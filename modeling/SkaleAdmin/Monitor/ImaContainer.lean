import SkaleAdmin.Library.PyNumerals
import SkaleAdmin.Library.Serving
import SkaleAdmin.Monitor.SkaledMonitor

/-! The IMA container of an sChain, and after which states of it the action makes its own
check pass. -/

namespace SkaleAdmin.Monitor

open Interaction PyText Json Config
open Interaction.Procedure (served served_bind served_bind_value
  served_invoke served_invoke_ok)

/-- A container that does not run has exited; `timeFraming` is the value of
`TIME_FRAMING`. -/
structure ImaContainer where
  running : Bool
  image : Text
  timeFraming : Option Text
  deriving DecidableEq

def ImaContainer.timeFrame (container : ImaContainer) : Except MonitorError Int :=
  match container.timeFraming with
  | none => .error (.otherError "TypeError")
  | some text =>
      match parseInt 10 text with
      | none => .error .valueError
      | some timeFrame => .ok timeFrame

theorem ImaContainer.timeFrame_of_str {container : ImaContainer} {timeFrame : Int}
    (spelled : container.timeFraming = some (str timeFrame)) :
    container.timeFrame = .ok timeFrame := by
  unfold ImaContainer.timeFrame
  rw [spelled]
  simp only [parseInt_str]

/-- `passed ts` is `time.time() > ts`, and `timeFrames` the values of `get_ima_time_frame`
before and after the migration. -/
structure ImaWorld where
  files : Directory Text
  container : Option ImaContainer
  newImagePulled : Bool
  migrationTs : Int
  passed : Int → Bool
  timeFrames : Bool → Int

namespace ImaWorld

section Serving

variable (others : (query : MonitorQuery) → Except MonitorError query.Reply)

/-- Docker does what it is asked for, and a container that is started runs. -/
def serve : (query : MonitorQuery) → ImaWorld →
    Except MonitorError query.Reply × ImaWorld
  | .readFiles, world => (.ok world.files, world)
  | .getImaMigrationTs, world => (.ok world.migrationTs, world)
  | .isPast ts, world => (.ok (world.passed ts), world)
  | .getImaTimeFrame after, world => (.ok (world.timeFrames after), world)
  | .isNewImagePulled, world => (.ok world.newImagePulled, world)
  | .pullNewImage, world => (.ok (), { world with newImagePulled := true })
  | .isContainerExists .ima, world => (.ok world.container.isSome, world)
  | .isContainerRunning .ima, world =>
      (.ok (world.container.any ImaContainer.running), world)
  | .imaContainerImage, world => (.ok (world.container.map ImaContainer.image), world)
  | .imaContainerTimeFrame, world =>
      match world.container with
      | none => (.error (.otherError "NotFound"), world)
      | some container => (container.timeFrame, world)
  | .removeContainer .ima, world =>
      (.ok world.container.isSome, { world with container := none })
  | .runImaContainer _ image timeFrame, world =>
      match world.container with
      | none =>
          let timeFraming := some (str timeFrame)
          (.ok (), { world with container := some { running := true, image, timeFraming } })
      | some _ => (.error (.otherError "Conflict"), world)
  | query, world => (others query, world)

end Serving

variable (settings : SkaledSettings) (world : ImaWorld)

def past : Bool :=
  world.passed world.migrationTs

/-- The container has the image and the time frame of its side of the migration. -/
def Expects (container : ImaContainer) : Prop :=
  container.image = settings.imaImageName world.past ∧
    container.timeFrame = .ok (world.timeFrames world.past)

/-- There is no container, the one there is as expected runs, or it is of the time before
the migration, which has come. -/
def Reconcilable : Prop :=
  ∀ container, world.container = some container →
    (world.Expects settings container ∧ container.running = true) ∨
      (¬ world.Expects settings container ∧ world.past = true)

/-- Where the time frame of the container is looked at, it is a number. -/
def Legible : Prop :=
  ∀ container, world.container = some container →
    container.running = true ∨ world.past = true →
      ∃ timeFrame, container.timeFrame = .ok timeFrame

def imaLinked : Evaluated Value := do
  getOr "ima_linked" (.bool true) (← externalConfigRead world.files)

def Linked : Prop :=
  ∃ linked, world.imaLinked = .ok linked ∧ truthy linked = true

def upToDate : Except MonitorError Bool :=
  match world.container with
  | none => .ok false
  | some container =>
      if container.running then
        container.timeFrame.map fun timeFrame =>
          world.newImagePulled &&
            some container.image == some (settings.imaImageName world.past) &&
            world.timeFrames world.past == timeFrame
      else
        .ok false

/-- What is left of the container by the time a new one would be started. -/
def kept : Except MonitorError ImaWorld :=
  match world.container with
  | none => .ok world
  | some container =>
      if world.past then
        container.timeFrame.map fun timeFrame =>
          if some container.image = some (settings.imaImageName true) ∧
              timeFrame = world.timeFrames true then
            world
          else
            { world with container := none }
      else
        .ok world

def pulled : ImaWorld :=
  { world with newImagePulled := true }

def started : ImaWorld :=
  match world.container with
  | some _ => world
  | none => { world with
      container := some {
        running := true
        image := settings.imaImageName world.past
        timeFraming := some (str (world.timeFrames world.past)) } }

section Runs

variable {others : (query : MonitorQuery) → Except MonitorError query.Reply}
  {settings world} {am : SkaledActionManager}

theorem served_linkedCheck (linked : world.Linked) :
    (check fun files => SkaledChecks.imaContainer files false).served (serve others)
      world = (.value false, world) := by
  obtain ⟨value, read, isLinked⟩ := linked
  have failed : SkaledChecks.imaContainer world.files false = .ok false := by
    obtain ⟨content, found, given⟩ := bind_eq_ok.mp read
    refine bind_eq_ok.mpr ⟨content, found, bind_eq_ok.mpr ⟨value, given, ?_⟩⟩
    rw [isLinked]
    rfl
  unfold check
  rw [served_bind, served_invoke]
  simp only [serve, Outcome.ofAnswer, failed]
  rfl

theorem served_isImaContainerUpToDate :
    am.isImaContainerUpToDate.served (serve others) world =
      (.ofAnswer (world.upToDate am.settings), world) := by
  unfold SkaledActionManager.isImaContainerUpToDate upToDate
  simp only [served_bind, served_invoke, serve, Outcome.ofAnswer]
  cases held : world.container with
  | none => rfl
  | some container =>
      cases runs : container.running with
      | false =>
          simp [runs]
          rfl
      | true =>
          simp only [Option.any_some, runs, if_true, served_bind, served_invoke, serve, held,
            Outcome.ofAnswer]
          cases container.timeFrame <;> rfl

theorem served_imaContainerCheck (linked : world.Linked) :
    am.imaContainerCheck.served (serve others) world =
      (.ofAnswer (world.upToDate am.settings), world) := by
  unfold SkaledActionManager.imaContainerCheck
  rw [served_bind, served_linkedCheck linked]
  exact served_isImaContainerUpToDate

theorem served_keepImaContainer {container : ImaContainer} {image : Text} {timeFrame : Int}
    (held : world.container = some container) :
    (keepImaContainer image timeFrame).served (serve others) world =
      match container.timeFrame with
      | .error error => (.raised error, world)
      | .ok found =>
          if some container.image = some image ∧ found = timeFrame then (.value true, world)
          else (.value false, { world with container := none }) := by
  unfold keepImaContainer
  simp only [served_bind, served_invoke, serve, Outcome.ofAnswer, held]
  cases container.timeFrame with
  | error error => rfl
  | ok found =>
      simp only [Option.map_some]
      split
      · rfl
      · rw [served_bind, served_invoke]
        rfl

theorem served_migratedImaContainer :
    (migratedImaContainer world.past world.container.isSome
        (settings.imaImageName world.past) (world.timeFrames world.past)).served
        (serve others) world =
      match world.kept settings with
      | .error error => (.raised error, world)
      | .ok after => (.value after.container.isSome, after) := by
  unfold migratedImaContainer kept
  cases held : world.container with
  | none =>
      rw [Option.isSome_none, Bool.and_false]
      simp only [held]
      rfl
  | some container =>
      cases past : world.past with
      | false =>
          simp only [Bool.false_and, Bool.false_eq_true, if_false]
          rw [← held]
          rfl
      | true =>
          change (keepImaContainer _ _).served _ _ = _
          rw [served_keepImaContainer held]
          simp only [if_true]
          cases container.timeFrame with
          | error error => rfl
          | ok timeFrame =>
              simp only [Except.map]
              split
              · rw [held]
                rfl
              · rfl

/-- A container is removed where the migration time has passed and it is not as
expected. -/
theorem kept_cases {after : ImaWorld} (kept : world.kept settings = .ok after) :
    (after = world ∧ ∀ container, world.container = some container →
        world.past = true → world.Expects settings container) ∨
      ∃ container, world.container = some container ∧ world.past = true ∧
        ¬ world.Expects settings container ∧ after = { world with container := none } := by
  unfold ImaWorld.kept at kept
  cases held : world.container with
  | none =>
      rw [held] at kept
      cases kept
      exact .inl ⟨rfl, by simp⟩
  | some container =>
      simp only [held] at kept
      cases past : world.past with
      | false =>
          rw [past] at kept
          cases kept
          exact .inl ⟨rfl, by simp⟩
      | true =>
          rw [past, if_pos rfl] at kept
          cases framed : container.timeFrame with
          | error error =>
              rw [framed] at kept
              cases kept
          | ok timeFrame =>
              rw [framed] at kept
              simp only [Except.map, Except.ok.injEq, Option.some.injEq] at kept
              have expects : world.Expects settings container ↔
                  container.image = settings.imaImageName true ∧
                    timeFrame = world.timeFrames true := by
                rw [Expects, past, framed, Except.ok.injEq]
              split at kept
              · rename_i expected
                refine .inl ⟨kept.symm, ?_⟩
                intro other same _
                cases same
                exact expects.mpr expected
              · rename_i unexpected
                exact .inr ⟨container, rfl, rfl, fun given => unexpected (expects.mp given),
                  kept.symm⟩

theorem past_of_kept {after : ImaWorld} (kept : world.kept settings = .ok after) :
    after.past = world.past ∧ after.timeFrames = world.timeFrames := by
  rcases kept_cases kept with ⟨rfl, _⟩ | ⟨container, _, _, _, rfl⟩
  · exact ⟨rfl, rfl⟩
  · exact ⟨rfl, rfl⟩

theorem linked_of_kept {after : ImaWorld} (kept : world.kept settings = .ok after)
    (linked : world.Linked) : after.Linked := by
  rcases kept_cases kept with ⟨rfl, _⟩ | ⟨container, _, _, _, rfl⟩
  · exact linked
  · exact linked

theorem linked_started (linked : world.Linked) : (world.started settings).Linked := by
  unfold started
  split
  · exact linked
  · exact linked

theorem served_startUnless (world : ImaWorld) (chainId : Value) :
    (ifNot world.container.isSome (invoke (.runImaContainer chainId
        (settings.imaImageName world.past) (world.timeFrames world.past)))).served
        (serve others) world = (.value (), world.started settings) := by
  unfold ifNot started
  cases held : world.container with
  | some container => rfl
  | none =>
      change (invoke _).served _ _ = _
      rw [served_invoke]
      simp only [serve, held]
      rfl

theorem served_monitorImaContainer {linked : Value} (chainId : Value)
    (notSync : settings.syncNode = false) (isLinked : truthy linked = true) :
    (monitorImaContainer settings linked chainId world.migrationTs).served (serve others)
        world =
      match others .copySchainImaAbi with
      | .error error => (.raised error, world)
      | .ok _ =>
          match world.kept settings with
          | .error error => (.raised error, world)
          | .ok after => (.value (), after.started settings) := by
  unfold monitorImaContainer
  rw [notSync, isLinked]
  change Procedure.served _ (_ >>= _) _ = _
  rw [served_bind, served_invoke]
  simp only [serve]
  cases others .copySchainImaAbi with
  | error error => rfl
  | ok copied =>
      simp only [Outcome.ofAnswer]
      rw [served_bind, served_invoke]
      simp only [serve, Outcome.ofAnswer]
      rw [served_bind, served_invoke]
      simp only [serve, Outcome.ofAnswer]
      rw [served_bind, served_invoke]
      simp only [serve, Outcome.ofAnswer]
      change Procedure.served _ (migratedImaContainer world.past world.container.isSome
        (settings.imaImageName world.past) (world.timeFrames world.past) >>= _) _ = _
      rw [served_bind, served_migratedImaContainer]
      cases held : world.kept settings with
      | error error => rfl
      | ok after =>
          obtain ⟨past, timeFrames⟩ := past_of_kept held
          change (ifNot after.container.isSome (invoke (.runImaContainer chainId
            (settings.imaImageName world.past) (world.timeFrames world.past)))).served _ _ = _
          rw [← past, ← timeFrames]
          exact served_startUnless after chainId

theorem served_pullNewImage :
    SkaledActionManager.pullNewImage.served (serve others) world =
      (.value (), world.pulled) := by
  unfold SkaledActionManager.pullNewImage ifNot
  rw [served_bind, served_invoke]
  simp only [serve, Outcome.ofAnswer]
  cases present : world.newImagePulled with
  | true =>
      have same : world.pulled = world := by
        unfold pulled
        rw [← present]
      rw [same]
      rfl
  | false =>
      change (invoke _).served _ _ = _
      rw [served_invoke]
      rfl

theorem served_runImaWatchman (notSync : am.settings.syncNode = false)
    (linked : world.Linked) :
    (am.runImaWatchman world.migrationTs).served (serve others) world =
      match others .copySchainImaAbi with
      | .error error => (.raised error, world.pulled)
      | .ok _ =>
          match world.pulled.kept am.settings with
          | .error error => (.raised error, world.pulled)
          | .ok after => (.value (), after.started am.settings) := by
  obtain ⟨value, read, isLinked⟩ := linked
  obtain ⟨content, found, given⟩ := bind_eq_ok.mp read
  obtain ⟨chainId, named⟩ : ∃ chainId, getOr "chain_id" .null content = .ok chainId := by
    cases content <;> cases given
    exact ⟨_, rfl⟩
  have chain : (do getOr "chain_id" .null (← externalConfigRead world.files)) =
      .ok chainId :=
    bind_eq_ok.mpr ⟨content, found, named⟩
  unfold SkaledActionManager.runImaWatchman
  rw [served_bind_value served_pullNewImage, served_bind_value (served_invoke_ok rfl)]
  have linkedRead : (evaluate (do
      getOr "ima_linked" (.bool true) (← externalConfigRead world.files))).served
        (serve others) world.pulled = (.value value, world.pulled) := by
    change (evaluate world.imaLinked).served _ _ = _
    rw [read]
    rfl
  have chainRead : (evaluate (do
      getOr "chain_id" .null (← externalConfigRead world.files))).served
        (serve others) world.pulled = (.value chainId, world.pulled) := by
    rw [chain]
    rfl
  refine (served_bind_value linkedRead).trans ?_
  rw [served_bind_value (served_invoke_ok rfl)]
  refine (served_bind_value chainRead).trans ?_
  have monitored : (monitorImaContainer am.settings value chainId
      world.pulled.migrationTs).served (serve others) world.pulled = _ :=
    served_monitorImaContainer chainId notSync isLinked
  exact monitored

theorem served_imaContainer (linked : world.Linked) :
    am.imaContainer.served (serve others) world =
      match world.upToDate am.settings with
      | .error error => (.raised error, world)
      | .ok true => (.value (), world)
      | .ok false => (am.runImaWatchman world.migrationTs).served (serve others) world := by
  unfold SkaledActionManager.imaContainer
  rw [served_bind, served_imaContainerCheck linked]
  cases world.upToDate am.settings with
  | error error => rfl
  | ok passed =>
      simp only [Outcome.ofAnswer]
      rw [served_bind_value (served_invoke_ok rfl)]
      cases passed <;> rfl

theorem passes_iff (linked : world.Linked) :
    (am.imaContainerCheck.served (serve others) world).1 = .value true ↔
      world.upToDate am.settings = .ok true := by
  rw [served_imaContainerCheck linked]
  cases world.upToDate am.settings with
  | error error => simp [Outcome.ofAnswer]
  | ok passed => simp [Outcome.ofAnswer]

/-- The check passes for a container that runs and is as expected, where the new image is
there. -/
theorem upToDate_eq_true :
    world.upToDate settings = .ok true ↔ world.newImagePulled = true ∧
      ∃ container, world.container = some container ∧ container.running = true ∧
        world.Expects settings container := by
  unfold upToDate Expects
  cases world.container with
  | none => simp
  | some container =>
      cases runs : container.running with
      | false => simp [runs]
      | true =>
          cases framed : container.timeFrame with
          | error error => simp [runs, framed, Except.map]
          | ok timeFrame =>
              simp only [if_true, Except.map, Except.ok.injEq,
                Bool.and_eq_true, beq_iff_eq, Option.some.injEq, exists_eq_left', runs,
                framed, true_and]
              constructor
              · rintro ⟨⟨pulled, image⟩, timeFrame⟩
                exact ⟨pulled, image, timeFrame.symm⟩
              · rintro ⟨pulled, image, timeFrame⟩
                exact ⟨⟨pulled, image⟩, timeFrame.symm⟩

theorem upToDate_started (pulled : world.newImagePulled = true)
    (absent : world.container = none) :
    (world.started settings).upToDate settings = .ok true := by
  have fresh : world.started settings = { world with
      container := some {
        running := true
        image := settings.imaImageName world.past
        timeFraming := some (str (world.timeFrames world.past)) } } := by
    unfold started
    rw [absent]
  rw [fresh]
  exact upToDate_eq_true.mpr ⟨pulled, _, rfl, rfl, rfl, ImaContainer.timeFrame_of_str rfl⟩

theorem reconcilable_of_expects {container : ImaContainer}
    (held : world.container = some container) :
    world.Reconcilable settings ↔
      (world.Expects settings container ∧ container.running = true) ∨
        (¬ world.Expects settings container ∧ world.past = true) := by
  unfold Reconcilable
  rw [held]
  simp

theorem upToDate_watched {after : ImaWorld} (pulled : world.newImagePulled = true)
    (kept : world.kept settings = .ok after) :
    (after.started settings).upToDate settings = .ok true ↔
      world.Reconcilable settings := by
  rcases kept_cases kept with ⟨rfl, expects⟩ | ⟨container, held, past, unexpected, rfl⟩
  · cases held : after.container with
    | none =>
        simp only [upToDate_started pulled held, Reconcilable, held]
        simp
    | some container =>
        have same : after.started settings = after := by
          unfold started
          rw [held]
        rw [same, upToDate_eq_true, reconcilable_of_expects held]
        constructor
        · rintro ⟨_, other, found, runs, expected⟩
          obtain rfl := Option.some.inj (held.symm.trans found)
          exact .inl ⟨expected, runs⟩
        · rintro (⟨expected, runs⟩ | ⟨unexpected, past⟩)
          · exact ⟨pulled, container, held, runs, expected⟩
          · exact absurd (expects container held past) unexpected
  · have starts : (started settings { world with container := none }).upToDate settings =
        .ok true :=
      upToDate_started pulled rfl
    rw [starts, reconcilable_of_expects held]
    simp [unexpected, past]

theorem exists_kept_iff :
    (∃ after, world.kept settings = .ok after) ↔
      ∀ container, world.container = some container → world.past = true →
        ∃ timeFrame, container.timeFrame = .ok timeFrame := by
  unfold kept
  cases world.container with
  | none => simp
  | some container =>
      cases world.past with
      | false => simp
      | true =>
          cases framed : container.timeFrame with
          | error error => simp [framed, Except.map]
          | ok timeFrame => simp [framed, Except.map]

theorem exists_upToDate_iff :
    (∃ passed, world.upToDate settings = .ok passed) ↔
      ∀ container, world.container = some container → container.running = true →
        ∃ timeFrame, container.timeFrame = .ok timeFrame := by
  unfold upToDate
  cases world.container with
  | none => simp
  | some container =>
      cases runs : container.running with
      | false => simp [runs]
      | true =>
          cases framed : container.timeFrame with
          | error error => simp [runs, framed, Except.map]
          | ok timeFrame => simp [runs, framed, Except.map]

theorem pulled_kept : (∃ after, world.pulled.kept settings = .ok after) ↔
    ∃ after, world.kept settings = .ok after := by
  rw [exists_kept_iff, exists_kept_iff]
  rfl

variable (settings) in
theorem legible_iff :
    world.Legible ↔ (∃ passed, world.upToDate settings = .ok passed) ∧
      ∃ after, world.kept settings = .ok after := by
  rw [exists_upToDate_iff, exists_kept_iff]
  constructor
  · intro legible
    exact ⟨fun container held runs => legible container held (.inl runs),
      fun container held past => legible container held (.inr past)⟩
  · rintro ⟨whileRunning, whenPast⟩ container held (runs | past)
    · exact whileRunning container held runs
    · exact whenPast container held past

theorem legible_of_passed (passed : world.upToDate settings = .ok true) :
    world.Legible := by
  obtain ⟨_, container, held, _, expected⟩ := upToDate_eq_true.mp passed
  intro other found _
  obtain rfl := Option.some.inj (held.symm.trans found)
  exact ⟨_, expected.2⟩

theorem reconcilable_of_passed (passed : world.upToDate settings = .ok true) :
    world.Reconcilable settings := by
  obtain ⟨_, container, held, runs, expected⟩ := upToDate_eq_true.mp passed
  exact (reconcilable_of_expects held).mpr (.inl ⟨expected, runs⟩)

theorem imaContainer_returned (notSync : am.settings.syncNode = false)
    (linked : world.Linked) {last : ImaWorld}
    (ended : am.imaContainer.served (serve others) world = (.value (), last)) :
    (world.upToDate am.settings = .ok true ∧ last = world) ∨
      (world.upToDate am.settings = .ok false ∧
        ∃ after, world.pulled.kept am.settings = .ok after ∧
          last = after.started am.settings) := by
  rw [served_imaContainer linked] at ended
  cases checked : world.upToDate am.settings with
  | error error =>
      rw [checked] at ended
      cases ended
  | ok passed =>
      rw [checked] at ended
      cases passed with
      | true =>
          cases ended
          exact .inl ⟨rfl, rfl⟩
      | false =>
          simp only at ended
          rw [served_runImaWatchman notSync linked] at ended
          cases copied : others .copySchainImaAbi with
          | error error =>
              rw [copied] at ended
              cases ended
          | ok _ =>
              rw [copied] at ended
              cases kept : world.pulled.kept am.settings with
              | error error =>
                  simp only [kept] at ended
                  cases ended
              | ok after =>
                  simp only [kept] at ended
                  cases ended
                  exact .inr ⟨rfl, after, rfl, rfl⟩

theorem passes_iff_reconcilable (notSync : am.settings.syncNode = false)
    (linked : world.Linked) {last : ImaWorld}
    (ended : am.imaContainer.served (serve others) world = (.value (), last)) :
    (am.imaContainerCheck.served (serve others) last).1 = .value true ↔
      world.Reconcilable am.settings := by
  rcases imaContainer_returned notSync linked ended with
    ⟨checked, rfl⟩ | ⟨_, after, kept, rfl⟩
  · rw [passes_iff linked]
    exact iff_of_true checked (reconcilable_of_passed checked)
  · have watched : (after.started am.settings).upToDate am.settings = .ok true ↔
        world.pulled.Reconcilable am.settings :=
      upToDate_watched rfl kept
    rw [passes_iff (linked_started (linked_of_kept kept linked))]
    exact watched

theorem returns_iff_legible (notSync : am.settings.syncNode = false)
    (linked : world.Linked) (copied : others .copySchainImaAbi = .ok ()) :
    (am.imaContainer.served (serve others) world).1 = .value () ↔ world.Legible := by
  constructor
  · intro ended
    rcases imaContainer_returned notSync linked (Prod.ext ended rfl) with
      ⟨checked, _⟩ | ⟨checked, after, kept, _⟩
    · exact legible_of_passed checked
    · exact (legible_iff am.settings).mpr ⟨⟨_, checked⟩, pulled_kept.mp ⟨after, kept⟩⟩
  · intro legible
    obtain ⟨⟨passed, checked⟩, keeps⟩ := (legible_iff am.settings).mp legible
    rw [served_imaContainer linked, checked]
    cases passed with
    | true => rfl
    | false =>
        obtain ⟨after, kept⟩ := pulled_kept.mpr keeps
        simp only
        rw [served_runImaWatchman notSync linked, copied]
        simp only [kept]

/-- After the action has returned the check passes where the container could be reconciled,
and the action returns where the time frame that it looks at is a number. -/
theorem imaContainer_reconciles (notSync : am.settings.syncNode = false)
    (linked : world.Linked) :
    let ended := am.imaContainer.served (serve others) world
    (ended.1 = .value () →
        ((am.imaContainerCheck.served (serve others) ended.2).1 = .value true ↔
          world.Reconcilable am.settings)) ∧
      (others .copySchainImaAbi = .ok () → (ended.1 = .value () ↔ world.Legible)) :=
  ⟨fun ended => passes_iff_reconcilable notSync linked (Prod.ext ended rfl),
    returns_iff_legible notSync linked⟩

section Samples

def sampleImaContainer (running : Bool) : ImaContainer where
  running := running
  image := "ima:2.1.0-beta.3".toList
  timeFraming := some "1800".toList

def sampleIma (running : Bool) : ImaWorld where
  files := [(.external, dumps (.obj [("ima_linked".toList, .bool true)]))]
  container := some (sampleImaContainer running)
  newImagePulled := false
  migrationTs := 1688388551
  passed := fun ts => ts < 1688388546
  timeFrames := fun after => if after then 900 else 1800

def sampleImaActions : SkaledActionManager where
  settings := { imaImageName := fun new =>
    if new then "ima:2.1.0".toList else "ima:2.1.0-beta.3".toList }
  checksRecord := .add "schain" 0 0
  hasNodeCliStatus := false

def sampleImaAnswer : (query : MonitorQuery) → Except MonitorError query.Reply
  | .copySchainImaAbi => .ok ()
  | _ => .error .attributeError

theorem sampleIma_linked (running : Bool) : (sampleIma running).Linked :=
  ⟨.bool true, by rfl, rfl⟩

theorem sampleIma_legible (running : Bool) : (sampleIma running).Legible := by
  intro container held _
  cases held
  exact ⟨1800, by rfl⟩

theorem imaContainer_reconciles_running :
    let ended := sampleImaActions.imaContainer.served (serve sampleImaAnswer)
      (sampleIma true)
    (ended.1 = .value () →
        ((sampleImaActions.imaContainerCheck.served (serve sampleImaAnswer) ended.2).1 =
            .value true ↔
          (sampleIma true).Reconcilable sampleImaActions.settings)) ∧
      (sampleImaAnswer .copySchainImaAbi = .ok () →
        (ended.1 = .value () ↔ (sampleIma true).Legible)) :=
  imaContainer_reconciles rfl (sampleIma_linked true)

/-- A container that has exited stays as it is. -/
theorem imaContainer_skips_exited :
    sampleImaActions.settings.syncNode = false ∧ (sampleIma false).Linked ∧
      let ended := sampleImaActions.imaContainer.served (serve sampleImaAnswer)
        (sampleIma false)
      ended.1 = .value () ∧
        (sampleImaActions.imaContainerCheck.served (serve sampleImaAnswer) ended.2).1 ≠
          .value true := by
  have linked := sampleIma_linked false
  have ended : (sampleImaActions.imaContainer.served (serve sampleImaAnswer)
      (sampleIma false)).1 = .value () :=
    (returns_iff_legible rfl linked rfl).mpr (sampleIma_legible false)
  refine ⟨rfl, linked, ended, ?_⟩
  intro passed
  have reconcilable :=
    (passes_iff_reconcilable rfl linked (Prod.ext ended rfl)).mp passed
  rcases reconcilable _ rfl with ⟨_, runs⟩ | ⟨_, past⟩
  · cases runs
  · cases past

end Samples

end Runs

end ImaWorld

end SkaleAdmin.Monitor
