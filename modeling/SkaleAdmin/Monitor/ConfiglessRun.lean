import SkaleAdmin.Library.Replay
import SkaleAdmin.Monitor.RowColumn

/-! Skaled pipelines that find no skaled config. -/

namespace SkaleAdmin.Monitor

open Interaction PyText Json Config
open Interaction.Procedure (Sketch Takes calls_bind calls_pure calls_invoke sketch_bind
  sketch_invoke sketch_pure sketch_attempt takes_pure takes_bind takes_bind_raised
  takes_swallowed takes_invoke takes_invoke_raised)

/-- What a run finds, apart from the files of the config directory. -/
structure Surroundings where
  row : Web.SChainRecord
  skaledStatus : StatusFile
  nodeCliStatus : StatusFile
  running : Bool
  sslDate : Option Int

/-- `synced` tells whether the run has synced the skaled config with the upstream,
and `touched` whether it has removed, restarted or started the container. -/
structure ConfiglessWorld extends Surroundings where
  synced : Bool := false
  touched : Bool := false

def MonitorQuery.touchesSkaled : MonitorQuery → Bool
  | removeContainer .schain | restartContainer _ | runSchainContainer .. => true
  | _ => false

namespace ConfiglessWorld

def shows (world : ConfiglessWorld) (files : Directory Text) : Bool :=
  world.synced || !SkaledChecks.config files

def serve (query : MonitorQuery) (proposed : Except MonitorError query.Reply)
    (world : ConfiglessWorld) :
    Option (Except MonitorError query.Reply × ConfiglessWorld) :=
  let next := { world with touched := world.touched || query.touchesSkaled }
  match query, proposed with
  | _, .error error => some (.error error, next)
  | .loadRecord, .ok _ => some (.ok world.row, next)
  | .saveRecord setter copy, .ok _ =>
      some (.ok (), { next with row := Web.Table.saved setter copy world.row })
  | .readFiles, .ok files => if world.shows files then some (.ok files, next) else none
  | .observeEndpoint _, .ok seen | .observeBlocks, .ok seen =>
      if world.shows seen.1 then some (.ok seen, next) else none
  | .observeRules, .ok seen =>
      if world.shows seen.1 then some (.ok seen, next) else none
  | .readSkaledStatus, .ok _ => some (.ok world.skaledStatus, next)
  | .readNodeCliStatus, .ok _ => some (.ok world.nodeCliStatus, next)
  | .isContainerRunning .schain, .ok _ => some (.ok world.running, next)
  | .sslFilesChangeDate, .ok _ => some (.ok world.sslDate, next)
  | .syncSkaledConfigWithUpstream, .ok synced =>
      some (.ok synced, { next with synced := true })
  | _, .ok reply => some (.ok reply, next)

end ConfiglessWorld

def configlessHost : Host monitorInterface ConfiglessWorld Empty Empty Unit where
  move _ move := move.elim
  serve := ConfiglessWorld.serve
  job job := job.elim

namespace Surroundings

variable (surroundings : Surroundings)

/-- The container runs with another certificate than is on disk. -/
def SslChanged : Prop :=
  surroundings.running = true ∧
    ∃ date, surroundings.sslDate = some date ∧ date ≠ surroundings.row .sslChangeDate

def ExitTimeReached : Prop :=
  surroundings.running = false ∧
    surroundings.skaledStatus.exitTimeReached = .ok true

end Surroundings

/-! ### Looking around -/

def MonitorQuery.isLook : MonitorQuery → Bool
  | saveRecord .. | syncSkaledConfigWithUpstream | removeContainer .schain
  | restartContainer _ | runSchainContainer .. => false
  | _ => true

abbrev Looks {α : Type} (body : MonitorM α) : Prop :=
  body.Calls fun query : MonitorQuery => query.isLook = true

theorem configless_serve_look {query : MonitorQuery} (look : query.isLook = true)
    {proposed answer : Except MonitorError query.Reply} {world world' : ConfiglessWorld}
    (served : world.serve query proposed = some (answer, world')) : world' = world := by
  have untouched : query.touchesSkaled = false := by
    unfold MonitorQuery.touchesSkaled
    split <;> first | cases look | rfl
  unfold ConfiglessWorld.serve at served
  dsimp only at served
  rw [untouched, Bool.or_false] at served
  cases proposed with
  | error error =>
      cases served
      rfl
  | ok reply =>
      cases query with
      | readFiles | observeEndpoint | observeBlocks | observeRules =>
          obtain ⟨_, taken⟩ := Option.ite_none_right_eq_some.mp served
          cases taken
          rfl
      | isContainerRunning type =>
          cases type <;>
            (cases served
             rfl)
      | removeContainer type =>
          cases type with
          | schain => cases look
          | ima =>
              cases served
              rfl
      | saveRecord | syncSkaledConfigWithUpstream | restartContainer
      | runSchainContainer => cases look
      | _ =>
          cases served
          rfl

section Looks

variable {α : Type}

theorem looks_invoke {query : MonitorQuery} (look : query.isLook = true) :
    Looks (invoke query) :=
  calls_invoke look

theorem looks_evaluate (evaluated : Evaluated α) : Looks (evaluate evaluated) := by
  cases evaluated with
  | ok value => exact calls_pure value
  | error error => exact Procedure.calls_raise _

theorem looks_check (status : Directory Text → Evaluated Bool) :
    Looks (check status) := by
  refine calls_bind (looks_invoke rfl) fun files => ?_
  cases status files with
  | ok passed => exact calls_pure _
  | error error => exact Procedure.calls_raise _

theorem looks_invoke_evaluate {query : MonitorQuery} (look : query.isLook = true)
    (view : query.Reply → Evaluated α) :
    Looks (do evaluate (view (← invoke query))) :=
  calls_bind (looks_invoke look) fun _ => looks_evaluate _

theorem looks_imaContainerCheck (am : SkaledActionManager) :
    Looks am.imaContainerCheck := by
  refine calls_bind (looks_check _) fun passed => ?_
  cases passed with
  | true => exact calls_pure _
  | false =>
      refine calls_bind (looks_invoke rfl) fun _ => ?_
      refine calls_bind (looks_invoke rfl) fun _ => ?_
      refine calls_bind (looks_invoke rfl) fun _ => ?_
      refine calls_bind (looks_invoke rfl) fun running => ?_
      cases running with
      | false => exact calls_pure _
      | true =>
          exact calls_bind (looks_invoke rfl) fun _ =>
            calls_bind (looks_invoke rfl) fun _ =>
              calls_bind (looks_invoke rfl) fun _ => calls_pure _

end Looks

/-! ### The choice -/

/-- Nothing has changed yet. -/
abbrev Begun (surroundings : Surroundings) (world : ConfiglessWorld) : Prop :=
  world = { surroundings with }

section Choice

variable {surroundings : Surroundings} {α β : Type} {body : MonitorM α}

abbrev Spared (world : ConfiglessWorld) : Prop :=
  world.touched = false

def Sees (surroundings : Surroundings) (body : MonitorM α) (after : α → Prop) : Prop :=
  Sketch configlessHost {} Spared (Begun surroundings) body
    (fun result world => Begun surroundings world ∧ after result) fun _ _ => True

theorem sees_of_looks (looks : Looks body) :
    Sees surroundings body fun _ => True := by
  have sketch : Sketch configlessHost {} Spared (Begun surroundings) body
      (fun _ => Begun surroundings) fun _ => Begun surroundings := by
    apply looks.sketch fun _ _ move => move.elim
    intro query world world' proposed answer look spared begun _ served
    rw [configless_serve_look look served]
    exact ⟨spared, begun⟩
  exact sketch.weaken (fun _ _ begun => ⟨begun, trivial⟩) fun _ _ _ => trivial

theorem sees_bind {first : MonitorM β} {next : β → MonitorM α} {middle : β → Prop}
    {after : α → Prop} (sees : Sees surroundings first middle)
    (rest : ∀ result, middle result → Sees surroundings (next result) after) :
    Sees surroundings (first >>= next) after := by
  refine sketch_bind sees (fun result => ?_) fun _ _ _ move => move.elim
  apply Host.Outline.of_fact (fun world holds => holds.2)
  intro known
  exact Sketch.strengthen (rest result known) (fun _ _ move => move.elim)
    fun _ _ holds => holds.1

theorem sees_through (middle : β → Prop) {first : MonitorM β} {next : β → MonitorM α}
    {after : α → Prop} (sees : Sees surroundings first middle)
    (rest : ∀ result, middle result → Sees surroundings (next result) after) :
    Sees surroundings (first >>= next) after :=
  sees_bind sees rest

theorem sees_pure {result : α} {after : α → Prop} (known : after result) :
    Sees surroundings (pure result : MonitorM α) after :=
  sketch_pure (fun _ _ move => move.elim) fun _ _ begun => ⟨begun, known⟩

theorem Sees.weaken {after after' : α → Prop} (sees : Sees surroundings body after)
    (weaker : ∀ result, after result → after' result) :
    Sees surroundings body after' :=
  Sketch.weaken sees (fun result _ holds => ⟨holds.1, weaker result holds.2⟩)
    fun _ _ _ => trivial

theorem sees_evaluate (evaluated : Evaluated α) :
    Sees surroundings (evaluate evaluated) fun result => evaluated = .ok result := by
  cases evaluated with
  | ok value => exact sees_pure rfl
  | error error =>
      exact Procedure.sketch_raise (fun _ _ move => move.elim) fun _ _ _ => trivial

theorem sees_invoke {query : MonitorQuery} (look : query.isLook = true)
    {after : query.Reply → Prop}
    (shown : ∀ (proposed : Except MonitorError query.Reply) reply world,
      ConfiglessWorld.serve query proposed { surroundings with } =
        some (.ok reply, world) → after reply) :
    Sees surroundings (invoke query) after := by
  apply sketch_invoke fun _ _ move => move.elim
  · intro world world' proposed answer spared begun _ served
    have same := configless_serve_look look served
    refine ⟨same ▸ spared, ?_⟩
    subst begun
    cases answer with
    | ok reply => exact ⟨same, shown proposed reply world' served⟩
    | error error => trivial
  · intro reply world moved move
    exact move.elim
  · intro error world moved move
    exact move.elim

theorem sees_look {query : MonitorQuery} (look : query.isLook = true) :
    Sees surroundings (invoke query) fun _ => True :=
  sees_of_looks (looks_invoke look)

theorem sees_noConfig :
    Sees surroundings (check fun files => .ok (SkaledChecks.config files))
      fun passed => passed = false := by
  refine sees_bind (sees_invoke rfl ?_) fun files absent => sees_pure absent
  intro proposed files world served
  cases proposed with
  | error error => cases served
  | ok given =>
      obtain ⟨shown, taken⟩ := Option.ite_none_right_eq_some.mp served
      cases taken
      simpa [ConfiglessWorld.shows] using shown

theorem sees_running :
    Sees surroundings (invoke (.isContainerRunning .schain))
      fun running => running = surroundings.running := by
  apply sees_invoke rfl
  intro proposed running world served
  cases proposed with
  | error error => cases served
  | ok given =>
      cases served
      rfl

theorem sees_getAllChecks (am : SkaledActionManager) :
    Sees surroundings am.getAllChecks fun status =>
      status.config = false ∧ status.skaledContainer = surroundings.running := by
  refine sees_bind (sees_of_looks (looks_invoke_evaluate rfl _)) fun _ _ => ?_
  refine sees_bind sees_noConfig fun config absent => ?_
  refine sees_bind (sees_of_looks (looks_check _)) fun _ _ => ?_
  refine sees_bind (sees_look rfl) fun _ _ => ?_
  refine sees_bind (sees_look rfl) fun running _ => ?_
  refine sees_through (fun _ => True) (sees_of_looks ?_) fun _ _ => ?_
  · cases running with
    | true => exact calls_pure _
    | false => exact calls_bind (looks_invoke rfl) fun _ => calls_pure _
  refine sees_bind (sees_of_looks (looks_invoke_evaluate rfl _)) fun _ _ => ?_
  refine sees_bind (sees_of_looks (looks_imaContainerCheck am)) fun _ _ => ?_
  refine sees_bind (sees_look rfl) fun _ _ => ?_
  refine sees_bind (sees_of_looks (looks_check _)) fun _ _ => ?_
  refine sees_bind (sees_of_looks (looks_invoke_evaluate rfl _)) fun _ _ => ?_
  refine sees_bind sees_running fun running same => ?_
  refine sees_bind (sees_of_looks (looks_check _)) fun _ _ => ?_
  exact sees_bind (sees_look rfl) fun _ _ => sees_pure ⟨absent, same⟩

def Fits (settings : SkaledSettings) (surroundings : Surroundings)
    (monitor : SkaledMonitor) : Prop :=
  monitor = .noConfig ∨
    settings.syncNode = true ∧
      (monitor = .recreate ∧ surroundings.SslChanged ∨
        monitor = .updateConfig ∧ surroundings.ExitTimeReached)

variable {choice : MonitorChoice}

theorem sees_isRecreateMode (running : choice.checkStatus.skaledContainer =
      surroundings.running) (row : choice.schainRecord = surroundings.row) :
    Sees surroundings choice.isRecreateMode fun recreate =>
      recreate = true → surroundings.SslChanged := by
  unfold MonitorChoice.isRecreateMode
  rw [running, row]
  split
  case isFalse => exact sees_pure fun absurdity => by cases absurdity
  case isTrue runs =>
    refine sees_through (fun date => date = surroundings.sslDate)
      (sees_invoke rfl ?_) fun date same => ?_
    · intro proposed date world served
      cases proposed with
      | error error => cases served
      | ok given =>
          cases served
          rfl
    · cases date with
      | none => exact sees_pure fun absurdity => by cases absurdity
      | some date =>
          apply sees_pure
          intro changed
          exact ⟨runs, date, same.symm, of_decide_eq_true changed⟩

theorem sees_isConfigUpdateTime (running : choice.checkStatus.skaledContainer =
      surroundings.running) :
    Sees surroundings choice.isConfigUpdateTime fun reached =>
      reached = true → surroundings.ExitTimeReached := by
  unfold MonitorChoice.isConfigUpdateTime
  rw [running]
  split
  case isFalse => exact sees_pure fun absurdity => by cases absurdity
  case isTrue down =>
    have stopped : surroundings.running = false := by simpa using (Bool.and_eq_true_iff.mp down).2
    refine sees_through (fun status => status = surroundings.skaledStatus)
      (sees_invoke rfl ?_) fun status same => ?_
    · intro proposed status world served
      cases proposed with
      | error error => cases served
      | ok given =>
          cases served
          rfl
    · subst same
      apply (sees_evaluate _).weaken
      intro reached flag yes
      exact ⟨stopped, flag.trans (by rw [yes])⟩

theorem sees_getUpdateMonitor {default : SkaledMonitor}
    (absent : choice.checkStatus.config = false)
    (running : choice.checkStatus.skaledContainer = surroundings.running) :
    Sees surroundings (choice.getUpdateMonitor default) fun monitor =>
      monitor = default ∨ monitor = .updateConfig ∧ surroundings.ExitTimeReached := by
  have unreloadable : choice.isReloadable = false := by
    rw [MonitorChoice.isReloadable, absent, Bool.false_and]
  refine sees_bind (sees_isConfigUpdateTime running) fun reached update => ?_
  cases reached with
  | true => exact sees_pure (.inr ⟨rfl, update rfl⟩)
  | false =>
      refine sees_through (fun reload => reload = false) ?_ fun reload no => ?_
      · refine sees_bind (sees_of_looks (looks_invoke_evaluate rfl _)) fun finishTs _ => ?_
        refine sees_bind (sees_look rfl) fun ts _ => ?_
        cases finishTs with
        | none => exact sees_pure rfl
        | some finishTs => exact sees_pure (by rw [unreloadable, Bool.and_false])
      · subst no
        refine sees_through (fun reload => reload = false) ?_ fun reload no => ?_
        · refine sees_through (fun _ => True) ?_ fun reloadTs _ => ?_
          · refine sees_bind (sees_look rfl) fun files _ => ?_
            refine sees_bind (sees_of_looks (looks_evaluate _)) fun stored _ => ?_
            split
            · exact sees_pure trivial
            · exact sees_pure trivial
            · exact sees_of_looks (Procedure.calls_raise _)
          · cases reloadTs with
            | none => exact sees_pure rfl
            | some reloadTs => exact sees_pure unreloadable
        · subst no
          exact sees_pure (.inl rfl)

theorem sees_getSkaledMonitor (settings : SkaledSettings)
    (absent : choice.checkStatus.config = false)
    (running : choice.checkStatus.skaledContainer = surroundings.running)
    (row : choice.schainRecord = surroundings.row) :
    Sees surroundings (choice.getSkaledMonitor settings) (Fits settings surroundings) := by
  have noConfig : choice.noConfig = true := by
    rw [MonitorChoice.noConfig, absent, Bool.not_false]
  unfold MonitorChoice.getSkaledMonitor
  split
  case isFalse =>
    unfold MonitorChoice.getRegularMonitor
    rw [if_pos noConfig]
    exact sees_pure (.inl rfl)
  case isTrue sync =>
    unfold MonitorChoice.getSyncMonitor
    rw [noConfig]
    refine sees_bind (sees_isRecreateMode running row) fun recreate changed => ?_
    cases recreate with
    | true => exact sees_pure (.inr ⟨sync, .inl ⟨rfl, changed rfl⟩⟩)
    | false =>
        apply (sees_getUpdateMonitor absent running).weaken
        intro monitor chosen
        rcases chosen with same | update
        · exact .inl same
        · exact .inr ⟨sync, .inr update⟩

theorem sees_chooseSkaledMonitor (settings : SkaledSettings) :
    Sees surroundings (chooseSkaledMonitor settings) fun chosen =>
      Fits settings surroundings chosen.2 := by
  refine sees_bind (sees_look rfl) fun _ _ => ?_
  refine sees_through (fun record => record = surroundings.row)
    (sees_invoke rfl ?_) fun record row => ?_
  · intro proposed record world served
    cases proposed with
    | error error => cases served
    | ok given =>
        cases served
        rfl
  refine sees_bind (sees_look rfl) fun skaledStatus _ => ?_
  refine sees_bind (sees_look rfl) fun ncliStatus _ => ?_
  refine sees_bind (sees_getAllChecks _) fun checkStatus known => ?_
  refine sees_bind (sees_look rfl) fun automaticRepair _ => ?_
  refine sees_bind (sees_look rfl) fun _ _ => ?_
  refine sees_bind (sees_getSkaledMonitor settings known.1 known.2 row)
    fun monitor fits => ?_
  exact sees_bind (sees_look rfl) fun _ _ => sees_pure fits

end Choice

/-! ### Monitors that leave the container alone -/

abbrev Untouching {α : Type} (body : MonitorM α) : Prop :=
  body.Calls fun query : MonitorQuery => query.touchesSkaled = false

theorem untouching_of_auxiliary {α : Type} {body : MonitorM α}
    (auxiliary : Auxiliary body) : Untouching body := by
  apply auxiliary.mono
  intro query yes
  unfold MonitorQuery.touchesSkaled
  split <;> first | cases yes | rfl

theorem untouching_setRecord (setter : Web.Setter) : Untouching (setRecord setter) :=
  calls_bind (calls_invoke rfl) fun _ =>
    calls_bind (calls_bind (calls_invoke rfl) fun _ => calls_pure _) fun _ => calls_pure _

theorem untouching_updLastSeen : Untouching updLastSeen :=
  calls_bind (calls_invoke rfl) fun _ => calls_bind (calls_invoke rfl) fun _ =>
    calls_bind (calls_bind (calls_invoke rfl) fun _ => calls_pure _) fun _ => calls_pure _

theorem untouching_noConfig :
    Untouching (runSkaledMonitor SkaledActionManager.noConfigSkaledMonitor) := by
  refine Procedure.calls_attempt ?_ ?_
  · refine calls_bind untouching_updLastSeen fun _ => ?_
    refine calls_bind (untouching_of_auxiliary (calls_bind (auxiliary_check _) fun _ =>
      auxiliary_ifNot SkaledActionManager.auxiliary_updateConfig _)) fun _ => ?_
    refine calls_bind ?_ fun _ => untouching_updLastSeen
    refine calls_bind (calls_invoke rfl) fun _ => ?_
    refine calls_bind (calls_ifNot ?_ _) fun _ => ?_
    · exact calls_bind (untouching_setRecord _) fun _ => untouching_setRecord _
    · exact calls_bind (untouching_setRecord _) fun _ => untouching_setRecord _
  · intro error clause same
    cases same
    exact calls_pure ()

theorem configless_serve_untouching {query : MonitorQuery}
    (untouching : query.touchesSkaled = false)
    {proposed answer : Except MonitorError query.Reply} {world world' : ConfiglessWorld}
    (served : world.serve query proposed = some (answer, world')) :
    world'.touched = world.touched := by
  unfold ConfiglessWorld.serve at served
  dsimp only at served
  rw [untouching, Bool.or_false] at served
  split at served
  case h_4 | h_5 | h_6 | h_7 =>
    obtain ⟨_, taken⟩ := Option.ite_none_right_eq_some.mp served
    cases taken
    rfl
  all_goals
    cases served
    rfl

theorem spared_of_untouching {α : Type} {body : MonitorM α} (calls : Untouching body) :
    Sketch configlessHost {} Spared (fun _ => True) body (fun _ _ => True)
      fun _ _ => True := by
  apply calls.sketch fun _ _ move => move.elim
  intro query world world' proposed answer untouching spared _ _ served
  exact ⟨(configless_serve_untouching untouching served).trans spared, trivial⟩

section Runs

variable (settings : SkaledSettings) (surroundings : Surroundings)

theorem spared_of_unchanged
    (quiet : settings.syncNode = true →
      ¬ surroundings.SslChanged ∧ ¬ surroundings.ExitTimeReached) :
    Sketch configlessHost {} Spared (Begun surroundings) (runSkaledPipeline settings)
      (fun _ _ => True) fun _ _ => True := by
  rw [runSkaledPipeline_eq]
  refine sketch_bind (sees_chooseSkaledMonitor settings) (fun chosen => ?_)
    fun _ _ _ move => move.elim
  apply Host.Outline.of_fact (fun world holds => holds.2)
  intro fits
  have noConfig : chosen.2 = .noConfig := by
    rcases fits with same | ⟨sync, changed⟩
    · exact same
    · obtain ⟨ssl, exit⟩ := quiet sync
      rcases changed with ⟨_, changed⟩ | ⟨_, reached⟩
      · exact absurd changed ssl
      · exact absurd reached exit
  rw [noConfig]
  exact Sketch.strengthen (spared_of_untouching untouching_noConfig)
    (fun _ _ move => move.elim) fun _ _ _ => trivial

/-! ### Monitors that touch it -/

def bareFiles : Directory Text :=
  [(.external, dumps (.obj [("ima_linked".toList, .bool false)]))]

variable {surroundings}

theorem takes_served (query : MonitorQuery) {proposed : Except MonitorError query.Reply}
    {reply : query.Reply} {world last : ConfiglessWorld}
    (served : world.serve query proposed = some (.ok reply, last)) :
    Takes configlessHost world (invoke query) (.value reply) last :=
  @takes_invoke _ _ _ _ _ _ _ configlessHost query world last proposed reply served

theorem takes_answer (query : MonitorQuery) (reply : query.Reply)
    {world last : ConfiglessWorld}
    (served : world.serve query (.ok reply) = some (.ok reply, last)) :
    Takes configlessHost world (invoke query) (.value reply) last :=
  takes_served query served

theorem takes_error (query : MonitorQuery) (world : ConfiglessWorld) :
    Takes configlessHost world (invoke query) (.raised .attributeError)
      { world with touched := world.touched || query.touchesSkaled } :=
  @takes_invoke_raised _ _ _ _ _ _ _ configlessHost query world _
    (.error .attributeError) .attributeError rfl

theorem takes_check {status : Directory Text → Evaluated Bool} {passed : Bool}
    (evaluates : status bareFiles = .ok passed) :
    Takes configlessHost { surroundings with } (check status) (.value passed)
      { surroundings with } := by
  refine takes_bind (takes_answer .readFiles bareFiles rfl) ?_
  rw [evaluates]
  exact takes_pure passed

theorem takes_getAllChecks (am : SkaledActionManager) :
    Takes configlessHost { surroundings with } am.getAllChecks
      (.value ⟨false, false, surroundings.running⟩) { surroundings with } := by
  have noRules : Takes configlessHost { surroundings with }
      SkaledActionManager.firewallRulesCheck (.value false) { surroundings with } :=
    takes_bind (takes_answer .observeRules (bareFiles, fun _ _ _ _ => true) rfl)
      (takes_pure false)
  have ima : Takes configlessHost { surroundings with } am.imaContainerCheck
      (.value true) { surroundings with } :=
    takes_bind (takes_check rfl) (takes_pure true)
  have seen : Takes configlessHost { surroundings with } (invoke (.isContainerRunning .schain))
      (.value surroundings.running) { surroundings with } :=
    @takes_served _ (.ok true) _ _ _ rfl
  have exitCode : Takes configlessHost { surroundings with }
      (ifNot surroundings.running do let _ ← invoke .containerExitCode) (.value ())
      { surroundings with } := by
    cases surroundings.running with
    | true => exact takes_pure ()
    | false => exact takes_bind (takes_answer .containerExitCode 0 rfl) (takes_pure ())
  refine takes_bind (takes_bind (takes_answer .observeBlocks
    (bareFiles, fun _ => true) rfl) (takes_pure false)) ?_
  refine takes_bind (takes_check rfl) ?_
  refine takes_bind (takes_check rfl) ?_
  refine takes_bind (takes_answer .containerExitCode 0 rfl) ?_
  refine takes_bind seen ?_
  refine takes_bind exitCode ?_
  refine takes_bind noRules ?_
  refine takes_bind ima ?_
  refine takes_bind (takes_answer (.isMonitorProcessAlive _) true rfl) ?_
  refine takes_bind (takes_check rfl) ?_
  refine takes_bind (takes_bind (takes_answer (.observeEndpoint _)
    (bareFiles, fun _ => true) rfl) (takes_pure false)) ?_
  refine takes_bind seen ?_
  refine takes_bind (takes_check rfl) ?_
  exact takes_bind (takes_answer .isVolumeExists true rfl) (takes_pure _)

def managerOf (surroundings : Surroundings) : SkaledActionManager where
  settings := settings
  checksRecord := surroundings.row
  hasNodeCliStatus := surroundings.nodeCliStatus.isFound

def choiceOf (surroundings : Surroundings) : MonitorChoice where
  checkStatus := ⟨false, false, surroundings.running⟩
  schainRecord := surroundings.row
  hasSkaledStatus := surroundings.skaledStatus.isFound
  hasNodeCliStatus := surroundings.nodeCliStatus.isFound
  automaticRepair := false

theorem takes_chooseSkaledMonitor {monitor : SkaledMonitor}
    (chosen : Takes configlessHost { surroundings with }
      ((choiceOf surroundings).getSkaledMonitor settings) (.value monitor)
      { surroundings with }) :
    Takes configlessHost { surroundings with } (chooseSkaledMonitor settings)
      (.value (managerOf settings surroundings, monitor)) { surroundings with } := by
  refine takes_bind (takes_answer .getSchain () rfl) ?_
  refine takes_bind (takes_answer .loadRecord surroundings.row rfl) ?_
  refine takes_bind (takes_answer .readSkaledStatus surroundings.skaledStatus rfl) ?_
  refine takes_bind (takes_answer .readNodeCliStatus surroundings.nodeCliStatus rfl) ?_
  refine takes_bind (takes_getAllChecks _) ?_
  refine takes_bind (takes_answer .getAutomaticRepairOption false rfl) ?_
  refine takes_bind (takes_answer .notifyChecks () rfl) ?_
  refine takes_bind chosen ?_
  exact takes_bind (takes_answer (.incrSkaledPipeline _) () rfl) (takes_pure _)

theorem takes_removal (world : ConfiglessWorld) {rest : MonitorM Unit} :
    ∃ last, last.touched = true ∧
      Takes configlessHost world
        (do
          SkaledActionManager.removeIfExists .schain
          SkaledActionManager.resetCounters
          rest)
        (.raised .attributeError) last := by
  let removed : ConfiglessWorld := { world with touched := world.touched || false || true }
  have removes : Takes configlessHost world (SkaledActionManager.removeIfExists .schain)
      (.value ()) removed := by
    refine takes_bind (takes_answer (.isContainerExists .schain) true rfl) ?_
    exact takes_bind (takes_answer (.removeContainer .schain) true rfl) (takes_pure ())
  refine ⟨_, ?_, takes_bind removes (takes_bind_raised (takes_bind_raised
    (takes_bind_raised (takes_error .loadRecord removed))))⟩
  simp [removed]

theorem exists_touched (monitor : SkaledMonitor)
    (chosen : Takes configlessHost { surroundings with }
      ((choiceOf surroundings).getSkaledMonitor settings) (.value monitor)
      { surroundings with })
    (executes : ∀ seen : Surroundings, ∃ last, last.touched = true ∧
      Takes configlessHost { seen with }
        ((managerOf settings surroundings).execute monitor) (.raised .attributeError)
        last) :
    ∃ last, last.touched = true ∧
      Takes configlessHost { surroundings with } (runSkaledPipeline settings)
        (.value ()) last := by
  let setter := Web.setMonitorLastSeen 0
  let copy := surroundings.row.set setter.column setter.value
  let seen : Surroundings :=
    { surroundings with row := Web.Table.saved setter copy surroundings.row }
  have sees : Takes configlessHost { surroundings with } updLastSeen (.value ())
      { seen with } := by
    refine takes_bind (takes_answer .loadRecord surroundings.row rfl) ?_
    refine takes_bind (takes_answer .time 0 rfl) ?_
    exact takes_bind (takes_bind (takes_answer (.saveRecord setter copy) () rfl)
      (takes_pure _)) (takes_pure ())
  obtain ⟨last, touched, executed⟩ := executes seen
  refine ⟨last, touched, ?_⟩
  rw [runSkaledPipeline_eq]
  refine takes_bind (takes_chooseSkaledMonitor settings chosen) ?_
  exact takes_swallowed (takes_bind sees (takes_bind_raised executed))

theorem recreate_touches (sync : settings.syncNode = true)
    (changed : surroundings.SslChanged) :
    ∃ last, last.touched = true ∧
      Takes configlessHost { surroundings with } (runSkaledPipeline settings)
        (.value ()) last := by
  obtain ⟨running, date, onDisk, differs⟩ := changed
  apply exists_touched settings .recreate
  · have recreates : Takes configlessHost { surroundings with }
        (choiceOf surroundings).isRecreateMode (.value true) { surroundings with } := by
      unfold MonitorChoice.isRecreateMode
      rw [show (choiceOf surroundings).checkStatus.skaledContainer = true from running]
      have dated : Takes configlessHost { surroundings with } (invoke .sslFilesChangeDate)
          (.value (some date)) { surroundings with } := by
        rw [← onDisk]
        exact @takes_served _ (.ok none) _ _ _ rfl
      refine takes_bind dated ?_
      have unequal : decide (date ≠ surroundings.row .sslChangeDate) = true :=
        decide_eq_true differs
      change Takes configlessHost _
        (pure (decide (date ≠ surroundings.row .sslChangeDate))) _ _
      rw [unequal]
      exact takes_pure true
    unfold MonitorChoice.getSkaledMonitor
    rw [if_pos sync]
    exact takes_bind recreates (takes_pure _)
  · intro seen
    obtain ⟨last, touched, removes⟩ := takes_removal { seen with }
    refine ⟨last, touched, ?_⟩
    refine takes_bind (takes_answer .isVolumeExists true rfl) ?_
    exact takes_bind (takes_pure ()) removes

theorem nodeRules :
    SkaledChecks.firewallRules nodeFiles (fun _ _ _ _ => true) = .ok true := by
  decide +kernel

theorem updateConfig_touches (sync : settings.syncNode = true)
    (reached : surroundings.ExitTimeReached) :
    ∃ last, last.touched = true ∧
      Takes configlessHost { surroundings with } (runSkaledPipeline settings)
        (.value ()) last := by
  obtain ⟨stopped, flag⟩ := reached
  have found : surroundings.skaledStatus.isFound = true := by
    cases status : surroundings.skaledStatus with
    | missing =>
        rw [status] at flag
        cases flag
    | _ => rfl
  apply exists_touched settings .updateConfig
  · have stays : Takes configlessHost { surroundings with }
        (choiceOf surroundings).isRecreateMode (.value false) { surroundings with } := by
      unfold MonitorChoice.isRecreateMode
      rw [show (choiceOf surroundings).checkStatus.skaledContainer = false from stopped]
      exact takes_pure false
    have updates : Takes configlessHost { surroundings with }
        (choiceOf surroundings).isConfigUpdateTime (.value true)
        { surroundings with } := by
      have looks : ((choiceOf surroundings).hasSkaledStatus &&
          !(choiceOf surroundings).checkStatus.skaledContainer) = true := by
        simp [choiceOf, found, stopped]
      unfold MonitorChoice.isConfigUpdateTime
      rw [if_pos looks]
      refine takes_bind (@takes_served .readSkaledStatus (.ok .missing) _ _ _ rfl) ?_
      rw [flag]
      exact takes_pure true
    unfold MonitorChoice.getSkaledMonitor
    rw [if_pos sync]
    exact takes_bind stays (takes_bind updates (takes_pure _))
  · intro seen
    let synced : ConfiglessWorld := { seen with synced := true }
    obtain ⟨last, touched, removes⟩ := takes_removal synced
    refine ⟨last, touched, ?_⟩
    have updates : Takes configlessHost { seen with } SkaledActionManager.updateConfig
        (.value ()) synced :=
      takes_bind (takes_answer .syncSkaledConfigWithUpstream true rfl) (takes_pure ())
    have rules : Takes configlessHost synced SkaledActionManager.firewallRulesCheck
        (.value true) synced := by
      refine takes_bind (takes_answer .observeRules (nodeFiles, fun _ _ _ _ => true) rfl) ?_
      dsimp only
      rw [nodeRules]
      exact takes_pure true
    have unscheduled : Takes configlessHost synced SkaledActionManager.resetExitSchedule
        (.value ()) synced :=
      takes_bind (takes_answer .exitScheduleExists false rfl) (takes_pure ())
    have noIma : Takes configlessHost synced (SkaledActionManager.removeIfExists .ima)
        (.value ()) synced :=
      takes_bind (takes_answer (.isContainerExists .ima) false rfl) (takes_pure ())
    refine takes_bind (takes_check rfl) (takes_bind updates ?_)
    refine takes_bind rules (takes_bind (takes_pure ()) ?_)
    refine takes_bind (takes_answer .isVolumeExists true rfl) ?_
    refine takes_bind (takes_pure ()) (takes_bind unscheduled ?_)
    exact takes_bind noIma removes

/-- A run that finds no skaled config leaves the container alone just on a regular
node, or where neither the certificate has changed nor skaled has exited at its
exit time. -/
theorem configless_run_spares_container_iff (surroundings : Surroundings) :
    (∀ outcome last, Takes configlessHost { surroundings with }
        (runSkaledPipeline settings) outcome last → last.touched = false) ↔
      (settings.syncNode = true →
        ¬ surroundings.SslChanged ∧ ¬ surroundings.ExitTimeReached) := by
  constructor
  · intro spares sync
    constructor
    · intro changed
      obtain ⟨last, touched, takes⟩ := recreate_touches settings sync changed
      rw [spares _ _ takes] at touched
      cases touched
    · intro reached
      obtain ⟨last, touched, takes⟩ := updateConfig_touches settings sync reached
      rw [spares _ _ takes] at touched
      cases touched
  · intro quiet outcome last takes
    exact (takes.ends (spared_of_unchanged settings surroundings quiet)
      (fun _ _ _ => trivial) rfl rfl).1

end Runs

/-- On a sync node the container is removed for a new certificate although there is
no config to start it with. -/
theorem configless_sync_node_can_lose_container :
    ¬ ∀ (settings : SkaledSettings) (surroundings : Surroundings)
      (outcome : Outcome MonitorError Unit) (last : ConfiglessWorld),
      Takes configlessHost { surroundings with } (runSkaledPipeline settings) outcome
        last → last.touched = false := by
  intro claim
  let surroundings : Surroundings := {
    row := newRow
    skaledStatus := .missing
    nodeCliStatus := .missing
    running := true
    sslDate := some 5 }
  have changed : surroundings.SslChanged := ⟨rfl, 5, rfl, by decide⟩
  obtain ⟨last, touched, takes⟩ :=
    recreate_touches { syncNode := true } rfl changed
  rw [claim _ _ _ _ takes] at touched
  cases touched

end SkaleAdmin.Monitor
