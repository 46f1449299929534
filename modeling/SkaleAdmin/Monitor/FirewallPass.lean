import SkaleAdmin.Firewall.CachedController
import SkaleAdmin.Library.Replay
import SkaleAdmin.Monitor.SkaledFootprint

/-! The rules on the host after the monitors that look after them. -/

namespace SkaleAdmin.Monitor

open Interaction PyText Json Config
open Interaction.Procedure (Takes takes_pure takes_bind takes_invoke takes_of_isValue
  calls_pure calls_raise calls_bind calls_invoke)
open Interaction.Ledger (Yields yields_pure yields_raise yields_bind yields_of_fact
  yields_keeping yields_serve)
open Firewall (isFalsy SChainRule SChainRuleController SChainFirewallManager RuleSession)

/-! ### What the controller is configured with -/

structure RuleArguments where
  basePort : Option Nat
  ownIp : Option Text
  nodeIps : List Text
  syncIpRanges : List Firewall.IpRange
  deriving DecidableEq

namespace RuleArguments

def basePortOf : Value → Option (Option Nat)
  | .num (.ofNat basePort) => some (some basePort)
  | .null => some none
  | _ => none

def ownIpOf : Value → Option (Option Text)
  | .str ownIp => some (some ownIp)
  | .null => some none
  | _ => none

def nodeIpOf : Value → Option Text
  | .str ip => some ip
  | _ => none

def ofValues (basePort ownIp : Value) (nodeIps : List Value) (ranges : List IpRange) :
    Option RuleArguments := do
  let basePort ← basePortOf basePort
  let ownIp ← ownIpOf ownIp
  let nodeIps ← nodeIps.mapM nodeIpOf
  let syncIpRanges := ranges.map fun range => ⟨range.startIp, range.endIp⟩
  return { basePort, ownIp, nodeIps, syncIpRanges }

def configure (arguments : RuleArguments) (session : RuleSession) : RuleSession :=
  session.configure arguments.basePort arguments.ownIp arguments.nodeIps
    arguments.syncIpRanges

/-- `get_default_rule_controller`, configured. -/
def fresh (arguments : RuleArguments) (controller : SChainRuleController) :
    SChainRuleController :=
  SChainRuleController.configure
    { name := controller.name
      portsPerSchain := controller.portsPerSchain
      portAllocation := controller.portAllocation }
    arguments.basePort arguments.ownIp arguments.nodeIps arguments.syncIpRanges

end RuleArguments

def namedConfig (files : Directory Text) (upstream : Bool) : Evaluated Value :=
  if upstream then latestUpstreamConfig files else skaledConfig files

/-- The arguments that the config names, with the ranges of the external config. -/
def namedArguments (files : Directory Text) (upstream : Bool) :
    Evaluated (Option RuleArguments) := do
  let conf ← namedConfig files upstream
  let basePort ← getBasePortFromConfig conf
  let nodeIps ← getNodeIpsFromConfig conf
  let ownIp ← getOwnIpFromConfig conf
  let ranges ← externalRanges files
  return RuleArguments.ofValues basePort ownIp nodeIps ranges

/-! ### The world -/

structure RulesWorld where
  files : Directory Text
  session : RuleSession

namespace RulesWorld

def check (world : RulesWorld) : Option (Bool × RulesWorld) :=
  if SkaledChecks.config world.files then
    match namedArguments world.files false with
    | .ok (some arguments) =>
        (arguments.configure world.session).isRulesSynced.toOption.map
          fun (synced, session) => (synced, { world with session })
    | _ => none
  else
    some (false, world)

def sync (world : RulesWorld) (arguments : RuleArguments) : Option RulesWorld :=
  (arguments.configure world.session).sync.toOption.map
    fun session => { world with session }

/-- The files after a `sync_skaled_config_with_upstream`, which does not read the time. -/
def synchronized (files : Directory Text) : Except OSError Bool × Directory Text :=
  Config.syncSkaledConfigWithUpstream.served (serveDisk 0) files

/-- A call that raises ends the pass. -/
def serve (query : MonitorQuery) (proposed : Except MonitorError query.Reply)
    (world : RulesWorld) : Option (Except MonitorError query.Reply × RulesWorld) :=
  match query, proposed with
  | _, .error error => some (.error error, world)
  | .readFiles, .ok _ => some (.ok world.files, world)
  | .observeRules, .ok _ =>
      match world.check with
      | some (synced, checked) => some (.ok (world.files, fun _ _ _ _ => synced), checked)
      | none => some (.error .valueError, world)
  | .syncRules basePort ownIp nodeIps ranges, .ok _ =>
      match (RuleArguments.ofValues basePort ownIp nodeIps ranges).bind world.sync with
      | some synced => some (.ok (), synced)
      | none => some (.error .valueError, world)
  | .syncSkaledConfigWithUpstream, .ok _ =>
      match synchronized world.files with
      | (.ok updated, files) => some (.ok updated, { world with files })
      | (.error _, files) => some (.error (.otherError "OSError"), { world with files })
  | _, .ok reply => some (.ok reply, world)

end RulesWorld

def rulesHost : Host monitorInterface RulesWorld Empty Empty
    (Outcome MonitorError Unit × Unit) where
  move _ move := move.elim
  serve := RulesWorld.serve
  job job := job.elim

/-! ### A check of the rules -/

section Sessions

variable {session : RuleSession} {arguments : RuleArguments}

theorem configured_of_isRulesSynced {synced : Bool} {checked : RuleSession}
    (ran : session.isRulesSynced = .ok (synced, checked)) :
    session.controller.isConfigured = true := by
  by_contra absent
  have refuses : session.controller.expectedRules =
      .error (.notInitialized session.controller.getMissing) := if_neg absent
  unfold RuleSession.isRulesSynced at ran
  cases obtained : session.getFirewallManager with
  | error error =>
      rw [obtained] at ran
      cases ran
  | ok result =>
      obtain ⟨manager, managed⟩ := result
      have same := RuleSession.renewed_of_getFirewallManager obtained
      rw [obtained] at ran
      simp only [bind, Except.bind, same, refuses] at ran
      cases ran

theorem configured_of_sync {synced : RuleSession} (ran : session.sync = .ok synced) :
    session.controller.isConfigured = true := by
  by_contra absent
  have refuses : session.controller.expectedRules =
      .error (.notInitialized session.controller.getMissing) := if_neg absent
  unfold RuleSession.sync at ran
  rw [refuses] at ran
  cases ran

theorem configure_again (arguments : RuleArguments) (session : RuleSession) :
    arguments.configure (arguments.configure session).managed =
      (arguments.configure session).managed := by
  unfold RuleArguments.configure RuleSession.configure RuleSession.managed
    SChainRuleController.configure
  simp only [RuleSession.mk.injEq, SChainRuleController.mk.injEq, true_and, and_true,
    heq_eq_eq]
  refine ⟨?_, ?_, ?_, ?_⟩ <;> split <;> rfl

end Sessions

section Check

variable {world checked : RulesWorld} {passed : Bool}

theorem check_cases (ran : world.check = some (passed, checked)) :
    checked = world ∧ passed = false ∨
      ∃ arguments, namedArguments world.files false = .ok (some arguments) ∧
        (arguments.configure world.session).controller.isConfigured = true ∧
        checked = { world with session := (arguments.configure world.session).managed } ∧
        passed = decide ((arguments.configure world.session).manager.rulesOn
          world.session.host =
            (arguments.configure world.session).controller.expected.toFinset) := by
  unfold RulesWorld.check at ran
  split at ran
  case isFalse =>
    cases ran
    exact .inl ⟨rfl, rfl⟩
  case isTrue =>
    split at ran
    case h_2 => cases ran
    case h_1 arguments named =>
      right
      cases returned : (arguments.configure world.session).isRulesSynced with
      | error error =>
          rw [returned] at ran
          cases ran
      | ok result =>
          obtain ⟨synced, session⟩ := result
          have configured := configured_of_isRulesSynced returned
          have computed := RuleSession.isRulesSynced_of_configured configured
          rw [returned] at ran computed
          cases ran
          cases computed
          exact ⟨arguments, named, configured, rfl, rfl⟩

theorem check_files (ran : world.check = some (passed, checked)) :
    checked.files = world.files := by
  rcases check_cases ran with ⟨rfl, _⟩ | ⟨arguments, _, _, rfl, _⟩ <;> rfl

theorem check_host (ran : world.check = some (passed, checked)) :
    checked.session.host = world.session.host := by
  rcases check_cases ran with ⟨rfl, _⟩ | ⟨arguments, _, _, rfl, _⟩ <;> rfl

theorem check_again (ran : world.check = some (passed, checked)) :
    checked.check = some (passed, checked) := by
  have first := ran
  unfold RulesWorld.check at ran
  split at ran
  case isFalse =>
    cases ran
    exact first
  case isTrue exist =>
    rcases check_cases first with ⟨rfl, _⟩ | ⟨arguments, named, configured, rfl, value⟩
    · exact first
    · unfold RulesWorld.check
      rw [if_pos exist]
      simp only [named]
      rw [configure_again, RuleSession.isRulesSynced_of_configured (by exact configured), value]
      rfl

end Check

/-! ### The calls -/

def MonitorQuery.keepsRules : MonitorQuery → Bool
  | observeRules | syncRules .. | syncSkaledConfigWithUpstream => false
  | _ => true

section Calls

variable {world last : RulesWorld} {query : MonitorQuery}

theorem rules_serve_same (keeps : query.keepsRules = true)
    {proposed answer : Except MonitorError query.Reply}
    (served : world.serve query proposed = some (answer, last)) : last = world := by
  unfold RulesWorld.serve at served
  split at served
  case h_3 | h_4 | h_5 => cases keeps
  all_goals
    cases served
    rfl

theorem rules_serve_readFiles {proposed : Except MonitorError (Directory Text)}
    {files : Directory Text} (served : world.serve .readFiles proposed = some (.ok files, last)) :
    last = world ∧ files = world.files := by
  cases proposed <;> cases served
  exact ⟨rfl, rfl⟩

theorem rules_serve_observeRules
    {proposed : Except MonitorError (MonitorQuery.observeRules).Reply}
    {reply : (MonitorQuery.observeRules).Reply}
    (served : world.serve .observeRules proposed = some (.ok reply, last)) :
    ∃ synced, world.check = some (synced, last) ∧
      reply = (world.files, fun _ _ _ _ => synced) := by
  cases proposed with
  | error error => cases served
  | ok given =>
      unfold RulesWorld.serve at served
      dsimp only at served
      split at served
      case h_1 synced checked found =>
        cases served
        exact ⟨synced, found, rfl⟩
      case h_2 => cases served

theorem rules_serve_syncRules {basePort ownIp : Value} {nodeIps : List Value}
    {ranges : List IpRange} {proposed : Except MonitorError Unit} {reply : Unit}
    (served : world.serve (.syncRules basePort ownIp nodeIps ranges) proposed =
      some (.ok reply, last)) :
    ∃ arguments, RuleArguments.ofValues basePort ownIp nodeIps ranges = some arguments ∧
      world.sync arguments = some last := by
  cases proposed with
  | error error => cases served
  | ok given =>
      unfold RulesWorld.serve at served
      dsimp only at served
      split at served
      case h_1 synced found =>
        cases served
        exact Option.bind_eq_some_iff.mp found
      case h_2 => cases served

theorem rules_serve_update {proposed : Except MonitorError Bool} {updated : Bool}
    (served : world.serve .syncSkaledConfigWithUpstream proposed =
      some (.ok updated, last)) :
    last = { world with files := (RulesWorld.synchronized world.files).2 } := by
  cases proposed with
  | error error => cases served
  | ok given =>
      unfold RulesWorld.serve at served
      dsimp only at served
      split at served
      case h_1 ended =>
        cases served
        rw [ended]
      case h_2 => cases served

theorem keepsRules_of_ordinary (query : MonitorQuery) (ordinary : query.isOrdinary = true) :
    query.keepsRules = true := by
  cases query with
  | observeRules | syncRules | syncSkaledConfigWithUpstream => cases ordinary
  | _ => rfl

abbrev KeepsRules {α : Type} (body : MonitorM α) : Prop :=
  body.Calls fun query : MonitorQuery => query.keepsRules = true

theorem rulesYields_keeping {α : Type} {body : MonitorM α} {assertion : RulesWorld → Prop}
    (keeps : KeepsRules body) :
    (Ledger.ofHost rulesHost).Yields assertion body fun _ => assertion :=
  yields_keeping keeps fun _ _ _ _ _ keeps served => rules_serve_same keeps served

theorem yields_evaluated {α β W M J ρ κ : Type} {ledger : Ledger monitorInterface W M J ρ κ}
    {evaluated : Evaluated β} {next : β → MonitorM α} {before : κ → Prop}
    {after : α → κ → Prop}
    (rest : ∀ value, evaluated = .ok value → ledger.Yields before (next value) after) :
    ledger.Yields before (evaluate evaluated >>= next) after := by
  cases evaluated with
  | ok value =>
      refine yields_bind (fun given seen => before seen ∧ given = value)
        (yields_pure fun _ holds => ⟨holds, rfl⟩) fun given => ?_
      apply yields_of_fact (fun _ holds => holds.2)
      rintro rfl
      exact (rest given rfl).strengthen fun _ holds => holds.1
  | error error =>
      refine yields_bind (fun _ _ => False) yields_raise fun value => ?_
      exact yields_of_fact (fun _ impossible => impossible) False.elim

theorem rulesYields_readFiles (start : RulesWorld) :
    (Ledger.ofHost rulesHost).Yields (· = start) (invoke .readFiles)
      fun files world => world = start ∧ files = start.files := by
  apply yields_serve
  rintro world last proposed reply rfl served
  exact rules_serve_readFiles served

end Calls

/-! ### Handling the rules -/

def SkaledMonitor.handlesRules : SkaledMonitor → Bool
  | recreate | noConfig => false
  | _ => true

/-- `firewall_rules(upstream=True)`. -/
def SkaledMonitor.namesUpstream : SkaledMonitor → Bool
  | reloadIp => true
  | _ => false

def RulesWorld.lookedAt (world : RulesWorld) : SkaledMonitor → RulesWorld
  | .updateConfig =>
      match SkaledChecks.configUpdated world.files with
      | .ok false => { world with files := (synchronized world.files).2 }
      | _ => world
  | _ => world

/-- The rules are synced for the config that is asked for where the check does not pass. -/
def Handled (upstream : Bool) (start last : RulesWorld) : Prop :=
  ∃ passed checked, start.check = some (passed, checked) ∧
    if passed then last = checked
    else ∃ arguments, namedArguments checked.files upstream = .ok (some arguments) ∧
      checked.sync arguments = some last

section Handling

variable {start : RulesWorld}

theorem firewallRules_value {files : Directory Text} {synced passed : Bool}
    (value : SkaledChecks.firewallRules files (fun _ _ _ _ => synced) = .ok passed) :
    passed = (SkaledChecks.config files && synced) := by
  unfold SkaledChecks.firewallRules at value
  split at value
  case isFalse absent =>
    cases value
    rw [Bool.not_eq_true] at absent
    rw [absent, Bool.false_and]
  case isTrue exist =>
    rw [exist, Bool.true_and]
    cases conf : skaledConfig files with
    | error error => rw [conf] at value; cases value
    | ok conf' =>
    rw [conf] at value
    simp only [bind, Except.bind] at value
    split at value
    · cases value
    split at value
    · cases value
    split at value
    · cases value
    split at value
    · cases value
    · cases value
      rfl

theorem rulesYields_firewallRulesCheck (start : RulesWorld) :
    (Ledger.ofHost rulesHost).Yields (· = start) SkaledActionManager.firewallRulesCheck
      fun passed world => start.check = some (passed, world) := by
  have observes : (Ledger.ofHost rulesHost).Yields (· = start) (invoke .observeRules)
      fun reply world => ∃ synced, start.check = some (synced, world) ∧
        reply = (start.files, fun _ _ _ _ => synced) := by
    apply yields_serve
    rintro world last proposed reply rfl served
    exact rules_serve_observeRules served
  refine yields_bind _ observes fun reply => ?_
  obtain ⟨files, synced⟩ := reply
  cases value : SkaledChecks.firewallRules files synced with
  | error error =>
      change (Ledger.ofHost rulesHost).Yields _ (evaluate (SkaledChecks.firewallRules _ _)) _
      rw [value]
      exact yields_raise
  | ok passed =>
      change (Ledger.ofHost rulesHost).Yields _ (evaluate (SkaledChecks.firewallRules _ _)) _
      rw [value]
      apply yields_pure
      rintro world ⟨synced, ran, ⟨⟩⟩
      rw [firewallRules_value value, ran]
      unfold RulesWorld.check at ran
      split at ran
      case isTrue exist => rw [exist, Bool.true_and]
      case isFalse absent =>
        cases ran
        rw [Bool.and_false]

theorem rulesYields_configureRules (start : RulesWorld) (upstream : Bool) :
    (Ledger.ofHost rulesHost).Yields (· = start)
      (SkaledActionManager.configureRules upstream) fun _ world =>
        ∃ arguments, namedArguments start.files upstream = .ok (some arguments) ∧
          start.sync arguments = some world := by
  refine yields_bind _ (rulesYields_readFiles start) fun files => ?_
  apply yields_of_fact (fun _ holds => holds.2)
  rintro rfl
  apply Yields.strengthen _ fun _ holds => holds.1
  apply yields_evaluated
  intro conf read
  apply yields_evaluated
  intro basePort hasBasePort
  apply yields_evaluated
  intro nodeIps hasNodeIps
  apply yields_evaluated
  intro ownIp hasOwnIp
  refine yields_bind _ (rulesYields_readFiles start) fun files => ?_
  apply yields_of_fact (fun _ holds => holds.2)
  rintro rfl
  apply yields_evaluated
  intro ranges hasRanges
  apply yields_serve
  rintro world last proposed reply ⟨rfl, _⟩ served
  obtain ⟨arguments, valued, synced⟩ := rules_serve_syncRules served
  refine ⟨arguments, ?_, synced⟩
  unfold namedArguments
  rw [show namedConfig world.files upstream = .ok conf from read, ← valued]
  simp only [bind, Except.bind, hasBasePort, hasNodeIps, hasOwnIp, hasRanges]
  rfl

theorem rulesYields_handled {α : Type} (upstream : Bool) {rest : Unit → MonitorM α}
    (keeps : ∀ done, KeepsRules (rest done)) :
    (Ledger.ofHost rulesHost).Yields (· = start) (do
        let passed ← SkaledActionManager.firewallRulesCheck
        let done ← ifNot passed (SkaledActionManager.firewallRules upstream)
        rest done)
      fun _ world => Handled upstream start world := by
  refine yields_bind _ (rulesYields_firewallRulesCheck start) fun passed => ?_
  refine yields_bind (fun _ world => Handled upstream start world) ?_
    fun done => rulesYields_keeping (keeps done)
  cases passed with
  | true => exact yields_pure fun checked ran => ⟨true, checked, ran, rfl⟩
  | false =>
      apply yields_of_fact (fun world ran => (⟨world, ran⟩ : ∃ checked, _))
      rintro ⟨checked, ran⟩
      have again := check_again ran
      have settled : ∀ world, start.check = some (false, world) → world = checked := by
        intro world same
        rw [ran] at same
        cases same
        rfl
      apply Yields.strengthen _ settled
      refine yields_bind _ (rulesYields_firewallRulesCheck checked) fun passed => ?_
      have refused : ∀ world, checked.check = some (passed, world) → passed = false := by
        intro world same
        rw [again] at same
        cases same
        rfl
      apply yields_of_fact refused
      · rintro rfl
        refine ((rulesYields_configureRules checked upstream).strengthen ?_).weaken ?_
        · intro world same
          rw [again] at same
          cases same
          rfl
        · rintro _ world ⟨arguments, named, synced⟩
          exact ⟨false, checked, ran, arguments, named, synced⟩

end Handling

section Monitors

variable (am : SkaledActionManager)

theorem keepsRules_invoke {query : MonitorQuery} (keeps : query.keepsRules = true) :
    KeepsRules (invoke query) :=
  calls_invoke keeps

theorem keepsRules_plain {α : Type} {body : MonitorM α} (plain : Plain body) :
    KeepsRules body :=
  calls_plain keepsRules_of_ordinary plain

theorem keepsRules_ensureVolume {α : Type} {rest : Unit → MonitorM α}
    (keeps : ∀ done, KeepsRules (rest done)) :
    KeepsRules (do
      let found ← invoke .isVolumeExists
      let done ← ifNot found SkaledActionManager.volume
      rest done) := by
  refine calls_bind (keepsRules_invoke rfl) fun found => ?_
  exact calls_bind (calls_ifNot
    (SkaledActionManager.calls_volume keepsRules_of_ordinary) found) keeps

theorem keepsRules_ensureImaContainer {α : Type} {rest : Unit → MonitorM α}
    (keeps : ∀ done, KeepsRules (rest done)) :
    KeepsRules (do
      let passed ← am.imaContainerCheck
      let done ← ifNot passed am.imaContainer
      rest done) := by
  refine calls_bind (am.calls_imaContainerCheck keepsRules_of_ordinary) fun passed => ?_
  exact calls_bind (calls_ifNot (am.calls_imaContainer keepsRules_of_ordinary) passed) keeps

theorem keepsRules_skaledContainer (downloadSnapshot : Bool) (startTs : Option Int)
    (abortOnExit : Bool) :
    KeepsRules (am.skaledContainer downloadSnapshot startTs abortOnExit) :=
  am.calls_skaledContainer keepsRules_of_ordinary (fun _ _ => rfl) startTs abortOnExit

theorem keepsRules_setRecord (setter : Web.Setter) : KeepsRules (setRecord setter) :=
  calls_setRecord keepsRules_of_ordinary setter

theorem keepsRules_containerOrReset {start : MonitorM Unit} (keeps : KeepsRules start) :
    KeepsRules (SkaledActionManager.containerOrReset start) :=
  SkaledActionManager.calls_containerOrReset keepsRules_of_ordinary keeps

theorem keepsRules_scheduleSkaledExit (exitTs : Option Int) :
    KeepsRules (SkaledActionManager.scheduleSkaledExit exitTs) := by
  have scheduled : KeepsRules SkaledActionManager.isExitScheduled :=
    calls_ite (keepsRules_plain (plain_skaledFlag _)) (calls_pure _) (keepsRules_invoke rfl)
  refine calls_ite scheduled (calls_pure _) ?_
  cases exitTs with
  | none => exact calls_pure _
  | some exitTs => exact keepsRules_invoke rfl

theorem keepsRules_resetExitSchedule :
    KeepsRules SkaledActionManager.resetExitSchedule :=
  calls_ite (keepsRules_invoke rfl) (keepsRules_invoke rfl) (calls_pure _)

theorem keepsRules_recreatedSchainContainers (abortOnExit : Bool) :
    KeepsRules (am.recreatedSchainContainers abortOnExit) := by
  refine calls_bind (SkaledActionManager.calls_removeIfExists keepsRules_of_ordinary _)
    fun _ => ?_
  refine calls_bind (SkaledActionManager.calls_removeIfExists keepsRules_of_ordinary _)
    fun _ => ?_
  refine calls_bind (SkaledActionManager.calls_resetCounters keepsRules_of_ordinary)
    fun _ => ?_
  exact calls_bind (keepsRules_skaledContainer am _ _ _) fun _ =>
    am.calls_imaContainer keepsRules_of_ordinary

variable {am} {start : RulesWorld}

theorem rulesYields_watchSkaled (upstream : Bool) :
    (Ledger.ofHost rulesHost).Yields (· = start) (am.watchSkaled upstream)
      fun _ world => Handled upstream start world := by
  apply rulesYields_handled
  intro _
  apply keepsRules_ensureVolume
  intro _
  refine calls_bind (keepsRules_containerOrReset
    (keepsRules_skaledContainer am _ _ _)) fun _ => ?_
  exact calls_bind (am.calls_rpcCheck keepsRules_of_ordinary) fun passed =>
    calls_ifNot (am.calls_skaledRpc keepsRules_of_ordinary rfl) passed

theorem rulesYields_watched {upstream : Bool} {rest : Unit → MonitorM Unit}
    (keeps : ∀ done, KeepsRules (rest done)) :
    (Ledger.ofHost rulesHost).Yields (· = start) (am.watchSkaled upstream >>= rest)
      fun _ world => Handled upstream start world :=
  yields_bind _ (rulesYields_watchSkaled upstream) fun done =>
    rulesYields_keeping (keeps done)

theorem rulesYields_regular :
    (Ledger.ofHost rulesHost).Yields (· = start) am.regularSkaledMonitor
      fun _ world => Handled false start world := by
  apply rulesYields_watched
  intro _
  exact calls_bind (am.calls_imaContainerCheck keepsRules_of_ordinary) fun _ =>
    calls_ifNot (am.calls_imaContainer keepsRules_of_ordinary) _

theorem rulesYields_reloadGroup :
    (Ledger.ofHost rulesHost).Yields (· = start) am.reloadGroupSkaledMonitor
      fun _ world => Handled false start world := by
  apply rulesYields_watched
  intro _
  apply keepsRules_ensureImaContainer
  intro _
  exact calls_bind (keepsRules_plain SkaledActionManager.plain_upstreamFinishTs) fun _ =>
    keepsRules_scheduleSkaledExit _

theorem rulesYields_reloadIp :
    (Ledger.ofHost rulesHost).Yields (· = start) am.reloadIpSkaledMonitor
      fun _ world => Handled true start world := by
  apply rulesYields_watched
  intro _
  apply keepsRules_ensureImaContainer
  intro _
  exact calls_bind (keepsRules_plain SkaledActionManager.plain_reloadTs) fun _ =>
    keepsRules_scheduleSkaledExit _

theorem rulesYields_repair :
    (Ledger.ofHost rulesHost).Yields (· = start) am.repairSkaledMonitor
      fun _ world => Handled false start world := by
  refine yields_bind _ (rulesYields_keeping (keepsRules_invoke rfl)) fun _ => ?_
  refine yields_bind _ (rulesYields_keeping (keepsRules_invoke rfl)) fun _ => ?_
  refine yields_bind _ (rulesYields_keeping (calls_bind (keepsRules_invoke rfl) fun _ =>
    keepsRules_invoke rfl)) fun _ => ?_
  apply rulesYields_handled
  intro _
  apply keepsRules_ensureVolume
  intro _
  refine calls_ite (keepsRules_invoke rfl) (calls_raise _) ?_
  refine calls_bind (keepsRules_skaledContainer am _ _ _) fun _ => ?_
  exact calls_bind (keepsRules_invoke rfl) fun _ => keepsRules_setRecord _

theorem rulesYields_ensuredVolume {rest : Unit → MonitorM Unit} {upstream : Bool}
    (yields : ∀ done, (Ledger.ofHost rulesHost).Yields (· = start) (rest done)
      fun _ world => Handled upstream start world) :
    (Ledger.ofHost rulesHost).Yields (· = start) (do
        let found ← invoke .isVolumeExists
        let done ← ifNot found SkaledActionManager.volume
        rest done)
      fun _ world => Handled upstream start world := by
  refine yields_bind _ (rulesYields_keeping (keepsRules_invoke rfl)) fun found => ?_
  exact yields_bind _ (rulesYields_keeping (calls_ifNot
    (SkaledActionManager.calls_volume keepsRules_of_ordinary) found)) yields

theorem rulesYields_backup :
    (Ledger.ofHost rulesHost).Yields (· = start) am.backupSkaledMonitor
      fun _ world => Handled false start world := by
  apply rulesYields_ensuredVolume
  intro _
  apply rulesYields_handled
  intro _
  refine calls_bind (keepsRules_containerOrReset
    (keepsRules_skaledContainer am _ _ _)) fun _ => ?_
  apply keepsRules_ensureImaContainer
  exact fun _ => keepsRules_setRecord _

theorem rulesYields_newNode :
    (Ledger.ofHost rulesHost).Yields (· = start) am.newNodeSkaledMonitor
      fun _ world => Handled false start world := by
  apply rulesYields_ensuredVolume
  intro _
  apply rulesYields_handled
  intro _
  refine calls_bind (keepsRules_containerOrReset ?_) fun _ => ?_
  · exact calls_bind (keepsRules_plain SkaledActionManager.plain_finishTs) fun _ =>
      keepsRules_skaledContainer am _ _ _
  · exact calls_bind (am.calls_imaContainerCheck keepsRules_of_ordinary) fun _ =>
      calls_ifNot (am.calls_imaContainer keepsRules_of_ordinary) _

theorem rulesYields_configUpdated :
    (Ledger.ofHost rulesHost).Yields (· = start) (check SkaledChecks.configUpdated)
      fun updated world => world = start ∧
        SkaledChecks.configUpdated start.files = .ok updated := by
  refine yields_bind _ (rulesYields_readFiles start) fun files => ?_
  apply yields_of_fact (fun _ holds => holds.2)
  rintro rfl
  cases value : SkaledChecks.configUpdated start.files with
  | ok updated => exact yields_pure fun _ holds => ⟨holds.1, rfl⟩
  | error error => exact yields_raise

theorem rulesYields_updateConfig :
    (Ledger.ofHost rulesHost).Yields (· = start) am.updateConfigSkaledMonitor
      fun _ world => Handled false (start.lookedAt .updateConfig) world := by
  refine yields_bind _ rulesYields_configUpdated fun updated => ?_
  have updates : (Ledger.ofHost rulesHost).Yields
      (fun world => world = start ∧ SkaledChecks.configUpdated start.files = .ok updated)
      (ifNot updated SkaledActionManager.updateConfig)
      fun _ world => world = start.lookedAt .updateConfig := by
    apply yields_of_fact (fun _ holds => holds.2)
    intro value
    unfold RulesWorld.lookedAt
    cases updated with
    | true =>
        simp only [value]
        exact yields_pure fun world holds => holds.1
    | false =>
        simp only [value]
        refine yields_bind (fun _ world => world =
          { start with files := (RulesWorld.synchronized start.files).2 }) ?_
          fun _ => yields_pure fun _ holds => holds
        apply yields_serve
        rintro world last proposed reply ⟨rfl, _⟩ served
        exact rules_serve_update served
  refine yields_bind _ updates fun _ => ?_
  apply rulesYields_handled
  intro _
  apply keepsRules_ensureVolume
  intro _
  exact calls_bind keepsRules_resetExitSchedule fun _ =>
    keepsRules_recreatedSchainContainers am _

theorem handled_of_takes {monitor : SkaledMonitor} {last : RulesWorld}
    (handles : monitor.handlesRules = true)
    (takes : Takes rulesHost start (am.execute monitor) (.value ()) last) :
    Handled monitor.namesUpstream (start.lookedAt monitor) last := by
  cases monitor with
  | regular => exact takes.yields rulesYields_regular rfl
  | repair => exact takes.yields rulesYields_repair rfl
  | backup => exact takes.yields rulesYields_backup rfl
  | recreate => cases handles
  | updateConfig => exact takes.yields rulesYields_updateConfig rfl
  | reloadGroup => exact takes.yields rulesYields_reloadGroup rfl
  | reloadIp => exact takes.yields rulesYields_reloadIp rfl
  | noConfig => cases handles
  | newNode => exact takes.yields rulesYields_newNode rfl

end Monitors

/-! ### What is left in the port range -/

namespace RuleArguments

variable (arguments : RuleArguments) (session : RuleSession)

/-- The rules in the port range of the arguments are the ones that they ask for. -/
def Holds : Prop :=
  (arguments.fresh session.controller).manager.rulesOn session.host =
    (arguments.fresh session.controller).expected.toFinset

/-- What the controller keeps of earlier arguments makes no difference to the rules in the
port range, nor do the rules that its manager does not see. -/
def Agrees : Prop :=
  let configured := arguments.configure session
  let fresh := arguments.fresh session.controller
  (∀ rule ∈ configured.controller.expected, rule ∈ fresh.expected) ∧
    (∀ rule ∈ session.host, fresh.manager.InRange rule.port →
      configured.manager.InRange rule.port ∨ rule ∈ fresh.expected) ∧
    ∀ rule ∈ fresh.expected, rule ∈ configured.controller.expected ∨
      rule ∈ session.host ∧ ¬ configured.manager.InRange rule.port

variable {arguments session}

theorem configure_range
    (asks : (arguments.fresh session.controller).isConfigured = true) :
    (arguments.configure session).controller.manager =
      (arguments.fresh session.controller).manager := by
  have base : arguments.basePort.getD 0 ≠ 0 := by
    intro absent
    simp [fresh, SChainRuleController.configure, SChainRuleController.isConfigured,
      absent] at asks
  simp [configure, RuleSession.configure, fresh, SChainRuleController.configure,
    SChainRuleController.manager, base]

theorem synced_iff_agrees
    (asks : (arguments.fresh session.controller).isConfigured = true) :
    (arguments.fresh session.controller).manager.rulesOn
        (arguments.configure session).synced =
      (arguments.fresh session.controller).expected.toFinset ↔ arguments.Agrees session := by
  apply RuleSession.rulesOn_synced_eq_iff
  intro rule member
  rw [← configure_range asks]
  exact SChainRuleController.inRange_of_mem_expected member

end RuleArguments

namespace RulesWorld

def passes (world : RulesWorld) : Bool :=
  (world.check.map Prod.fst).getD false

def checkedSession (world : RulesWorld) : RuleSession :=
  (world.check.map fun checked => checked.2.session).getD world.session

end RulesWorld

section Pass

variable {start last : RulesWorld} {arguments : RuleArguments} {upstream : Bool}

theorem handled_files (handled : Handled upstream start last) : last.files = start.files := by
  obtain ⟨passed, checked, ran, ended⟩ := handled
  rw [← check_files ran]
  cases passed with
  | true => rw [show last = checked from ended]
  | false =>
      obtain ⟨arguments, _, synced⟩ := ended
      obtain ⟨session, _, rfl⟩ := Option.map_eq_some_iff.mp synced
      rfl

theorem fresh_check {passed : Bool} {checked : RulesWorld}
    (ran : start.check = some (passed, checked)) :
    arguments.fresh checked.session.controller =
      arguments.fresh start.session.controller := by
  rcases check_cases ran with ⟨rfl, _⟩ | ⟨_, _, _, rfl, _⟩ <;> rfl

theorem sync_session {world synced : RulesWorld} (ran : world.sync arguments = some synced) :
    synced.session = (arguments.configure world.session).afterSync := by
  obtain ⟨session, ended, rfl⟩ := Option.map_eq_some_iff.mp ran
  cases returned : (arguments.configure world.session).sync with
  | error error =>
      rw [returned] at ended
      cases ended
  | ok given =>
      rw [returned] at ended
      cases ended
      have computed := RuleSession.sync_of_configured (configured_of_sync returned)
      rw [returned] at computed
      cases computed
      rfl

/-- Rules that have been found to be synced are left as they are by another sync. -/
theorem synced_of_passed {checked : RulesWorld} (ran : start.check = some (true, checked))
    (named : namedArguments start.files false = .ok (some arguments)) :
    (arguments.configure checked.session).synced = checked.session.host := by
  rcases check_cases ran with ⟨_, absurd⟩ | ⟨others, given, _, rfl, same⟩
  · cases absurd
  · rw [named] at given
    cases given
    rw [configure_again]
    have seen := of_decide_eq_true same.symm
    ext rule
    have member := Finset.ext_iff.mp seen rule
    simp only [SChainFirewallManager.mem_rulesOn] at member
    change rule ∈ SChainFirewallManager.updateOn _ _ _ ↔ _
    rw [SChainFirewallManager.mem_updateOn]
    constructor
    · rintro (asked | ⟨held, _⟩)
      · exact (member.mpr asked).1
      · exact held
    · intro held
      by_cases near : (arguments.configure start.session).manager.InRange rule.port
      · exact .inl (member.mp ⟨held, near⟩)
      · exact .inr ⟨held, near⟩

theorem holds_of_handled_iff (handled : Handled upstream start last)
    (named : namedArguments last.files upstream = .ok (some arguments))
    (asks : (arguments.fresh start.session.controller).isConfigured = true) :
    arguments.Holds last.session ↔
      if upstream = true ∧ start.passes = true then arguments.Holds start.session
      else arguments.Agrees start.checkedSession := by
  rw [handled_files handled] at named
  obtain ⟨passed, checked, ran, ended⟩ := handled
  have passes : start.passes = passed := by
    unfold RulesWorld.passes
    rw [ran]
    rfl
  have session : start.checkedSession = checked.session := by
    unfold RulesWorld.checkedSession
    rw [ran]
    rfl
  have asksLater : (arguments.fresh checked.session.controller).isConfigured = true := by
    rw [fresh_check ran]
    exact asks
  rw [passes, session, ← RuleArguments.synced_iff_agrees asksLater]
  cases passed with
  | true =>
      obtain rfl : last = checked := ended
      unfold RuleArguments.Holds
      cases upstream with
      | true => rw [if_pos ⟨rfl, rfl⟩, fresh_check ran, check_host ran]
      | false => rw [if_neg nofun, synced_of_passed ran named]
  | false =>
      obtain ⟨others, given, synced⟩ := ended
      rw [check_files ran, named] at given
      cases given
      rw [if_neg nofun, RuleArguments.Holds, sync_session synced]
      rfl

variable {am : SkaledActionManager} {monitor : SkaledMonitor}

theorem lookedAt_session (start : RulesWorld) (monitor : SkaledMonitor) :
    (start.lookedAt monitor).session = start.session := by
  unfold RulesWorld.lookedAt
  split
  · split <;> rfl
  · rfl

/-- The rules in the port range are those of the config that the monitor names, but for what
the controller keeps of earlier arguments; the monitor that names the upstream leaves rules
alone that are synced for the skaled config. -/
theorem rules_after_pass_iff (handles : monitor.handlesRules = true)
    (takes : Takes rulesHost start (am.execute monitor) (.value ()) last)
    (named : namedArguments last.files monitor.namesUpstream = .ok (some arguments))
    (asks : (arguments.fresh start.session.controller).isConfigured = true) :
    arguments.Holds last.session ↔
      if monitor.namesUpstream = true ∧ (start.lookedAt monitor).passes = true then
        arguments.Holds start.session
      else arguments.Agrees (start.lookedAt monitor).checkedSession := by
  have handled := handled_of_takes handles takes
  rw [← lookedAt_session start monitor] at asks ⊢
  exact holds_of_handled_iff handled named asks

/-! ### A controller that is not used before -/

/-- A session of `get_default_rule_controller`. -/
structure Unused (session : RuleSession) : Prop where
  basePort : session.controller.basePort = none
  ownIp : session.controller.ownIp = none
  nodeIps : session.controller.nodeIps = []
  syncIpRanges : session.controller.syncIpRanges = []
  firewallManager : session.firewallManager = none

section Unused

variable {session : RuleSession}

theorem configure_unused (unused : Unused session) (arguments : RuleArguments) :
    (arguments.configure session).controller = arguments.fresh session.controller := by
  simp [RuleArguments.configure, RuleSession.configure, RuleArguments.fresh,
    SChainRuleController.configure, unused.basePort, unused.ownIp, unused.nodeIps,
    unused.syncIpRanges]

theorem configure_unused_manager (unused : Unused session) (arguments : RuleArguments) :
    (arguments.configure session).manager =
      (arguments.fresh session.controller).manager := by
  rw [← configure_unused unused]
  unfold RuleSession.manager
  rw [show (arguments.configure session).firewallManager = none from
    unused.firewallManager]
  rfl

theorem agrees_of_configured
    (left : (arguments.configure session).controller = arguments.fresh session.controller)
    (sees : (arguments.configure session).manager =
      (arguments.fresh session.controller).manager) : arguments.Agrees session := by
  unfold RuleArguments.Agrees
  dsimp only
  rw [left, sees]
  exact ⟨fun rule member => member, fun rule _ near => .inl near,
    fun rule member => .inl member⟩

theorem agrees_checked {passed : Bool} {checked : RulesWorld} {old : RuleArguments}
    (unused : Unused start.session) (ran : start.check = some (passed, checked))
    (named : namedArguments start.files false = .ok (some old))
    (asks : (arguments.fresh start.session.controller).isConfigured = true)
    (base : old.basePort = arguments.basePort)
    (own : isFalsy arguments.ownIp = true → isFalsy old.ownIp = true)
    (ranges : old.syncIpRanges = arguments.syncIpRanges) :
    arguments.Agrees checked.session := by
  rcases check_cases ran with ⟨rfl, _⟩ | ⟨given, found, _, rfl, _⟩
  · exact agrees_of_configured (configure_unused unused _) (configure_unused_manager unused _)
  · rw [named] at found
    cases found
    apply agrees_of_configured
    · have nodes : arguments.nodeIps ≠ [] := by
        intro absent
        simp [RuleArguments.fresh, SChainRuleController.configure,
          SChainRuleController.isConfigured, absent] at asks
      have filled : arguments.basePort.getD 0 ≠ 0 := by
        intro absent
        simp [RuleArguments.fresh, SChainRuleController.configure,
          SChainRuleController.isConfigured, absent] at asks
      simp [RuleArguments.configure, RuleSession.configure, RuleSession.managed,
        RuleArguments.fresh, SChainRuleController.configure, filled, nodes, ranges,
        unused.syncIpRanges]
      split
      case isTrue falsy =>
        rw [if_pos (own falsy)]
        exact unused.ownIp
      case isFalse => rfl
    · have kept : (arguments.configure (old.configure start.session).managed).manager =
          (old.configure start.session).manager := rfl
      rw [kept, configure_unused_manager unused]
      change SChainFirewallManager.mk _ _ _ = SChainFirewallManager.mk _ _ _
      simp only [RuleArguments.fresh, SChainRuleController.configure, base,
        SChainFirewallManager.mk.injEq]
      exact ⟨rfl, trivial, rfl⟩

theorem checked_of_handled (handled : Handled upstream start last) :
    start.check = some (start.passes, { start with session := start.checkedSession }) := by
  obtain ⟨passed, checked, ran, _⟩ := handled
  unfold RulesWorld.passes RulesWorld.checkedSession
  rw [ran]
  change some (passed, checked) = some (passed, { start with session := checked.session })
  rw [← check_files ran]

theorem ranges_of_named {files : Directory Text} {upstream : Bool}
    (named : namedArguments files upstream = .ok (some arguments)) :
    ∃ ranges, externalRanges files = .ok ranges ∧
      arguments.syncIpRanges = ranges.map fun range => ⟨range.startIp, range.endIp⟩ := by
  simp only [namedArguments, bind, Except.bind] at named
  split at named
  · cases named
  split at named
  · cases named
  split at named
  · cases named
  split at named
  · cases named
  split at named
  · cases named
  case h_2 ranges read =>
    have valued := Except.ok.inj named
    simp only [RuleArguments.ofValues, Option.bind_eq_bind, Option.bind_eq_some_iff] at valued
    obtain ⟨_, _, _, _, _, _, built⟩ := valued
    cases built
    exact ⟨ranges, read, rfl⟩

theorem named_ranges_eq {files : Directory Text} {upstream other : Bool}
    {old : RuleArguments} (held : namedArguments files other = .ok (some old))
    (named : namedArguments files upstream = .ok (some arguments)) :
    old.syncIpRanges = arguments.syncIpRanges := by
  obtain ⟨ranges, read, same⟩ := ranges_of_named held
  obtain ⟨others, readAgain, sameOthers⟩ := ranges_of_named named
  rw [read] at readAgain
  cases readAgain
  rw [same, sameOthers]

/-- A monitor that names the skaled config and has a new controller sets its rules. -/
theorem rules_after_pass_of_unused (handles : monitor.handlesRules = true)
    (names : monitor.namesUpstream = false) (unused : Unused start.session)
    (takes : Takes rulesHost start (am.execute monitor) (.value ()) last)
    (named : namedArguments last.files false = .ok (some arguments))
    (asks : (arguments.fresh start.session.controller).isConfigured = true) :
    arguments.Holds last.session := by
  have handled := handled_of_takes handles takes
  have session := lookedAt_session start monitor
  rw [names] at handled
  generalize start.lookedAt monitor = found at handled session
  rw [← session] at unused asks
  have iff := holds_of_handled_iff handled named asks
  simp only [Bool.false_eq_true, false_and, if_false] at iff
  rw [handled_files handled] at named
  have ran := checked_of_handled handled
  have agreed := agrees_checked unused ran named asks rfl (fun falsy => falsy) rfl
  exact iff.mpr agreed

/-- So does the one that names the upstream, where the rules are not synced for the skaled
config, of the same base port. -/
theorem rules_after_reloadIp_of_unused (unused : Unused start.session)
    (takes : Takes rulesHost start am.reloadIpSkaledMonitor (.value ()) last)
    {old : RuleArguments} (held : namedArguments last.files false = .ok (some old))
    (named : namedArguments last.files true = .ok (some arguments))
    (asks : (arguments.fresh start.session.controller).isConfigured = true)
    (base : old.basePort = arguments.basePort) (own : isFalsy arguments.ownIp = false)
    (refused : start.passes = false) : arguments.Holds last.session := by
  have handled : Handled true start last := takes.yields rulesYields_reloadIp rfl
  have iff := holds_of_handled_iff handled named asks
  simp only [refused, Bool.false_eq_true, and_false, if_false] at iff
  rw [handled_files handled] at held named
  have ran := checked_of_handled handled
  have agreed := agrees_checked unused ran held asks base
    (fun falsy => absurd falsy (by rw [own]; exact Bool.false_ne_true))
    (named_ranges_eq held named)
  exact iff.mpr agreed

end Unused

section Samples

theorem check_synced (unused : Unused start.session)
    (exist : SkaledChecks.config start.files = true)
    (named : namedArguments start.files false = .ok (some arguments))
    (asks : (arguments.fresh start.session.controller).isConfigured = true)
    (held : start.session.host =
      (arguments.fresh start.session.controller).expected.toFinset) :
    start.check =
      some (true, { start with session := (arguments.configure start.session).managed }) := by
  have configured : (arguments.configure start.session).controller.isConfigured = true := by
    rw [configure_unused unused]
    exact asks
  have synced : (arguments.configure start.session).manager.rulesOn start.session.host =
      (arguments.configure start.session).controller.expected.toFinset := by
    rw [configure_unused_manager unused, configure_unused unused, held]
    ext rule
    rw [SChainFirewallManager.mem_rulesOn]
    constructor
    · rintro ⟨member, _⟩
      exact member
    · intro member
      exact ⟨member,
        SChainRuleController.inRange_of_mem_expected (List.mem_toFinset.mp member)⟩
  unfold RulesWorld.check
  rw [if_pos exist]
  simp only [named]
  rw [RuleSession.isRulesSynced_of_configured configured]
  change some (decide ((arguments.configure start.session).manager.rulesOn
    start.session.host = _), _) = _
  rw [decide_eq_true synced]

/-- The config of `nodeConfig` and a node more. -/
def widerConfig : Value :=
  .obj [("skaleConfig".toList, .obj [
    ("nodeInfo".toList, .obj [
      ("nodeID".toList, .num 1), ("basePort".toList, .num 10000)]),
    ("sChain".toList, .obj [
      ("nodes".toList, .arr [
        .obj [("nodeID".toList, .num 1), ("ip".toList, .str "10.0.0.1".toList)],
        .obj [("nodeID".toList, .num 2), ("ip".toList, .str "10.0.0.2".toList)]]),
      ("nodeGroups".toList, .obj [])])])]

def widerFiles : Directory Text :=
  [(.skaled, dumps nodeConfig),
    (.upstream { rotationId := 1, ts := 1 }, dumps widerConfig),
    (.external, dumps (.obj [
      ("ima_linked".toList, .bool false), ("reload_ts".toList, .num 500)]))]

def nodeArguments (nodeIps : List String) : RuleArguments where
  basePort := some 10000
  ownIp := some "10.0.0.1".toList
  nodeIps := nodeIps.map String.toList
  syncIpRanges := []

theorem widerFiles_skaled : namedArguments widerFiles false =
    .ok (some (nodeArguments ["10.0.0.1"])) := by
  decide +kernel

def widerArguments : RuleArguments :=
  nodeArguments ["10.0.0.1", "10.0.0.2"]

theorem widerFiles_upstream :
    namedArguments widerFiles true = .ok (some widerArguments) := by
  decide +kernel

def widerWorld : RulesWorld where
  files := widerFiles
  session :=
    { controller := RuleSession.blankController
      host := ((nodeArguments ["10.0.0.1"]).fresh
        RuleSession.blankController).expected.toFinset }

def widerChecked : RulesWorld :=
  { widerWorld with
    session := ((nodeArguments ["10.0.0.1"]).configure widerWorld.session).managed }

theorem widerWorld_check : widerWorld.check = some (true, widerChecked) :=
  check_synced ⟨rfl, rfl, rfl, rfl, rfl⟩ (by decide +kernel) widerFiles_skaled
    (by decide +kernel) rfl

def widerActions : SkaledActionManager where
  settings := {}
  checksRecord := newRow
  hasNodeCliStatus := false

def widerAnswer (query : MonitorQuery) (world : RulesWorld) :
    Except MonitorError query.Reply × RulesWorld :=
  (world.serve query (hostAnswer true query)).getD (hostAnswer true query, world)

theorem rules_serve_isSome (query : MonitorQuery) (world : RulesWorld)
    (proposed : Except MonitorError query.Reply) :
    (world.serve query proposed).isSome = true := by
  unfold RulesWorld.serve
  split
  case h_3 | h_4 | h_5 => split <;> rfl
  all_goals rfl

theorem widerAnswer_served (query : MonitorQuery) (world : RulesWorld) :
    ∃ proposed, rulesHost.serve query proposed world = some (widerAnswer query world) := by
  obtain ⟨taken, served⟩ := Option.isSome_iff_exists.mp
    (rules_serve_isSome query world (hostAnswer true query))
  refine ⟨hostAnswer true query, ?_⟩
  unfold widerAnswer
  rw [served]
  exact served

theorem takes_firewallRulesCheck {files : Directory Text}
    {synced : Value → Value → List Value → List IpRange → Bool} {passed : Bool}
    {proposed : Except MonitorError (MonitorQuery.observeRules).Reply}
    (observed : start.serve .observeRules proposed = some (.ok (files, synced), last))
    (value : SkaledChecks.firewallRules files synced = .ok passed) :
    Takes rulesHost start SkaledActionManager.firewallRulesCheck (.value passed) last := by
  refine takes_bind (takes_invoke observed) ?_
  change Takes rulesHost last (evaluate (SkaledChecks.firewallRules files synced)) _ _
  rw [value]
  exact takes_pure passed

theorem wider_check_takes :
    Takes rulesHost widerWorld SkaledActionManager.firewallRulesCheck (.value true)
      widerChecked := by
  have observed : widerWorld.serve .observeRules (.ok (widerFiles, fun _ _ _ _ => true)) =
      some (.ok (widerFiles, fun _ _ _ _ => true), widerChecked) := by
    unfold RulesWorld.serve
    simp only [widerWorld_check]
    rfl
  exact takes_firewallRulesCheck observed (by decide +kernel)

theorem wider_takes :
    ∃ last, Takes rulesHost widerWorld widerActions.reloadIpSkaledMonitor (.value ()) last :=
  ⟨_, takes_bind
    (takes_bind wider_check_takes (takes_of_isValue widerAnswer_served (by decide +kernel)))
    (takes_of_isValue widerAnswer_served (by decide +kernel))⟩

theorem wider_named {last : RulesWorld}
    (takes : Takes rulesHost widerWorld widerActions.reloadIpSkaledMonitor (.value ()) last) :
    namedArguments last.files true = .ok (some widerArguments) := by
  have handled : Handled true widerWorld last := takes.yields rulesYields_reloadIp rfl
  rw [handled_files handled]
  exact widerFiles_upstream

theorem regular_takes :
    ∃ last, Takes rulesHost widerWorld widerActions.regularSkaledMonitor (.value ()) last :=
  ⟨_, takes_bind
    (takes_bind wider_check_takes (takes_of_isValue widerAnswer_served (by decide +kernel)))
    (takes_of_isValue widerAnswer_served (by decide +kernel))⟩

theorem regular_named {last : RulesWorld}
    (takes : Takes rulesHost widerWorld widerActions.regularSkaledMonitor (.value ()) last) :
    namedArguments last.files false = .ok (some (nodeArguments ["10.0.0.1"])) := by
  have handled : Handled false widerWorld last := takes.yields rulesYields_regular rfl
  rw [handled_files handled]
  exact widerFiles_skaled

/-- The pass that names the upstream, and one that names the skaled config. -/
theorem rules_after_pass_iff_wider :
    (∃ last, Takes rulesHost widerWorld (widerActions.execute .reloadIp) (.value ()) last ∧
      (widerArguments.Holds last.session ↔
        if SkaledMonitor.reloadIp.namesUpstream = true ∧
            (widerWorld.lookedAt .reloadIp).passes = true then
          widerArguments.Holds widerWorld.session
        else widerArguments.Agrees
          (widerWorld.lookedAt .reloadIp).checkedSession)) ∧
    ∃ last, Takes rulesHost widerWorld (widerActions.execute .regular) (.value ()) last ∧
      (nodeArguments ["10.0.0.1"]).Holds last.session := by
  constructor
  · obtain ⟨last, takes⟩ := wider_takes
    have named := wider_named takes
    exact ⟨last, takes, rules_after_pass_iff rfl takes named (by decide +kernel)⟩
  · obtain ⟨last, takes⟩ := regular_takes
    have named := regular_named takes
    have executed : Takes rulesHost widerWorld (widerActions.execute .regular) (.value ())
      last := takes
    refine ⟨last, executed,
      (rules_after_pass_iff rfl executed named (by decide +kernel)).mpr ?_⟩
    have checked : (widerWorld.lookedAt .regular).checkedSession = widerChecked.session := by
      unfold RulesWorld.lookedAt RulesWorld.checkedSession
      rw [widerWorld_check]
      rfl
    simp only [SkaledMonitor.namesUpstream, Bool.false_eq_true, false_and, if_false]
    rw [checked]
    exact agrees_checked ⟨rfl, rfl, rfl, rfl, rfl⟩ widerWorld_check widerFiles_skaled
      (by decide +kernel) rfl id rfl

/-- The new node is let in by the upstream only. -/
theorem reloadIp_leaves_rules :
    ∃ last, Takes rulesHost widerWorld widerActions.reloadIpSkaledMonitor (.value ()) last ∧
      namedArguments last.files true =
        .ok (some widerArguments) ∧
      ¬ widerArguments.Holds last.session := by
  obtain ⟨last, takes⟩ := wider_takes
  have named := wider_named takes
  have handled : Handled true widerWorld last := takes.yields rulesYields_reloadIp rfl
  refine ⟨last, takes, named, ?_⟩
  have passes : widerWorld.passes = true := by
    unfold RulesWorld.passes
    rw [widerWorld_check]
    rfl
  rw [holds_of_handled_iff handled named (by decide +kernel), if_pos ⟨rfl, passes⟩]
  intro holds
  have asked : SChainRule.new 10000 (some "10.0.0.2".toList) none ∈
      (widerArguments.fresh
        RuleSession.blankController).expected := by
    rw [SChainRuleController.expected, SChainRule.mem_sorted]
    decide +kernel
  have held : SChainRule.new 10000 (some "10.0.0.2".toList) none ∈
      ((nodeArguments ["10.0.0.1"]).fresh RuleSession.blankController).expected := by
    have listed := (Finset.ext_iff.mp holds _).mpr (List.mem_toFinset.mpr asked)
    exact List.mem_toFinset.mp (SChainFirewallManager.mem_rulesOn.mp listed).1
  rw [SChainRuleController.expected, SChainRule.mem_sorted] at held
  revert held
  decide +kernel

end Samples

end Pass

end SkaleAdmin.Monitor
