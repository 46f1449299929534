import Mathlib.Data.Finset.Basic
import SkaleAdmin.Firewall.Convergence

/-! The calls of one rule controller, which creates its firewall manager once, over a host
controller that holds its rules in a set. -/

namespace SkaleAdmin.Firewall

open PyText

namespace SChainFirewallManager

variable (manager : SChainFirewallManager)

def rulesOn (host : Finset SChainRule) : Finset SChainRule :=
  host.filter fun rule => manager.InRange rule.port

def updateOn (host rules : Finset SChainRule) : Finset SChainRule :=
  let actualRules := manager.rulesOn host
  let rulesToAdd := rules \ actualRules
  let rulesToRemove := actualRules \ rules
  (host ∪ rulesToAdd) \ rulesToRemove

def flushOn (host : Finset SChainRule) : Finset SChainRule :=
  host \ manager.rulesOn host

variable {manager} {host rules : Finset SChainRule} {rule : SChainRule}

@[simp] theorem mem_rulesOn :
    rule ∈ manager.rulesOn host ↔ rule ∈ host ∧ manager.InRange rule.port :=
  Finset.mem_filter

@[simp] theorem mem_updateOn :
    rule ∈ manager.updateOn host rules ↔
      rule ∈ rules ∨ rule ∈ host ∧ ¬ manager.InRange rule.port := by
  simp only [updateOn, Finset.mem_sdiff, Finset.mem_union, mem_rulesOn]
  tauto

end SChainFirewallManager

structure RuleSession where
  controller : SChainRuleController
  /-- `_firewall_manager`. -/
  firewallManager : Option SChainFirewallManager := none
  host : Finset SChainRule

namespace RuleSession

variable (session : RuleSession)

def configure (basePort : Option Nat) (ownIp : Option Text) (nodeIps : List Text)
    (syncIpRanges : List IpRange) : RuleSession :=
  { session with
    controller := session.controller.configure basePort ownIp nodeIps syncIpRanges }

def getFirewallManager : Except FirewallError (SChainFirewallManager × RuleSession) :=
  match session.firewallManager with
  | some manager => .ok (manager, session)
  | none => do
      let manager ← session.controller.createFirewallManager
      return (manager, { session with firewallManager := some manager })

def isRulesSynced : Except FirewallError (Bool × RuleSession) := do
  let (manager, session) ← session.getFirewallManager
  let actual := manager.rulesOn session.host
  let expected ← session.controller.expectedRules
  return (decide (actual = expected.toFinset), session)

def sync : Except FirewallError RuleSession := do
  let erules ← session.controller.expectedRules
  let (manager, session) ← session.getFirewallManager
  return { session with host := manager.updateOn session.host erules.toFinset }

def cleanup : Except FirewallError RuleSession := do
  let (manager, session) ← session.getFirewallManager
  return { session with host := manager.flushOn session.host }

/-! ### Calls of a configured controller -/

def manager : SChainFirewallManager :=
  session.firewallManager.getD session.controller.manager

def managed : RuleSession :=
  { session with firewallManager := some session.manager }

def synced : Finset SChainRule :=
  session.manager.updateOn session.host session.controller.expected.toFinset

def afterSync : RuleSession :=
  { controller := session.controller
    firewallManager := some session.manager
    host := session.synced }

variable {session} (configured : session.controller.isConfigured = true)

include configured

theorem getFirewallManager_of_configured :
    session.getFirewallManager = .ok (session.manager, session.managed) := by
  obtain ⟨controller, cached, host⟩ := session
  cases cached with
  | some cached => rfl
  | none =>
      have created : controller.createFirewallManager = .ok controller.manager :=
        if_pos configured
      unfold getFirewallManager
      simp only [created]
      rfl

theorem expectedRules_of_configured :
    session.controller.expectedRules = .ok session.controller.expected :=
  if_pos configured

theorem isRulesSynced_of_configured :
    session.isRulesSynced = .ok (decide (session.manager.rulesOn session.host =
      session.controller.expected.toFinset), session.managed) := by
  have expected : session.managed.controller.expectedRules = _ :=
    expectedRules_of_configured configured
  unfold isRulesSynced
  rw [getFirewallManager_of_configured configured]
  simp only [Except.bind, bind, expected]
  rfl

theorem sync_of_configured :
    session.sync = .ok session.afterSync := by
  unfold sync
  rw [getFirewallManager_of_configured configured, expectedRules_of_configured configured]
  rfl

end RuleSession

/-! ### Histories of calls -/

namespace SChainRuleController

variable (controller : SChainRuleController)

def renewed (basePort : Nat) (ownIp : Text) (nodeIps : List Text)
    (syncIpRanges : List IpRange) : SChainRuleController :=
  { controller with
    basePort := some basePort
    ownIp := some ownIp
    nodeIps, syncIpRanges }

variable {controller}

theorem inRange_of_mem_expected {rule : SChainRule} (member : rule ∈ controller.expected) :
    controller.manager.InRange rule.port := by
  have within : ∀ {offsets : List (Fin controller.portsPerSchain)} {port : Nat},
      port ∈ offsets.map controller.portAt → controller.manager.InRange port := by
    intro offsets port member
    obtain ⟨offset, _, rfl⟩ := List.mem_map.mp member
    exact inRange_portAt offset
  rw [expected, SChainRule.mem_sorted, List.mem_append, List.mem_append] at member
  rcases member with (internal | open') | served
  · obtain ⟨ip, _, member⟩ := List.mem_flatMap.mp internal
    obtain ⟨port, listed, rfl⟩ := List.mem_map.mp member
    rw [SChainRule.new_port]
    exact within listed
  · obtain ⟨port, listed, rfl⟩ := List.mem_map.mp open'
    rw [SChainRule.new_port]
    exact within listed
  · obtain ⟨range, _, member⟩ := List.mem_flatMap.mp served
    obtain ⟨port, listed, rfl⟩ := List.mem_map.mp member
    rw [SChainRule.new_port]
    exact within listed

/-- Other ranges change the rules for sync agents only. -/
theorem mem_expected_iff {rule : SChainRule} (ranges : List IpRange) :
    rule ∈ { controller with syncIpRanges := ranges }.expected ↔
      rule ∈ { controller with syncIpRanges := [] }.expected ∨
        rule ∈ { controller with syncIpRanges := ranges }.syncAgentRules := by
  simp only [expected, SChainRule.mem_sorted, List.mem_append]
  have none : rule ∉ { controller with syncIpRanges := [] }.syncAgentRules :=
    List.not_mem_nil
  constructor
  · rintro (shared | served)
    · exact .inl (.inl shared)
    · exact .inr served
  · rintro ((shared | absent) | served)
    · exact .inl shared
    · exact absurd absent none
    · exact .inr served

end SChainRuleController

inductive RuleCall where
  | configure (basePort : Option Nat) (ownIp : Option Text) (nodeIps : List Text)
      (syncIpRanges : List IpRange)
  | sync
  | isRulesSynced
  | cleanup

namespace RuleSession

def after (session : RuleSession) : RuleCall → RuleSession
  | .configure basePort ownIp nodeIps syncIpRanges =>
      session.configure basePort ownIp nodeIps syncIpRanges
  | .sync => session.sync.toOption.getD session
  | .isRulesSynced => (session.isRulesSynced.toOption.map Prod.snd).getD session
  | .cleanup => session.cleanup.toOption.getD session

def run (session : RuleSession) (history : List RuleCall) : RuleSession :=
  history.foldl after session

variable {session : RuleSession} {basePort : Nat} {ownIp : Text} {nodeIps : List Text}
  {syncIpRanges : List IpRange}

theorem renewed_of_getFirewallManager {manager : SChainFirewallManager}
    {managed : RuleSession} (obtained : session.getFirewallManager = .ok (manager, managed)) :
    managed.controller = session.controller := by
  unfold getFirewallManager at obtained
  split at obtained
  · cases obtained
    rfl
  · cases created : session.controller.createFirewallManager with
    | error error =>
        rw [created] at obtained
        cases obtained
    | ok manager =>
        rw [created] at obtained
        cases obtained
        rfl

/-- What a controller is built with besides its four arguments is never changed. -/
theorem renewed_after (session : RuleSession) (call : RuleCall) :
    (session.after call).controller.renewed basePort ownIp nodeIps syncIpRanges =
      session.controller.renewed basePort ownIp nodeIps syncIpRanges := by
  cases call with
  | configure => rfl
  | cleanup =>
      unfold after cleanup
      cases obtained : session.getFirewallManager with
      | error error => rfl
      | ok result =>
          have same := renewed_of_getFirewallManager obtained
          exact congrArg
            (SChainRuleController.renewed · basePort ownIp nodeIps syncIpRanges) same
  | sync =>
      unfold after sync
      cases session.controller.expectedRules with
      | error error => rfl
      | ok rules =>
          cases obtained : session.getFirewallManager with
          | error error => rfl
          | ok result =>
              have same := renewed_of_getFirewallManager obtained
              exact congrArg
                (SChainRuleController.renewed · basePort ownIp nodeIps syncIpRanges) same
  | isRulesSynced =>
      unfold after isRulesSynced
      cases obtained : session.getFirewallManager with
      | error error => rfl
      | ok result =>
          have same := renewed_of_getFirewallManager obtained
          obtain ⟨manager, managed⟩ := result
          cases expected : managed.controller.expectedRules with
          | error error =>
              simp only [bind, Except.bind, expected]
              rfl
          | ok rules =>
              simp only [bind, Except.bind, expected]
              exact congrArg
                (SChainRuleController.renewed · basePort ownIp nodeIps syncIpRanges) same

theorem renewed_run (history : List RuleCall) (session : RuleSession) :
    (session.run history).controller.renewed basePort ownIp nodeIps syncIpRanges =
      session.controller.renewed basePort ownIp nodeIps syncIpRanges := by
  induction history generalizing session with
  | nil => rfl
  | cons call rest ih => exact (ih (session.after call)).trans (renewed_after session call)

/-- The calls have left nothing that a fresh controller would not have: no ranges with
rules of their own, and no manager whose ports leave out rules of the new range. -/
structure Renews (session : RuleSession) (fresh : SChainRuleController) : Prop where
  ranges : fresh.syncIpRanges = [] →
    ∀ rule ∈ { fresh with syncIpRanges := session.controller.syncIpRanges }.syncAgentRules,
      rule ∈ fresh.expected
  window : ∀ manager ∈ session.firewallManager,
    (∀ rule ∈ fresh.expected, manager.InRange rule.port) ∧
      ∀ rule ∈ session.host, fresh.manager.InRange rule.port → manager.InRange rule.port

end RuleSession

namespace SChainFirewallManager

theorem rulesOn_updateOn {manager : SChainFirewallManager} {host rules : Finset SChainRule}
    (within : ∀ rule ∈ rules, manager.InRange rule.port) :
    manager.rulesOn (manager.updateOn host rules) = rules := by
  ext rule
  have inside := within rule
  simp only [mem_rulesOn, mem_updateOn]
  tauto

end SChainFirewallManager

namespace RuleSession

section Configure

variable (session : RuleSession) {basePort : Nat} {ownIp : Text} {nodeIps : List Text}
  {syncIpRanges : List IpRange}

theorem configure_controller (base : basePort ≠ 0) (own : ownIp ≠ []) (nodes : nodeIps ≠ []) :
    (session.configure (some basePort) (some ownIp) nodeIps syncIpRanges).controller =
      { session.controller.renewed basePort ownIp nodeIps syncIpRanges with
        syncIpRanges := if syncIpRanges = [] then session.controller.syncIpRanges
          else syncIpRanges } := by
  simp [configure, SChainRuleController.configure, SChainRuleController.renewed, base, nodes,
    isFalsy_of_ne_nil own]

end Configure

section Final

variable {session : RuleSession} {fresh : SChainRuleController} {ranges : List IpRange}

/-- The manager does not take the expected rules for all it sees when one of them lies
outside its ports. -/
theorem rulesOn_synced_iff :
    session.manager.rulesOn session.synced = session.controller.expected.toFinset ↔
      ∀ rule ∈ session.controller.expected, session.manager.InRange rule.port := by
  constructor
  · intro same rule member
    have held := List.mem_toFinset.mpr member
    rw [← same] at held
    exact (SChainFirewallManager.mem_rulesOn.mp held).2
  · intro within
    exact SChainFirewallManager.rulesOn_updateOn fun rule member =>
      within rule (List.mem_toFinset.mp member)

/-- In the range of a fresh controller there are the rules that were just expected, and
those of the host outside the ports of the manager. -/
theorem rulesOn_synced_eq_iff
    (within : ∀ rule ∈ session.controller.expected, fresh.manager.InRange rule.port) :
    fresh.manager.rulesOn session.synced = fresh.expected.toFinset ↔
      (∀ rule ∈ session.controller.expected, rule ∈ fresh.expected) ∧
        (∀ rule ∈ session.host, fresh.manager.InRange rule.port →
          session.manager.InRange rule.port ∨ rule ∈ fresh.expected) ∧
        ∀ rule ∈ fresh.expected, rule ∈ session.controller.expected ∨
          rule ∈ session.host ∧ ¬ session.manager.InRange rule.port := by
  have inside : ∀ rule ∈ fresh.expected, fresh.manager.InRange rule.port :=
    fun rule member => SChainRuleController.inRange_of_mem_expected member
  simp only [Finset.ext_iff, SChainFirewallManager.mem_rulesOn, synced,
    SChainFirewallManager.mem_updateOn, List.mem_toFinset]
  constructor
  · intro same
    refine ⟨?_, ?_, ?_⟩
    · intro rule member
      exact (same rule).mp ⟨.inl member, within rule member⟩
    · intro rule held near
      by_cases seen : session.manager.InRange rule.port
      · exact .inl seen
      · exact .inr ((same rule).mp ⟨.inr ⟨held, seen⟩, near⟩)
    · intro rule member
      exact ((same rule).mpr member).1
  · rintro ⟨fewer, seen, more⟩ rule
    constructor
    · rintro ⟨asked | ⟨held, unseen⟩, near⟩
      · exact fewer rule asked
      · exact (seen rule held near).resolve_left unseen
    · intro member
      exact ⟨more rule member, inside rule member⟩

theorem sync_agrees_iff {configured : RuleSession} (ofFresh : fresh.isConfigured = true)
    (left : configured.controller = { fresh with
      syncIpRanges := if fresh.syncIpRanges = [] then session.controller.syncIpRanges
        else fresh.syncIpRanges })
    (sameHost : configured.host = session.host)
    (sameManager : configured.firewallManager = session.firewallManager) :
    ∃ last renewed : RuleSession, configured.sync = .ok last ∧
      ({ controller := fresh, host := session.host } : RuleSession).sync = .ok renewed ∧
      (renewed.manager.rulesOn last.host = renewed.manager.rulesOn renewed.host ∧
          last.isRulesSynced.map Prod.fst = .ok true ↔ session.Renews fresh) := by
  have isConfigured : configured.controller.isConfigured = true := by
    rw [left]
    exact ofFresh
  have sameRange : configured.controller.manager = fresh.manager := by
    rw [left]
    rfl
  have more : ∀ rule ∈ fresh.expected, rule ∈ configured.controller.expected := by
    intro rule member
    rw [left]
    split
    case isTrue none =>
      rw [SChainRuleController.mem_expected_iff]
      left
      rw [← none]
      exact member
    case isFalse => exact member
  have within : ∀ rule ∈ configured.controller.expected, fresh.manager.InRange rule.port := by
    intro rule member
    rw [← sameRange]
    exact SChainRuleController.inRange_of_mem_expected member
  have fewerIff : (∀ rule ∈ configured.controller.expected, rule ∈ fresh.expected) ↔
      (fresh.syncIpRanges = [] → ∀ rule ∈
        { fresh with syncIpRanges := session.controller.syncIpRanges }.syncAgentRules,
          rule ∈ fresh.expected) := by
    rw [left]
    split
    case isTrue none =>
      have bare : { fresh with syncIpRanges := [] } = fresh := by rw [← none]
      simp only [none, true_implies]
      constructor
      · intro fewer rule member
        exact fewer rule ((SChainRuleController.mem_expected_iff _).mpr (.inr member))
      · intro fewer rule member
        rcases (SChainRuleController.mem_expected_iff _).mp member with shared | served
        · rw [bare] at shared
          exact shared
        · exact fewer rule served
    case isFalse some =>
      exact ⟨fun _ none => absurd none some, fun _ rule member => member⟩
  refine ⟨_, _, sync_of_configured isConfigured, sync_of_configured ofFresh, ?_⟩
  have checked : configured.afterSync.isRulesSynced = _ :=
    isRulesSynced_of_configured isConfigured
  have renewed : fresh.manager.rulesOn
      (fresh.manager.updateOn session.host fresh.expected.toFinset) =
        fresh.expected.toFinset :=
    SChainFirewallManager.rulesOn_updateOn fun rule member =>
      SChainRuleController.inRange_of_mem_expected (List.mem_toFinset.mp member)
  have reported : configured.afterSync.isRulesSynced.map Prod.fst = .ok true ↔
      ∀ rule ∈ configured.controller.expected, configured.manager.InRange rule.port := by
    rw [checked, ← rulesOn_synced_iff]
    simp [Except.map]
    rfl
  change fresh.manager.rulesOn configured.synced = fresh.manager.rulesOn
    (fresh.manager.updateOn session.host fresh.expected.toFinset) ∧
      configured.afterSync.isRulesSynced.map Prod.fst = .ok true ↔ _
  rw [renewed, reported, rulesOn_synced_eq_iff within, sameHost]
  constructor
  · rintro ⟨⟨fewer, seen, _⟩, covered⟩
    refine ⟨fewerIff.mp fewer, fun manager cached => ?_⟩
    have same : configured.manager = manager := by
      unfold RuleSession.manager
      rw [sameManager, cached]
      rfl
    rw [same] at seen covered
    refine ⟨fun rule member => covered rule (more rule member), ?_⟩
    intro rule held near
    rcases seen rule held near with inside | member
    · exact inside
    · exact covered rule (more rule member)
  · intro renews
    have fewer := fewerIff.mpr renews.ranges
    have covers : (∀ rule ∈ fresh.expected, configured.manager.InRange rule.port) ∧
        ∀ rule ∈ session.host, fresh.manager.InRange rule.port →
          configured.manager.InRange rule.port := by
      cases cached : session.firewallManager with
      | some manager =>
          have same : configured.manager = manager := by
            unfold RuleSession.manager
            rw [sameManager, cached]
            rfl
          rw [same]
          exact renews.window manager cached
      | none =>
          have same : configured.manager = fresh.manager := by
            unfold RuleSession.manager
            rw [sameManager, cached, ← sameRange]
            rfl
          rw [same]
          exact ⟨fun rule member => SChainRuleController.inRange_of_mem_expected member,
            fun rule _ near => near⟩
    refine ⟨⟨fewer, ?_, fun rule member => .inl (more rule member)⟩, ?_⟩
    · exact fun rule held near => .inl (covers.2 rule held near)
    · exact fun rule member => covers.1 rule (fewer rule member)

end Final

/-- After any calls, a `configure` with all arguments and a `sync` install what a fresh
controller installs, and report it, just when the calls have left nothing else. -/
theorem configure_sync_eq_renewed_iff (controller : SChainRuleController)
    (host : Finset SChainRule) (history : List RuleCall) {basePort : Nat} {ownIp : Text}
    {nodeIps : List Text} (syncIpRanges : List IpRange) (base : basePort ≠ 0)
    (own : ownIp ≠ []) (nodes : nodeIps ≠ []) :
    ∃ last renewed : RuleSession,
      ((({ controller, host } : RuleSession).run history).configure
        (some basePort) (some ownIp) nodeIps syncIpRanges).sync = .ok last ∧
      ({ controller := controller.renewed basePort ownIp nodeIps syncIpRanges
         host := (({ controller, host } : RuleSession).run history).host } :
           RuleSession).sync = .ok renewed ∧
      (renewed.manager.rulesOn last.host = renewed.manager.rulesOn renewed.host ∧
          last.isRulesSynced.map Prod.fst = .ok true ↔
        (({ controller, host } : RuleSession).run history).Renews
          (controller.renewed basePort ownIp nodeIps syncIpRanges)) := by
  have built : (({ controller, host } : RuleSession).run history).controller.renewed
      basePort ownIp nodeIps syncIpRanges = _ := renewed_run history _
  rw [← built]
  clear built
  generalize ({ controller, host } : RuleSession).run history = session
  have ofFresh : (session.controller.renewed basePort ownIp nodeIps
      syncIpRanges).isConfigured = true := by
    simp [SChainRuleController.isConfigured, SChainRuleController.renewed, base, nodes]
  exact sync_agrees_iff ofFresh (session.configure_controller base own nodes) rfl rfl

/-! ### Histories for one port range -/

section OneRange

variable {session : RuleSession} {basePort : Nat}

def rangeAt (session : RuleSession) (basePort : Nat) : SChainFirewallManager :=
  (session.controller.renewed basePort [] [] []).manager

/-- Only this base port has been used. -/
structure Settled (basePort : Nat) (session : RuleSession) : Prop where
  base : session.controller.basePort.getD 0 = 0 ∨
    session.controller.basePort = some basePort
  window : ∀ manager ∈ session.firewallManager, manager = session.rangeAt basePort

def Stays (basePort : Nat) : RuleCall → Prop
  | .configure given _ _ _ => given.getD 0 = 0 ∨ given = some basePort
  | _ => True

theorem settled_of_getFirewallManager (settled : Settled basePort session)
    {manager : SChainFirewallManager} {managed : RuleSession}
    (obtained : session.getFirewallManager = .ok (manager, managed)) :
    Settled basePort managed := by
  unfold getFirewallManager at obtained
  split at obtained
  case h_1 => cases obtained; exact settled
  case h_2 =>
      unfold SChainRuleController.createFirewallManager
        SChainRuleController.configuredOnly at obtained
      split at obtained
      case isTrue configured =>
          cases obtained
          have known : session.controller.basePort = some basePort := by
            apply settled.base.resolve_left
            intro absent
            simp [SChainRuleController.isConfigured, absent] at configured
          refine ⟨settled.base, ?_⟩
          rintro manager ⟨⟩
          simp [rangeAt, SChainRuleController.manager, SChainRuleController.renewed, known]
      case isFalse => cases obtained

theorem settled_after (settled : Settled basePort session) {call : RuleCall}
    (stays : Stays basePort call) : Settled basePort (session.after call) := by
  cases call with
  | configure given ownIp nodeIps syncIpRanges =>
      refine ⟨?_, settled.window⟩
      unfold Stays at stays
      change (if given.getD 0 = 0 then session.controller.basePort else given).getD 0 = 0 ∨
        (if given.getD 0 = 0 then session.controller.basePort else given) = some basePort
      split
      case isTrue => exact settled.base
      case isFalse filled => exact .inr (stays.resolve_left filled)
  | cleanup =>
      unfold after cleanup
      cases obtained : session.getFirewallManager with
      | error error => exact settled
      | ok result =>
          have managed := settled_of_getFirewallManager settled obtained
          exact ⟨managed.base, managed.window⟩
  | sync =>
      unfold after sync
      cases session.controller.expectedRules with
      | error error => exact settled
      | ok rules =>
          cases obtained : session.getFirewallManager with
          | error error => exact settled
          | ok result =>
              have managed := settled_of_getFirewallManager settled obtained
              exact ⟨managed.base, managed.window⟩
  | isRulesSynced =>
      unfold after isRulesSynced
      cases obtained : session.getFirewallManager with
      | error error => exact settled
      | ok result =>
          obtain ⟨manager, managed⟩ := result
          have kept := settled_of_getFirewallManager settled obtained
          cases expected : managed.controller.expectedRules with
          | error error =>
              simp only [bind, Except.bind, expected]
              exact settled
          | ok rules =>
              simp only [bind, Except.bind, expected]
              exact kept

theorem settled_run {history : List RuleCall} (settled : Settled basePort session)
    (stays : ∀ call ∈ history, Stays basePort call) :
    Settled basePort (session.run history) := by
  induction history generalizing session with
  | nil => exact settled
  | cons call rest ih =>
      have first := settled_after settled (stays call List.mem_cons_self)
      exact ih first fun other member => stays other (List.mem_cons_of_mem _ member)

/-- A controller that has been used for one port range only, and is given ranges, has left
nothing. -/
theorem renews_of_settled (settled : Settled basePort session) {ownIp : Text}
    {nodeIps : List Text} {syncIpRanges : List IpRange} (given : syncIpRanges ≠ []) :
    session.Renews
      (session.controller.renewed basePort ownIp nodeIps syncIpRanges) := by
  refine ⟨fun none => absurd none given, fun manager cached => ?_⟩
  have same : manager = (session.controller.renewed basePort ownIp nodeIps
      syncIpRanges).manager := settled.window manager cached
  rw [same]
  exact ⟨fun rule member => SChainRuleController.inRange_of_mem_expected member,
    fun rule _ near => near⟩

end OneRange

section Samples

def blankController : SChainRuleController where
  name := "chain"
  portsPerSchain := 64
  portAllocation := samplePorts

/-- A `sync` for one port range creates the manager. -/
def usedSession : RuleSession :=
  ({ controller := blankController, host := ∅ } : RuleSession).run
    [.configure (some 10000) (some ['a']) [['a'], ['b']] [], .sync]

theorem usedSession_manager :
    usedSession.firewallManager = some ⟨"chain", 10000, 10063⟩ := rfl

/-- A later `sync` for the next port range does not find its own rules. -/
theorem configure_sync_stale :
    ¬ ∀ (controller : SChainRuleController) (host : Finset SChainRule)
      (history : List RuleCall) (basePort : Nat) (ownIp : Text) (nodeIps : List Text)
      (syncIpRanges : List IpRange), basePort ≠ 0 → ownIp ≠ [] → nodeIps ≠ [] →
      ∀ last renewed : RuleSession,
        ((({ controller, host } : RuleSession).run history).configure
          (some basePort) (some ownIp) nodeIps syncIpRanges).sync = .ok last →
        ({ controller := controller.renewed basePort ownIp nodeIps syncIpRanges
           host := (({ controller, host } : RuleSession).run history).host } :
             RuleSession).sync = .ok renewed →
        renewed.manager.rulesOn last.host = renewed.manager.rulesOn renewed.host ∧
          last.isRulesSynced.map Prod.fst = .ok true := by
  intro claimed
  have agrees := claimed blankController ∅
    [.configure (some 10000) (some ['a']) [['a'], ['b']] [], .sync] 10064 ['a']
    [['a'], ['b']] [] (by decide) (by decide) (by decide)
  have configured : (usedSession.configure (some 10064) (some ['a']) [['a'], ['b']]
      []).controller = _ :=
    usedSession.configure_controller (by decide) (by decide) (by decide)
  have ofFresh : (usedSession.controller.renewed 10064 ['a'] [['a'], ['b']]
      []).isConfigured = true := rfl
  obtain ⟨last, renewed, ended, anew, iff⟩ := sync_agrees_iff ofFresh configured rfl rfl
  have renews := iff.mp (agrees last renewed ended anew)
  have listed : SChainRule.new 10066 none none ∈
      (blankController.renewed 10064 ['a'] [['a'], ['b']] []).expected := by
    rw [SChainRuleController.expected, SChainRule.mem_sorted]
    decide
  have near := (renews.window _ usedSession_manager).1 _ listed
  revert near
  decide

/-- Other arguments for the range that is in use are taken as they are. -/
theorem configure_sync_used :
    ∃ last : RuleSession,
      (usedSession.configure (some 10000) (some ['a']) [['a'], ['c']]
        [⟨['x'], ['y']⟩]).sync = .ok last ∧
      last.isRulesSynced.map Prod.fst = .ok true := by
  obtain ⟨last, renewed, ended, _, iff⟩ := configure_sync_eq_renewed_iff blankController ∅
    [.configure (some 10000) (some ['a']) [['a'], ['b']] [], .sync] [⟨['x'], ['y']⟩]
    (show 10000 ≠ 0 by decide) (show ['a'] ≠ [] by decide)
    (show [['a'], ['c']] ≠ [] by decide)
  have settled : Settled 10000 usedSession := by
    refine settled_run ⟨.inl rfl, nofun⟩ ?_
    intro call member
    simp only [List.mem_cons, List.not_mem_nil, or_false] at member
    rcases member with rfl | rfl
    · exact .inr rfl
    · trivial
  have given : [(⟨['x'], ['y']⟩ : IpRange)] ≠ [] := nofun
  exact ⟨last, ended, (iff.mpr (renews_of_settled settled given)).2⟩

end Samples

end RuleSession

end SkaleAdmin.Firewall
