import SkaleAdmin.Library.Conduct
import SkaleAdmin.Config.Generator
import SkaleAdmin.Monitor.ConfigVersion

/-! When `upstream_config` writes a new upstream. -/

namespace SkaleAdmin.Monitor

open Interaction Program PyText Config
open Interaction.Procedure (Follows follows_iterate obeys_bind obeys_pure obeys_raise
  obeys_invoke obeys_invoke_bind)

/-- The new config is `config`, and the directory is as `files` whenever it is read. -/
def Given (config : GeneratedConfig) (files : Directory Text) :
    (query : MonitorQuery) → Except MonitorError query.Reply → Prop
  | .createNewUpstreamConfig _, .ok generated => generated = config
  | .readFiles, .ok read => read = files
  | _, _ => True

def MonitorQuery.isUpstreamWrite : MonitorQuery → Bool
  | .writeJson (.upstream _) _ => true
  | _ => false

def unwritten (config : GeneratedConfig) (files : Directory Text) :
    Conduct monitorInterface Unit MonitorError where
  expected trace := ∀ event ∈ trace, Given config files event.query event.answer
  allowed query := query.isUpstreamWrite = false
  known _ := True
  keeps _ := True
  parts given := ⟨fun event member => given event (List.mem_append_left _ member),
    fun event member => given event (List.mem_append_right _ member)⟩

section Undisturbed

variable {config : GeneratedConfig} {files : Directory Text} {α : Type}

theorem unwritten_invoke_bind {query : MonitorQuery} {next : query.Reply → MonitorM α}
    {after : α → Unit → Prop} (allowed : query.isUpstreamWrite = false)
    (rest : ∀ reply, Given config files query (.ok reply) →
      (next reply).Obeys (unwritten config files) (fun _ => True) after) :
    (invoke query >>= next).Obeys (unwritten config files) (fun _ => True) after := by
  apply obeys_invoke_bind allowed
  · intro _ _ _ _
    exact ⟨trivial, trivial⟩
  · intro reply expected
    exact rest reply (expected _ List.mem_cons_self)

theorem check_obeys (status : Directory Text → Evaluated Bool) :
    (check status).Obeys (unwritten config files) (fun _ => True)
      fun passed _ => status files = .ok passed := by
  apply unwritten_invoke_bind rfl
  intro read given
  have same : read = files := given
  subst same
  cases evaluated : status read with
  | ok passed => exact obeys_pure fun _ _ => rfl
  | error error => exact obeys_raise trivial fun _ _ => trivial

theorem differsFromLatest_obeys :
    (ConfigActionManager.differsFromLatest config).Obeys (unwritten config files)
      (fun _ => True) fun differs _ => hasUpstream files = false ∨
        ∃ latest, latestUpstreamConfig files = .ok latest ∧
          differs = !config.equal latest := by
  apply obeys_bind _ (check_obeys _)
  intro exist
  cases exist with
  | false =>
      apply obeys_pure
      intro _ absent
      exact .inl (Except.ok.inj absent)
  | true =>
      apply Procedure.Obeys.strengthen _ fun _ _ => trivial
      apply (check_obeys _).weaken
      intro differs _ evaluated
      obtain ⟨latest, read, same⟩ := bind_eq_ok.mp evaluated
      exact .inr ⟨latest, read, (Except.ok.inj same).symm⟩

theorem updateSchainConfigVersion_obeys :
    ConfigActionManager.updateSchainConfigVersion.Obeys (unwritten config files)
      (fun _ => True) fun _ _ => True := by
  apply unwritten_invoke_bind rfl
  intro schainRecord _
  apply unwritten_invoke_bind rfl
  intro newConfigVersion _
  apply obeys_bind fun _ _ => True
  · apply unwritten_invoke_bind rfl
    intro _ _
    exact obeys_pure fun _ _ => trivial
  · intro _
    exact obeys_pure fun _ _ => trivial

theorem upstreamConfig_obeys (am : ConfigActionManager) (present : hasUpstream files = true)
    (same : ∀ latest, latestUpstreamConfig files = .ok latest → config.equal latest = true) :
    am.upstreamConfig.Obeys (unwritten config files) (fun _ => True) fun _ _ => True := by
  apply unwritten_invoke_bind rfl
  intro newConfig given
  have generated : newConfig = config := given
  subst newConfig
  apply obeys_bind _ differsFromLatest_obeys
  intro differs
  apply obeys_bind fun _ _ => True
  · intro _ _ _ _ compared expected run
    rcases compared with absent | ⟨latest, read, rfl⟩
    · rw [present] at absent
      cases absent
    · rw [same latest read] at run
      have quiet : (pure () : MonitorM Unit).Obeys (unwritten config files)
          (fun _ => True) fun _ _ => True := obeys_pure fun _ _ => trivial
      exact quiet trivial expected run
  · intro _
    exact updateSchainConfigVersion_obeys

end Undisturbed

/-- In the runs where the new config is `config` and the directory is as `files`, an
upstream is only written if there is none or its document is another one. -/
def WritesOnlyChanges (am : ConfigActionManager) (config : GeneratedConfig)
    (files : Directory Text) : Prop :=
  ∀ (trace : Trace monitorInterface) (outcome : Outcome MonitorError Unit) (state : Unit),
    Runs (am.upstreamConfig ()) trace (outcome, state) →
    (∀ event ∈ trace, Given config files event.query event.answer) →
    (∃ event ∈ trace, event.query.isUpstreamWrite = true) →
    hasUpstream files = false ∨
      ∃ latest, latestUpstreamConfig files = .ok latest ∧
        Json.equal (.obj config.document.fields) latest = false

/-- Once the config is the latest upstream, it is not written again. -/
def WritesOnce (am : ConfigActionManager) (config : GeneratedConfig) : Prop :=
  ∀ (files : Directory Text) (filename : UpstreamConfigFilename),
    (∀ other, .upstream other ∈ files.names → other.le filename = true) →
    ∀ (trace : Trace monitorInterface) (outcome : Outcome MonitorError Unit) (state : Unit),
      Runs (am.upstreamConfig ()) trace (outcome, state) →
      (∀ event ∈ trace,
        Given config (files.put (.upstream filename) config.document.text)
          event.query event.answer) →
      ∀ event ∈ trace, event.query.isUpstreamWrite = false

theorem runs_check {status : Directory Text → Evaluated Bool} {files : Directory Text}
    {passed : Bool} (evaluated : status files = .ok passed) :
    Runs (check status ()) [⟨.readFiles, .ok files⟩] (.value passed, ()) := by
  apply Procedure.runs_invoke_bind_iff.mpr
  refine .inl ⟨files, [], rfl, ?_⟩
  simp only [evaluated]
  exact .done _

theorem upstreamConfig_writes (am : ConfigActionManager) {config : GeneratedConfig}
    {files : Directory Text} {latest : Json.Value} (present : hasUpstream files = true)
    (read : latestUpstreamConfig files = .ok latest) (differs : config.equal latest = false) :
    ∃ (trace : Trace monitorInterface) (outcome : Outcome MonitorError Unit),
      Runs (am.upstreamConfig ()) trace (outcome, ()) ∧
      (∀ event ∈ trace, Given config files event.query event.answer) ∧
      ∃ event ∈ trace, event.query.isUpstreamWrite = true := by
  let looks : Trace monitorInterface := [⟨.readFiles, .ok files⟩, ⟨.readFiles, .ok files⟩]
  let writes : Trace monitorInterface :=
    [⟨.time, .ok 0⟩, ⟨.writeJson (.upstream ⟨am.checks.rotationId, 0⟩) config.document,
      .error .valueError⟩]
  have looked : Runs (ConfigActionManager.differsFromLatest config ()) looks
      (.value true, ()) := by
    apply Procedure.runs_bind_iff.mpr
    refine .inl ⟨true, (), [⟨.readFiles, .ok files⟩], [⟨.readFiles, .ok files⟩], rfl, ?_, ?_⟩
    · apply runs_check
      rw [present]
    · apply runs_check
      rw [read]
      change Except.ok (!config.equal latest) = _
      rw [differs]
      rfl
  have written : Runs (ConfigActionManager.saveNewUpstream am.checks.rotationId
      config.document ()) writes (.raised .valueError, ()) := by
    apply Procedure.runs_invoke_bind_iff.mpr
    refine .inl ⟨0, _, rfl, ?_⟩
    exact Procedure.runs_invoke_iff.mpr (.inr ⟨.valueError, rfl, rfl, rfl⟩)
  refine ⟨⟨.createNewUpstreamConfig am.checks.rotationId, .ok config⟩ :: (looks ++ writes),
    .raised .valueError, ?_, ?_, ?_⟩
  · apply Procedure.runs_invoke_bind_iff.mpr
    refine .inl ⟨config, _, rfl, ?_⟩
    apply Procedure.runs_bind_iff.mpr
    refine .inl ⟨true, (), looks, writes, rfl, looked, ?_⟩
    exact Procedure.runs_bind_iff.mpr (.inr (.inl ⟨.valueError, rfl, written⟩))
  · simp [looks, writes, Given]
  · simp [looks, writes, MonitorQuery.isUpstreamWrite]

theorem upstreamConfig_unwritten (am : ConfigActionManager) {config : GeneratedConfig}
    {files : Directory Text} (present : hasUpstream files = true)
    (same : ∀ latest, latestUpstreamConfig files = .ok latest → config.equal latest = true)
    {trace : Trace monitorInterface} {outcome : Outcome MonitorError Unit} {state : Unit}
    (run : Runs (am.upstreamConfig ()) trace (outcome, state))
    (given : ∀ event ∈ trace, Given config files event.query event.answer) :
    ∀ event ∈ trace, event.query.isUpstreamWrite = false :=
  (upstreamConfig_obeys am present same trivial given run).1

theorem writesOnlyChanges_iff {am : ConfigActionManager} {config : GeneratedConfig}
    {files : Directory Text} :
    WritesOnlyChanges am config files ↔
      config.plain = true ∨ hasUpstream files = false ∨
        ∀ latest, latestUpstreamConfig files = .ok latest →
          Json.equal (.obj config.document.fields) latest = false := by
  constructor
  · intro changes
    by_cases isPlain : config.plain = true
    · exact .inl isPlain
    cases present : hasUpstream files with
    | false => exact .inr (.inl rfl)
    | true =>
        refine .inr (.inr ?_)
        intro latest read
        have differs : config.equal latest = false :=
          Bool.eq_false_of_not_eq_true fun same => isPlain (GeneratedConfig.equal_iff.mp same).1
        obtain ⟨trace, outcome, run, given, written⟩ :=
          upstreamConfig_writes am present read differs
        rcases changes trace outcome () run given written with absent | ⟨other, again, apart⟩
        · rw [present] at absent
          cases absent
        · rw [read] at again
          rw [Except.ok.inj again]
          exact apart
  · intro condition trace outcome state run given written
    cases present : hasUpstream files with
    | false => exact .inl rfl
    | true =>
        refine .inr ?_
        by_contra unchanged
        have alike : ∀ latest, latestUpstreamConfig files = .ok latest →
            Json.equal (.obj config.document.fields) latest = true := by
          intro latest read
          cases equals : Json.equal (.obj config.document.fields) latest with
          | true => rfl
          | false => exact absurd ⟨latest, read, equals⟩ unchanged
        have same : ∀ latest, latestUpstreamConfig files = .ok latest →
            config.equal latest = true := by
          intro latest read
          refine GeneratedConfig.equal_iff.mpr ⟨?_, alike latest read⟩
          rcases condition with isPlain | absent | apart
          · exact isPlain
          · rw [present] at absent
            cases absent
          · have equals := alike latest read
            rw [apart latest read] at equals
            cases equals
        obtain ⟨event, member, writes⟩ := written
        have quiet := upstreamConfig_unwritten am present same run given event member
        rw [writes] at quiet
        cases quiet

theorem hasUpstream_put (files : Directory Text) (filename : UpstreamConfigFilename)
    (content : Text) : hasUpstream (files.put (.upstream filename) content) = true := by
  cases absent : hasUpstream (files.put (.upstream filename) content) with
  | true => rfl
  | false =>
      rw [hasUpstream, Option.isSome_eq_false_iff, Option.isNone_iff_eq_none] at absent
      have unnamed := latestUpstream_eq_none_iff.mp absent filename
      exact absurd (Directory.mem_names_put.mpr (.inl rfl)) unnamed

theorem writesOnce_iff {am : ConfigActionManager} {config : GeneratedConfig} :
    WritesOnce am config ↔ config.plain = true := by
  constructor
  · intro once
    by_contra notPlain
    have differs : config.equal (.obj config.document.fields) = false :=
      Bool.eq_false_of_not_eq_true fun same => notPlain (GeneratedConfig.equal_iff.mp same).1
    have read := latestUpstreamConfig_put [] ⟨0, 0⟩ config.document nofun
    obtain ⟨trace, outcome, run, given, event, member, writes⟩ :=
      upstreamConfig_writes am (hasUpstream_put _ _ _) read differs
    have quiet := once [] ⟨0, 0⟩ nofun trace outcome () run given event member
    rw [writes] at quiet
    cases quiet
  · intro isPlain files filename last trace outcome state run given
    refine upstreamConfig_unwritten am (hasUpstream_put _ _ _) ?_ run given
    intro latest read
    rw [latestUpstreamConfig_put files filename config.document last] at read
    rw [← Except.ok.inj read]
    exact GeneratedConfig.equal_iff.mpr ⟨isPlain, Json.equal_self config.wellFormed⟩

/-- The action writes only changes of a config without integer keys and tuples, and also
of any other config while no upstream has its document. -/
theorem upstreamConfig_idempotent_iff (am : ConfigActionManager) (config : GeneratedConfig) :
    (∀ files, WritesOnlyChanges am config files ↔
      config.plain = true ∨ hasUpstream files = false ∨
        ∀ latest, latestUpstreamConfig files = .ok latest →
          Json.equal (.obj config.document.fields) latest = false) ∧
    (WritesOnce am config ↔ config.plain = true) :=
  ⟨fun _ => writesOnlyChanges_iff, writesOnce_iff⟩

def firstGroupConfig : SChainConfig where
  sealEngine := "Ethash".toList
  params := [(.str "chainID".toList, .str "0x1".toList)]
  unddos := []
  genesis := []
  accounts := []
  skaleConfig := {
    contractSettings := {
      common := [(.str "enableContractLogMessages".toList, .bool true)]
      ima := [] }
    nodeInfo := [(.str "nodeID".toList, .int 1)]
    schainInfo := {
      schainId := 1
      name := "a".toList
      blockAuthor := "0x0".toList
      contractStorageLimit := 1
      dbStorageLimit := 1
      maxConsensusStorageBytes := 1
      maxSkaledLeveldbStorageBytes := 1
      maxFileStorageBytes := 1
      maxReservedStorageBytes := 1
      nodeGroups := generatedNodeGroups [(.int 0, .dict [
        (.str "nodes".toList, .dict [
          (.int 1, .tuple [.int 0, .int 1, .str "0x5d".toList])]),
        (.str "finish_ts".toList, .none),
        (.str "bls_public_key".toList, .none)])] []
      nodes := [.dict [(.str "nodeID".toList, .int 1)]]
      staticSchainInfo := []
      multitransactionMode := true } }

def firstGroup : GeneratedConfig where
  entries := firstGroupConfig.toDict
  wellFormed := Json.wellFormed_of_isWellFormed (by decide)

theorem firstGroup_rewritten : ¬ ∃ am, WritesOnlyChanges am firstGroup
    (Directory.put [] (.upstream ⟨0, 0⟩) firstGroup.document.text) := by
  rintro ⟨am, changes⟩
  have read := latestUpstreamConfig_put [] ⟨0, 0⟩ firstGroup.document nofun
  have differs : firstGroup.equal (.obj firstGroup.document.fields) = false := by decide
  obtain ⟨trace, outcome, run, given, written⟩ :=
    upstreamConfig_writes am (hasUpstream_put _ _ _) read differs
  rcases changes trace outcome () run given written with absent | ⟨latest, again, apart⟩
  · rw [hasUpstream_put] at absent
    cases absent
  · rw [read] at again
    have same := Json.equal_self firstGroup.document.wellFormed
    rw [← Except.ok.inj again, same] at apart
    cases apart

end SkaleAdmin.Monitor
