import SkaleAdmin.Config.NamedUpstreams
import SkaleAdmin.Library.JsonRoundTrip

/-! `ConfigFileManager` keeps two cells: the latest upstream config and the skaled one. -/

namespace SkaleAdmin.Config.Named

open PyText Json

inductive ManagerCall where
  | saveNewUpstream (rotationId : Nat) (config : Document)
  | syncSkaledConfigWithUpstream
  | saveSkaledConfig (config : Document)
  | removeSkaledConfig

namespace ManagerCall

/-- The directory after the call at the second `now`. -/
def run (manager : ConfigFileManager) (now : Nat) (files : Files) :
    ManagerCall → Managed Files
  | saveNewUpstream rotationId config =>
      .ok (manager.saveNewUpstream files now rotationId config)
  | syncSkaledConfigWithUpstream => do
      let (_, files) ← manager.syncSkaledConfigWithUpstream files
      return files
  | saveSkaledConfig config => .ok (manager.saveSkaledConfig files config)
  | removeSkaledConfig => .ok (manager.removeSkaledConfig files)

def rotationId? : ManagerCall → Option Nat
  | saveNewUpstream rotationId _ => some rotationId
  | _ => none

end ManagerCall

def runCalls (manager : ConfigFileManager) : List (Nat × ManagerCall) → Files → Managed Files
  | [], files => .ok files
  | (now, call) :: calls, files => do
      runCalls manager calls (← call.run manager now files)

structure Ordered (calls : List (Nat × ManagerCall)) : Prop where
  clock : (calls.map Prod.fst).Pairwise (· ≤ ·)
  rotationIds : (calls.filterMap fun call => call.2.rotationId?).Pairwise (· ≤ ·)

/-- Letters, digits, underscores and hyphens. -/
def IsPlainName (name : Text) : Prop :=
  ∀ symbol ∈ name, symbol.isAlphanum = true ∨ symbol = '_' ∨ symbol = '-'

/-! ### The cells -/

structure Cells where
  upstream : Option Value := none
  skaled : Option Value := none

namespace Cells

def step (cells : Cells) : ManagerCall → Cells
  | .saveNewUpstream _ config => { cells with upstream := some (.obj config.fields) }
  | .syncSkaledConfigWithUpstream =>
      match cells.upstream with
      | some upstream => { cells with skaled := some upstream }
      | none => cells
  | .saveSkaledConfig config => { cells with skaled := some (.obj config.fields) }
  | .removeSkaledConfig => { cells with skaled := none }

/-- There is a skaled config, and no upstream or one that it equals. -/
def synced (cells : Cells) : Bool :=
  match cells.skaled, cells.upstream with
  | none, _ => false
  | some _, none => true
  | some skaled, some upstream => equal upstream skaled

end Cells

/-! ### What the files hold -/

def Holds (text : Option Text) (cell : Option Value) : Prop :=
  text.map loads = cell.map some

theorem holds_text (config : Document) :
    Holds (some config.text) (some (.obj config.fields)) := by
  unfold Holds Document.text
  rw [Option.map_some, loads_dumps config.wellFormed]
  rfl

theorem Holds.isSome {text : Option Text} {cell : Option Value} (holds : Holds text cell) :
    text.isSome = cell.isSome := by
  have same := congrArg Option.isSome holds
  simpa using same

namespace ConfigFileManager

variable {manager : ConfigFileManager} {files : Files}

theorem readJson_of_holds {path : Text} {value : Value}
    (holds : Holds (files.lookup path) (some value)) : readJson files path = .ok value := by
  unfold readJson
  unfold Holds at holds
  cases text : files.lookup path with
  | none =>
      rw [text] at holds
      cases holds
  | some text' =>
      rw [text] at holds
      have loaded : loads text' = some value := Option.some.inj holds
      dsimp only
      rw [loaded]

/-- The text of the latest of the upstreams among the paths. -/
def latestText (manager : ConfigFileManager) (files : Files) (paths : List FileName) :
    Option Text :=
  (latestUpstream paths).bind fun filename => files.lookup (manager.named filename).filename

/-- The files have the names of `paths`, and hold the cells. -/
structure Represents (manager : ConfigFileManager) (files : Files) (paths : List FileName)
    (cells : Cells) : Prop where
  keys : files.keys = paths.map manager.nameOf
  upstream : Holds (manager.latestText files paths) cells.upstream
  skaled : Holds (files.lookup manager.skaledConfigPath) cells.skaled

section Reading

variable {paths : List FileName} {cells : Cells} (plain : '/' ∉ manager.schainName)
  (represents : manager.Represents files paths cells)

include represents

theorem exists_of_latest {filename : Config.UpstreamConfigFilename}
    (latest : latestUpstream paths = some filename) :
    ∃ text, files.lookup (manager.named filename).filename = some text := by
  have member := (latestUpstream_eq_some_iff.mp latest).1
  have key : manager.nameOf (.upstream filename) ∈ files.keys := by
    rw [represents.keys]
    exact List.mem_map_of_mem member
  exact Option.isSome_iff_exists.mp (AList.lookup_isSome.mpr (AList.mem_keys.mpr key))

include plain

theorem upstreamConfigExists_eq :
    manager.upstreamConfigExists files = .ok cells.upstream.isSome := by
  have cell := represents.upstream.isSome
  unfold upstreamConfigExists
  rw [latestUpstreamPath_eq plain represents.keys]
  unfold latestText at cell
  cases latest : latestUpstream paths with
  | none =>
      rw [latest] at cell
      exact congrArg Except.ok cell
  | some filename =>
      rw [latest] at cell
      exact congrArg Except.ok cell

theorem latestUpstreamConfig_eq : manager.latestUpstreamConfig files = .ok cells.upstream := by
  have held := represents.upstream
  unfold latestUpstreamConfig
  rw [upstreamConfigExists_eq plain represents]
  cases cell : cells.upstream with
  | none => rfl
  | some upstream =>
      rw [cell] at held
      have path := latestUpstreamPath_eq plain represents.keys
      unfold latestText at held
      cases latest : latestUpstream paths with
      | none =>
          rw [latest] at held
          cases held
      | some filename =>
          rw [latest] at held path
          have read := readJson_of_holds held
          change (manager.latestUpstreamPath files >>= _) = _
          rw [path]
          change (readJson files _ >>= _) = _
          rw [read]
          rfl

omit plain in
theorem skaledConfig_eq : manager.skaledConfig files = .ok cells.skaled := by
  have held := represents.skaled
  have cell := held.isSome
  unfold skaledConfig skaledConfigExists isfile
  rw [cell]
  cases skaled : cells.skaled with
  | none => rfl
  | some value =>
      rw [skaled] at held
      change (readJson files _ >>= _) = _
      rw [readJson_of_holds held]
      rfl

theorem skaledConfigSyncedWithUpstream_eq :
    manager.skaledConfigSyncedWithUpstream files = .ok cells.synced := by
  have cell := represents.skaled.isSome
  unfold skaledConfigSyncedWithUpstream skaledConfigExists isfile Cells.synced
  rw [cell, upstreamConfigExists_eq plain represents, skaledConfig_eq represents,
    latestUpstreamConfig_eq plain represents]
  cases cells.skaled with
  | none => rfl
  | some skaled =>
      cases cells.upstream with
      | none => rfl
      | some upstream => rfl

end Reading

/-! ### One call -/

section Names

variable (plain : '/' ∉ manager.schainName)

include plain

theorem filename_inj {first second : Config.UpstreamConfigFilename}
    (same : (manager.named first).filename = (manager.named second).filename) :
    first = second := by
  have firstRead := UpstreamConfigFilename.fromFilename_join manager.dirname
    (show '/' ∉ (manager.named first).name from plain)
  have secondRead := UpstreamConfigFilename.fromFilename_join manager.dirname
    (show '/' ∉ (manager.named second).name from plain)
  rw [same, secondRead] at firstRead
  exact (named_injective (Except.ok.inj firstRead)).symm

theorem eq_of_nameOf {path : FileName} {filename : Config.UpstreamConfigFilename}
    (same : manager.nameOf path = (manager.named filename).filename) :
    path = .upstream filename := by
  have starts : manager.upstreamPrefix.isPrefixOf (manager.nameOf path) = _ :=
    isPrefixOf_nameOf path
  rw [same, isPrefixOf_upstream] at starts
  cases path with
  | upstream other => rw [filename_inj plain same]
  | skaled => cases starts
  | external => cases starts
  | secretKey rotationId => cases starts

end Names

theorem filename_ne_skaled (filename : Config.UpstreamConfigFilename) :
    (manager.named filename).filename ≠ manager.skaledConfigPath := by
  intro same
  have starts : manager.upstreamPrefix.isPrefixOf (manager.named filename).filename = true :=
    isPrefixOf_upstream filename
  rw [same] at starts
  rw [skaledConfigPath, isPrefixOf_skaled] at starts
  cases starts

theorem exists_erase {paths : List FileName} (names : files.keys = paths.map manager.nameOf)
    (path : FileName) : ∃ others : List FileName, others.Sublist paths ∧
      (files.erase (manager.nameOf path)).keys = others.map manager.nameOf := by
  rw [AList.keys_erase, names]
  exact List.sublist_map_iff.mp (@List.erase_sublist _ (_) _ _)

theorem latestText_of_skaled (plain : '/' ∉ manager.schainName) {files' : Files}
    {paths others : List FileName}
    (keys : files.keys = paths.map manager.nameOf) (sublist : others.Sublist paths)
    (erased : (files.erase manager.skaledConfigPath).keys = others.map manager.nameOf)
    (same : ∀ name, name ≠ manager.skaledConfigPath → files'.lookup name = files.lookup name) :
    latestUpstream others = latestUpstream paths ∧
      manager.latestText files' others = manager.latestText files paths := by
  have members : ∀ filename, .upstream filename ∈ others ↔ .upstream filename ∈ paths := by
    intro filename
    refine ⟨fun member => sublist.subset member, ?_⟩
    intro member
    have key : (manager.named filename).filename ∈
        (files.erase manager.skaledConfigPath).keys := by
      rw [← AList.mem_keys, AList.mem_erase, AList.mem_keys, keys]
      exact ⟨filename_ne_skaled filename, List.mem_map_of_mem (f := manager.nameOf) member⟩
    rw [erased] at key
    obtain ⟨path, other, spelled⟩ := List.mem_map.mp key
    rw [← eq_of_nameOf plain spelled]
    exact other
  have latest := latestUpstream_congr members
  refine ⟨latest, ?_⟩
  unfold latestText
  rw [latest]
  cases latestUpstream paths with
  | none => rfl
  | some filename => exact same _ (filename_ne_skaled filename)

section Writing

variable {paths : List FileName} {cells : Cells} (plain : '/' ∉ manager.schainName)
  (represents : manager.Represents files paths cells)

include plain represents

theorem represents_skaled {text : Text} {cell : Value} (holds : Holds (some text) (some cell)) :
    ∃ paths', latestUpstream paths' = latestUpstream paths ∧
      manager.Represents (files.insert manager.skaledConfigPath text) paths'
        { cells with skaled := some cell } := by
  obtain ⟨others, sublist, erased⟩ := exists_erase represents.keys .skaled
  have same : ∀ name, name ≠ manager.skaledConfigPath →
      (files.insert manager.skaledConfigPath text).lookup name = files.lookup name :=
    fun name apart => AList.lookup_insert_ne apart
  obtain ⟨latest, texts⟩ := latestText_of_skaled plain represents.keys sublist erased same
  have latest' : latestUpstream (.skaled :: others) = latestUpstream others :=
    latestUpstream_congr fun filename => by simp
  refine ⟨.skaled :: others, latest'.trans latest, ?_, ?_, ?_⟩
  · rw [AList.keys_insert, ← AList.keys_erase]
    exact congrArg (manager.skaledConfigPath :: ·) erased
  · have upstream := represents.upstream
    rw [← texts] at upstream
    unfold latestText at upstream ⊢
    rw [latest']
    exact upstream
  · rw [AList.lookup_insert]
    exact holds

theorem represents_erase :
    ∃ paths', latestUpstream paths' = latestUpstream paths ∧
      manager.Represents (files.erase manager.skaledConfigPath) paths'
        { cells with skaled := none } := by
  obtain ⟨others, sublist, erased⟩ := exists_erase represents.keys .skaled
  obtain ⟨latest, texts⟩ := latestText_of_skaled plain represents.keys sublist erased
    fun name apart => AList.lookup_erase_ne apart
  refine ⟨others, latest, ?_, ?_, ?_⟩
  · exact erased
  · rw [texts]
    exact represents.upstream
  · rw [AList.lookup_erase]
    rfl

omit plain in
/-- A new upstream that is not below the latest one becomes the latest one. -/
theorem represents_upstream {filename : Config.UpstreamConfigFilename} {text : Text}
    {cell : Value} (holds : Holds (some text) (some cell))
    (above : ∀ latest, latestUpstream paths = some latest → latest.le filename = true) :
    ∃ paths', latestUpstream paths' = some filename ∧
      manager.Represents (files.insert (manager.named filename).filename text) paths'
        { cells with upstream := some cell } := by
  obtain ⟨others, sublist, erased⟩ := exists_erase represents.keys (.upstream filename)
  have latest : latestUpstream (.upstream filename :: others) = some filename := by
    rw [latestUpstream_eq_some_iff]
    refine ⟨List.mem_cons_self, ?_⟩
    intro other member
    rcases List.mem_cons.mp member with same | member
    · cases same
      exact Config.UpstreamConfigFilename.le_refl filename
    · have inside := sublist.subset member
      cases before : latestUpstream paths with
      | none => exact absurd inside (latestUpstream_eq_none_iff.mp before other)
      | some last =>
          exact Config.UpstreamConfigFilename.le_trans _ _ _
            ((latestUpstream_eq_some_iff.mp before).2 other inside) (above last before)
  refine ⟨.upstream filename :: others, latest, ?_, ?_, ?_⟩
  · rw [AList.keys_insert, ← AList.keys_erase]
    exact congrArg ((manager.named filename).filename :: ·) erased
  · unfold latestText
    rw [latest, Option.bind_some, AList.lookup_insert]
    exact holds
  · rw [AList.lookup_insert_ne (Ne.symm (filename_ne_skaled filename))]
    exact represents.skaled

theorem run_represents (now : Nat) (call : ManagerCall)
    (above : ∀ latest, latestUpstream paths = some latest →
      latest.ts ≤ now ∧ ∀ rotationId, call.rotationId? = some rotationId →
        latest.rotationId ≤ rotationId) :
    ∃ files' paths', call.run manager now files = .ok files' ∧
      manager.Represents files' paths' (cells.step call) ∧
      ∀ latest, latestUpstream paths' = some latest →
        latestUpstream paths = some latest ∨
          latest.ts = now ∧ call.rotationId? = some latest.rotationId := by
  cases call with
  | saveNewUpstream rotationId config =>
      have latestOf : ∀ last, latestUpstream paths = some last →
          last.le { rotationId, ts := now } = true := by
        intro last before
        obtain ⟨clock, id⟩ := above last before
        have lower := id rotationId rfl
        rw [Config.UpstreamConfigFilename.le_iff]
        dsimp only
        omega
      obtain ⟨paths', latest, represents'⟩ :=
        represents_upstream represents (holds_text config) latestOf
      refine ⟨_, paths', rfl, represents', ?_⟩
      intro last after
      rw [latest] at after
      cases after
      exact .inr ⟨rfl, rfl⟩
  | saveSkaledConfig config =>
      obtain ⟨paths', latest, represents'⟩ :=
        represents_skaled plain represents (holds_text config)
      exact ⟨_, paths', rfl, represents', fun last after => .inl (latest ▸ after)⟩
  | removeSkaledConfig =>
      have cell := represents.skaled.isSome
      cases exist : manager.skaledConfigExists files with
      | true =>
          obtain ⟨paths', latest, represents'⟩ := represents_erase plain represents
          refine ⟨_, paths', ?_, represents', fun last after => .inl (latest ▸ after)⟩
          unfold ManagerCall.run removeSkaledConfig
          rw [exist]
          rfl
      | false =>
          have none : cells.skaled = none := by
            rw [← Option.isNone_iff_eq_none, ← Option.not_isSome, ← cell]
            unfold skaledConfigExists isfile at exist
            rw [exist]
            rfl
          refine ⟨files, paths, ?_, ?_, fun last after => .inl after⟩
          · unfold ManagerCall.run removeSkaledConfig
            rw [exist]
            rfl
          · unfold Cells.step
            rw [← none]
            exact represents
  | syncSkaledConfigWithUpstream =>
      have exist := upstreamConfigExists_eq plain represents
      have path := latestUpstreamPath_eq plain represents.keys
      have held := represents.upstream
      obtain ⟨upstream, skaled⟩ := cells
      unfold latestText at held
      unfold ManagerCall.run syncSkaledConfigWithUpstream
      rw [exist]
      cases upstream with
      | none => exact ⟨files, paths, rfl, represents, fun last after => .inl after⟩
      | some upstream =>
          cases latest : latestUpstream paths with
          | none =>
              rw [latest] at held
              cases held
          | some filename =>
              rw [latest] at held path
              obtain ⟨text, found⟩ := exists_of_latest represents latest
              rw [Option.bind_some, found] at held
              obtain ⟨paths', same, represents'⟩ := represents_skaled plain represents held
              refine ⟨_, paths', ?_, represents', fun last after => .inl ?_⟩
              · have copied : copy files (manager.named filename).filename
                    manager.skaledConfigPath =
                      .ok (files.insert manager.skaledConfigPath text) := by
                  rw [copy, found]
                rw [path]
                change (copy files (manager.named filename).filename manager.skaledConfigPath >>=
                  fun files => pure (true, files)) >>= (fun synced => pure synced.2) = _
                rw [copied]
                rfl
              · rw [← latest, ← same]
                exact after

end Writing

/-! ### Every sequence of calls -/

/-- The latest upstream is not above what the calls are still to save. -/
def BelowAll (latest : Option Config.UpstreamConfigFilename)
    (calls : List (Nat × ManagerCall)) : Prop :=
  ∀ filename, latest = some filename → ∀ call ∈ calls, filename.ts ≤ call.1 ∧
    ∀ rotationId, call.2.rotationId? = some rotationId → filename.rotationId ≤ rotationId

theorem runCalls_represents (plain : '/' ∉ manager.schainName)
    {calls : List (Nat × ManagerCall)} (ordered : Ordered calls) {files : Files}
    {paths : List FileName} {cells : Cells}
    (represents : manager.Represents files paths cells)
    (below : BelowAll (latestUpstream paths) calls) :
    ∃ files' paths', runCalls manager calls files = .ok files' ∧
      manager.Represents files' paths'
        (calls.foldl (fun cells call => cells.step call.2) cells) := by
  induction calls generalizing files paths cells with
  | nil => exact ⟨files, paths, rfl, represents⟩
  | cons call calls ih =>
      obtain ⟨now, call⟩ := call
      obtain ⟨files', paths', ran, represents', latest⟩ :=
        run_represents plain represents now call fun filename found =>
          below filename found _ List.mem_cons_self
      obtain ⟨clocks, laterClocks⟩ := List.pairwise_cons.mp ordered.clock
      have rest : Ordered calls := ⟨laterClocks,
        ordered.rotationIds.sublist ((List.sublist_cons_self _ _).filterMap _)⟩
      have below' : BelowAll (latestUpstream paths') calls := by
        intro filename found later member
        rcases latest filename found with before | ⟨clock, id⟩
        · exact below filename before later (List.mem_cons_of_mem _ member)
        · refine ⟨?_, ?_⟩
          · rw [clock]
            exact clocks _ (List.mem_map_of_mem member)
          · intro rotationId laterId
            have ids := ordered.rotationIds
            rw [List.filterMap_cons, id, List.pairwise_cons] at ids
            exact ids.1 rotationId (List.mem_filterMap.mpr ⟨later, member, laterId⟩)
      obtain ⟨last, lastPaths, ranAll, representsLast⟩ := ih rest represents' below'
      refine ⟨last, lastPaths, ?_, representsLast⟩
      rw [runCalls, ran]
      exact ranAll

end ConfigFileManager

theorem noSlash_of_plain {name : Text} (plain : IsPlainName name) : '/' ∉ name := by
  intro member
  rcases plain '/' member with letter | mark | mark
  · exact absurd letter (by decide)
  · exact absurd mark (by decide)
  · exact absurd mark (by decide)

def cellsAfter (calls : List (Nat × ManagerCall)) : Cells :=
  calls.foldl (fun cells call => cells.step call.2) {}

theorem exists_represents {manager : ConfigFileManager} (plain : '/' ∉ manager.schainName)
    {calls : List (Nat × ManagerCall)} (ordered : Ordered calls) :
    ∃ files paths, runCalls manager calls ∅ = .ok files ∧
      manager.Represents files paths (cellsAfter calls) := by
  have latest : latestUpstream [] = none := latestUpstream_eq_none_iff.mpr fun _ => nofun
  have start : manager.Represents ∅ [] {} := by
    refine ⟨rfl, ?_, rfl⟩
    unfold ConfigFileManager.latestText
    rw [latest]
    rfl
  apply ConfigFileManager.runCalls_represents plain ordered start
  rw [latest]
  rintro filename ⟨⟩

/-- On a directory that was empty, whatever is saved, synced and removed in which order,
the manager behaves like the two cells. -/
theorem manager_refines_cells (manager : ConfigFileManager)
    (plain : IsPlainName manager.schainName) (calls : List (Nat × ManagerCall))
    (ordered : Ordered calls) :
    ∃ files, runCalls manager calls ∅ = .ok files ∧
      manager.latestUpstreamConfig files = .ok (cellsAfter calls).upstream ∧
      manager.skaledConfig files = .ok (cellsAfter calls).skaled ∧
      manager.skaledConfigSyncedWithUpstream files = .ok (cellsAfter calls).synced := by
  have named := noSlash_of_plain plain
  obtain ⟨files, paths, ran, represents⟩ := exists_represents named ordered
  exact ⟨files, ran, ConfigFileManager.latestUpstreamConfig_eq named represents,
    ConfigFileManager.skaledConfig_eq represents,
    ConfigFileManager.skaledConfigSyncedWithUpstream_eq named represents⟩

/-! ### A chain with an underscore in its name -/

def sampleManager : ConfigFileManager where
  schainName := "chain_7".toList
  dirname := "schains/chain_7".toList

def documentOf (value : Value) (wellFormed : value.WellFormed) : Document where
  fields := [("a".toList, value)]
  wellFormed := by
    refine .obj _ (List.nodup_singleton _) ?_
    intro field member
    rw [List.mem_singleton.mp member]
    exact wellFormed

/-- Two upstreams of one second; the later one is synced over a skaled config that was
saved, removed and synced once more. -/
def sampleCalls : List (Nat × ManagerCall) :=
  [(5, .saveNewUpstream 9 (documentOf (.num 1) (.num 1))),
    (5, .saveNewUpstream 10 (documentOf (.num 2) (.num 2))),
    (6, .saveSkaledConfig (documentOf (.num 3) (.num 3))),
    (6, .syncSkaledConfigWithUpstream),
    (7, .removeSkaledConfig),
    (8, .syncSkaledConfigWithUpstream)]

theorem sampleManager_plain : IsPlainName sampleManager.schainName := by
  intro symbol member
  have spelled : sampleManager.schainName = ['c', 'h', 'a', 'i', 'n', '_', '7'] := by decide
  rw [spelled] at member
  simp only [List.mem_cons, List.not_mem_nil, or_false] at member
  rcases member with rfl | rfl | rfl | rfl | rfl | rfl | rfl
  all_goals decide

theorem sample_refines_cells :
    ∃ files, runCalls sampleManager sampleCalls ∅ = .ok files ∧
      sampleManager.latestUpstreamConfig files = .ok (cellsAfter sampleCalls).upstream ∧
      sampleManager.skaledConfig files = .ok (cellsAfter sampleCalls).skaled ∧
      sampleManager.skaledConfigSyncedWithUpstream files =
        .ok (cellsAfter sampleCalls).synced :=
  manager_refines_cells sampleManager sampleManager_plain sampleCalls ⟨by decide, by decide⟩

/-- The upstream is `{"a": true}` and the skaled config `{"a": 1}`. -/
def unequalCalls : List (Nat × ManagerCall) :=
  [(5, .saveNewUpstream 0 (documentOf (.bool true) (.bool true))),
    (5, .saveSkaledConfig (documentOf (.num 1) (.num 1)))]

/-- Configs that Python finds equal and that are different documents are taken for
synced. -/
theorem synced_with_other_document :
    ∃ files, runCalls sampleManager unequalCalls ∅ = .ok files ∧
      sampleManager.latestUpstreamConfig files =
        .ok (some (.obj [("a".toList, .bool true)])) ∧
      sampleManager.skaledConfig files = .ok (some (.obj [("a".toList, .num 1)])) ∧
      sampleManager.skaledConfigSyncedWithUpstream files = .ok true := by
  have named : '/' ∉ sampleManager.schainName := by decide
  have ordered : Ordered unequalCalls := ⟨by decide, by decide⟩
  obtain ⟨files, paths, ran, represents⟩ := exists_represents named ordered
  exact ⟨files, ran, ConfigFileManager.latestUpstreamConfig_eq named represents,
    ConfigFileManager.skaledConfig_eq represents,
    ConfigFileManager.skaledConfigSyncedWithUpstream_eq named represents⟩

end SkaleAdmin.Config.Named
