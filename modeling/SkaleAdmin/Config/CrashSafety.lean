import SkaleAdmin.Config.Checks
import SkaleAdmin.Library.JsonPrefix

/-! What is left of the configuration files when the process that writes them
is killed. -/

namespace SkaleAdmin.Config

open Interaction PyText Json

inductive Operation where
  | saveNewUpstream (rotationId : Nat) (config : Document)
  | syncSkaledConfigWithUpstream
  | externalConfigWrite (content : Document)
  | saveDkgResults (rotationId : Nat) (dkgResults : Document)

/-- The files that are read back. -/
inductive Reading where
  | latestUpstream
  | skaled
  | external
  | secretKey (rotationId : Nat)
  deriving DecidableEq

def Reading.of (files : Directory Text) : Reading → Option Text
  | latestUpstream =>
      (Config.latestUpstream files.names).bind fun filename =>
        files.read (.upstream filename)
  | skaled => files.read .skaled
  | external => files.read .external
  | secretKey rotationId => files.read (.secretKey rotationId)

namespace Operation

def program : Operation → DiskProgram Unit
  | saveNewUpstream rotationId config => Config.saveNewUpstream rotationId config
  | syncSkaledConfigWithUpstream => do
      let _ ← Config.syncSkaledConfigWithUpstream
      return ()
  | externalConfigWrite content => Config.externalConfigWrite content
  | saveDkgResults rotationId dkgResults =>
      Config.saveDkgResults rotationId dkgResults

/-- The files that a process leaves which is killed after `calls` calls. -/
def killedAfter (operation : Operation) (now calls : Nat)
    (files : Directory Text) : Directory Text :=
  (Program.advance (serveDisk now) calls operation.program files).2

/-- The file that the operation writes, with its complete new content. -/
def target (operation : Operation) (now : Nat) (files : Directory Text) :
    Option (FileName × Text) :=
  match operation with
  | saveNewUpstream rotationId config =>
      some (.upstream { rotationId, ts := now }, config.text)
  | syncSkaledConfigWithUpstream =>
      (Reading.latestUpstream.of files).map fun text => (.skaled, text)
  | externalConfigWrite content => some (.external, content.text)
  | saveDkgResults rotationId dkgResults =>
      some (.secretKey rotationId, dkgResults.text)

def opened : Operation → Nat
  | saveNewUpstream _ _ => 2
  | syncSkaledConfigWithUpstream => 5
  | externalConfigWrite _ | saveDkgResults _ _ => 1

def reading : Operation → Reading
  | saveNewUpstream _ _ => .latestUpstream
  | syncSkaledConfigWithUpstream => .skaled
  | externalConfigWrite _ => .external
  | saveDkgResults rotationId _ => .secretKey rotationId

end Operation

/-! ### How far a write has got -/

section Stages

variable {ρ τ : Type} {now : Nat} {before : Directory Text}

theorem writeText_files {name : FileName} (written missing : Text) (calls : Nat) :
    (Program.advance (serveDisk now) calls (writeText name missing)
      (before.put name written)).2 =
        before.put name (written ++ missing.take calls) := by
  induction missing generalizing written calls with
  | nil =>
      rw [List.take_nil, List.append_nil]
      cases calls <;> rfl
  | cons symbol missing ih =>
      cases calls with
      | zero => simp [Program.advance]
      | succ calls =>
          have appended : (serveDisk now (.append name symbol)
              (before.put name written)).2 =
              before.put name (written ++ [symbol]) := by
            simp [serveDisk]
          change (Program.advance (serveDisk now) calls (writeText name missing)
            (serveDisk now (.append name symbol) (before.put name written)).2).2 = _
          rw [appended, ih]
          simp

/-- The program ends after `looked` calls that do not touch the files. -/
abbrev Looks (now : Nat) (before : Directory Text) (looked : Nat)
    (program : DiskProgram ρ) (result : ρ) : Prop :=
  Program.Looks (I := diskInterface) (serveDisk now) before looked program result

/-- The files when the last of `opened` calls opens the file `name` and the
calls after it write `text`. -/
def cutAt (before : Directory Text) (name : FileName) (text : Text)
    (opened calls : Nat) : Directory Text :=
  if calls < opened then before else before.put name (text.take (calls - opened))

/-- The program writes `text` to the file `name`, which it opens with the last
of `opened` calls. -/
def Writes (now : Nat) (before : Directory Text) (name : FileName) (text : Text)
    (opened : Nat) (program : DiskProgram ρ) : Prop :=
  ∀ calls, (Program.advance (serveDisk now) calls program before).2 =
    cutAt before name text opened calls

variable {name : FileName} {text : Text} {opened : Nat}

theorem writes_open : Writes now before name text 1
    (.call (.openWrite name) fun _ => writeText name text) := by
  intro calls
  cases calls with
  | zero => rfl
  | succ calls =>
      have files : (Program.advance (serveDisk now) calls (writeText name text)
          (before.put name [])).2 = before.put name ([] ++ text.take calls) :=
        writeText_files [] text calls
      change (Program.advance (serveDisk now) calls (writeText name text)
        (before.put name [])).2 = _
      rw [files, cutAt, if_neg (by omega)]
      rfl

theorem Writes.after_looks {program : DiskProgram ρ} {result : ρ} {looked : Nat}
    {next : ρ → DiskProgram τ}
    (looks : Looks now before looked program result)
    (positive : 0 < opened) (writes : Writes now before name text opened (next result)) :
    Writes now before name text (opened + looked) (program.bind next) := by
  intro calls
  by_cases early : calls ≤ looked
  · have within : calls < opened + looked := by omega
    rw [looks.advance_within early, cutAt, if_pos within]
  · obtain ⟨more, rfl⟩ : ∃ more, calls = more + looked :=
      ⟨calls - looked, by omega⟩
    rw [looks.advance_beyond, writes more]
    unfold cutAt
    simp only [Nat.add_lt_add_iff_right, Nat.add_sub_add_right]

theorem Writes.bind_return {program : DiskProgram ρ} {value : ρ → τ}
    (writes : Writes now before name text opened program) :
    Writes now before name text opened
      (program.bind fun result => .done (value result)) := by
  intro calls
  rw [Program.advance_bind_return, writes calls]

theorem latestUpstreamPath_looks (now : Nat) (before : Directory Text) :
    Looks now before 1 latestUpstreamPath
      ((latestUpstream before.names).map .upstream) :=
  .call rfl (.done _)

theorem upstreamConfigExists_looks {filename : UpstreamConfigFilename}
    (latest : latestUpstream before.names = some filename) :
    Looks now before 2 upstreamConfigExists true := by
  have present := Directory.mem_names_iff.mp
    (latestUpstream_eq_some_iff.mp latest).1
  refine (latestUpstreamPath_looks now before).bind ?_
  rw [latest]
  refine .call rfl ?_
  change Looks now before 0
    (.done (before.read (.upstream filename)).isSome) true
  rw [present]
  exact .done true

theorem sync_writes {filename : UpstreamConfigFilename}
    (latest : latestUpstream before.names = some filename)
    (content : before.read (.upstream filename) = some text) :
    Writes now before .skaled text 5 syncSkaledConfigWithUpstream := by
  refine Writes.after_looks (upstreamConfigExists_looks latest) (by decide) ?_
  refine Writes.after_looks (latestUpstreamPath_looks now before) (by decide) ?_
  rw [latest]
  apply Writes.bind_return
  have looks : Looks now before 1
      (pose (.readText (.upstream filename))) (some text) := by
    rw [← content]
    exact .call rfl (.done _)
  refine Writes.after_looks looks (by decide) ?_
  have written : Writes now before .skaled text 1
      (.call (.openWrite .skaled) fun _ => writeText .skaled text) := writes_open
  exact written.bind_return

theorem sync_without_upstream (latest : latestUpstream before.names = none) :
    Looks now before 1 syncSkaledConfigWithUpstream
      (.ok false) := by
  have looks : Looks now before 1 upstreamConfigExists
      false := by
    refine (latestUpstreamPath_looks now before).bind ?_
    rw [latest]
    exact .done false
  exact looks.bind (.done _)

/-- The files after a kill: untouched, or with a prefix of the new text. -/
theorem killedAfter_eq (operation : Operation) (now calls : Nat)
    (before : Directory Text) :
    operation.killedAfter now calls before =
      match operation.target now before with
      | none => before
      | some (name, text) => cutAt before name text operation.opened calls := by
  cases operation with
  | saveNewUpstream rotationId config =>
      have looks : Looks now before 1 (getNewUpstreamFilepath rotationId)
          (.upstream { rotationId, ts := now }) := .call rfl (.done _)
      exact Writes.after_looks looks (by decide) writes_open calls
  | syncSkaledConfigWithUpstream =>
      unfold Operation.killedAfter Operation.target Reading.of
      have returned : (Program.advance (serveDisk now) calls
          (Operation.program .syncSkaledConfigWithUpstream) before).2 =
          (Program.advance (serveDisk now) calls
            syncSkaledConfigWithUpstream before).2 :=
        Program.advance_bind_return calls syncSkaledConfigWithUpstream _ before
      rw [returned]
      cases latest : latestUpstream before.names with
      | none => exact (sync_without_upstream latest).advance_world calls
      | some filename =>
          obtain ⟨text, content⟩ := Option.isSome_iff_exists.mp
            (Directory.mem_names_iff.mp (latestUpstream_eq_some_iff.mp latest).1)
          rw [Option.bind_some, content]
          exact sync_writes latest content calls
  | externalConfigWrite content => exact writes_open calls
  | saveDkgResults rotationId dkgResults => exact writes_open calls

end Stages

/-! ### What is read afterwards -/

structure IntactDirectory where
  files : Directory Text
  whole : ∀ name text, files.read name = some text →
    ∃ document : Document, text = document.text

/-- After the kill every file that is read back holds what it held before, or
the one that the operation writes holds its complete new text, and the checks
of the next pipeline find nothing that they cannot decode. -/
structure Atomic (operation : Operation) (now : Nat)
    (before after : Directory Text) : Prop where
  readings : ∀ reading : Reading, reading.of after = reading.of before ∨
    reading = operation.reading ∧
      ∃ name text, operation.target now before = some (name, text) ∧
        reading.of after = some text
  checks : ChecksDecoded after

def Operation.CutShort (operation : Operation) (now calls : Nat)
    (before : Directory Text) : Prop :=
  ∃ name text, operation.target now before = some (name, text) ∧
    operation.opened ≤ calls ∧ calls < operation.opened + text.length

/-- The new upstream sorts before one that is there already. -/
def Operation.Hidden (operation : Operation) (now : Nat)
    (before : Directory Text) : Prop :=
  ∃ rotationId config newer,
    operation = .saveNewUpstream rotationId config ∧
      .upstream newer ∈ before.names ∧
      ({ rotationId, ts := now } : UpstreamConfigFilename).lt newer = true

/-! ### Readings of a written directory -/

section Readings

variable {before : Directory Text} {operation : Operation} {now : Nat}
  {name : FileName} {text content : Text}

theorem latestUpstream_put_of_ne
    (apart : ∀ filename, .upstream filename ≠ name) :
    Reading.latestUpstream.of (before.put name content) =
      Reading.latestUpstream.of before := by
  have latest : latestUpstream (before.put name content).names =
      latestUpstream before.names := by
    apply latestUpstream_congr
    intro filename
    rw [Directory.mem_names_put]
    simp [apart filename]
  simp only [Reading.of, latest]
  congr 1
  funext filename
  exact before.read_put_of_ne content (apart filename)

theorem other_reading (aimed : operation.target now before = some (name, text))
    {reading : Reading} (apart : reading ≠ operation.reading) :
    reading.of (before.put name content) = reading.of before := by
  cases operation with
  | saveNewUpstream rotationId config =>
      cases aimed
      cases reading with
      | latestUpstream => exact absurd rfl apart
      | skaled => exact before.read_put_of_ne content (by rintro ⟨⟩)
      | external => exact before.read_put_of_ne content (by rintro ⟨⟩)
      | secretKey other => exact before.read_put_of_ne content (by rintro ⟨⟩)
  | syncSkaledConfigWithUpstream =>
      obtain ⟨text, _, same⟩ := Option.map_eq_some_iff.mp aimed
      cases same
      cases reading with
      | latestUpstream => exact latestUpstream_put_of_ne (by rintro _ ⟨⟩)
      | skaled => exact absurd rfl apart
      | external => exact before.read_put_of_ne content (by rintro ⟨⟩)
      | secretKey other => exact before.read_put_of_ne content (by rintro ⟨⟩)
  | externalConfigWrite config =>
      cases aimed
      cases reading with
      | latestUpstream => exact latestUpstream_put_of_ne (by rintro _ ⟨⟩)
      | skaled => exact before.read_put_of_ne content (by rintro ⟨⟩)
      | external => exact absurd rfl apart
      | secretKey other => exact before.read_put_of_ne content (by rintro ⟨⟩)
  | saveDkgResults rotationId dkgResults =>
      cases aimed
      cases reading with
      | latestUpstream => exact latestUpstream_put_of_ne (by rintro _ ⟨⟩)
      | skaled => exact before.read_put_of_ne content (by rintro ⟨⟩)
      | external => exact before.read_put_of_ne content (by rintro ⟨⟩)
      | secretKey other =>
          refine before.read_put_of_ne content ?_
          rintro ⟨⟩
          exact apart rfl

theorem hidden_reading (aimed : operation.target now before = some (name, text))
    (hidden : operation.Hidden now before) :
    operation.reading.of (before.put name content) =
      operation.reading.of before := by
  obtain ⟨rotationId, config, newer, rfl, member, lower⟩ := hidden
  cases aimed
  obtain ⟨latest, found⟩ : ∃ latest, latestUpstream before.names = some latest := by
    rw [← Option.ne_none_iff_exists']
    intro none
    exact latestUpstream_eq_none_iff.mp none newer member
  obtain ⟨latestMember, above⟩ := latestUpstream_eq_some_iff.mp found
  have below := UpstreamConfigFilename.le_trans _ _ _
    (UpstreamConfigFilename.le_of_lt lower) (above newer member)
  have kept : latestUpstream
      (before.put (.upstream { rotationId, ts := now }) content).names =
        some latest := by
    rw [latestUpstream_eq_some_iff]
    refine ⟨Directory.mem_names_put.mpr (.inr latestMember), ?_⟩
    intro other otherMember
    rcases Directory.mem_names_put.mp otherMember with same | earlier
    · cases same
      exact below
    · exact above other earlier
  have apart : FileName.upstream latest ≠ .upstream { rotationId, ts := now } := by
    rintro ⟨⟩
    exact UpstreamConfigFilename.lt_eq_true_iff.mp lower (above newer member)
  simp only [Operation.reading, Reading.of, kept, found, Option.bind_some]
  exact before.read_put_of_ne content apart

theorem own_reading (aimed : operation.target now before = some (name, text))
    (visible : ¬ operation.Hidden now before) :
    operation.reading.of (before.put name content) = some content := by
  cases operation with
  | saveNewUpstream rotationId config =>
      cases aimed
      have latest : latestUpstream
          (before.put (.upstream { rotationId, ts := now }) content).names =
            some { rotationId, ts := now } := by
        rw [latestUpstream_eq_some_iff]
        refine ⟨Directory.mem_names_put.mpr (.inl rfl), ?_⟩
        intro other member
        by_contra above
        rcases Directory.mem_names_put.mp member with same | earlier
        · cases same
          exact above (UpstreamConfigFilename.le_refl _)
        · exact visible ⟨rotationId, config, other, rfl, earlier,
            UpstreamConfigFilename.lt_eq_true_iff.mpr above⟩
      unfold Operation.reading Reading.of
      rw [latest, Option.bind_some, Directory.read_put_self]
  | syncSkaledConfigWithUpstream =>
      obtain ⟨text, _, same⟩ := Option.map_eq_some_iff.mp aimed
      cases same
      exact before.read_put_self _ content
  | externalConfigWrite config =>
      cases aimed
      exact before.read_put_self _ content
  | saveDkgResults rotationId dkgResults =>
      cases aimed
      exact before.read_put_self _ content

end Readings

/-! ### Complete documents -/

theorem Document.ne_cut (document other : Document) {written missing : Text}
    (whole : document.text = written ++ missing) (short : missing ≠ []) :
    other.text ≠ written := by
  intro same
  have cut := loads_cut document.wellFormed whole short
  have read := loads_dumps other.wellFormed
  rw [← same, Document.text, read] at cut
  cases cut

theorem decoded_readJson {files : Directory Text} {path : FileName}
    (whole : ∀ text, files.read path = some text →
      ∃ document : Document, text = document.text) :
    Decoded (readJson files path) := by
  unfold readJson
  split
  · rintro ⟨⟩
  · rename_i text found
    obtain ⟨document, rfl⟩ := whole text found
    rw [Document.text, loads_dumps document.wellFormed]
    exact decoded_ok

theorem decodes_of_readings {files : Directory Text}
    (whole : ∀ reading : Reading, ∀ text, reading.of files = some text →
      ∃ document : Document, text = document.text) : Decodes files := by
  refine ⟨?_, ?_, ?_⟩
  · unfold latestUpstreamConfig
    split
    · exact decoded_ok
    · rename_i filename latest
      refine decoded_readJson fun text found => whole .latestUpstream text ?_
      rw [Reading.of, latest]
      exact found
  · unfold skaledConfig
    split
    · exact decoded_readJson (whole .skaled)
    · exact decoded_ok
  · unfold externalConfigRead
    split
    · exact decoded_readJson (whole .external)
    · exact decoded_ok

theorem IntactDirectory.reading_whole (directory : IntactDirectory)
    {reading : Reading} {text : Text}
    (found : reading.of directory.files = some text) :
    ∃ document : Document, text = document.text := by
  cases reading with
  | latestUpstream =>
      obtain ⟨filename, _, content⟩ := Option.bind_eq_some_iff.mp found
      exact directory.whole _ text content
  | skaled => exact directory.whole _ text found
  | external => exact directory.whole _ text found
  | secretKey rotationId => exact directory.whole _ text found

theorem target_whole {before : IntactDirectory} {operation : Operation}
    {now : Nat} {name : FileName} {text : Text}
    (aimed : operation.target now before.files = some (name, text)) :
    ∃ document : Document, text = document.text := by
  cases operation with
  | saveNewUpstream rotationId config =>
      cases aimed
      exact ⟨config, rfl⟩
  | syncSkaledConfigWithUpstream =>
      obtain ⟨source, found, same⟩ := Option.map_eq_some_iff.mp aimed
      cases same
      exact before.reading_whole found
  | externalConfigWrite content =>
      cases aimed
      exact ⟨content, rfl⟩
  | saveDkgResults rotationId dkgResults =>
      cases aimed
      exact ⟨dkgResults, rfl⟩

/-- What is read back is complete where every reading is an old one or the new
text of the operation. -/
theorem checks_of_readings {before : IntactDirectory} (operation : Operation)
    (now : Nat) {after : Directory Text}
    (readings : ∀ reading : Reading, reading.of after = reading.of before.files ∨
      reading = operation.reading ∧
        ∃ name text, operation.target now before.files = some (name, text) ∧
          reading.of after = some text) : ChecksDecoded after := by
  apply checksDecoded
  apply decodes_of_readings
  intro reading text found
  rcases readings reading with same | ⟨_, name, new, aimed, same⟩
  · rw [same] at found
    exact before.reading_whole found
  · rw [same] at found
    cases found
    exact target_whole aimed

theorem atomic_of_same (before : IntactDirectory) (operation : Operation)
    (now : Nat) {after : Directory Text}
    (same : ∀ reading : Reading, reading.of after = reading.of before.files) :
    Atomic operation now before.files after :=
  ⟨fun reading => .inl (same reading),
    checks_of_readings operation now fun reading => .inl (same reading)⟩

section Written

variable {before : IntactDirectory} {operation : Operation} {now : Nat}
  {name : FileName} {text : Text}

theorem atomic_of_hidden
    (aimed : operation.target now before.files = some (name, text))
    (hidden : operation.Hidden now before.files) (content : Text) :
    Atomic operation now before.files (before.files.put name content) := by
  apply atomic_of_same
  intro reading
  by_cases own : reading = operation.reading
  · subst own
    exact hidden_reading aimed hidden
  · exact other_reading aimed own

theorem atomic_of_written
    (aimed : operation.target now before.files = some (name, text))
    (visible : ¬ operation.Hidden now before.files) :
    Atomic operation now before.files (before.files.put name text) := by
  have readings : ∀ reading : Reading,
      reading.of (before.files.put name text) = reading.of before.files ∨
        reading = operation.reading ∧
          ∃ path new, operation.target now before.files = some (path, new) ∧
            reading.of (before.files.put name text) = some new := by
    intro reading
    by_cases own : reading = operation.reading
    · subst own
      exact .inr ⟨rfl, name, text, aimed, own_reading aimed visible⟩
    · exact .inl (other_reading aimed own)
  exact ⟨readings, checks_of_readings operation now readings⟩

/-- What is left of a text cut short is neither old nor new. -/
theorem not_atomic_of_cut
    (aimed : operation.target now before.files = some (name, text))
    (visible : ¬ operation.Hidden now before.files) {length : Nat}
    (short : length < text.length) :
    ¬ Atomic operation now before.files
      (before.files.put name (text.take length)) := by
  intro atomic
  have own : operation.reading.of (before.files.put name (text.take length)) =
      some (text.take length) := own_reading aimed visible
  obtain ⟨document, rfl⟩ := target_whole aimed
  have missing : document.text.drop length ≠ [] := by
    rw [← List.length_pos_iff, List.length_drop]
    omega
  have whole := (List.take_append_drop length document.text).symm
  rcases atomic.readings operation.reading with old | ⟨_, name', new, same, written⟩
  · rw [own] at old
    obtain ⟨other, same⟩ := before.reading_whole old.symm
    exact document.ne_cut other whole missing same.symm
  · rw [aimed] at same
    cases same
    rw [own] at written
    have lengths := congrArg List.length (Option.some.inj written)
    rw [List.length_take] at lengths
    omega

end Written

/-- A kill leaves old or new content exactly when it does not fall between the
opening of the file and the last character of its text, or what is cut short is
an upstream that sorts before another one. -/
theorem killed_atomic_iff (before : IntactDirectory) (operation : Operation)
    (now calls : Nat) :
    Atomic operation now before.files
        (operation.killedAfter now calls before.files) ↔
      ¬ operation.CutShort now calls before.files ∨
        operation.Hidden now before.files := by
  rw [killedAfter_eq]
  cases aimed : operation.target now before.files with
  | none =>
      have notCut : ¬ operation.CutShort now calls before.files := by
        rintro ⟨name, text, some, _⟩
        rw [aimed] at some
        cases some
      exact iff_of_true (atomic_of_same before operation now fun _ => rfl)
        (.inl notCut)
  | some file =>
      obtain ⟨name, text⟩ := file
      have cutShort : operation.CutShort now calls before.files ↔
          operation.opened ≤ calls ∧ calls < operation.opened + text.length := by
        simp [Operation.CutShort, aimed]
      rw [cutShort]
      change Atomic operation now before.files
        (cutAt before.files name text operation.opened calls) ↔ _
      unfold cutAt
      split
      case isTrue early =>
        exact iff_of_true (atomic_of_same before operation now fun _ => rfl)
          (.inl (by omega))
      case isFalse late =>
        by_cases hidden : operation.Hidden now before.files
        · exact iff_of_true (atomic_of_hidden aimed hidden _) (.inr hidden)
        · by_cases short : calls - operation.opened < text.length
          · refine iff_of_false (not_atomic_of_cut aimed hidden short) ?_
            rintro (complete | absurdity)
            · exact complete ⟨by omega, by omega⟩
            · exact hidden absurdity
          · rw [List.take_of_length_le (by omega)]
            exact iff_of_true (atomic_of_written aimed hidden) (.inl (by omega))

/-- While a torn upstream is the latest one, the check of the upstream config
for its rotation fails. -/
theorem upstreamConfig_of_cutShort {before : IntactDirectory} {rotationId : Nat}
    {config : Document} {now calls : Nat}
    (visible : ¬ (Operation.saveNewUpstream rotationId config).Hidden now
      before.files)
    (cut : (Operation.saveNewUpstream rotationId config).CutShort now calls
      before.files) (checks : ConfigChecks) (same : checks.rotationId = rotationId) :
    checks.upstreamConfig ((Operation.saveNewUpstream rotationId config).killedAfter
      now calls before.files) = .error .decode := by
  obtain ⟨name, text, aimed, late, short⟩ := cut
  cases aimed
  let path : FileName := .upstream { rotationId, ts := now }
  let content := config.text.take (calls - 2)
  have files : (Operation.saveNewUpstream rotationId config).killedAfter now calls
      before.files = before.files.put path content := by
    rw [killedAfter_eq]
    exact if_neg (Nat.not_lt.mpr late)
  have reading : Reading.latestUpstream.of (before.files.put path content) =
      some content := own_reading rfl visible
  have torn : loads content = none := by
    refine loads_cut config.wellFormed
      (List.take_append_drop (calls - 2) config.text).symm ?_
    rw [← List.length_pos_iff, List.length_drop]
    simp only [Operation.opened] at late short
    omega
  obtain ⟨latest, found, read⟩ := Option.bind_eq_some_iff.mp reading
  have failed : latestUpstreamConfig (before.files.put path content) =
      .error .decode := by
    simp only [latestUpstreamConfig, found, readJson, read, torn]
  have present : upstreamExistForRotationId (before.files.put path content)
      checks.rotationId = true := by
    rw [upstreamExistForRotationId, List.any_eq_true]
    refine ⟨{ rotationId, ts := now }, ?_, by simp [same]⟩
    rw [mem_upstreamConfigs, Directory.mem_names_put]
    exact .inl rfl
  rw [files]
  simp only [ConfigChecks.upstreamConfig, present, if_true, failed]
  rfl

/-- The process is killed when the first upstream is open and still empty. -/
theorem latest_upstream_can_be_torn :
    ¬ ∀ (before : IntactDirectory) (operation : Operation) (now calls : Nat),
      Atomic operation now before.files
        (operation.killedAfter now calls before.files) := by
  intro always
  let config : Document := ⟨[], .obj [] List.nodup_nil (by rintro _ ⟨⟩)⟩
  let empty : IntactDirectory := ⟨[], by rintro _ _ ⟨⟩⟩
  have visible : ¬ (Operation.saveNewUpstream 0 config).Hidden 7 empty.files := by
    rintro ⟨rotationId, other, newer, _, member, _⟩
    cases member
  have torn : ¬ Atomic (.saveNewUpstream 0 config) 7 empty.files
      (empty.files.put (.upstream { rotationId := 0, ts := 7 })
        (config.text.take 0)) := not_atomic_of_cut rfl visible (by decide)
  apply torn
  have atomic := always empty (.saveNewUpstream 0 config) 7 2
  rw [killedAfter_eq] at atomic
  exact atomic

end SkaleAdmin.Config
