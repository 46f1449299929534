import SkaleAdmin.Library.Interruption
import SkaleAdmin.Library.Json
import Mathlib.Data.List.Sort

/-! The configuration directory of an sChain and what its managers do to the
files in it. -/

namespace SkaleAdmin.Config

open Interaction PyText

/-- The files of one directory share the name of the chain, which is left out. -/
structure UpstreamConfigFilename where
  rotationId : Nat
  ts : Nat
  deriving DecidableEq

namespace UpstreamConfigFilename

def lt (self other : UpstreamConfigFilename) : Bool :=
  if self.rotationId ≠ other.rotationId then
    self.rotationId < other.rotationId
  else
    self.ts < other.ts

def le (self other : UpstreamConfigFilename) : Bool :=
  !other.lt self

theorem le_iff {self other : UpstreamConfigFilename} :
    self.le other = true ↔
      self.rotationId < other.rotationId ∨
        self.rotationId = other.rotationId ∧ self.ts ≤ other.ts := by
  unfold le lt
  split <;> simp <;> omega

theorem le_refl (self : UpstreamConfigFilename) : self.le self = true := by
  rw [le_iff]
  omega

theorem le_trans (first second third : UpstreamConfigFilename)
    (lower : first.le second = true) (upper : second.le third = true) :
    first.le third = true := by
  rw [le_iff] at *
  omega

theorem le_total (first second : UpstreamConfigFilename) :
    (first.le second || second.le first) = true := by
  rw [Bool.or_eq_true, le_iff, le_iff]
  omega

theorem le_antisymm {first second : UpstreamConfigFilename}
    (lower : first.le second = true) (upper : second.le first = true) :
    first = second := by
  obtain ⟨rotationId, ts⟩ := first
  obtain ⟨rotationId', ts'⟩ := second
  rw [le_iff] at lower upper
  simp only at lower upper
  obtain ⟨rfl, rfl⟩ : rotationId = rotationId' ∧ ts = ts' := by omega
  rfl

theorem lt_eq_true_iff {self other : UpstreamConfigFilename} :
    self.lt other = true ↔ ¬ other.le self = true := by
  simp [le]

theorem le_of_lt {self other : UpstreamConfigFilename}
    (lower : self.lt other = true) : self.le other = true := by
  have total := le_total self other
  rw [lt_eq_true_iff] at lower
  simpa [lower] using total

end UpstreamConfigFilename

inductive FileName where
  | upstream (filename : UpstreamConfigFilename)
  | skaled
  | external
  | secretKey (rotationId : Nat)
  deriving DecidableEq

abbrev Directory (α : Type) := List (FileName × α)

namespace Directory

variable {α : Type}

def names (directory : Directory α) : List FileName :=
  directory.map Prod.fst

def read : Directory α → FileName → Option α
  | [], _ => none
  | file :: files, name =>
      if file.1 = name then some file.2 else read files name

def put : Directory α → FileName → α → Directory α
  | [], name, content => [(name, content)]
  | file :: files, name, content =>
      if file.1 = name then (name, content) :: files
      else file :: put files name content

def remove (directory : Directory α) (name : FileName) : Directory α :=
  directory.filter fun file => file.1 ≠ name

@[simp] theorem read_put_self (directory : Directory α) (name : FileName)
    (content : α) : (directory.put name content).read name = some content := by
  induction directory with
  | nil => simp [put, read]
  | cons file files ih =>
      by_cases here : file.1 = name
      · simp [put, read, here]
      · simp [put, read, here, ih]

theorem read_put_of_ne (directory : Directory α) {name other : FileName}
    (content : α) (apart : other ≠ name) :
    (directory.put name content).read other = directory.read other := by
  induction directory with
  | nil => simp [put, read, Ne.symm apart]
  | cons file files ih =>
      by_cases here : file.1 = name
      · subst here
        simp [put, read, Ne.symm apart]
      · simp [put, read, here, ih]

theorem read_remove_self (directory : Directory α) (name : FileName) :
    (directory.remove name).read name = none := by
  induction directory with
  | nil => rfl
  | cons file files ih =>
      simp only [remove, ne_eq, decide_not] at ih ⊢
      by_cases here : file.1 = name
      · simp [here, ih]
      · simp [here, read, ih]

@[simp] theorem put_put (directory : Directory α) (name : FileName)
    (first second : α) :
    (directory.put name first).put name second = directory.put name second := by
  induction directory with
  | nil => simp [put]
  | cons file files ih =>
      by_cases here : file.1 = name
      · simp [put, here]
      · simp [put, here, ih]

theorem mem_names_iff {directory : Directory α} {name : FileName} :
    name ∈ directory.names ↔ (directory.read name).isSome = true := by
  induction directory with
  | nil => simp [names, read]
  | cons file files ih =>
      by_cases here : file.1 = name
      · simp [names, read, here]
      · have there : name ≠ file.1 := fun same => here same.symm
        unfold names at ih ⊢
        simp [read, here, there, ih]

theorem mem_names_put {directory : Directory α} {name other : FileName}
    {content : α} :
    other ∈ (directory.put name content).names ↔
      other = name ∨ other ∈ directory.names := by
  by_cases same : other = name
  · subst same
    simp [mem_names_iff]
  · rw [mem_names_iff, read_put_of_ne directory content same, mem_names_iff]
    simp [same]

end Directory

/-! ### Choosing the latest upstream -/

def upstreamOf : FileName → Option UpstreamConfigFilename
  | .upstream filename => some filename
  | _ => none

/-- `get_upstream_configs` on the names in the directory. -/
def upstreamConfigs (names : List FileName) : List UpstreamConfigFilename :=
  (names.filterMap upstreamOf).mergeSort UpstreamConfigFilename.le

def latestUpstream (names : List FileName) : Option UpstreamConfigFilename :=
  (upstreamConfigs names).getLast?

theorem mem_upstreamConfigs {names : List FileName}
    {filename : UpstreamConfigFilename} :
    filename ∈ upstreamConfigs names ↔ .upstream filename ∈ names := by
  rw [upstreamConfigs, List.mem_mergeSort, List.mem_filterMap]
  constructor
  · rintro ⟨name, member, same⟩
    cases name <;> cases same
    exact member
  · intro member
    exact ⟨_, member, rfl⟩

/-- The last of the sorted upstreams is the greatest one. -/
theorem latestUpstream_eq_some_iff {names : List FileName}
    {filename : UpstreamConfigFilename} :
    latestUpstream names = some filename ↔
      .upstream filename ∈ names ∧
        ∀ other, .upstream other ∈ names → other.le filename = true := by
  have sorted : (upstreamConfigs names).Pairwise fun first second =>
      first.le second = true :=
    List.pairwise_mergeSort UpstreamConfigFilename.le_trans
      UpstreamConfigFilename.le_total _
  have greatest : ∀ last, (upstreamConfigs names).getLast? = some last →
      .upstream last ∈ names ∧
        ∀ other, .upstream other ∈ names → other.le last = true := by
    intro last found
    obtain ⟨front, split⟩ := List.getLast?_eq_some_iff.mp found
    rw [split, List.pairwise_append] at sorted
    refine ⟨?_, ?_⟩
    · rw [← mem_upstreamConfigs, split]
      simp
    · intro other member
      rw [← mem_upstreamConfigs, split, List.mem_append,
        List.mem_singleton] at member
      rcases member with earlier | rfl
      · exact sorted.2.2 other earlier last (List.mem_singleton_self last)
      · exact UpstreamConfigFilename.le_refl other
  constructor
  · exact greatest filename
  · rintro ⟨member, above⟩
    rw [← mem_upstreamConfigs] at member
    cases found : (upstreamConfigs names).getLast? with
    | none =>
        rw [List.getLast?_eq_none_iff.mp found] at member
        cases member
    | some last =>
        obtain ⟨lastMember, lastAbove⟩ := greatest last found
        have same := UpstreamConfigFilename.le_antisymm (above last lastMember)
          (lastAbove filename (mem_upstreamConfigs.mp member))
        rw [latestUpstream, found, same]

theorem latestUpstream_eq_none_iff {names : List FileName} :
    latestUpstream names = none ↔ ∀ filename, .upstream filename ∉ names := by
  rw [latestUpstream, List.getLast?_eq_none_iff, List.eq_nil_iff_forall_not_mem]
  simp [mem_upstreamConfigs]

theorem latestUpstream_congr {names names' : List FileName}
    (same : ∀ filename, .upstream filename ∈ names' ↔ .upstream filename ∈ names) :
    latestUpstream names' = latestUpstream names := by
  cases latest : latestUpstream names with
  | none =>
      rw [latestUpstream_eq_none_iff] at latest ⊢
      intro filename member
      exact latest filename ((same filename).mp member)
  | some filename =>
      rw [latestUpstream_eq_some_iff] at latest ⊢
      refine ⟨(same filename).mpr latest.1, ?_⟩
      intro other member
      exact latest.2 other ((same other).mp member)

/-! ### Calls to the disk -/

/-- `append` lets one more character of a file that is open for writing reach
the disk: how the buffer is cut into writes is left open, so that every prefix
of a text can be the state of its file. -/
inductive DiskQuery where
  | listdir
  | time
  | isfile (name : FileName)
  | readText (name : FileName)
  | openWrite (name : FileName)
  | append (name : FileName) (symbol : Char)

@[reducible] def DiskQuery.Answer : DiskQuery → Type
  | listdir => List FileName
  | time => Nat
  | isfile _ => Bool
  | readText _ => Option Text
  | openWrite _ | append _ _ => Unit

abbrev diskInterface : Interface where
  Query := DiskQuery
  Answer := DiskQuery.Answer

abbrev DiskProgram := Program diskInterface

/-- The answers of a disk, at the second `now` of its clock. -/
def serveDisk (now : Nat) : (query : DiskQuery) → Directory Text →
    query.Answer × Directory Text
  | .listdir, files => (files.names, files)
  | .time, files => (now, files)
  | .isfile name, files => ((files.read name).isSome, files)
  | .readText name, files => (files.read name, files)
  | .openWrite name, files => ((), files.put name [])
  | .append name symbol, files =>
      ((), files.put name ((files.read name).getD [] ++ [symbol]))

def pose (query : DiskQuery) : DiskProgram query.Answer :=
  Program.pose (I := diskInterface) query

/-! ### `tools.helper` -/

def writeText (name : FileName) : Text → DiskProgram Unit
  | [] => pure ()
  | symbol :: symbols => do
      pose (.append name symbol)
      writeText name symbols

/-- What `json.dump` can write and `json.load` reads back as it was: a
dictionary with one entry for each key. -/
structure Document where
  fields : List (Text × Json.Value)
  wellFormed : (Json.Value.obj fields).WellFormed

def Document.text (document : Document) : Text :=
  Json.dumps (.obj document.fields)

def writeJson (path : FileName) (content : Document) : DiskProgram Unit := do
  pose (.openWrite path)
  writeText path content.text

/-! ### `ConfigFileManager` -/

def getUpstreamConfigs : DiskProgram (List UpstreamConfigFilename) := do
  let filenames ← pose .listdir
  return upstreamConfigs filenames

def latestUpstreamPath : DiskProgram (Option FileName) := do
  let upstreams ← getUpstreamConfigs
  return upstreams.getLast?.map .upstream

def upstreamConfigExists : DiskProgram Bool := do
  match ← latestUpstreamPath with
  | some path => pose (.isfile path)
  | none => return false

def getNewUpstreamFilepath (rotationId : Nat) : DiskProgram FileName := do
  let ts ← pose .time
  return .upstream { rotationId, ts }

def saveNewUpstream (rotationId : Nat) (config : Document) : DiskProgram Unit := do
  let configPath ← getNewUpstreamFilepath rotationId
  writeJson configPath config

inductive OSError where
  | fileNotFound
  deriving DecidableEq

/-- `shutil.copy`, which truncates the target before it copies. -/
def copy (source : Option FileName) (target : FileName) :
    DiskProgram (Except OSError Unit) := do
  match source with
  | none => return .error .fileNotFound
  | some path =>
      match ← pose (.readText path) with
      | none => return .error .fileNotFound
      | some text =>
          pose (.openWrite target)
          writeText target text
          return .ok ()

def syncSkaledConfigWithUpstream : DiskProgram (Except OSError Bool) := do
  if !(← upstreamConfigExists) then
    return .ok false
  let upath ← latestUpstreamPath
  let copied ← copy upath .skaled
  return copied.map fun _ => true

/-! ### `ExternalConfig` and `save_dkg_results` -/

def externalConfigWrite (content : Document) : DiskProgram Unit :=
  writeJson .external content

def saveDkgResults (rotationId : Nat) (dkgResults : Document) : DiskProgram Unit :=
  writeJson (.secretKey rotationId) dkgResults

end SkaleAdmin.Config
