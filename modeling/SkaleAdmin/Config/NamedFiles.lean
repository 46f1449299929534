import SkaleAdmin.Config.Checks
import SkaleAdmin.Library.PyNumerals
import SkaleAdmin.Library.PyPath
import SkaleAdmin.Library.PyPattern
import Mathlib.Data.List.AList

/-! `ConfigFileManager` on the names that the files of a chain have. -/

namespace SkaleAdmin.Config

open PyText Json

namespace Named

inductive ManagerError where
  | valueError
  | fileNotFound
  | decode
  deriving DecidableEq

abbrev Managed (α : Type) := Except ManagerError α

structure UpstreamConfigFilename where
  name : Text
  rotationId : Int
  ts : Int
  deriving DecidableEq

namespace UpstreamConfigFilename

def filename (self : UpstreamConfigFilename) : Text :=
  "schain_".toList ++ self.name ++ '_' :: str self.rotationId ++ '_' :: str self.ts ++
    ".json".toList

def abspath (self : UpstreamConfigFilename) (basePath : Text) : Text :=
  join basePath self.filename

def eq (self other : UpstreamConfigFilename) : Bool :=
  self.name = other.name && self.rotationId = other.rotationId && self.ts = other.ts

def lt (self other : UpstreamConfigFilename) : Bool :=
  if self.name ≠ other.name then self.name < other.name
  else if self.rotationId ≠ other.rotationId then self.rotationId < other.rotationId
  else self.ts < other.ts

def le (self other : UpstreamConfigFilename) : Bool :=
  !other.lt self

def toInt (text : Text) : Managed Int :=
  match parseInt 10 text with
  | some value => .ok value
  | none => .error .valueError

def fromFilename (filename : Text) : Managed UpstreamConfigFilename := do
  let stem := stem filename
  let tsStart := rfind '_' stem
  let ts ← toInt (cut stem (tsStart + 1) stem.length)
  let front := cut stem 0 tsStart
  let ridStart := rfind '_' front
  let rotationId ← toInt (cut stem (ridStart + 1) tsStart)
  let name := replaceFirst "schain_".toList [] (cut stem 0 ridStart)
  return { name, rotationId, ts }

end UpstreamConfigFilename

def skaledConfigFilename (name : Text) : Text :=
  "schain_".toList ++ name ++ ".json".toList

abbrev Files := AList fun _ : Text => Text

structure ConfigFileManager where
  schainName : Text
  dirname : Text

namespace ConfigFileManager

variable (manager : ConfigFileManager) (files : Files)

def upstreamPrefix : Text :=
  "schain_".toList ++ manager.schainName ++ ['_']

/-- A name without special characters stands for itself in a pattern. -/
def pattern : PyPattern.Pattern :=
  PyPattern.literals manager.upstreamPrefix ++
    (.digits :: .literal '_' :: .digits :: .any :: PyPattern.literals "json".toList)

def getFilesWithPrefix (start : Text) (names : List Text) : List Text :=
  ((names.filter fun name => start.isPrefixOf name).map (join manager.dirname)).mergeSort
    fun first second => first ≤ second

def getUpstreamConfigs : Managed (List UpstreamConfigFilename) := do
  let filenames := manager.getFilesWithPrefix manager.upstreamPrefix files.keys
  let upstreams ← (filenames.filter (PyPattern.search manager.pattern)).mapM
    UpstreamConfigFilename.fromFilename
  return upstreams.mergeSort UpstreamConfigFilename.le

def latestUpstreamPath : Managed (Option Text) := do
  let upstreams ← manager.getUpstreamConfigs files
  return upstreams.getLast?.map UpstreamConfigFilename.filename

def skaledConfigPath : Text :=
  skaledConfigFilename manager.schainName

def isfile (path : Text) : Bool :=
  (files.lookup path).isSome

def readJson (path : Text) : Managed Value :=
  match files.lookup path with
  | none => .error .fileNotFound
  | some text =>
      match loads text with
      | none => .error .decode
      | some value => .ok value

def upstreamConfigExists : Managed Bool := do
  match ← manager.latestUpstreamPath files with
  | none => return false
  | some path => return isfile files path

def skaledConfigExists : Bool :=
  isfile files manager.skaledConfigPath

/-- `None` where there is no upstream. -/
def latestUpstreamConfig : Managed (Option Value) := do
  if !(← manager.upstreamConfigExists files) then
    return none
  match ← manager.latestUpstreamPath files with
  | none => .error .fileNotFound
  | some path => return some (← readJson files path)

def skaledConfig : Managed (Option Value) := do
  if !manager.skaledConfigExists files then
    return none
  return some (← readJson files manager.skaledConfigPath)

/-- `first == second`. -/
def equalConfigs : Option Value → Option Value → Bool
  | some first, some second => equal first second
  | none, none => true
  | _, _ => false

def skaledConfigSyncedWithUpstream : Managed Bool := do
  if !manager.skaledConfigExists files then
    return false
  if !(← manager.upstreamConfigExists files) then
    return true
  return equalConfigs (← manager.latestUpstreamConfig files) (← manager.skaledConfig files)

def writeJson (path : Text) (content : Document) : Files :=
  files.insert path content.text

/-- `now` is what `int(time.time())` gives. -/
def saveNewUpstream (now : Nat) (rotationId : Nat) (config : Document) : Files :=
  writeJson files (UpstreamConfigFilename.filename
    { name := manager.schainName, rotationId, ts := now }) config

def saveSkaledConfig (config : Document) : Files :=
  writeJson files manager.skaledConfigPath config

def copy (source target : Text) : Managed Files :=
  match files.lookup source with
  | none => .error .fileNotFound
  | some text => .ok (files.insert target text)

def syncSkaledConfigWithUpstream : Managed (Bool × Files) := do
  if !(← manager.upstreamConfigExists files) then
    return (false, files)
  let upath := (← manager.latestUpstreamPath files).getD []
  return (true, ← copy files upath manager.skaledConfigPath)

def removeSkaledConfig : Files :=
  if manager.skaledConfigExists files then files.erase manager.skaledConfigPath else files

end ConfigFileManager

end Named

end SkaleAdmin.Config
