import SkaleAdmin.Config.FileManager
import SkaleAdmin.Library.Crew

/-! `JsonObject`, a JSON file that several processes read and write, and
`NodeConfig`, which is one. -/

namespace SkaleAdmin.Tools

open Interaction PyText
open Interaction.Procedure (attempt invoke raise)

/-- `append` lets one more character reach the file: how the buffer of an open file is
cut into writes is left open.  A file is small enough to be read at once. -/
inductive FileQuery where
  | pathExists
  | acquire
  | release
  | readText
  | openWrite
  | append (symbol : Char)

@[reducible] def FileQuery.Reply : FileQuery → Type
  | pathExists => Bool
  | readText => Text
  | _ => Unit

inductive JsonError where
  | fileNotFoundError
  | osError
  | jsonDecodeError
  | attributeError
  | typeError
  deriving DecidableEq

abbrev fileInterface : Interface :=
  fallible FileQuery FileQuery.Reply JsonError

abbrev JsonM := Procedure fileInterface Unit JsonError

def call (query : FileQuery) : JsonM query.Reply :=
  invoke query

/-! ### `tools.helper` -/

def readJson : JsonM Json.Value := do
  let text ← call .readText
  match Json.loads text with
  | some value => pure value
  | none => raise .jsonDecodeError

def writeText : Text → JsonM Unit
  | [] => pure ()
  | symbol :: symbols => do
      call (.append symbol)
      writeText symbols

def writeJson (content : Json.Value) : JsonM Unit := do
  call .openWrite
  writeText (Json.dumps content)

def initFile (content : Json.Value) : JsonM Unit := do
  if !(← call .pathExists) then
    writeJson content

/-! ### `JsonObject` -/

/-- `with lock:`, which lets the lock go also where the body raises. -/
def withLock {α : Type} (body : JsonM α) : JsonM α := do
  call .acquire
  let result ← attempt body fun error => some (do
    call .release
    raise error)
  call .release
  pure result

/-- A value that `json.dump` writes so that it is read back. -/
abbrev Storable := { value : Json.Value // value.WellFormed }

def getField (config : Json.Value) (fieldName : Text) : Except JsonError Json.Value :=
  match config with
  | .obj fields => .ok ((fields.lookup fieldName).getD .null)
  | _ => .error .attributeError

/-- `config[field_name] = field_value`. -/
def setField (config : Json.Value) (fieldName : Text) (fieldValue : Json.Value) :
    Except JsonError Json.Value :=
  match config with
  | .obj fields => .ok (.obj (Json.assign fieldName fieldValue fields))
  | _ => .error .typeError

def liftExcept {α : Type} : Except JsonError α → JsonM α
  | .ok result => pure result
  | .error error => raise error

namespace JsonObject

def init : JsonM Unit :=
  initFile (.obj [])

def get (fieldName : Text) : JsonM Json.Value := do
  let config ← readJson
  liftExcept (getField config fieldName)

def set (fieldName : Text) (fieldValue : Storable) : JsonM Unit :=
  withLock do
    let config ← readJson
    let changed ← liftExcept (setField config fieldName fieldValue)
    writeJson changed

def all : JsonM Json.Value :=
  readJson

end JsonObject

/-- One use of a `JsonObject`; what returns nothing returns `None`.  A property may
turn the value of its field into another. -/
inductive Operation where
  | init
  | get (fieldName : Text) (view : Json.Value → Json.Value)
  | set (fieldName : Text) (fieldValue : Storable)
  | all

def Operation.run : Operation → JsonM Json.Value
  | .init => do
      JsonObject.init
      pure .null
  | .get fieldName view => do
      let value ← JsonObject.get fieldName
      pure (view value)
  | .set fieldName fieldValue => do
      JsonObject.set fieldName fieldValue
      pure .null
  | .all => JsonObject.all

/-! ### `NodeConfig` -/

namespace NodeConfig

def id : Operation := .get "node_id".toList fun value => value

def setId (nodeId : Int) : Operation :=
  .set "node_id".toList ⟨.num nodeId, .num nodeId⟩

def ip : Operation := .get "node_ip".toList fun value => value

def setIp (ip : Text) : Operation :=
  .set "node_ip".toList ⟨.str ip, .str ip⟩

def name : Operation := .get "name".toList fun value => value

def setName (nodeName : Text) : Operation :=
  .set "name".toList ⟨.str nodeName, .str nodeName⟩

def sgxKeyName : Operation := .get "sgx_key_name".toList fun value => value

def setSgxKeyName (sgxKeyName : Text) : Operation :=
  .set "sgx_key_name".toList ⟨.str sgxKeyName, .str sgxKeyName⟩

/-- `value or -1`. -/
def orMinusOne : Json.Value → Json.Value
  | .null | .bool false | .num 0 | .str [] | .arr [] | .obj [] => .num (-1)
  | value => value

def schainBasePort : Operation := .get "schain_base_port".toList orMinusOne

def setSchainBasePort (schainPort : Int) : Operation :=
  .set "schain_base_port".toList ⟨.num schainPort, .num schainPort⟩

end NodeConfig

/-! ### The file and its processes -/

/-- The file, the lock beside it and the processes that were killed, whose locks the
system lets go. -/
structure Storage (T : Type) where
  text : Option Text
  holder : Option T := none
  killed : T → Bool := fun _ => false

/-- A process is killed. -/
inductive Kill (T : Type) where
  | kill (worker : T)

section Storage

variable {T : Type} [DecidableEq T]

def Storage.letGo (storage : Storage T) (worker : T) : Storage T :=
  { storage with
    holder := if storage.holder = some worker then none else storage.holder }

def Storage.kill (storage : Storage T) : Kill T → Option (Storage T)
  | .kill worker => some { storage.letGo worker with
      killed := Function.update storage.killed worker true }

/-- A proposed error lets a call fail; a lock that is taken is waited for. -/
def serveFile (worker : T) (query : FileQuery)
    (proposed : Except JsonError query.Reply) (storage : Storage T) :
    Option (Except JsonError query.Reply × Storage T) :=
  if storage.killed worker then none
  else
    match query, proposed with
    | .pathExists, _ => some (.ok storage.text.isSome, storage)
    | .release, _ => some (.ok (), storage.letGo worker)
    | .acquire, .error _ | .readText, .error _ | .openWrite, .error _
    | .append _, .error _ => some (.error .osError, storage)
    | .acquire, .ok _ =>
        match storage.holder with
        | none => some (.ok (), { storage with holder := some worker })
        | some _ => none
    | .readText, .ok _ =>
        match storage.text with
        | some text => some (.ok text, storage)
        | none => some (.error .fileNotFoundError, storage)
    | .openWrite, .ok _ => some (.ok (), { storage with text := some [] })
    | .append symbol, .ok _ =>
        some (.ok (), { storage with text := some (storage.text.getD [] ++ [symbol]) })

def processes (operation : T → Operation) :
    Crew fileInterface (Storage T) (Kill T) T Unit (Outcome JsonError Json.Value × Unit) where
  move := Storage.kill
  serve worker query proposed storage := serveFile worker query proposed storage
  job worker _ := (operation worker).run ()

end Storage

end SkaleAdmin.Tools
