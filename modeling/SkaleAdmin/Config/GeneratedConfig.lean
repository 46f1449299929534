import SkaleAdmin.Config.FileManager
import SkaleAdmin.Library.PyValue

/-! The configs that `create_new_upstream_config` generates. -/

namespace SkaleAdmin.Config

open PyText PyValue

/-- A dictionary in memory, which may have integers as keys, and tuples; no two of its keys
are written alike. -/
structure GeneratedConfig where
  entries : List (Key × Value)
  wellFormed : (image (.dict entries)).WellFormed

namespace GeneratedConfig

def document (config : GeneratedConfig) : Document where
  fields := imageEntries config.entries
  wellFormed := config.wellFormed

/-- `config == read`. -/
def equal (config : GeneratedConfig) (read : Json.Value) : Bool :=
  PyValue.equal (.dict config.entries) (ofJson read)

/-- There are neither tuples nor integer keys in the config. -/
def plain (config : GeneratedConfig) : Bool :=
  plainEntries config.entries

theorem equal_iff {config : GeneratedConfig} {read : Json.Value} :
    config.equal read = true ↔
      config.plain = true ∧ Json.equal (.obj config.document.fields) read = true :=
  equal_ofJson_iff

/-- A config that was read has only strings as keys. -/
def ofDocument (document : Document) : GeneratedConfig where
  entries := ofJsonFields document.fields
  wellFormed := by
    rw [image, imageEntries_ofJsonFields]
    exact document.wellFormed

end GeneratedConfig

end SkaleAdmin.Config
