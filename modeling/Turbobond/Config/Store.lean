import Turbobond.Config.Dump
import Turbobond.Config.Validate

/-!
# The configuration on disk

`load_config` and `save_config`, and what the app does to a configuration in place.  A file is the
tree that its YAML text says.
-/

namespace Turbobond.Config

/-- A file that may hold a configuration. -/
inductive File where
  | missing
  /-- It is no YAML; with what the parser says. -/
  | broken (exc : String)
  | text (value : Value)

/-- `ConfigError`. -/
structure ConfigError where
  message : String
  remedy : Option String := none
  deriving DecidableEq

/-- `bool`, of a tree. -/
def truthy : Value → Bool
  | .null => false
  | .bool b => b
  | .int n => n ≠ 0
  | .float x => x ≠ 0
  | .str s => s ≠ ""
  | .list items => !items.isEmpty
  | .dict fields => !fields.isEmpty
  | .other _ => true

namespace AppConfig

/-- The search of `assign_table_ids` for an id that is not used; among as many ids as are used and
one more, one is not. -/
def freeId (used : List ℤ) : ℕ → ℤ → ℤ
  | 0, nextId => nextId
  | fuel + 1, nextId => if nextId ∈ used then freeId used fuel (nextId + 1) else nextId

/-- The loop of `assign_table_ids`. -/
def assignIds (used : List ℤ) (nextId : ℤ) : List LinkConfig → List LinkConfig
  | [] => []
  | link :: links =>
    if link.tableId ≠ 0 then link :: assignIds used nextId links
    else
      let nextId := freeId used used.length nextId
      { link with tableId := nextId } :: assignIds (nextId :: used) (nextId + 1) links

/-- `assign_table_ids`. -/
def assignTableIds (c : AppConfig) : AppConfig :=
  let used := (c.links.map LinkConfig.tableId).filter fun id => id ≠ 0
  { c with links := assignIds used 200 c.links }

/-- `model_validate`. -/
def modelValidate (p : Pydantic) (fields : Fields) : Except String AppConfig :=
  match read p fields with
  | none => .error (p.mismatch (.dict fields))
  | some c =>
    match c.check with
    | .ok c => .ok c
    | .error e => .error (p.invalid e)

/-- `model_dump`. -/
def modelDump (p : Pydantic) (c : AppConfig) : Fields :=
  c.fields p ++ [("config_dir", .str c.configDir), ("state_dir", .str c.stateDir),
    ("run_dir", .str c.runDir)]

/-- `absorb`. -/
def absorb (c other : AppConfig) : AppConfig :=
  { other with configDir := c.configDir, stateDir := c.stateDir, runDir := c.runDir }

end AppConfig

/-- `load_config`, of a file in a directory. -/
def loadConfig (p : Pydantic) (path dir : String) : File → Except ConfigError AppConfig
  | .missing => .ok ({ configDir := dir } : AppConfig).assignTableIds
  | .broken exc => .error
      { message := s!"{path} is not valid YAML: {exc}"
        remedy := some "Fix the indentation/quoting, or delete the file to regenerate defaults." }
  | .text value =>
    match if truthy value then value else .dict [] with
    | .dict raw =>
      let raw := if (raw.lookup "config_dir").isNone then raw ++ [("config_dir", .str dir)] else raw
      ((AppConfig.modelValidate p raw).map AppConfig.assignTableIds).mapError fun exc =>
        { message := s!"invalid configuration in {path}: {exc}" }
    | _ => .error { message := s!"{path} must contain a YAML mapping at the top level" }

/-- `save_config`. -/
def saveConfig (p : Pydantic) (c : AppConfig) : File := .text (.dict (c.fields p))

end Turbobond.Config
