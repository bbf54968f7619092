import Replica.Config.Basic
import Replica.Decimal.Digits
import Replica.Decimal.Shortest
import Replica.Text
import Replica.Toml.Value

/-!
# From a document to a configuration

The entries of a document are visited in their order, and the first value that does not fit is the
error. A section is a table, or an array of its fields in the order of their declaration; what is
missing keeps its default, and unknown keys and further elements are ignored. A moment is taken
for a table with a single unknown key.

* `SchemaError`: what does not fit, and `SchemaError.message` its text;
* `role`, `nodeSection`, `httpSection`, `registrySection`, `featureTable`: the parts;
* **`Config.ofEntries`**: the whole.
-/

namespace Replica

open Toml (Value)

/-- What a place of the configuration asks for. -/
inductive Wanted where
  | unsigned
  | size
  | text
  | boolean
  | map
  | nodeSection
  | httpSection
  | registrySection
  deriving DecidableEq

/-- What is wanted, as told in an error. -/
def Wanted.describe : Wanted → String
  | unsigned => "u64"
  | size => "usize"
  | text => "a string"
  | boolean => "a boolean"
  | map => "a map"
  | nodeSection => "struct NodeConfig"
  | httpSection => "struct HttpConfig"
  | registrySection => "struct RegistryConfig"

/-- Why a document is not a configuration. -/
inductive SchemaError where
  | unknownRole (name : String)
  | roleOfOtherKind
  | roleWithoutName
  | roleWithSeveralNames
  | roleWithContent
  | roleWithTables
  | roleNotTable (found : String)
  | wrongType (found : Value) (wanted : Wanted)
  | outOfRange (n : Int) (wanted : Wanted)

/-- What a value is, as told when something else is wanted. -/
def describe : Value → String
  | .string s => "string " ++ Text.quoted s
  | .integer n => "integer `" ++ intText n ++ "`"
  | .float x => "floating point `" ++ x.text ++ "`"
  | .boolean b => "boolean `" ++ (if b then "true" else "false") ++ "`"
  | .moment _ => "map"
  | .array _ _ => "sequence"
  | .table _ => "map"

/-- The kind of a value. -/
def kindName : Value → String
  | .string _ => "string"
  | .integer _ => "integer"
  | .float _ => "float"
  | .boolean _ => "boolean"
  | .moment _ => "datetime"
  | .array ofTables _ => if ofTables then "array of tables" else "array"
  | .table _ => "table"

/-- The text of an error. -/
def SchemaError.message : SchemaError → String
  | unknownRole name =>
    "unknown variant `" ++ name ++
      "`, expected one of `primary`, `secondary`, `unconfigured`"
  | roleOfOtherKind => "wanted string or table"
  | roleWithoutName => "wanted exactly 1 element, found 0 elements"
  | roleWithSeveralNames => "wanted exactly 1 element, more than 1 element"
  | roleWithContent => "expected empty table"
  | roleWithTables => "expected empty array"
  | roleNotTable found => "expected table, found " ++ found
  | wrongType found wanted =>
    "invalid type: " ++ describe found ++ ", expected " ++ wanted.describe
  | outOfRange n wanted =>
    "invalid value: integer `" ++ intText n ++ "`, expected " ++ wanted.describe

/-! ## Single values -/

/-- A role by its exact name. -/
def roleNamed (name : String) : Except SchemaError Role :=
  match Role.ofName? name with
  | some r => .ok r
  | none => .error (.unknownRole name)

/-- What stands behind the name of a role: an empty table or an empty array. -/
def roleContent : Value → Except SchemaError Unit
  | .table [] => .ok ()
  | .table _ => .error .roleWithContent
  | .array _ [] => .ok ()
  | .array true _ => .error .roleWithTables
  | .array false _ => .error .roleWithContent
  | other => .error (.roleNotTable (kindName other))

/-- A role: its name, or a table whose only key is the name and holds nothing. -/
def role : Value → Except SchemaError Role
  | .string name => roleNamed name
  | .table [] => .error .roleWithoutName
  | .table [(name, content)] => do
    let r ← roleNamed name
    roleContent content
    return r
  | .table _ => .error .roleWithSeveralNames
  | _ => .error .roleOfOtherKind

/-- An integer that is not negative. -/
def unsigned (wanted : Wanted) : Value → Except SchemaError Nat
  | .integer n => if 0 ≤ n then .ok n.toNat else .error (.outOfRange n wanted)
  | other => .error (.wrongType other wanted)

/-- A string. -/
def textValue : Value → Except SchemaError String
  | .string s => .ok s
  | other => .error (.wrongType other .text)

/-- A flag. -/
def boolean : Value → Except SchemaError Bool
  | .boolean b => .ok b
  | other => .error (.wrongType other .boolean)

/-! ## Sections -/

/-- How a field is set to a value of a document. -/
abbrev Setter (σ : Type) : Type := σ → Value → Except SchemaError σ

/-- Set the fields that the entries of a table name, in the order of the entries. -/
def setFields {σ : Type} (field : String → Option (Setter σ)) (initial : σ)
    (entries : List (String × Value)) : Except SchemaError σ :=
  entries.foldlM
    (fun s e =>
      match field e.1 with
      | some set => set s e.2
      | none => .ok s)
    initial

/-- A section from a table, whose keys are looked up in `field`, or from an array, whose elements
are the fields in the order of `positions`. -/
def sectionOf {σ : Type} (wanted : Wanted) (field : String → Option (Setter σ))
    (positions : List (Setter σ)) (initial : σ) : Value → Except SchemaError σ
  | .table entries => setFields field initial entries
  | .array _ items => (positions.zip items).foldlM (fun s p => p.1 s p.2) initial
  | .moment _ => .ok initial
  | other => .error (.wrongType other wanted)

namespace NodeConfig

/-- Set the role, which may be written in several ways. -/
def setRole (c : NodeConfig) (v : Value) : Except SchemaError NodeConfig := do
  return { c with role := ← Replica.role v }

/-- Set the address of the primary. -/
def setPrimaryUrl (c : NodeConfig) (v : Value) : Except SchemaError NodeConfig := do
  return { c with primaryUrl? := some (← textValue v) }

/-- The function that sets the field of this name. -/
def field (name : String) : Option (Setter NodeConfig) :=
  if name = "role" then some setRole
  else if name = "primary_url" then some setPrimaryUrl
  else none

end NodeConfig

namespace HttpConfig

/-- Set the limit for a connection, in seconds. -/
def setConnectTimeout (c : HttpConfig) (v : Value) : Except SchemaError HttpConfig := do
  return { c with connectTimeoutSecs := ← unsigned .unsigned v }

/-- Set the limit for a whole request, in seconds. -/
def setTimeout (c : HttpConfig) (v : Value) : Except SchemaError HttpConfig := do
  return { c with timeoutSecs? := some (← unsigned .unsigned v) }

/-- Set how many redirects a request may follow. -/
def setMaxRedirects (c : HttpConfig) (v : Value) : Except SchemaError HttpConfig := do
  return { c with maxRedirects := ← unsigned .size v }

/-- The function that sets the field of this name. -/
def field (name : String) : Option (Setter HttpConfig) :=
  if name = "connect_timeout_secs" then some setConnectTimeout
  else if name = "timeout_secs" then some setTimeout
  else if name = "max_redirects" then some setMaxRedirects
  else none

end HttpConfig

namespace RegistryConfig

/-- Set the limit for a deletion of tags, in seconds. -/
def setDeleteTagsTimeout (c : RegistryConfig) (v : Value) : Except SchemaError RegistryConfig := do
  return { c with deleteTagsTimeoutSecs := ← unsigned .unsigned v }

/-- The function that sets the field of this name. -/
def field (name : String) : Option (Setter RegistryConfig) :=
  if name = "delete_tags_service_timeout_secs" then some setDeleteTagsTimeout else none

end RegistryConfig

/-- The section about the node; what it leaves out has its default. -/
def nodeSection : Value → Except SchemaError NodeConfig :=
  sectionOf .nodeSection NodeConfig.field [NodeConfig.setRole, NodeConfig.setPrimaryUrl] {}

/-- The section about requests. -/
def httpSection : Value → Except SchemaError HttpConfig :=
  sectionOf .httpSection HttpConfig.field
    [HttpConfig.setConnectTimeout, HttpConfig.setTimeout, HttpConfig.setMaxRedirects] {}

/-- The section about container registries. -/
def registrySection : Value → Except SchemaError RegistryConfig :=
  sectionOf .registrySection RegistryConfig.field [RegistryConfig.setDeleteTagsTimeout] {}

/-- A table of flags. A moment is a table whose only value is its text. -/
def featureTable : Value → Except SchemaError Flags
  | .table entries => do
    let pairs ← entries.mapM fun e => do return (e.1, ← boolean e.2)
    return Dict.ofList pairs
  | .moment m => .error (.wrongType (.string m.text) .boolean)
  | other => .error (.wrongType other .map)

/-! ## The whole -/

namespace Config

/-- Set the whole section about the node. -/
def setNode (c : Config) (v : Value) : Except SchemaError Config := do
  return { c with node := ← nodeSection v }

/-- Set the whole section about requests. -/
def setHttp (c : Config) (v : Value) : Except SchemaError Config := do
  return { c with http := ← httpSection v }

/-- Set the whole section about container registries. -/
def setRegistry (c : Config) (v : Value) : Except SchemaError Config := do
  return { c with registry := ← registrySection v }

/-- Set all flags. -/
def setFeatures (c : Config) (v : Value) : Except SchemaError Config := do
  return { c with features := ← featureTable v }

/-- The function that sets the section of this name. -/
def field (name : String) : Option (Setter Config) :=
  if name = "node" then some setNode
  else if name = "http" then some setHttp
  else if name = "registry" then some setRegistry
  else if name = "features" then some setFeatures
  else none

/-- **The configuration that the entries of a document give.** -/
def ofEntries (entries : List (String × Value)) : Except SchemaError Config :=
  setFields field {} entries

end Config

end Replica
