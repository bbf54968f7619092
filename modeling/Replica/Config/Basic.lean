import Replica.Flags
import Replica.Text

/-!
# The configuration of a node

* `Role`: what a node is in a replicated deployment; `Role.ofName?` reads its exact name and
  `Role.ofText` the looser form of an environment variable;
* `Config`: four sections, each with defaults;
* `Config.applyOverrides`: the role and the address of the primary from the environment, put into
  a configuration in place. The role comes first, and one that is none ends it.
-/

namespace Replica

/-- What a node is in a replicated deployment. -/
inductive Role where
  | primary
  | secondary
  | unconfigured
  deriving DecidableEq, Repr, Inhabited

namespace Role

/-- The name of a role in a configuration. -/
def name : Role → String
  | primary => "primary"
  | secondary => "secondary"
  | unconfigured => "unconfigured"

/-- The role of exactly this name. -/
def ofName? (s : String) : Option Role :=
  if s = "primary" then some primary
  else if s = "secondary" then some secondary
  else if s = "unconfigured" then some unconfigured
  else none

theorem ofName?_name (r : Role) : ofName? r.name = some r := by cases r <;> rfl

theorem ofName?_eq_some_iff {name : String} {r : Role} : ofName? name = some r ↔ name = r.name := by
  refine ⟨fun h => ?_, fun h => h ▸ ofName?_name r⟩
  unfold ofName? at h
  split at h
  · cases h
    assumption
  split at h
  · cases h
    assumption
  split at h
  · cases h
    assumption
  · cases h

/-- Trimmed, and with small letters for the capitals of ASCII. -/
def normalize (s : String) : String := String.ofList ((Text.trim s).toList.map Char.toLower)

/-- The role that a text names without regard to blanks around it or to capitals, no text at all
being no configuration; or else the normalized text. -/
def ofText (s : String) : Except String Role :=
  let t := normalize s
  if t = "" then .ok unconfigured
  else
    match ofName? t with
    | some r => .ok r
    | none => .error t

/-- The text about a role that is none. -/
def unknownMessage (name : String) : String := "unknown node role: " ++ name

end Role

/-- Who the node is, and the address of its primary if one is known. -/
structure NodeConfig where
  role : Role := .unconfigured
  primaryUrl? : Option String := none
  deriving DecidableEq

/-- Limits of requests. Without a total timeout large blobs stream as long as they need. -/
structure HttpConfig where
  connectTimeoutSecs : Nat := 30
  timeoutSecs? : Option Nat := none
  maxRedirects : Nat := 10
  deriving DecidableEq

/-- Limits of work on a container registry. -/
structure RegistryConfig where
  deleteTagsTimeoutSecs : Nat := 250
  deriving DecidableEq

/-- The configuration of a node. -/
structure Config where
  node : NodeConfig := {}
  http : HttpConfig := {}
  registry : RegistryConfig := {}
  features : Flags := Dict.empty
  deriving DecidableEq

instance : Inhabited Config := ⟨{}⟩

/-! ## Overrides -/

/-- The environment variable that overrides the role. -/
def roleVariable : String := "GEOREP_NODE_ROLE"

/-- The environment variable that overrides the address of the primary. -/
def primaryUrlVariable : String := "GEOREP_PRIMARY_URL"

/-- A primary address as it is set from outside: trimmed, and none if nothing is left. -/
def trimmedUrl? (url : String) : Option String :=
  let t := Text.trim url
  if t = "" then none else some t

namespace Config

/-- Set the role that a text names. -/
def overrideRole (text : String) : EStateM String Config Unit := do
  let role ← MonadExcept.ofExcept (Role.ofText text)
  modify fun c => { c with node := { c.node with role } }

/-- Set the address of the primary that a text gives. -/
def overridePrimaryUrl (url : String) : EStateM String Config Unit :=
  modify fun c => { c with node := { c.node with primaryUrl? := trimmedUrl? url } }

/-- **Override** the role, then the address of the primary, where the look-up has a value. The
configuration is changed in place: what is set before an error stays set. -/
def applyOverrides (lookup : String → Option String) : EStateM String Config Unit := do
  (lookup roleVariable).forM overrideRole
  (lookup primaryUrlVariable).forM overridePrimaryUrl

/-- The overridden configuration. -/
def override (c : Config) (lookup : String → Option String) : Except String Config :=
  match (applyOverrides lookup).run c with
  | .ok _ c => .ok c
  | .error e _ => .error e

end Config

end Replica
