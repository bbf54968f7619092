import Replica.Config.Basic
import Replica.Decimal.Digits
import Replica.Json
import Replica.Text

/-!
# Nodes and the addresses of blobs

* `Resource`: a blob by the name of its kind and the number of its record;
* `Primary`: the address of a primary node, without slashes at its end;
* `Primary.urlOf`: where a primary serves a blob;
* `Node`: the role of this node and the primary it knows about.
-/

namespace Replica

/-- A blob: the name of its kind and the number of its record. -/
structure Resource where
  kind : String
  record : Nat
  deriving DecidableEq

/-- The kind and the number with a slash between. -/
def Resource.text (r : Resource) : String := r.kind ++ "/" ++ natText r.record

/-- The blob as it is sent. -/
def Resource.json (r : Resource) : Json :=
  .object [("replicable_name", .string r.kind), ("model_record_id", .number r.record)]

/-- The primary node that a secondary downloads from. -/
structure Primary where
  url : String
  deriving DecidableEq

namespace Primary

/-- The primary at an address; slashes at its end do not count. -/
def ofUrl (url : String) : Primary :=
  ⟨String.ofList (Text.dropEndWhile (· == '/') url.toList)⟩

/-- Where the primary serves a blob. -/
def urlOf (p : Primary) (r : Resource) : String :=
  p.url ++ "/api/v4/geo/retrieve/" ++ r.kind ++ "/" ++ natText r.record

end Primary

/-- The role of a node and the primary it knows about. -/
structure Node where
  role : Role
  primary? : Option Primary
  deriving DecidableEq

namespace Node

/-- A secondary of a primary. -/
def secondary (p : Primary) : Node := ⟨.secondary, some p⟩

/-- The node of a configuration, with the slashes at the end of the address taken away. -/
def ofConfig (c : NodeConfig) : Node := ⟨c.role, c.primaryUrl?.map Primary.ofUrl⟩

/-- The node downloads from a primary. -/
def isSecondary (n : Node) : Bool := n.role == .secondary

/-- Where the known primary serves a blob. -/
def urlOf? (n : Node) (r : Resource) : Option String := n.primary?.map (·.urlOf r)

end Node

end Replica
