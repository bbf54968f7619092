import Replica.Dict

/-!
# Feature flags

A table of named switches. A name that is not in the table has the value its user prefers.
-/

namespace Replica

/-- A table of switches. -/
abbrev Flags : Type := Dict Bool

namespace Flags

/-- Verify downloads against the checksum declared by the primary. -/
def transferValidation : String := "geo_file_transfer_validation"

/-- Delete tags by name where the registry can. -/
def fastTagDelete : String := "container_registry_fast_tag_delete"

/-- Bound the time of a deletion by name. -/
def throttledTagDelete : String := "container_registry_expiration_policies_throttling"

/-- The value of a flag, or the given one if the flag is not in the table. -/
def enabled (flags : Flags) (name : String) (preferred : Bool) : Bool :=
  (flags.get? name).getD preferred

/-- The table with one flag set. -/
def set (flags : Flags) (name : String) (value : Bool) : Flags := flags.insert name value

theorem enabled_set (flags : Flags) (name other : String) (value preferred : Bool) :
    (flags.set name value).enabled other preferred =
      if other = name then value else flags.enabled other preferred := by
  unfold enabled set
  rw [Dict.get?_insert]
  split <;> rfl

end Flags

end Replica
