import Replica.Text

/-!
# The checksum gate

A downloaded blob is compared with the checksum its primary declares, if the primary declares one
and verification is switched on. A blank declaration counts as none.
-/

namespace Replica

/-- Whether, and with what, the digest of a download is compared. -/
structure ChecksumGate where
  expected? : Option String
  deriving DecidableEq

namespace ChecksumGate

/-- The gate for a declared checksum, with verification switched on or off. -/
def of (declared : Option String) (enabled : Bool) : ChecksumGate :=
  ⟨declared.filter fun e => enabled && !Text.isBlankText e⟩

/-- A digest has to be computed. -/
def isRequired (gate : ChecksumGate) : Bool := gate.expected?.isSome

/-- The digest is not the expected text, character for character; never so at an open gate. -/
def isMismatch (gate : ChecksumGate) (actual : String) : Bool :=
  match gate.expected? with
  | some expected => expected != actual
  | none => false

theorem isMismatch_some (expected actual : String) :
    isMismatch ⟨some expected⟩ actual = true ↔ expected ≠ actual := by
  simp [isMismatch]

end ChecksumGate

/-- The comparison in one step, from the declaration. -/
def checksumMismatch (declared : Option String) (actual : String) (enabled : Bool) : Bool :=
  (ChecksumGate.of declared enabled).isMismatch actual

end Replica
