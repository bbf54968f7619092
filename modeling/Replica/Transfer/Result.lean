import Replica.Dict
import Replica.Duration
import Replica.Json

/-!
# The outcome of a transfer

* `TransferState`: the states that one attempt goes through;
* `FailureKind`: why an attempt failed, whether a further one makes sense, and the state it ends in;
* `TransferResult`: a success with a count of octets, or a failure with its kind and reason. The
  kind is given if and only if there is a reason, so a success can have neither.
-/

namespace Replica

/-- A state of one attempt. The last four are terminal. -/
inductive TransferState where
  | idle
  | requestSent
  | streaming
  | verifying
  | success
  | transportFailed
  | checksumFailed
  | preconditionFailed
  deriving DecidableEq, Repr, Inhabited

namespace TransferState

/-- The name of a state in a log. -/
def name : TransferState → String
  | idle => "Idle"
  | requestSent => "RequestSent"
  | streaming => "Streaming"
  | verifying => "Verifying"
  | success => "Success"
  | transportFailed => "TransportFailed"
  | checksumFailed => "ChecksumFailed"
  | preconditionFailed => "PreconditionFailed"

/-- No attempt leaves this state. -/
def isTerminal : TransferState → Bool
  | success | transportFailed | checksumFailed | preconditionFailed => true
  | idle | requestSent | streaming | verifying => false

end TransferState

/-- Why a transfer failed. -/
inductive FailureKind where
  /-- The role of the node, no known primary, or a destination that cannot be used. -/
  | precondition
  /-- The staging file could not be created. -/
  | tempFile
  /-- A status that is no success, or an error of the connection. -/
  | transport
  /-- The primary says that it does not hold the blob. -/
  | primaryMissingFile
  /-- The digest of the download is not the declared checksum. -/
  | checksumMismatch
  /-- The download could not be put in its place. -/
  | storage
  deriving DecidableEq, Repr

namespace FailureKind

/-- The name of a kind in a log. -/
def name : FailureKind → String
  | precondition => "precondition"
  | tempFile => "temp_file"
  | transport => "transport"
  | primaryMissingFile => "primary_missing_file"
  | checksumMismatch => "checksum_mismatch"
  | storage => "storage"

/-- A further attempt may succeed. -/
def isRetryable : FailureKind → Bool
  | precondition | primaryMissingFile => false
  | tempFile | transport | checksumMismatch | storage => true

/-- The state in which such a failure ends. -/
def terminalState : FailureKind → TransferState
  | precondition | tempFile => .preconditionFailed
  | transport | primaryMissingFile | storage => .transportFailed
  | checksumMismatch => .checksumFailed

end FailureKind

/-- Diagnostics of a failure by name. -/
abbrev Details : Type := Dict Json

/-- What makes an outcome a failure. -/
structure Failure where
  kind : FailureKind
  reason : String
  details? : Option Details

/-- The outcome of one attempt. -/
structure TransferResult where
  bytesDownloaded : Nat
  failure? : Option Failure

namespace TransferResult

/-- A success with this many octets. -/
def success (bytes : Nat) : TransferResult := ⟨bytes, none⟩

/-- A failure without octets and without diagnostics. -/
def failed (kind : FailureKind) (reason : String) : TransferResult :=
  ⟨0, some ⟨kind, reason, none⟩⟩

/-- The result with another number of octets. -/
def withBytesDownloaded (r : TransferResult) (bytes : Nat) : TransferResult :=
  { r with bytesDownloaded := bytes }

/-- A failure with these diagnostics; empty ones, and a success, change nothing. -/
def withDetails (r : TransferResult) (details : Details) : TransferResult :=
  match r.failure? with
  | some f => if details.isEmpty then r else { r with failure? := some { f with details? := details } }
  | none => r

/-- Nothing has failed. -/
def isSuccess (r : TransferResult) : Bool := r.failure?.isNone

/-- The kind of a failure. -/
def failureKind? (r : TransferResult) : Option FailureKind := r.failure?.map (·.kind)

/-- Why the attempt failed, in words. -/
def reason? (r : TransferResult) : Option String := r.failure?.map (·.reason)

/-- The diagnostics, if there are any. -/
def details? (r : TransferResult) : Option Details := r.failure?.bind (·.details?)

/-- The attempt failed as the primary does not hold the blob. -/
def primaryMissingFile (r : TransferResult) : Bool := r.failureKind? == some .primaryMissingFile

/-- The terminal state of the attempt. -/
def state (r : TransferResult) : TransferState :=
  match r.failureKind? with
  | some kind => kind.terminalState
  | none => .success

/-- How long to wait before attempt number `attempt`, if a further one makes sense. -/
def retryDelay? (r : TransferResult) (attempt : Nat) (base : Duration) : Option Duration :=
  match r.failureKind? with
  | some kind => if kind.isRetryable then some (backoff attempt base) else none
  | none => none

/-- The result as it is sent. -/
def json (r : TransferResult) : Json :=
  let orNull {α : Type} (f : α → Json) (a? : Option α) : Json := (a?.map f).getD .null
  .object
    [ ("success", .bool r.isSuccess),
      ("bytes_downloaded", .number r.bytesDownloaded),
      ("primary_missing_file", .bool r.primaryMissingFile),
      ("reason", orNull .string r.reason?),
      ("extra_details", orNull (fun d => .object d.entries) r.details?),
      ("failure_kind", orNull (fun k => .string k.name) r.failureKind?) ]

end TransferResult

end Replica
