import Replica.Decimal.Digits
import Replica.Disk.Error
import Replica.Transfer.Result

/-!
# Errors of a transfer

Every step of a transfer that can fail has its error, and every error turns into a failed result
with a kind, a reason and diagnostics.

* `TransferError.kind`, `TransferError.message`, `TransferError.bytesDownloaded`,
  `TransferError.details`;
* **`TransferError.result`**.
-/

namespace Replica

/-- What lies behind an error: a failed file operation, or an outside party's text. -/
inductive Cause where
  | file (e : FileError)
  | text (s : String)
  deriving DecidableEq

/-- The text of a cause in a diagnostic. -/
def Cause.message : Cause → String
  | file e => e.message
  | text s => s

/-- Why a transfer failed. -/
inductive TransferError where
  | notSecondary
  | noPrimary
  | destinationIsDirectory (path : String)
  | createDestinationDir (path : String) (source : FileError)
  | tempFile (path? : Option String) (source : FileError)
  | httpStatus (status : Nat) (reason url : String) (primaryMissingFile : Bool)
  | download (url : String) (bytes : Nat) (source : Cause)
  | checksumMismatch (expected actual : String) (bytes : Nat)
  | replace (bytes : Nat) (source : Cause)
  deriving DecidableEq

namespace TransferError

/-- **The reason** that a failed result gives. -/
def message : TransferError → String
  | notSecondary => "Skipping transfer as this is not a Secondary node"
  | noPrimary => "Skipping transfer as there is no primary node to download from"
  | destinationIsDirectory _ => "Skipping transfer as destination exists and is a directory"
  | createDestinationDir _ _ =>
    "Skipping transfer as we cannot create the destination directory"
  | tempFile _ _ => "Error creating temporary file"
  | httpStatus status _ _ _ => "Non-success HTTP response status code " ++ natText status
  | download _ _ _ => "Error downloading file"
  | checksumMismatch _ _ _ => "Downloaded file checksum mismatch"
  | replace _ _ => "Error replacing destination file"

/-- **The kind of failure** that an error comes to. -/
def kind : TransferError → FailureKind
  | notSecondary | noPrimary | destinationIsDirectory _ | createDestinationDir _ _ => .precondition
  | tempFile _ _ => .tempFile
  | httpStatus _ _ _ missing => if missing then .primaryMissingFile else .transport
  | download _ _ _ => .transport
  | checksumMismatch _ _ _ => .checksumMismatch
  | replace _ _ => .storage

/-- The octets received before the error. -/
def bytesDownloaded : TransferError → Nat
  | download _ bytes _ | checksumMismatch _ _ bytes | replace bytes _ => bytes
  | _ => 0

/-- What lies behind the error, if anything does. -/
def source? : TransferError → Option Cause
  | createDestinationDir _ e | tempFile _ e => some (.file e)
  | download _ _ c | replace _ c => some c
  | _ => none

/-- The diagnostics of the error. -/
def details : TransferError → Details
  | notSecondary | noPrimary => Dict.empty
  | destinationIsDirectory path => Dict.ofList [("absolute_path", .string path)]
  | createDestinationDir path e =>
    Dict.ofList [("absolute_path", .string path), ("error", .string e.message)]
  | tempFile path? e =>
    Dict.ofList <|
      ("error", .string e.message) :: (path?.map fun p => ("absolute_path", Json.string p)).toList
  | httpStatus status reason url _ =>
    Dict.ofList
      [("status_code", .number status), ("reason", .string reason), ("url", .string url)]
  | download url _ c => Dict.ofList [("error", .string c.message), ("url", .string url)]
  | checksumMismatch expected actual _ =>
    Dict.ofList [("primary_checksum", .string expected), ("actual_checksum", .string actual)]
  | replace _ c => Dict.ofList [("error", .string c.message)]

/-- **The failed result of an error.** -/
def result (e : TransferError) : TransferResult :=
  ((TransferResult.failed e.kind e.message).withBytesDownloaded e.bytesDownloaded).withDetails
    e.details

end TransferError

end Replica
