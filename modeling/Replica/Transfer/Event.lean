import Replica.Log
import Replica.Transfer.Error

/-!
# What a transfer tells

Every step of a transfer that an operator may want to see is an event. `TransferEvent.state?` is
the state that the transfer has with it, and `TransferEvent.line` its line in a log.
-/

namespace Replica

/-- A step of a transfer that is told. -/
inductive TransferEvent where
  | started
  /-- The directory of the destination is missing and cannot be made. -/
  | noDirectory (source : FileError)
  | requested (url : String)
  | streaming (status : Nat)
  | verifying
  /-- The content of the temporary file was copied, and the file could not be removed. -/
  | sourceLeft (source : IoError)
  /-- The temporary file could not be removed at the end. -/
  | tempLeft (source : FileError)
  | finished (result : TransferResult)

namespace TransferEvent

/-- The state of the transfer, if the event tells one. -/
def state? : TransferEvent → Option TransferState
  | started => some .idle
  | requested _ => some .requestSent
  | streaming _ => some .streaming
  | verifying => some .verifying
  | finished result => some result.state
  | noDirectory _ | sourceLeft _ | tempLeft _ => none

/-- The line for the end of a transfer. -/
def finishedLine (result : TransferResult) : LogLine :=
  let state := ("state", .string result.state.name)
  let bytes := ("bytes_downloaded", .number result.bytesDownloaded)
  match result.reason? with
  | none => logLine .info "transfer succeeded" [state, bytes]
  | some reason =>
    logLine .warning "transfer failed"
      [state, ("reason", .string reason), bytes,
        ("primary_missing_file", .bool result.primaryMissingFile)]

/-- The line of an event. -/
def line : TransferEvent → LogLine
  | started => logLine .debug "starting transfer" [("state", .string TransferState.idle.name)]
  | noDirectory source =>
    logLine .error "unable to create destination directory" [("error", .string source.message)]
  | requested url =>
    logLine .debug "requesting blob from primary"
      [("state", .string TransferState.requestSent.name), ("url", .string url)]
  | streaming status =>
    logLine .debug "streaming response body"
      [("state", .string TransferState.streaming.name), ("status", .number status)]
  | verifying =>
    logLine .debug "verifying checksum" [("state", .string TransferState.verifying.name)]
  | sourceLeft source =>
    logLine .debug "source left behind after copy" [("error", .string source.message)]
  | tempLeft source =>
    logLine .warning "failed to remove temp file" [("error", .string source.message)]
  | finished result => finishedLine result

end TransferEvent

end Replica
