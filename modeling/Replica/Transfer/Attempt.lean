import Replica.Checksum
import Replica.Flags
import Replica.Transfer.Body
import Replica.Transfer.Destination
import Replica.Transfer.Event
import Replica.Transfer.MissingFile

/-!
# One attempt to transfer a blob

The blob is requested from the primary, written to a temporary file, compared with its checksum and
only then handed to its storage. Whatever happens, the temporary file is gone in the end, and the
outcome is a result.

* `Downloader`: the client, the headers, the node and its flags;
* `promote`, `verifyAndPromote`, `save`, `refuse`: the parts of a download once the primary has
  answered;
* **`Downloader.execute`**: the whole. An `Attempt` tells, besides the result and the disk, the
  events, the requests, and what was handed to the storage.
-/

namespace Replica

/-- A request to a primary. -/
structure Request where
  url : String
  headers : List (String × String)
  deriving DecidableEq

/-- What obtains a response, or a text that says why there is none. Other work may go on with the
disk meanwhile. -/
abbrev Client : Type := Request → Disk → Disk × Except String Response

/-- What fetches blobs for one node. -/
structure Downloader where
  client : Client
  /-- The headers for a blob, computed for every attempt. -/
  headers : Resource → List (String × String)
  node : Node
  flags : Flags

/-- A path handed to a storage, and the disk at that moment. -/
structure Promotion where
  path : String
  disk : Disk

/-- What a download did. -/
structure Download where
  disk : Disk
  /-- The octets received, or what went wrong. -/
  outcome : Except TransferError Nat
  events : List TransferEvent
  promotions : List Promotion
  /-- The pieces taken from the body. -/
  taken : Nat

/-- One attempt, seen from outside. -/
structure Attempt where
  disk : Disk
  result : TransferResult
  events : List TransferEvent
  /-- The requests made, each with the disk at that moment. -/
  requests : List (Request × Disk)
  promotions : List Promotion
  /-- The pieces taken from the body. -/
  taken : Nat

/-! ## A body that arrives -/

/-- Hand the file to its storage. -/
def promote (storage : Storage) (r : Received) : Download :=
  let size := r.disk.tempSize r.temp
  let answer := storage.replaceFile r.temp.path r.disk
  { disk := answer.1
    outcome :=
      match answer.2 with
      | .ok _ => .ok size
      | .error e => .error (.replace size e)
    events :=
      match answer.2 with
      | .ok (some e) => [.sourceLeft e]
      | _ => []
    promotions := [⟨r.temp.path, r.disk⟩]
    taken := r.taken }

/-- Compare the digest, if there is one, and hand the file to its storage. -/
def verifyAndPromote (gate : ChecksumGate) (storage : Storage) (r : Received) : Download :=
  match r.hasher? with
  | none => promote storage r
  | some hasher =>
    if gate.isMismatch hasher.finishHex then
      { disk := r.disk
        outcome :=
          .error (.checksumMismatch (gate.expected?.getD "") hasher.finishHex
            (r.disk.tempSize r.temp))
        events := [.verifying]
        promotions := []
        taken := r.taken }
    else
      let p := promote storage r
      { p with events := .verifying :: p.events }

/-- Receive a body, and go on with it if it is complete. -/
def save (gate : ChecksumGate) (storage : Storage) (url : String) (temp : TempFile)
    (response : Response) (d : Disk) : Download :=
  let hasher? := if gate.isRequired then some Sha256.Hasher.new else none
  let r := receive d temp hasher? response.body
  let p : Download :=
    match r.error? with
    | some text => ⟨r.disk, .error (.download url r.bytes (.text text)), [], [], r.taken⟩
    | none => verifyAndPromote gate storage r
  { p with events := .streaming response.status :: p.events }

/-! ## Other answers -/

/-- The error that an answer without success stands for. -/
def refusal (url : String) (response : Response) : TransferError :=
  .httpStatus response.status response.reason url
    (isPrimaryMissingFile response.status response.contentType? (errorBody response.body))

/-- Read what is needed of an answer without success. -/
def refuse (url : String) (response : Response) (d : Disk) : Download :=
  ⟨d, .error (refusal url response), [], [], errorPieces response.body⟩

/-- Go on with whatever the client answered. -/
def download (gate : ChecksumGate) (storage : Storage) (url : String) (temp : TempFile)
    (answer : Except String Response) (d : Disk) : Download :=
  match answer with
  | .error text => ⟨d, .error (.download url 0 (.text text)), [], [], 0⟩
  | .ok response =>
    if response.isSuccess then save gate storage url temp response d else refuse url response d

/-! ## The whole attempt -/

/-- The result of an outcome. -/
def TransferResult.ofOutcome : Except TransferError Nat → TransferResult
  | .ok bytes => .success bytes
  | .error e => e.result

namespace Downloader

/-- The downloader of a configured node. -/
def ofConfig (client : Client) (headers : Resource → List (String × String)) (c : Config) :
    Downloader :=
  ⟨client, headers, Node.ofConfig c.node, c.features⟩

/-- Where the primary, if it is known, serves a blob. -/
def resourceUrl? (dl : Downloader) (b : Blob) : Option String := dl.node.urlOf? b.resource

/-- The comparison that a blob has to pass. -/
def gate (dl : Downloader) (b : Blob) : ChecksumGate :=
  .of b.checksum? (dl.flags.enabled Flags.transferValidation true)

/-- The request for a blob. -/
def request (dl : Downloader) (primary : Primary) (b : Blob) : Request :=
  ⟨primary.urlOf b.resource, dl.headers b.resource⟩

/-- An attempt that ends before anything is requested. -/
def abandon (d : Disk) (e : TransferError) : Attempt :=
  let events :=
    match e with
    | .createDestinationDir _ source => [.noDirectory source]
    | _ => []
  ⟨d, e.result, .started :: events ++ [.finished e.result], [], [], 0⟩

/-- Request the blob, go on with the answer, and remove the temporary file. -/
def fetch (dl : Downloader) (b : Blob) (primary : Primary) (temp : TempFile) (d : Disk) :
    Attempt :=
  let request := dl.request primary b
  let answer := dl.client request d
  let p := download (dl.gate b) b.storage request.url temp answer.2 answer.1
  let closed := p.disk.closeTemp temp
  let left :=
    match closed.2 with
    | .ok () => []
    | .error e => [.tempLeft e]
  let result := TransferResult.ofOutcome p.outcome
  { disk := closed.1
    result
    events := .started :: .requested request.url :: p.events ++ left ++ [.finished result]
    requests := [(request, d)]
    promotions := p.promotions
    taken := p.taken }

/-- **Transfer a blob.** -/
def execute (dl : Downloader) (b : Blob) (d : Disk) : Attempt :=
  match checkPreconditions dl.node b.storage d with
  | (d₁, .error e) => abandon d₁ e
  | (d₁, .ok primary) =>
    match b.stage d₁ with
    | .error e => abandon d₁ e
    | .ok (d₂, temp) => dl.fetch b primary temp d₂

end Downloader

end Replica
