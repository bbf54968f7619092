import Replica.Disk.Directory
import Replica.Node
import Replica.Transfer.Storage

/-!
# Before anything is requested

* `checkPreconditions`: this node is a secondary, it knows its primary, and a destination on the
  local disk is no directory and has a directory to be in. The first check that fails counts;
* `Blob.stage`: the temporary file that a download is written to. For a local destination it is
  beside it, so that it can be moved there in one step.
-/

namespace Replica

/-- One replicated record: which blob it is, the checksum that its primary declares, and where it
is kept. -/
structure Blob where
  resource : Resource
  checksum? : Option String
  storage : Storage

/-! ## Preconditions -/

/-- A local destination can be written: it is no directory, and its own directory is there, or made
now. -/
def checkDestination (path : String) (d : Disk) : Disk × Except TransferError Unit :=
  if d.isDir path then (d, .error (.destinationIsDirectory path))
  else ((d.ensureParentDir path).1, (d.ensureParentDir path).2.mapError (.createDestinationDir path))

/-- **The primary to download from**, if everything is in order for a download. -/
def checkPreconditions (node : Node) (storage : Storage) (d : Disk) :
    Disk × Except TransferError Primary :=
  if node.isSecondary then
    match node.primary? with
    | none => (d, .error .noPrimary)
    | some primary =>
      match storage.absolutePath? with
      | none => (d, .ok primary)
      | some path =>
        let r := checkDestination path d
        (r.1, r.2.map fun _ => primary)
  else (d, .error .notSecondary)

/-! ## The temporary file -/

/-- The directory for temporary files that belong nowhere else. -/
def systemTempDir : String := "/tmp"

namespace Blob

/-- How the name of the temporary file begins where it is not beside its destination. -/
def stagingPrefix (r : Resource) : String := tempPrefix ++ r.kind ++ "-" ++ natText r.record

/-- The directory of the temporary file, and how its name begins. -/
def stagingPlace (b : Blob) : String × TempOptions :=
  match b.storage.absolutePath? with
  | some path => ((Path.parent? path).getD ".", {})
  | none =>
    (b.storage.stagingDir?.getD systemTempDir, { beginning := stagingPrefix b.resource })

/-- **The temporary file** for a download. -/
def stage (b : Blob) (d : Disk) : Except TransferError (Disk × TempFile) :=
  (d.createTemp b.stagingPlace.1 b.stagingPlace.2).mapError (.tempFile b.storage.absolutePath?)

end Blob

end Replica
