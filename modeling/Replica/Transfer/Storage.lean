import Replica.Disk.Placement
import Replica.Transfer.Error

/-!
# Where blobs end up

A storage takes the file at a path as its new content. It may move the file away, delete it or
leave it; whatever is left is removed by the caller.

* `Storage`: any storage, on the local disk or elsewhere;
* `Storage.file`: the storage that is one file of the local disk.
-/

namespace Replica

/-- Where a blob ends up. -/
structure Storage where
  /-- The destination, if it is on the local disk. -/
  absolutePath? : Option String
  /-- Where downloads are staged if there is no local destination; if there is no such directory
  either, the temporary directory of the system serves. -/
  stagingDir? : Option String
  /-- Take the file at a path as the new content. The answer may carry the cause for which that
  file was left behind after it had been copied. -/
  replaceFile : String → Disk → Disk × Except Cause (Option IoError)

namespace Storage

/-- The storage that is a file at this path. -/
def file (path : String) : Storage where
  absolutePath? := some path
  stagingDir? := none
  replaceFile src d := ((d.replaceFile src path).1, (d.replaceFile src path).2.mapError .file)

/-- The content goes to a file on the local disk. -/
def isFileStorage (s : Storage) : Bool := s.absolutePath?.isSome

end Storage

end Replica
