import Replica.Digest.Hasher
import Replica.Disk.Staging
import Replica.Transfer.Response

/-!
# Reading the body of a response

* `receive`: a body that is kept. Every piece is written to the temporary file and digested on its
  way, up to the end or to an error of the stream;
* `errorBody`: the beginning of a body that only tells what went wrong, up to a fixed size.
-/

namespace Replica

/-! ## A body that is kept -/

/-- What has been received of a body. -/
structure Received where
  disk : Disk
  temp : TempFile
  hasher? : Option Sha256.Hasher
  /-- The octets written. -/
  bytes : Nat
  /-- The pieces taken from the stream, an error being one. -/
  taken : Nat
  /-- The error that ended the stream. -/
  error? : Option String

/-- **Write the pieces of a body to a temporary file**, and digest them if there is a hasher. -/
def receive (d : Disk) (temp : TempFile) (hasher? : Option Sha256.Hasher) : List Piece → Received
  | [] => ⟨d, temp, hasher?, 0, 0, none⟩
  | .error text :: _ => ⟨d, temp, hasher?, 0, 1, some text⟩
  | .octets bs :: rest =>
    let written := d.appendTemp temp bs
    let r := receive written.1 written.2 (hasher?.map (·.update bs)) rest
    { r with bytes := bs.length + r.bytes, taken := r.taken + 1 }

/-! ## A body that tells what went wrong -/

/-- How much of such a body is looked at, in octets. -/
def errorBodyLimit : Nat := 64 * 1024

/-- The octets of the pieces and the number of pieces, as long as less than the limit has been
`seen` and until an error. -/
def readErrorBody (seen : Nat) : List Piece → Bytes × Nat
  | [] => ([], 0)
  | .error _ :: _ => ([], if seen < errorBodyLimit then 1 else 0)
  | .octets bs :: rest =>
    if seen < errorBodyLimit then
      let r := readErrorBody (seen + bs.length) rest
      (bs ++ r.1, r.2 + 1)
    else ([], 0)

/-- **The beginning of the body** that is looked at. -/
def errorBody (body : List Piece) : Bytes := (readErrorBody 0 body).1.take errorBodyLimit

/-- The number of pieces that are taken for it. -/
def errorPieces (body : List Piece) : Nat := (readErrorBody 0 body).2

end Replica
