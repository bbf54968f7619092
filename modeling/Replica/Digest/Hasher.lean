import Replica.Digest.Sha256

/-!
# Digesting a stream

A hasher takes a message in pieces. It keeps the chaining value of the complete blocks seen so far,
the octets after them, and the total length; `finish` adds the padding of that length.

* `absorb`: all complete blocks of some octets, and what is left of them;
* `Hasher.update`, `Hasher.finish`, `Hasher.finishHex`.
-/

namespace Replica.Sha256

/-- Compress every complete block, and keep the octets after the last one. -/
def absorb (s : Chain) (bs : Bytes) : Chain × Bytes :=
  if (bs.drop 63).isEmpty then (s, bs) else absorb (compress s (bs.take 64)) (bs.drop 64)
termination_by bs.length
decreasing_by
  rename_i h
  have : bs.drop 63 ≠ [] := by simpa using h
  have : 63 < bs.length := Nat.lt_of_not_le fun hle => this (List.drop_eq_nil_of_le hle)
  simp only [List.length_drop]
  omega

/-- The state of a digest in progress. -/
structure Hasher where
  chain : Chain
  pending : Bytes
  length : Nat

namespace Hasher

/-- Nothing seen yet. -/
def new : Hasher := ⟨Chain.initial, [], 0⟩

instance : Inhabited Hasher := ⟨new⟩

/-- One more piece of the message. -/
def update (h : Hasher) (piece : Bytes) : Hasher :=
  let r := absorb h.chain (h.pending ++ piece)
  ⟨r.1, r.2, h.length + piece.length⟩

/-- The digest of all pieces seen, in order. -/
def finish (h : Hasher) : Bytes :=
  (absorb h.chain (h.pending ++ padding h.length)).1.octets

/-- The same in lowercase hexadecimal. -/
def finishHex (h : Hasher) : String := h.finish.hex

/-- A list of pieces, one after the other. -/
def updateAll (h : Hasher) (pieces : List Bytes) : Hasher := pieces.foldl update h

end Hasher

end Replica.Sha256
