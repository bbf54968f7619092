import Replica.Bytes

/-!
# SHA-256

The digest of FIPS 180-4: the message is padded to a whole number of 64-octet blocks, and the
compression function is folded over the blocks from a fixed chaining value.

* `padding`, `pad`: one `1` bit, zeros, and the bit length in eight octets;
* `blocks`: the successive blocks of 64 octets, an incomplete one at the end left out;
* `compress`: one block into a chaining value;
* **`digest`**: the 32 octets of a message.
-/

namespace Replica.Sha256

/-- The chaining value: eight words. -/
structure Chain where
  a : UInt32
  b : UInt32
  c : UInt32
  d : UInt32
  e : UInt32
  f : UInt32
  g : UInt32
  h : UInt32
  deriving DecidableEq

/-- The chaining value before the first block. -/
def Chain.initial : Chain :=
  ⟨0x6a09e667, 0xbb67ae85, 0x3c6ef372, 0xa54ff53a, 0x510e527f, 0x9b05688c, 0x1f83d9ab, 0x5be0cd19⟩

instance : Inhabited Chain := ⟨Chain.initial⟩

/-- The round constants. -/
def roundConstants : List UInt32 :=
  [0x428a2f98, 0x71374491, 0xb5c0fbcf, 0xe9b5dba5, 0x3956c25b, 0x59f111f1, 0x923f82a4, 0xab1c5ed5,
    0xd807aa98, 0x12835b01, 0x243185be, 0x550c7dc3, 0x72be5d74, 0x80deb1fe, 0x9bdc06a7, 0xc19bf174,
    0xe49b69c1, 0xefbe4786, 0x0fc19dc6, 0x240ca1cc, 0x2de92c6f, 0x4a7484aa, 0x5cb0a9dc, 0x76f988da,
    0x983e5152, 0xa831c66d, 0xb00327c8, 0xbf597fc7, 0xc6e00bf3, 0xd5a79147, 0x06ca6351, 0x14292967,
    0x27b70a85, 0x2e1b2138, 0x4d2c6dfc, 0x53380d13, 0x650a7354, 0x766a0abb, 0x81c2c92e, 0x92722c85,
    0xa2bfe8a1, 0xa81a664b, 0xc24b8b70, 0xc76c51a3, 0xd192e819, 0xd6990624, 0xf40e3585, 0x106aa070,
    0x19a4c116, 0x1e376c08, 0x2748774c, 0x34b0bcb5, 0x391c0cb3, 0x4ed8aa4a, 0x5b9cca4f, 0x682e6ff3,
    0x748f82ee, 0x78a5636f, 0x84c87814, 0x8cc70208, 0x90befffa, 0xa4506ceb, 0xbef9a3f7, 0xc67178f2]

/-! ## The functions on words -/

/-- A word turned to the right by `n` bits, for `n` from 1 to 31. -/
def rotateRight (x n : UInt32) : UInt32 := (x >>> n) ||| (x <<< (32 - n))

/-- Each bit of `x` chooses between those of `y` and `z`. -/
def choose (x y z : UInt32) : UInt32 := (x &&& y) ^^^ (~~~x &&& z)

/-- What at least two of the three words have in each bit. -/
def majority (x y z : UInt32) : UInt32 := (x &&& y) ^^^ (x &&& z) ^^^ (y &&& z)

/-- The mix of the first word of a chaining value, in every round. -/
def bigSigma0 (x : UInt32) : UInt32 := rotateRight x 2 ^^^ rotateRight x 13 ^^^ rotateRight x 22

/-- The mix of its fifth word. -/
def bigSigma1 (x : UInt32) : UInt32 := rotateRight x 6 ^^^ rotateRight x 11 ^^^ rotateRight x 25

/-- The mix of an earlier word of the schedule, fifteen words back. -/
def smallSigma0 (x : UInt32) : UInt32 := rotateRight x 7 ^^^ rotateRight x 18 ^^^ (x >>> 3)

/-- The mix of one that is two words back. -/
def smallSigma1 (x : UInt32) : UInt32 := rotateRight x 17 ^^^ rotateRight x 19 ^^^ (x >>> 10)

/-! ## One block -/

/-- Four octets, the most significant first, as a word. -/
def word (a b c d : UInt8) : UInt32 :=
  (a.toUInt32 <<< 24) ||| (b.toUInt32 <<< 16) ||| (c.toUInt32 <<< 8) ||| d.toUInt32

/-- The words of a block. -/
def words : Bytes → List UInt32
  | a :: b :: c :: d :: rest => word a b c d :: words rest
  | _ => []

/-- The word after sixteen successive words of the message schedule. -/
def nextWord (w : Array UInt32) (t : Nat) : UInt32 :=
  smallSigma1 (w.getD (t - 2) 0) + w.getD (t - 7) 0 +
    smallSigma0 (w.getD (t - 15) 0) + w.getD (t - 16) 0

/-- The message schedule: the sixteen words of the block and forty-eight more. -/
def schedule (block : Bytes) : List UInt32 :=
  ((List.range' 16 48).foldl (fun w t => w.push (nextWord w t)) (words block).toArray).toList

/-- One round, with its constant and its word of the schedule. -/
def round (s : Chain) (k w : UInt32) : Chain :=
  let t1 := s.h + bigSigma1 s.e + choose s.e s.f s.g + k + w
  let t2 := bigSigma0 s.a + majority s.a s.b s.c
  ⟨t1 + t2, s.a, s.b, s.c, s.d + t1, s.e, s.f, s.g⟩

/-- The word-wise sum of two chaining values. -/
def Chain.add (s t : Chain) : Chain :=
  ⟨s.a + t.a, s.b + t.b, s.c + t.c, s.d + t.d, s.e + t.e, s.f + t.f, s.g + t.g, s.h + t.h⟩

/-- The rounds, run through the constants and the schedule together. -/
def rounds : List UInt32 → List UInt32 → Chain → Chain
  | k :: ks, w :: ws, s => rounds ks ws (round s k w)
  | _, _, s => s

/-- One block compressed into the chaining value. -/
def compress (s : Chain) (block : Bytes) : Chain :=
  s.add (rounds roundConstants (schedule block) s)

/-- The octets of a word, the most significant first. -/
def wordOctets (x : UInt32) : Bytes :=
  [(x >>> 24).toUInt8, (x >>> 16).toUInt8, (x >>> 8).toUInt8, x.toUInt8]

/-- The octets of a chaining value. -/
def Chain.octets (s : Chain) : Bytes :=
  [s.a, s.b, s.c, s.d, s.e, s.f, s.g, s.h].flatMap wordOctets

theorem Chain.length_octets (s : Chain) : s.octets.length = 32 := rfl

/-! ## The whole message -/

/-- The complete blocks of 64 octets. -/
def blocks (bs : Bytes) : List Bytes :=
  if (bs.drop 63).isEmpty then [] else bs.take 64 :: blocks (bs.drop 64)
termination_by bs.length
decreasing_by
  rename_i h
  have : bs.drop 63 ≠ [] := by simpa using h
  have : 63 < bs.length := Nat.lt_of_not_le fun hle => this (List.drop_eq_nil_of_le hle)
  simp only [List.length_drop]
  omega

/-- The number of zero octets after the `0x80` that follows a message of this length. -/
def zeroCount (length : Nat) : Nat := (119 - length % 64) % 64

/-- What is put behind a message of this length. -/
def padding (length : Nat) : Bytes :=
  0x80 :: List.replicate (zeroCount length) 0 ++ Bytes.bigEndian 8 (8 * length)

/-- The message with its padding. -/
def pad (message : Bytes) : Bytes := message ++ padding message.length

/-- A padded message is a whole number of blocks. -/
theorem length_pad (message : Bytes) : (pad message).length % 64 = 0 := by
  simp only [pad, padding, zeroCount, List.length_append, List.length_cons, List.length_replicate,
    Bytes.length_bigEndian]
  omega

/-- **The digest of a message**, 32 octets. -/
def digest (message : Bytes) : Bytes :=
  ((blocks (pad message)).foldl compress Chain.initial).octets

/-- The digest in lowercase hexadecimal. -/
def hexDigest (message : Bytes) : String := (digest message).hex

theorem length_digest (message : Bytes) : (digest message).length = 32 := Chain.length_octets _

end Replica.Sha256
