import Mathlib.Data.List.Basic
import Replica.Checksum
import Replica.Proofs.Digest.Stream

/-!
# What a streamed digest is compared with

The digest of a download is compared as a text. That text does not depend on how the body was cut,
it can be read back, and a declared checksum of any other form fits no body at all.

* `hexDigits`: the sixteen digits that are written, and `hexValue?_hexDigit`;
* `ofHex?_hex`, `length_hex`, `hex_written`: the text of some octets;
* `IsDigestText`: sixty-four lowercase digits, and `isDigestText_hexDigest`;
* **`stream_verified`**.
-/

namespace Replica

namespace Bytes

/-! ## Octets as a text -/

/-- The digits that are written, by their values. -/
def hexDigits : List Char :=
  ['0', '1', '2', '3', '4', '5', '6', '7', '8', '9', 'a', 'b', 'c', 'd', 'e', 'f']

theorem hexValue?_hexDigit {n : Nat} (h : n < 16) : hexValue? (hexDigit n) = some n := by
  have all : ∀ n < 16, hexValue? (hexDigit n) = some n := by decide
  exact all n h

theorem hexDigit_mem {n : Nat} (h : n < 16) : hexDigit n ∈ hexDigits := by
  have all : ∀ n < 16, hexDigits.contains (hexDigit n) = true := by decide
  exact List.contains_iff_mem.1 (all n h)

theorem halves_lt (b : UInt8) : b.toNat / 16 < 16 ∧ b.toNat % 16 < 16 := by
  have := b.toNat_lt
  omega

theorem ofHexDigits?_flatMap (bs : Bytes) : ofHexDigits? (bs.flatMap hexPair) = some bs := by
  induction bs with
  | nil => rfl
  | cons b bs ih =>
    have hhigh := hexValue?_hexDigit (halves_lt b).1
    have hlow := hexValue?_hexDigit (halves_lt b).2
    have hsum : 16 * (b.toNat / 16) + b.toNat % 16 = b.toNat := Nat.div_add_mod _ _
    simp only [List.flatMap_cons, hexPair, List.cons_append, List.nil_append, ofHexDigits?, hhigh,
      hlow, ih, Option.bind_eq_bind, Option.bind_some, hsum, UInt8.ofNat_toNat, Option.pure_def]

/-- **Octets written in hexadecimal are read back.** -/
theorem ofHex?_hex (bs : Bytes) : ofHex? (hex bs) = some bs := by
  rw [ofHex?, hex, String.toList_ofList, ofHexDigits?_flatMap]

theorem length_hex (bs : Bytes) : (hex bs).length = 2 * bs.length := by
  rw [hex, String.length_ofList]
  induction bs with
  | nil => rfl
  | cons b bs ih =>
    rw [List.flatMap_cons, List.length_append, length_hexPair, ih, List.length_cons]
    omega

theorem hex_written {bs : Bytes} {c : Char} (h : c ∈ (hex bs).toList) : c ∈ hexDigits := by
  rw [hex, String.toList_ofList, List.mem_flatMap] at h
  obtain ⟨b, -, hc⟩ := h
  rw [hexPair, List.mem_pair] at hc
  obtain rfl | rfl := hc
  · exact hexDigit_mem (halves_lt b).1
  · exact hexDigit_mem (halves_lt b).2

end Bytes

/-! ## The text of a digest -/

/-- A text of the form that digests have: sixty-four lowercase digits. -/
structure IsDigestText (s : String) : Prop where
  length_eq : s.length = 64
  digits : ∀ c ∈ s.toList, c ∈ Bytes.hexDigits

theorem isDigestText_hexDigest (message : Bytes) : IsDigestText (Sha256.hexDigest message) where
  length_eq := by rw [Sha256.hexDigest, Bytes.length_hex, Sha256.length_digest]
  digits _ hc := Bytes.hex_written hc

theorem ChecksumGate.expected?_of_isRequired {declared : String} {enabled : Bool}
    (h : (of (some declared) enabled).isRequired = true) :
    (of (some declared) enabled).expected? = some declared := by
  obtain ⟨e, he⟩ := Option.isSome_iff_exists.1 h
  have hdeclared : some declared = some e :=
    (Option.filter_eq_some_iff.1 (by simpa only [of] using he)).1
  rw [he, hdeclared]

theorem ChecksumGate.isMismatch_hexDigest {gate : ChecksumGate} {expected : String}
    (hgate : gate.expected? = some expected) (hform : ¬ IsDigestText expected) (message : Bytes) :
    gate.isMismatch (Sha256.hexDigest message) = true := by
  have hne : expected ≠ Sha256.hexDigest message := by
    rintro rfl
    exact hform (isDigestText_hexDigest message)
  rw [show gate = ⟨some expected⟩ from congrArg ChecksumGate.mk hgate, isMismatch_some]
  exact hne

namespace Sha256

open Hasher

/-- **A body that is verified as it streams in.** However it is cut into pieces, the hasher ends with
the 32 octets of its digest, and their text is sixty-four lowercase digits that can be read back. So
two ways to cut one body pass the same gates, and a declared checksum that is compared and has
another form is a mismatch for every body. -/
theorem stream_verified (pieces : List Bytes) :
    (new.updateAll pieces).finish = digest pieces.flatten ∧
    (new.updateAll pieces).finish.length = 32 ∧
    (new.updateAll pieces).finishHex = hexDigest pieces.flatten ∧
    IsDigestText (new.updateAll pieces).finishHex ∧
    Bytes.ofHex? (new.updateAll pieces).finishHex = some (digest pieces.flatten) ∧
    (∀ others : List Bytes, others.flatten = pieces.flatten → ∀ gate : ChecksumGate,
      gate.isMismatch (new.updateAll others).finishHex =
        gate.isMismatch (new.updateAll pieces).finishHex) ∧
    ∀ (declared : String) (enabled : Bool),
      (ChecksumGate.of (some declared) enabled).isRequired = true → ¬ IsDigestText declared →
        (ChecksumGate.of (some declared) enabled).isMismatch (new.updateAll pieces).finishHex =
          true := by
  have hfinish := finish_updateAll pieces
  have hhex := finishHex_updateAll pieces
  refine ⟨hfinish, ?_, hhex, ?_, ?_, ?_, ?_⟩
  · rw [hfinish, length_digest]
  · rw [hhex]
    exact isDigestText_hexDigest _
  · rw [hhex, hexDigest, Bytes.ofHex?_hex]
  · intro others hsame gate
    rw [hhex, finishHex_updateAll, hsame]
  · intro declared enabled hrequired hform
    rw [hhex]
    exact ChecksumGate.isMismatch_hexDigest (ChecksumGate.expected?_of_isRequired hrequired) hform _

/-- The digest of "abc", in capitals. -/
def digestInCapitals : String :=
  "BA7816BF8F01CFEA414140DE5DAE2223B00361A396177A9CB410FF61F20015AD"

/-- The octets of "abc" cut in two ways, and their digest in capitals as the declared checksum. -/
theorem stream_verified_capitals :
    [[0x61, 0x62], [0x63]].flatten = ([[0x61], [], [0x62, 0x63]] : List Bytes).flatten ∧
    (ChecksumGate.of (some digestInCapitals) true).isRequired = true ∧
    ¬ IsDigestText digestInCapitals ∧
    (∀ gate : ChecksumGate,
      gate.isMismatch (new.updateAll [[0x61, 0x62], [0x63]]).finishHex =
        gate.isMismatch (new.updateAll [[0x61], [], [0x62, 0x63]]).finishHex) ∧
    (ChecksumGate.of (some digestInCapitals) true).isMismatch
      (new.updateAll [[0x61], [], [0x62, 0x63]]).finishHex = true := by
  have hrequired : (ChecksumGate.of (some digestInCapitals) true).isRequired = true := by decide +kernel
  have hform : ¬ IsDigestText digestInCapitals := fun h =>
    absurd (h.digits 'B' (by decide +kernel)) (by decide)
  obtain ⟨-, -, -, -, -, hcuts, hother⟩ := stream_verified [[0x61], [], [0x62, 0x63]]
  exact ⟨rfl, hrequired, hform, hcuts _ rfl, hother _ _ hrequired hform⟩

end Sha256

end Replica
