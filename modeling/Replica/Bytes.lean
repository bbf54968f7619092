/-!
# Octets and their texts

A blob, a response body and a file are lists of octets.

* `octets`, `Bytes.text?`: UTF-8, by the standard library's encoder and validator;
* `Bytes.hex`, `Bytes.ofHex?`: two digits an octet. They are written small, and capitals are read;
* `Bytes.bigEndian`: a number in a fixed count of octets, the most significant first.
-/

namespace Replica

/-- A sequence of octets. -/
abbrev Bytes : Type := List UInt8

/-- The UTF-8 octets of a text. -/
def octets (s : String) : Bytes := s.toUTF8.data.toList

namespace Bytes

/-- The text that these octets spell in UTF-8, if they do. -/
def text? (bs : Bytes) : Option String := String.fromUTF8? ⟨bs.toArray⟩

/-! ## Hexadecimal -/

/-- The lowercase digit of a value below sixteen. -/
def hexDigit (n : Nat) : Char := if n < 10 then Char.ofNat (48 + n) else Char.ofNat (87 + n)

/-- The two digits of an octet. -/
def hexPair (b : UInt8) : List Char := [hexDigit (b.toNat / 16), hexDigit (b.toNat % 16)]

/-- The lowercase hexadecimal text of a sequence of octets. -/
def hex (bs : Bytes) : String := String.ofList (bs.flatMap hexPair)

/-- The value of a hexadecimal digit in either case. -/
def hexValue? (c : Char) : Option Nat :=
  if '0' ≤ c ∧ c ≤ '9' then some (c.toNat - 48)
  else if 'a' ≤ c ∧ c ≤ 'f' then some (c.toNat - 87)
  else if 'A' ≤ c ∧ c ≤ 'F' then some (c.toNat - 55)
  else none

/-- The octets that a list of digits spells, two digits each. -/
def ofHexDigits? : List Char → Option Bytes
  | [] => some []
  | [_] => none
  | hi :: lo :: rest => do
    let h ← hexValue? hi
    let l ← hexValue? lo
    let bs ← ofHexDigits? rest
    return UInt8.ofNat (16 * h + l) :: bs

/-- The octets that a hexadecimal text spells. -/
def ofHex? (s : String) : Option Bytes := ofHexDigits? s.toList

/-! ## Numbers in octets -/

/-- The lowest `count` octets of `n`, the most significant first. -/
def bigEndian (count n : Nat) : Bytes :=
  (List.range count).reverse.map fun i => UInt8.ofNat (n / Nat.pow 256 i % 256)

theorem length_bigEndian (count n : Nat) : (bigEndian count n).length = count := by
  simp [bigEndian]

theorem length_hexPair (b : UInt8) : (hexPair b).length = 2 := rfl

end Bytes

theorem text?_octets (s : String) : (octets s).text? = some s := by
  have h : (⟨(octets s).toArray⟩ : ByteArray) = s.toUTF8 := by simp [octets]
  rw [Bytes.text?, h]
  simp [String.fromUTF8?, String.fromUTF8, String.isValidUTF8]

end Replica
