import Replica.Decimal.Digits

/-!
# Numbers of 53 binary digits

The finite numbers of the format are `m * 2 ^ e` with `m < 2 ^ 53` and `-1074 ≤ e ≤ 971`.

* `halfEven`: a quotient rounded to the nearest integer, a tie to the even one;
* `Binary64.ofRatio`: the nearest number to a positive quotient, beyond the range an infinity;
* `Binary64.ofDecimal`: the nearest number to decimal digits times a power of ten.
-/

namespace Replica

/-- A floating-point number of the 64-bit binary format. -/
inductive Binary64 where
  | nan
  | infinite (negative : Bool)
  | finite (negative : Bool) (mantissa : Nat) (exponent : Int)
  deriving DecidableEq, Repr

namespace Binary64

instance : Inhabited Binary64 := ⟨nan⟩

/-- `num / den` rounded to the nearest integer, a tie to the even one. -/
def halfEven (num den : Nat) : Nat :=
  let q := num / den
  let r := num % den
  if 2 * r < den then q else if den < 2 * r then q + 1 else q + q % 2

/-- The binary exponent of a positive quotient: the `k` with `2 ^ k ≤ num / den < 2 ^ (k + 1)`. -/
def binaryExponent (num den : Nat) : Int :=
  let k : Int := (Nat.log2 num : Int) - Nat.log2 den
  if num * Nat.pow 2 (-k).toNat < den * Nat.pow 2 k.toNat then k - 1 else k

/-- The nearest number to a quotient, with the given sign. -/
def ofRatio (negative : Bool) (num den : Nat) : Binary64 :=
  if num = 0 then finite negative 0 (-1074)
  else
    let e : Int := Max.max (binaryExponent num den - 52) (-1074)
    let m := halfEven (num * Nat.pow 2 (-e).toNat) (den * Nat.pow 2 e.toNat)
    let (m, e) := if m = 0x20000000000000 then (0x10000000000000, e + 1) else (m, e)
    if 971 < e then infinite negative else finite negative m e

/-- The nearest number to the one with these digits, times `10 ^ exponent`. An exponent that lifts
the value far above or pushes it far below the range is decided by the count of digits alone. -/
def ofDecimal (negative : Bool) (digits : List Nat) (exponent : Int) : Binary64 :=
  let significant := digits.dropWhile (· == 0)
  let size : Int := significant.length + exponent
  if significant.isEmpty ∨ size < -400 then finite negative 0 (-1074)
  else if 400 < size then infinite negative
  else
    ofRatio negative (ofDigits 10 significant * Nat.pow 10 exponent.toNat)
      (Nat.pow 10 (-exponent).toNat)

end Binary64

end Replica
