import Replica.Decimal.Binary64

/-!
# The shortest decimal of a binary number

The text of a number has the fewest significant digits that still round to it, and of those the
ones nearest to it; of two that are equally near, those further from zero. The digits are written
positionally, never with an exponent, and a whole number keeps `.0`.

* `Shortest.within`: the decimals that round to a number form an interval, whose ends belong to it
  when the mantissa is even;
* `Shortest.search`: the first grid of decimals with a point in the interval;
* `Binary64.text`.
-/

namespace Replica

namespace Shortest

/-- The interval of the reals that round to `m * 2 ^ e`, in quarters of `2 ^ e`: its two ends, and
whether they belong to it. -/
def ends (m : Nat) (e : Int) : Nat × Nat × Bool :=
  (if m = 0x10000000000000 ∧ -1074 < e then 4 * m - 1 else 4 * m - 2, 4 * m + 2, m % 2 = 0)

/-- `c * 10 ^ g` lies in the interval; `quarter` is the quotient `2 ^ e / 4`. -/
def within (bounds : Nat × Nat × Bool) (quarter : Nat × Nat) (c : Nat) (g : Int) : Bool :=
  let x := c * Nat.pow 10 g.toNat * quarter.2
  let unit := quarter.1 * Nat.pow 10 (-g).toNat
  if bounds.2.2 then decide (bounds.1 * unit ≤ x ∧ x ≤ bounds.2.1 * unit)
  else decide (bounds.1 * unit < x ∧ x < bounds.2.1 * unit)

/-- The first `k` from `start` on, at most `fuel` further, with `num / den < 10 ^ k`. -/
def decimalExponent (num den : Nat) : (fuel : Nat) → (start : Int) → Int
  | 0, k => k
  | fuel + 1, k =>
    if num * Nat.pow 10 (-k).toNat < den * Nat.pow 10 k.toNat then k
    else decimalExponent num den fuel (k + 1)

/-- From `n` digits on, the grid on which a neighbour of the value rounds to it, and that
neighbour; of two the nearer, and of two equally near the upper. -/
def search (m : Nat) (e : Int) (num den : Nat) (k : Int) : (fuel n : Nat) → Nat × Int
  | 0, n => (num * Nat.pow 10 (n - k).toNat / (den * Nat.pow 10 (k - n).toNat), k - n)
  | fuel + 1, n =>
    let g := k - n
    let bounds := ends m e
    let quarter := (Nat.pow 2 (e - 2).toNat, Nat.pow 2 (2 - e).toNat)
    let top := num * Nat.pow 10 (-g).toNat
    let unit := den * Nat.pow 10 g.toNat
    let low := top / unit
    let lowFits := within bounds quarter low g
    let highFits := within bounds quarter (low + 1) g
    if lowFits && (!highFits || decide (2 * (top % unit) < unit)) then (low, g)
    else if highFits then (low + 1, g)
    else search m e num den k fuel (n + 1)

/-- The digits of a positive number and the power of ten they count. -/
def decimal (m : Nat) (e : Int) : Nat × Int :=
  let num := m * Nat.pow 2 e.toNat
  let den := Nat.pow 2 (-e).toNat
  search m e num den (decimalExponent num den 700 (-330)) 17 1

/-- Digits without the zeros at their end, and the power of ten made up for them. -/
def stripZeros : (fuel : Nat) → Nat → Int → Nat × Int
  | 0, c, g => (c, g)
  | fuel + 1, c, g => if c % 10 = 0 ∧ c ≠ 0 then stripZeros fuel (c / 10) (g + 1) else (c, g)

/-- `c * 10 ^ g` with a decimal point. -/
def positional (c : Nat) (g : Int) : String :=
  let digits := Nat.toDigits 10 c
  let point : Int := digits.length + g
  let zeros (n : Int) := List.replicate n.toNat '0'
  String.ofList <|
    if point ≤ 0 then '0' :: '.' :: zeros (-point) ++ digits
    else if 0 ≤ g then digits ++ zeros g ++ ['.', '0']
    else digits.take point.toNat ++ '.' :: digits.drop point.toNat

end Shortest

/-- **The shortest decimal text of a number.** -/
def Binary64.text : Binary64 → String
  | .nan => "NaN"
  | .infinite negative => if negative then "-inf" else "inf"
  | .finite negative m e =>
    let body :=
      if m = 0 then "0.0"
      else
        let d := Shortest.decimal m e
        let s := Shortest.stripZeros 20 d.1 d.2
        Shortest.positional s.1 s.2
    if negative then "-" ++ body else body

end Replica
