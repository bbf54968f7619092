/-!
# Integers and their digits

* `natText`, `intText`: an integer in decimal digits;
* `ofDigits`: the number that digits of any base write. Neighbours are joined to digits of the
  square of the base until one is left, so that long numbers are made of factors of one size;
* **`ofDigits_eq_foldl`**: it is the number that taking one digit after the other gives;
* `natText_inj`: no two numbers have the same digits.
-/

namespace Replica

/-- A natural number in decimal digits. -/
def natText (n : Nat) : String := String.ofList (Nat.toDigits 10 n)

/-- An integer in decimal digits, a minus in front of a negative one. -/
def intText (n : Int) : String := if n < 0 then "-" ++ natText n.natAbs else natText n.natAbs

theorem isDigit_of_mem_natText {n : Nat} {c : Char} (h : c ∈ (natText n).toList) :
    c.isDigit = true := by
  rw [natText, String.toList_ofList] at h
  exact Nat.isDigit_of_mem_toDigits (by decide) (by decide) h

theorem natText_inj {m n : Nat} : natText m = natText n ↔ m = n := by
  refine ⟨fun h => ?_, fun h => h ▸ rfl⟩
  have hdigits : Nat.toDigits 10 m = Nat.toDigits 10 n := String.ofList_inj.1 h
  calc m = Nat.ofDigitChars 10 (Nat.toDigits 10 m) 0 := Nat.ofDigitChars_ten_toDigits.symm
    _ = Nat.ofDigitChars 10 (Nat.toDigits 10 n) 0 := by rw [hdigits]
    _ = n := Nat.ofDigitChars_ten_toDigits

/-! ## The number that digits write -/

/-- Digits of the square of a base from digits of the base, the lowest first. -/
def joinPairs (base : Nat) : List Nat → List Nat
  | low :: high :: rest => (low + base * high) :: joinPairs base rest
  | digits => digits

theorem length_joinPairs_le (base : Nat) (digits : List Nat) :
    (joinPairs base digits).length ≤ digits.length := by
  fun_induction joinPairs base digits with
  | case1 low high rest ih => simp only [List.length_cons]; omega
  | case2 => exact Nat.le_refl _

/-- The number with the given digits, the lowest first. -/
def ofLowDigits (base : Nat) : List Nat → Nat
  | [] => 0
  | [digit] => digit
  | low :: high :: rest => ofLowDigits (base * base) ((low + base * high) :: joinPairs base rest)
termination_by digits => digits.length
decreasing_by
  have := length_joinPairs_le base rest
  simp only [List.length_cons]
  omega

/-- **The number with the given digits**, the highest first. -/
def ofDigits (base : Nat) (digits : List Nat) : Nat := ofLowDigits base digits.reverse

theorem foldr_joinPairs (base : Nat) (digits : List Nat) :
    (joinPairs base digits).foldr (fun d n => d + base * base * n) 0 =
      digits.foldr (fun d n => d + base * n) 0 := by
  fun_induction joinPairs base digits with
  | case1 low high rest ih =>
    rw [List.foldr_cons, ih, List.foldr_cons, List.foldr_cons, Nat.mul_add, Nat.mul_assoc,
      Nat.add_assoc]
  | case2 digits h =>
    cases digits with
    | nil => rfl
    | cons d rest =>
      cases rest with
      | nil => rfl
      | cons e rest => exact absurd rfl (h d e rest)

theorem ofLowDigits_eq_foldr (base : Nat) (digits : List Nat) :
    ofLowDigits base digits = digits.foldr (fun d n => d + base * n) 0 := by
  fun_induction ofLowDigits base digits with
  | case1 => rfl
  | case2 => rfl
  | case3 base low high rest ih =>
    rw [ih]
    exact foldr_joinPairs base (low :: high :: rest)

/-- **Taking one digit after the other** gives the same number. -/
theorem ofDigits_eq_foldl (base : Nat) (digits : List Nat) :
    ofDigits base digits = digits.foldl (fun n d => base * n + d) 0 := by
  rw [ofDigits, ofLowDigits_eq_foldr, List.foldr_reverse]
  congr
  funext n d
  exact Nat.add_comm _ _

end Replica
