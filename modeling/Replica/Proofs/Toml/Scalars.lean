import Replica.Toml.Reader

/-!
# The values without parts

* `Value.IsScalar`: a value that holds no others, with an integer of 64 bits if it is one;
* `isScalar_of_number`: the numbers that are read;
* **`isScalar_of_scalar`**: the values without parts that are read.
-/

namespace Replica.Toml

/-- A value that holds no others, with an integer of 64 bits if any. -/
inductive Value.IsScalar : Value → Prop
  | string (s : String) : IsScalar (.string s)
  | integer {n : Int} (h : inIntegerRange n = true) : IsScalar (.integer n)
  | float (x : Binary64) : IsScalar (.float x)
  | boolean (b : Bool) : IsScalar (.boolean b)
  | moment (m : Moment) : IsScalar (.moment m)

/-! ## Numbers -/

theorem isScalar_of_integerValue {n : Int} {s rest : List Char} {v : Value}
    (h : integerValue n s = some (v, rest)) : v.IsScalar := by
  unfold integerValue at h
  split at h
  · cases h
    exact .integer ‹_›
  · cases h

theorem isScalar_of_radixInteger {base : Nat} {s rest : List Char} {v : Value}
    (h : radixInteger base s = some (v, rest)) : v.IsScalar := by
  obtain ⟨_, _, h⟩ := Option.bind_eq_some_iff.1 h
  exact isScalar_of_integerValue h

theorem isScalar_of_floatValue {negative : Bool} {digits s rest : List Char} {exponent : Int}
    {v : Value} (h : floatValue negative digits exponent s = some (v, rest)) : v.IsScalar := by
  unfold floatValue at h
  dsimp only at h
  split at h
  · cases h
  · cases h
    exact .float _

theorem isScalar_of_decimal {negative : Bool} {s rest : List Char} {v : Value}
    (h : decimal negative s = some (v, rest)) : v.IsScalar := by
  obtain ⟨_, _, h⟩ := Option.bind_eq_some_iff.1 h
  obtain ⟨_, _, h⟩ := Option.bind_eq_some_iff.1 h
  obtain ⟨_, _, h⟩ := Option.bind_eq_some_iff.1 h
  dsimp only at h
  split at h
  · exact isScalar_of_integerValue h
  · exact isScalar_of_floatValue h

theorem isScalar_of_special? {negative : Bool} {s rest : List Char} {v : Value}
    (h : special? negative s = some (v, rest)) : v.IsScalar := by
  unfold special? at h
  split at h
  · cases h
    exact .float _
  · cases h
    exact .float _
  · cases h

theorem isScalar_of_number {s rest : List Char} {v : Value} (h : number s = some (v, rest)) :
    v.IsScalar := by
  unfold number at h
  split at h
  · exact isScalar_of_radixInteger h
  · exact isScalar_of_radixInteger h
  · exact isScalar_of_radixInteger h
  · dsimp only at h
    split at h
    · cases h
      exact isScalar_of_special? ‹_›
    · exact isScalar_of_decimal h

/-- **A value without parts** is read as one. -/
theorem isScalar_of_scalar {s rest : List Char} {v : Value} (h : scalar s = some (v, rest)) :
    v.IsScalar := by
  unfold scalar at h
  split at h
  case h_1 | h_2 =>
    obtain ⟨r, _, hr⟩ := Option.map_eq_some_iff.1 h
    cases hr
    exact .string _
  case h_3 | h_4 =>
    cases h
    exact .boolean _
  case h_5 =>
    split at h
    · obtain ⟨r, _, hr⟩ := Option.map_eq_some_iff.1 h
      cases hr
      exact .moment _
    · exact isScalar_of_number h

end Replica.Toml
