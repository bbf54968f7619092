import Replica.Toml.Moment
import Replica.Bytes

/-!
# Numbers of a TOML document

* `digitRun`: digits, with single underscores between them;
* `radixInteger`: a hexadecimal, octal or binary integer behind its mark;
* `decimal`: an integer, or a number with a fraction or an exponent. Integers are those of 64 bits
  with sign. A number too large for the floating-point format is an error if positive and negative
  infinity if negative;
* `exponentOf`: the exponent that digits write, which stops growing once it is far beyond use;
* **`number`**: a number in any form.
-/

namespace Replica.Toml

/-- Behind a digit: further digits, each possibly after one underscore. -/
def moreDigits (p : Char → Bool) : List Char → Option (List Char × List Char)
  | [] => some ([], [])
  | c :: rest =>
    if p c then (moreDigits p rest).map fun r => (c :: r.1, r.2)
    else if c = '_' then
      match rest with
      | d :: rest' => if p d then (moreDigits p rest').map fun r => (d :: r.1, r.2) else none
      | [] => none
    else some ([], c :: rest)

/-- A digit and what may follow it, the underscores left out. -/
def digitRun (p : Char → Bool) : List Char → Option (List Char × List Char)
  | [] => none
  | c :: rest => if p c then (moreDigits p rest).map fun r => (c :: r.1, r.2) else none

/-- The greatest integer that a document can hold, `2 ^ 63 - 1`. -/
def maxInteger : Nat := 0x7fffffffffffffff

/-- The integers that a document can hold. -/
def inIntegerRange (n : Int) : Bool := -(maxInteger : Int) - 1 ≤ n && n ≤ maxInteger

/-- An integer, if it can be held. -/
def integerValue (n : Int) (rest : List Char) : Option (Value × List Char) :=
  if inIntegerRange n then some (.integer n, rest) else none

/-- A digit of the given base. -/
def isRadixDigit (base : Nat) (c : Char) : Bool :=
  match Bytes.hexValue? c with
  | some n => decide (n < base)
  | none => false

/-- An integer in base 16, 8 or 2, behind the mark of its base. -/
def radixInteger (base : Nat) (s : List Char) : Option (Value × List Char) := do
  let (digits, rest) ← digitRun (isRadixDigit base) s
  let n := ofDigits base (digits.map fun c => (Bytes.hexValue? c).getD 0)
  integerValue n rest

/-- A sign, if one comes next, and whether it is a minus. -/
def sign : List Char → Bool × List Char
  | '+' :: rest => (false, rest)
  | '-' :: rest => (true, rest)
  | s => (false, s)

/-- The integer part of a decimal number: a zero alone, or digits that begin with another. -/
def integerPart : List Char → Option (List Char × List Char)
  | '0' :: rest => some (['0'], rest)
  | s => digitRun isDigit s

/-- An exponent of this size or more takes no further digits. -/
def exponentFull : Nat := 0x10000

/-- The number that the digits of an exponent write, up to the digit that brings it to
`exponentFull`; those behind do not count. -/
def exponentOf (digits : List Char) : Nat :=
  digits.foldl (fun n c => if n < exponentFull then 10 * n + digitValue c else n) 0

/-- An exponent, if one follows. -/
def exponent? : List Char → Option (Option Int × List Char)
  | c :: rest =>
    if c = 'e' ∨ c = 'E' then
      let (negative, rest) := sign rest
      (digitRun isDigit rest).map fun r =>
        (some (if negative then -(exponentOf r.1 : Int) else exponentOf r.1), r.2)
    else some (none, c :: rest)
  | [] => some (none, [])

/-- A fraction, if one follows. -/
def fraction? : List Char → Option (Option (List Char) × List Char)
  | '.' :: rest => (digitRun isDigit rest).map fun r => (some r.1, r.2)
  | s => some (none, s)

/-- A floating-point number, unless it lies beyond the largest one. -/
def floatValue (negative : Bool) (digits : List Char) (exponent : Int) (rest : List Char) :
    Option (Value × List Char) :=
  let x := Binary64.ofDecimal negative (digits.map digitValue) exponent
  if x = .infinite false then none else some (.float x, rest)

/-- A decimal number behind its sign. -/
def decimal (negative : Bool) (s : List Char) : Option (Value × List Char) := do
  let (whole, s) ← integerPart s
  let (part, s) ← fraction? s
  let (exponent, s) ← exponent? s
  match part, exponent with
  | none, none =>
    let n : Int := numberOf whole
    integerValue (if negative then -n else n) s
  | _, _ =>
    let places := part.getD []
    floatValue negative (whole ++ places) (exponent.getD 0 - places.length) s

/-- An infinity or the value that is no number, behind its sign. -/
def special? (negative : Bool) : List Char → Option (Value × List Char)
  | 'i' :: 'n' :: 'f' :: rest => some (.float (.infinite negative), rest)
  | 'n' :: 'a' :: 'n' :: rest => some (.float .nan, rest)
  | _ => none

/-- **A number in any form.** A mark of a base stands only in front of an unsigned number. -/
def number (s : List Char) : Option (Value × List Char) :=
  match s with
  | '0' :: 'x' :: rest => radixInteger 16 rest
  | '0' :: 'o' :: rest => radixInteger 8 rest
  | '0' :: 'b' :: rest => radixInteger 2 rest
  | s =>
    let (negative, rest) := sign s
    match special? negative rest with
    | some r => some r
    | none => decimal negative rest

end Replica.Toml
