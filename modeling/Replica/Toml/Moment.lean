import Replica.Decimal.Digits
import Replica.Toml.Lexical
import Replica.Toml.Value

/-!
# Dates and times of a TOML document

A value is a moment when it begins with four digits and `-`, or with two digits and `:`; from there
on anything that does not fit is an error.

* `date`: a day that exists, leap years included;
* `time`: with seconds up to 60, and a fraction of which nine digits count;
* **`moment`**: a date with or without a time and an offset, or a time alone.
-/

namespace Replica.Toml

/-- The value of a decimal digit. -/
def digitValue (c : Char) : Nat := c.toNat - 48

/-- The number that a list of digits writes. -/
def numberOf (digits : List Char) : Nat := ofDigits 10 (digits.map digitValue)

/-- The next `count` characters are digits. -/
def startsDigits (count : Nat) (s : List Char) : Bool :=
  (s.take count).length == count && (s.take count).all isDigit

/-- A number of exactly `count` digits, between two bounds. -/
def fixedNumber (count least most : Nat) (s : List Char) : Option (Nat × List Char) :=
  if startsDigits count s then
    let n := numberOf (s.take count)
    if least ≤ n ∧ n ≤ most then some (n, s.drop count) else none
  else none

/-- A year with 366 days. -/
def isLeapYear (year : Nat) : Bool := year % 4 == 0 && (year % 100 != 0 || year % 400 == 0)

/-- How many days a month has, which is counted from one. -/
def daysInMonth (year month : Nat) : Nat :=
  if month = 2 then if isLeapYear year then 29 else 28
  else if month = 4 ∨ month = 6 ∨ month = 9 ∨ month = 11 then 30
  else 31

/-- A day of the calendar. -/
def date : Parser Date := fun s => do
  let (year, s) ← fixedNumber 4 0 9999 s
  let s ← expect '-' s
  let (month, s) ← fixedNumber 2 1 12 s
  let s ← expect '-' s
  let (day, s) ← fixedNumber 2 1 (daysInMonth year month) s
  return (⟨year, month, day⟩, s)

/-- The fraction of a second, if one follows; digits beyond the ninth are dropped. -/
def fraction : List Char → Nat × List Char
  | '.' :: rest =>
    let digits := rest.takeWhile isDigit
    if digits.isEmpty then (0, '.' :: rest)
    else
      let kept := digits.take 9
      (numberOf kept * Nat.pow 10 (9 - kept.length), rest.dropWhile isDigit)
  | s => (0, s)

/-- A time of day. -/
def time : Parser Time := fun s => do
  let (hour, s) ← fixedNumber 2 0 23 s
  let s ← expect ':' s
  let (minute, s) ← fixedNumber 2 0 59 s
  let s ← expect ':' s
  let (second, s) ← fixedNumber 2 0 60 s
  let (nanosecond, s) := fraction s
  return (⟨hour, minute, second, nanosecond⟩, s)

/-- Hours and minutes of an offset, in minutes. -/
def offsetMinutes : Parser Int := fun s => do
  let (hours, s) ← fixedNumber 2 0 23 s
  let s ← expect ':' s
  let (minutes, s) ← fixedNumber 2 0 59 s
  return (hours * 60 + minutes, s)

/-- The offset behind a time, if one follows. -/
def offset? : Parser (Option Offset)
  | 'Z' :: rest => some (some .utc, rest)
  | 'z' :: rest => some (some .utc, rest)
  | '+' :: rest => (offsetMinutes rest).map fun r => (some (.minutes r.1), r.2)
  | '-' :: rest => (offsetMinutes rest).map fun r => (some (.minutes (-r.1)), r.2)
  | s => some (none, s)

/-- Four digits and `-` come next. -/
def startsDate (s : List Char) : Bool := startsDigits 4 s && (s.drop 4).head? == some '-'

/-- Two digits and `:` come next. -/
def startsTime (s : List Char) : Bool := startsDigits 2 s && (s.drop 2).head? == some ':'

/-- The characters behind the mark between a date and a time, if a time follows it. -/
def timeMark : List Char → Option (List Char)
  | c :: rest => if (c == 'T' || c == 't' || c == ' ') && startsTime rest then some rest else none
  | [] => none

/-- **A date, a date with a time, or a time.** -/
def moment : Parser Moment := fun s =>
  if startsDate s then do
    let (d, s) ← date s
    match timeMark s with
    | none => return (⟨some d, none, none⟩, s)
    | some s => do
      let (t, s) ← time s
      let (o, s) ← offset? s
      return (⟨some d, some t, o⟩, s)
  else (time s).map fun r => (⟨none, some r.1, none⟩, r.2)

end Replica.Toml
