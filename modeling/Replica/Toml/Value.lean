import Replica.Decimal.Binary64

/-!
# Values of a TOML document

* `Moment`: a date, a time, or both, possibly with an offset from universal time;
* `Value`: what a key can stand for. A table keeps its entries in document order.
-/

namespace Replica.Toml

/-- A day of the calendar. -/
structure Date where
  year : Nat
  month : Nat
  day : Nat
  deriving DecidableEq, Repr

/-- A time of day. -/
structure Time where
  hour : Nat
  minute : Nat
  second : Nat
  nanosecond : Nat
  deriving DecidableEq, Repr

/-- A distance from universal time. -/
inductive Offset where
  | utc
  | minutes (n : Int)
  deriving DecidableEq, Repr

/-- A date, a time of day, or both. -/
structure Moment where
  date? : Option Date
  time? : Option Time
  offset? : Option Offset
  deriving DecidableEq, Repr

/-- A value. An array written as repeated table headers is marked as such. -/
inductive Value where
  | string (s : String)
  | integer (n : Int)
  | float (x : Binary64)
  | boolean (b : Bool)
  | moment (m : Moment)
  | array (ofTables : Bool) (items : List Value)
  | table (entries : List (String × Value))
  deriving Repr

instance : Inhabited Value := ⟨.boolean false⟩

/-! ## The text of a moment -/

/-- A number with zeros in front up to the given width. -/
def padded (width n : Nat) : String :=
  let digits := Nat.toDigits 10 n
  String.ofList (List.replicate (width - digits.length) '0' ++ digits)

/-- A date with four digits for the year. -/
def Date.text (d : Date) : String :=
  padded 4 d.year ++ "-" ++ padded 2 d.month ++ "-" ++ padded 2 d.day

/-- The fraction of a second is written without the zeros at its end, and not at all if zero. -/
def Time.text (t : Time) : String :=
  let fraction :=
    if t.nanosecond = 0 then ""
    else
      let digits := (padded 9 t.nanosecond).toList.reverse.dropWhile (· == '0')
      "." ++ String.ofList digits.reverse
  padded 2 t.hour ++ ":" ++ padded 2 t.minute ++ ":" ++ padded 2 t.second ++ fraction

/-- Hours and minutes with a sign in front, or a `Z`. -/
def Offset.text : Offset → String
  | utc => "Z"
  | minutes n =>
    (if n < 0 then "-" else "+") ++ padded 2 (n.natAbs / 60) ++ ":" ++ padded 2 (n.natAbs % 60)

/-- A date, a `T` if a time follows, the time and the offset. -/
def Moment.text (m : Moment) : String :=
  let date := (m.date?.map Date.text).getD ""
  let mark := if m.date?.isSome && m.time?.isSome then "T" else ""
  date ++ mark ++ (m.time?.map Time.text).getD "" ++ (m.offset?.map Offset.text).getD ""

end Replica.Toml
