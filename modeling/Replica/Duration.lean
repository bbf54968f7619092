/-!
# Durations and backoff

A duration is a count of seconds below `2 ^ 64` and of nanoseconds below `10 ^ 9`.

* `Duration.scale?`: a multiple, if it is still a duration, with the carry from the nanoseconds;
* `Duration.scale`: the multiple, or the largest duration in its place;
* `backoff`: the delay before a further attempt, doubling from attempt to attempt. The doubling
  factor is a number below `2 ^ 32`, so from attempt 32 on the delay is zero or the largest.
-/

namespace Replica

/-- A span of time. -/
@[ext] structure Duration where
  secs : Nat
  nanos : Nat
  secs_lt : secs < 0x10000000000000000
  nanos_lt : nanos < 1000000000
  deriving DecidableEq

namespace Duration

/-- No time. -/
def zero : Duration := ⟨0, 0, by decide, by decide⟩

/-- The largest duration. -/
def max : Duration := ⟨0xffffffffffffffff, 999999999, by decide, by decide⟩

instance : Inhabited Duration := ⟨zero⟩

/-- The duration is no time. -/
def isZero (d : Duration) : Bool := d.secs == 0 && d.nanos == 0

/-- The whole span in nanoseconds. -/
def toNanos (d : Duration) : Nat := d.secs * 1000000000 + d.nanos

/-- Durations are compared by their seconds first, then by their nanoseconds. -/
instance : LE Duration := ⟨fun a b => a.secs < b.secs ∨ a.secs = b.secs ∧ a.nanos ≤ b.nanos⟩

/-- Seconds and any number of nanoseconds, the whole seconds among these carried over. -/
def ofParts? (secs nanos : Nat) : Option Duration :=
  if h : secs + nanos / 1000000000 < 0x10000000000000000 then
    some ⟨secs + nanos / 1000000000, nanos % 1000000000, h, Nat.mod_lt _ (by decide)⟩
  else none

/-- A number of seconds, if it is a duration. -/
def ofSecs? (secs : Nat) : Option Duration := ofParts? secs 0

/-- A number of milliseconds, if it is a duration. -/
def ofMillis? (ms : Nat) : Option Duration := ofParts? (ms / 1000) (ms % 1000 * 1000000)

/-- The multiple of a duration, if it is a duration. -/
def scale? (d : Duration) (factor : Nat) : Option Duration :=
  ofParts? (d.secs * factor) (d.nanos * factor)

/-- The multiple of a duration, cut off at the largest one. -/
def scale (d : Duration) (factor : Nat) : Duration := (d.scale? factor).getD max

theorem toNanos_of_ofParts? {secs nanos : Nat} {d : Duration} (h : ofParts? secs nanos = some d) :
    d.toNanos = secs * 1000000000 + nanos := by
  unfold ofParts? at h
  split at h
  · obtain rfl := Option.some.inj h
    simp only [toNanos]
    omega
  · cases h

end Duration

/-- The delay before attempt number `attempt`, counted from zero, of a task with this base delay. -/
def backoff (attempt : Nat) (base : Duration) : Duration :=
  if attempt < 32 then base.scale (Nat.pow 2 attempt)
  else if base.isZero then Duration.zero
  else Duration.max

end Replica
