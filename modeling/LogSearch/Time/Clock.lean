import LogSearch.Time.Timestamp

/-!
# The clock

Clocks count seconds from the first of January 1970 in UTC.

## What is here

* `Date.after?` — the day so many days later;
* `Timestamp.ofClock?` — the timestamp of so many seconds and nanoseconds.
-/

set_option autoImplicit false
namespace LogSearch.Time

/-- The day so many days later, unless it is after all years. -/
def Date.after? : Nat → Date → Option Date
  | 0, d => some d
  | days + 1, d => d.next?.bind (after? days)

/-- The day clocks count from. -/
def Date.epoch : Date := ⟨1970, 1, 1, by decide⟩

/-- The timestamp of a clock. -/
def Timestamp.ofClock? (seconds nanosecond : Nat) : Option Timestamp := do
  let date ← Date.after? (seconds / 86400) .epoch
  let second := seconds % 86400
  Timestamp.of? date (second / 3600) (second / 60 % 60) (second % 60) nanosecond

end LogSearch.Time
