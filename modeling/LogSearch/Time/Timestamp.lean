import LogSearch.Json.Writer
import LogSearch.Time.Date

/-!
# Timestamps

A day and a time of day in UTC, down to the nanosecond.  The second `60` is a leap second and may
follow any minute.

## What is here

* `Timestamp` — the type, with `Timestamp.isBefore` for its order;
* `Timestamp.shift?` — moves a timestamp by minutes, `Timestamp.hourBefore?` by an hour;
* `Timestamp.format` — the text that is sent, `Timestamp.display` the one that people read.
-/

set_option autoImplicit false
namespace LogSearch.Time

/-- A point in time. -/
structure Timestamp where
  date : Date
  hour : Nat
  minute : Nat
  second : Nat
  nanosecond : Nat
  hour_lt : hour < 24
  minute_lt : minute < 60
  second_le : second ≤ 60
  nanosecond_lt : nanosecond < 1000000000
  deriving DecidableEq, Repr

namespace Timestamp

/-- The timestamp with the given numbers, if there is such a time of day. -/
def of? (date : Date) (hour minute second nanosecond : Nat) : Option Timestamp :=
  if h : (hour < 24 ∧ minute < 60) ∧ second ≤ 60 ∧ nanosecond < 1000000000 then
    some ⟨date, hour, minute, second, nanosecond, h.1.1, h.1.2, h.2.1, h.2.2⟩
  else none

/-- The start of a day. -/
def midnight (date : Date) : Timestamp :=
  ⟨date, 0, 0, 0, 0, by decide, by decide, by decide, by decide⟩

/-- The order of timestamps. -/
def compare (a b : Timestamp) : Ordering :=
  (a.date.compare b.date).then <| (Ord.compare a.hour b.hour).then <|
    (Ord.compare a.minute b.minute).then <| (Ord.compare a.second b.second).then <|
    Ord.compare a.nanosecond b.nanosecond

/-- Whether one timestamp is before another. -/
def isBefore (a b : Timestamp) : Bool := a.compare b == .lt

/-! ## Moving -/

/-- Moves the time of day to another minute of the same day. -/
def setMinutes (t : Timestamp) (date : Date) (minutes : Nat) : Option Timestamp :=
  of? date (minutes / 60) (minutes % 60) t.second t.nanosecond

/-- Moves a timestamp by less than a day of minutes; seconds stay as they are.  Nothing comes out if
that leaves the calendar. -/
def shift? (t : Timestamp) (minutes : Int) : Option Timestamp :=
  let total : Int := Int.ofNat (t.hour * 60 + t.minute) + minutes
  if total < 0 then t.date.previous?.bind fun date => t.setMinutes date (total + 1440).toNat
  else if total < 1440 then t.setMinutes t.date total.toNat
  else t.date.next?.bind fun date => t.setMinutes date (total - 1440).toNat

/-- The timestamp an hour before.  A leap second counts as the start of the minute behind it. -/
def hourBefore? (t : Timestamp) : Option Timestamp :=
  if t.second = 60 then { t with second := 0, second_le := by decide }.shift? (-59)
  else t.shift? (-60)

/-! ## Texts -/

/-- A year: four digits at least, with a sign outside the first ten thousand years. -/
def yearText (year : Int) : List Char :=
  if 0 ≤ year && year ≤ 9999 then Json.padded 4 year.toNat
  else (if year < 0 then '-' else '+') :: Json.padded 4 year.natAbs

/-- The fraction of a second in as many groups of three digits as it needs. -/
def fractionText (nanosecond : Nat) : List Char :=
  if nanosecond == 0 then []
  else if nanosecond % 1000000 == 0 then '.' :: Json.padded 3 (nanosecond / 1000000)
  else if nanosecond % 1000 == 0 then '.' :: Json.padded 6 (nanosecond / 1000)
  else '.' :: Json.padded 9 nanosecond

/-- The text of a timestamp with `separator` between day and time. -/
def write (separator : Char) (t : Timestamp) : List Char :=
  yearText t.date.year ++ '-' :: Json.padded 2 t.date.month ++ '-' :: Json.padded 2 t.date.day ++
    separator :: Json.padded 2 t.hour ++ ':' :: Json.padded 2 t.minute ++
    ':' :: Json.padded 2 t.second ++ fractionText t.nanosecond

/-- The text that is sent. -/
def format (t : Timestamp) : String := String.ofList (t.write 'T')

/-- The text for people. -/
def display (t : Timestamp) : String := String.ofList (t.write ' ')

end Timestamp

end LogSearch.Time
