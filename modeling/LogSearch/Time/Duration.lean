import LogSearch.Decimal.Shortest
import LogSearch.Json.Writer

/-!
# Durations

A span of time in whole nanoseconds, less than `2 ^ 64` seconds.

## What is here

* `Duration` — the type, with its text;
* `Duration.toSeconds` — the seconds as a double;
* `Duration.ofSeconds?` — a double of seconds, to the nearest nanosecond; nothing if it is negative,
  too large or no number;
* `roundDiv` — the quotient nearest to a fraction, the even one of two.
-/

set_option autoImplicit false
namespace LogSearch

/-- The whole number nearest to `num / den`; of two that are equally near, the even one. -/
def roundDiv (num den : Nat) : Nat :=
  let quotient := num / den
  let twice := 2 * (num % den)
  if twice < den then quotient
  else if den < twice then quotient + 1
  else if quotient % 2 == 0 then quotient
  else quotient + 1

namespace Time

/-- The nanoseconds of a second. -/
def nanosPerSecond : Nat := 1000000000

/-- A span of time. -/
structure Duration where
  nanoseconds : Nat
  deriving DecidableEq, Repr

namespace Duration

/-- So many seconds. -/
def ofWholeSeconds (n : Nat) : Duration := ⟨n * nanosPerSecond⟩

/-- The whole seconds of a duration. -/
def seconds (d : Duration) : Nat := d.nanoseconds / nanosPerSecond

/-- The nanoseconds behind the whole seconds. -/
def subsecond (d : Duration) : Nat := d.nanoseconds % nanosPerSecond

/-- The seconds as a double: the whole seconds plus the fraction, each rounded by itself. -/
def toSeconds (d : Duration) : Float :=
  d.seconds.toUInt64.toFloat + d.subsecond.toUInt64.toFloat / 1000000000.0

/-- The nanoseconds of a non-negative double of seconds, given by its bits. -/
def roundedNanoseconds (bits : UInt64) : Nat :=
  let b := Binary.ofBits bits
  if 0 ≤ b.exponent then b.mantissa * Nat.pow 2 b.exponent.toNat * nanosPerSecond
  else roundDiv (b.mantissa * nanosPerSecond) (Nat.pow 2 b.exponent.natAbs)

/-- A double of seconds to the nearest nanosecond. -/
def ofSeconds? (f : Float) : Option Duration :=
  if 0 ≤ f && f < 18446744073709551616.0 then some ⟨roundedNanoseconds f.toBits⟩ else none

/-- The whole seconds and nine digits of their fraction. -/
def text (d : Duration) : String :=
  String.ofList (Nat.toDigits 10 d.seconds ++ '.' :: Json.padded 9 d.subsecond)

/-- The seconds to one digit behind the point. -/
def roughText (d : Duration) : String :=
  let tenths := roundDiv d.nanoseconds (nanosPerSecond / 10)
  String.ofList (Nat.toDigits 10 (tenths / 10) ++ '.' :: Nat.toDigits 10 (tenths % 10))

end Duration

end Time

end LogSearch
