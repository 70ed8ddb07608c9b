/-!
# The shortest decimal that reads back

A double precision number has many decimal texts that are nearer to it than to any other double.
The one to write is the shortest of them, and of several that are equally short the nearest.

The search is by grids: for one digit, two digits, up to seventeen, the two neighbours of the value
on the decimal grid with that many digits are tested in exact arithmetic, and the first grid with a
hit wins.  That is right because if any point of a grid reads back, so does one of the value's two
neighbours on that grid.

## What is here

* `Decimal` — an integer times a power of ten;
* `Binary` — the magnitude of a double, an integer times a power of two, with the interval of reals
  that round to it;
* `Decimal.shortest` — the shortest decimal of a positive magnitude.
-/

set_option autoImplicit false
namespace LogSearch

/-- The number `digits * 10 ^ exponent`. -/
structure Decimal where
  digits : Nat
  exponent : Int
  deriving DecidableEq, Repr

/-- The magnitude `mantissa * 2 ^ exponent` of a double.  When the mantissa is the smallest of its
binade, the next double below is only half as far away as the next above: `lowerIsNear`. -/
structure Binary where
  mantissa : Nat
  exponent : Int
  lowerIsNear : Bool
  deriving DecidableEq, Repr

/-- The magnitude of the finite double with the given bits. -/
def Binary.ofBits (bits : UInt64) : Binary :=
  let fraction := bits.toNat % Nat.pow 2 52
  let field := bits.toNat / Nat.pow 2 52 % Nat.pow 2 11
  if field == 0 then ⟨fraction, -1074, false⟩
  else ⟨Nat.pow 2 52 + fraction, Int.ofNat field - 1075, fraction == 0 && field != 1⟩

namespace Decimal

/-- Compares `a * 2 ^ p` with `b * 10 ^ e` by whole numbers. -/
def compareScaled (a : Nat) (p : Int) (b : Nat) (e : Int) : Ordering :=
  compare (a * Nat.pow 2 p.toNat * Nat.pow 10 (-e).toNat)
    (b * Nat.pow 10 e.toNat * Nat.pow 2 (-p).toNat)

/-- Whether the decimal is read as the magnitude: it lies between the midpoints to the two
neighbours, the midpoints included when the mantissa is even. -/
def readsBackAs (d : Decimal) (b : Binary) : Bool :=
  let low := b.mantissa * 4 - (if b.lowerIsNear then 1 else 2)
  let high := b.mantissa * 4 + 2
  let above := compareScaled low (b.exponent - 2) d.digits d.exponent
  let below := compareScaled high (b.exponent - 2) d.digits d.exponent
  if b.mantissa % 2 == 0 then above != .gt && below != .lt
  else above == .lt && below == .gt

/-- The number of decimal digits of a positive number. -/
def digitCount (n : Nat) : Nat := (Nat.toDigits 10 n).length

/-- The exponent of the leading decimal digit of a positive magnitude. -/
def leadingExponent (b : Binary) : Int :=
  let num := b.mantissa * Nat.pow 2 b.exponent.toNat
  let den := Nat.pow 2 (-b.exponent).toNat
  if den ≤ num then Int.ofNat (digitCount (num / den)) - 1
  else -Int.ofNat (digitCount ((den - 1) / num))

/-- The largest point of the grid `10 ^ e` that is not above the magnitude. -/
def floorOn (b : Binary) (e : Int) : Nat :=
  (b.mantissa * Nat.pow 2 b.exponent.toNat * Nat.pow 10 (-e).toNat) /
    (Nat.pow 2 (-b.exponent).toNat * Nat.pow 10 e.toNat)

/-- The neighbour of the magnitude on the grid `10 ^ e` that reads back as it, the nearer one if
both do; of two that are equally near, the even one. -/
def onGrid (b : Binary) (e : Int) : Option Decimal :=
  let n := floorOn b e
  let lower : Decimal := ⟨n, e⟩
  let upper : Decimal := ⟨n + 1, e⟩
  match lower.readsBackAs b, upper.readsBackAs b with
  | false, false => none
  | true, false => some lower
  | false, true => some upper
  | true, true =>
    match compareScaled (b.mantissa * 2) b.exponent (2 * n + 1) e with
    | .lt => some lower
    | .gt => some upper
    | .eq => some (if n % 2 == 0 then lower else upper)

/-- Seventeen digits are always enough. -/
def maxDigits : Nat := 17

/-- A ten that came about by carrying is a one, one place higher. -/
def carried (d : Decimal) : Decimal :=
  if d.digits == 10 then ⟨1, d.exponent + 1⟩ else d

/-- The shortest decimal that reads back as a positive magnitude. -/
def shortest (b : Binary) : Decimal :=
  let top := leadingExponent b
  let found := (List.range maxDigits).findSome? fun places => onGrid b (top - Int.ofNat places)
  carried (found.getD ⟨floorOn b (top - 16), top - 16⟩)

end Decimal

end LogSearch
