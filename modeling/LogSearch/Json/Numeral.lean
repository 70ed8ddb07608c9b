import LogSearch.Json.Literal

/-!
# Reading numbers

Integers of 64 bits are kept as they are; everything else becomes a double.  The double is found by
the quick rule: the digits that fit into 64 bits make the significand, further digits only shift it,
and one multiplication or division by a power of ten gives the value.  The result can differ from
the nearest double in its last bit.

## What is here

* `absorb` — takes digits into a significand while they fit;
* `scale` — a significand times a power of ten, if that is no larger than every double;
* `readNumber` — a number and what follows it;
* `skipNumber` — what follows a number that nobody wants, whose size does not matter.
-/

set_option autoImplicit false
namespace LogSearch.Json

/-- The largest significand. -/
def maxSignificand : Nat := Nat.pow 2 64 - 1

/-- Takes digits into a significand up to the first that does not fit; also the number taken. -/
def absorb (significand : Nat) : List Char → Nat × Nat
  | [] => (significand, 0)
  | c :: rest =>
    let next := significand * 10 + (c.toNat - 48)
    if next ≤ maxSignificand then
      let (result, taken) := absorb next rest
      (result, taken + 1)
    else (significand, 0)

/-- A power of ten as a double. -/
def powerOfTen (n : Nat) : Float := Float.ofScientific 1 false n

/-- A double times a power of ten; nothing if that is larger than every double.  Powers below
`10 ^ -308` are reached by several divisions. -/
def scale (f : Float) (exponent : Int) : Option Float :=
  if exponent.natAbs ≤ 308 then
    if 0 ≤ exponent then
      let g := f * powerOfTen exponent.toNat
      if g.isInf then none else some g
    else some (f / powerOfTen (-exponent).toNat)
  else if f == 0 then some f
  else if 0 ≤ exponent then none
  else scale (f / powerOfTen 308) (exponent + 308)
  termination_by exponent.natAbs
  decreasing_by omega

/-- The double `significand * 10 ^ exponent` with a sign. -/
def double? (negative : Bool) (significand : Nat) (exponent : Int) : Option Number :=
  (scale significand.toUInt64.toFloat exponent).map fun f =>
    .float (if negative then (-f).toBits else f.toBits)

/-- The zero with a sign. -/
def zero (negative : Bool) : Number := .float (if negative then 0x8000000000000000 else 0)

/-- The number an integer literal names. -/
def integer (negative : Bool) (significand : Nat) : Number :=
  if !negative then .int significand
  else if significand == 0 then zero true
  else if significand ≤ Nat.pow 2 63 then .int (-Int.ofNat significand)
  else .float (-significand.toUInt64.toFloat).toBits

/-- The largest exponent that is counted exactly. -/
def maxExponent : Nat := Nat.pow 2 31 - 1

/-- The value of exponent digits, and what follows them; only the text that follows the first digit
too many, once the exponent is too large to count. -/
def readExponentDigits (n : Nat) : List Char → Except (List Char) (Nat × List Char)
  | [] => .ok (n, [])
  | c :: rest =>
    if c.isDigit then
      let next := n * 10 + (c.toNat - 48)
      if next ≤ maxExponent then readExponentDigits next rest else .error rest
    else .ok (n, c :: rest)

/-- A number whose exponent sign `e` has been read. -/
def readExponent (negative : Bool) (significand : Nat) (shift : Int) (cs : List Char) :
    Except Stop (Number × List Char) :=
  let (down, cs) := match cs with
    | '+' :: rest => (false, rest)
    | '-' :: rest => (true, rest)
    | cs => (false, cs)
  match cs with
  | [] => stop .endInValue []
  | c :: rest =>
    if !c.isDigit then stopAtNext .invalidNumber (c :: rest)
    else match readExponentDigits (c.toNat - 48) rest with
      | .ok (n, rest) =>
        match double? negative significand (if down then shift - n else shift + n) with
        | some value => .ok (value, rest)
        | none => stop .numberOutOfRange rest
      | .error rest =>
        if significand != 0 && !down then stop .numberOutOfRange rest
        else .ok (zero negative, rest.dropWhile Char.isDigit)

/-- A number with nothing but its exponent left to read. -/
def readExponentPart (negative : Bool) (significand : Nat) (shift : Int) (cs : List Char) :
    Except Stop (Number × List Char) :=
  match cs with
  | 'e' :: rest => readExponent negative significand shift rest
  | 'E' :: rest => readExponent negative significand shift rest
  | cs =>
    match double? negative significand shift with
    | some value => .ok (value, cs)
    | none => stop .numberOutOfRange cs

/-- A number whose decimal point has been read. -/
def readFraction (negative : Bool) (significand : Nat) (shift : Int) (cs : List Char) :
    Except Stop (Number × List Char) :=
  let digits := cs.takeWhile Char.isDigit
  let rest := cs.dropWhile Char.isDigit
  if digits.isEmpty then
    if rest.isEmpty then stop .endInValue [] else stopAtNext .invalidNumber rest
  else
    let (significand, taken) := absorb significand digits
    readExponentPart negative significand (shift - taken) rest

/-- A number whose sign has been read. -/
def readUnsigned (negative : Bool) (cs : List Char) : Except Stop (Number × List Char) :=
  let digits := cs.takeWhile Char.isDigit
  let rest := cs.dropWhile Char.isDigit
  match cs with
  | [] => stop .endInValue []
  | c :: tail =>
    if !c.isDigit then stopAtNext .invalidNumber cs
    else if c == '0' && 1 < digits.length then stopAtNext .invalidNumber tail
    else
      let (significand, taken) := absorb 0 digits
      let shift : Int := digits.length - taken
      match rest with
      | '.' :: rest => readFraction negative significand shift rest
      | rest =>
        if shift != 0 || rest.head? == some 'e' || rest.head? == some 'E' then
          readExponentPart negative significand shift rest
        else .ok (integer negative significand, rest)

/-- A number and what follows it. -/
def readNumber (cs : List Char) : Except Stop (Number × List Char) :=
  match cs with
  | '-' :: rest => readUnsigned true rest
  | cs => readUnsigned false cs

/-- What follows an exponent that nobody wants, its `e` read. -/
def skipExponent (cs : List Char) : Except Stop (List Char) :=
  let cs := match cs with
    | '+' :: rest => rest
    | '-' :: rest => rest
    | cs => cs
  match cs with
  | [] => stop .invalidNumber []
  | c :: rest =>
    if c.isDigit then .ok (rest.dropWhile Char.isDigit) else stopAtNext .invalidNumber (c :: rest)

/-- What follows an exponent that nobody wants, if there is one. -/
def skipExponentPart (cs : List Char) : Except Stop (List Char) :=
  match cs with
  | 'e' :: rest => skipExponent rest
  | 'E' :: rest => skipExponent rest
  | cs => .ok cs

/-- What follows a number that nobody wants.  Its end may not come early either, but that is then
an invalid number. -/
def skipNumber (cs : List Char) : Except Stop (List Char) :=
  let cs := match cs with
    | '-' :: rest => rest
    | cs => cs
  let digits := cs.takeWhile Char.isDigit
  let rest := cs.dropWhile Char.isDigit
  match cs with
  | [] => stop .invalidNumber []
  | c :: tail =>
    if !c.isDigit then stopAtNext .invalidNumber cs
    else if c == '0' && 1 < digits.length then stopAtNext .invalidNumber tail
    else
      match rest with
      | '.' :: rest =>
        if (rest.takeWhile Char.isDigit).isEmpty then stopAtNext .invalidNumber rest
        else skipExponentPart (rest.dropWhile Char.isDigit)
      | rest => skipExponentPart rest

end LogSearch.Json
