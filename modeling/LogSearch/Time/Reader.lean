import LogSearch.Text.Blank
import LogSearch.Text.Numeral
import LogSearch.Time.Timestamp

/-!
# Reading timestamps

A timestamp is given as a day, as a day and a time in UTC, or in the internet format with an offset
from UTC.  The last is strict; the others allow blanks in front of numbers, numbers of one digit and
years with a sign and any number of digits.

## What is here

* `readInternet?` — the internet format (RFC 3339), converted to UTC;
* `readPlain?` — a day and a time, with a given separator;
* `readDay?` — a day alone, which stands for its midnight;
* `parseTimestamp` — the first of these that fits.
-/

set_option autoImplicit false
namespace LogSearch.Time

/-- A partial reader of a text: what it found and what follows. -/
abbrev Scanner (α : Type) := List Char → Option (α × List Char)

/-- Reads the given character. -/
def scanChar (c : Char) (cs : List Char) : Option (List Char) :=
  match cs with
  | d :: rest => if d = c then some rest else none
  | [] => none

/-- The number that digits spell. -/
def digitsValue (cs : List Char) : Nat := cs.foldl (fun n c => n * 10 + (c.toNat - 48)) 0

/-- Reads at least one digit and as many as there are up to `most`. -/
def scanNumber (most : Nat) : Scanner Nat := fun cs =>
  let digits := (cs.take most).takeWhile Char.isDigit
  if digits.isEmpty then none else some (digitsValue digits, cs.drop digits.length)

/-- Reads exactly so many digits. -/
def scanExactly (count : Nat) : Scanner Nat := fun cs =>
  let digits := (cs.take count).takeWhile Char.isDigit
  if digits.length = count then some (digitsValue digits, cs.drop count) else none

/-- Reads the digits of a fraction as nanoseconds; those behind the ninth are dropped. -/
def scanNanoseconds : Scanner Nat := fun cs =>
  let digits := cs.takeWhile Char.isDigit
  let kept := digits.take 9
  if digits.isEmpty then none
  else some (digitsValue kept * Nat.pow 10 (9 - kept.length), cs.dropWhile Char.isDigit)

/-- Reads a fraction if there is one. -/
def scanFraction : Scanner Nat := fun cs =>
  match cs with
  | '.' :: rest => scanNanoseconds rest
  | cs => some (0, cs)

/-! ## The internet format -/

/-- Reads an offset from UTC in minutes. -/
def scanOffset : Scanner Int := fun cs =>
  match cs with
  | 'Z' :: rest => some (0, rest)
  | 'z' :: rest => some (0, rest)
  | sign :: rest => do
    let negative ←
      if sign = '+' then some false
      else if sign = '-' || sign = '\u2212' then some true
      else none
    let (hours, rest) ← scanExactly 2 rest
    let rest ← scanChar ':' rest
    let (minutes, rest) ← scanExactly 2 rest
    if hours < 24 && minutes < 60 then
      let total := Int.ofNat (hours * 60 + minutes)
      some (if negative then -total else total, rest)
    else none
  | [] => none

/-- A timestamp in the internet format. -/
def readInternet? (cs : List Char) : Option Timestamp := do
  let (year, cs) ← scanExactly 4 cs
  let cs ← scanChar '-' cs
  let (month, cs) ← scanExactly 2 cs
  let cs ← scanChar '-' cs
  let (day, cs) ← scanExactly 2 cs
  let cs ← match cs with
    | 'T' :: rest => some rest
    | 't' :: rest => some rest
    | ' ' :: rest => some rest
    | _ => none
  let (hour, cs) ← scanExactly 2 cs
  let cs ← scanChar ':' cs
  let (minute, cs) ← scanExactly 2 cs
  let cs ← scanChar ':' cs
  let (second, cs) ← scanExactly 2 cs
  let (nanosecond, cs) ← scanFraction cs
  let (offset, cs) ← scanOffset cs
  if !cs.isEmpty then none
  else
    let date ← Date.of? (Int.ofNat year) month day
    let t ← Timestamp.of? date hour minute second nanosecond
    t.shift? (-offset)

/-! ## Days and times in UTC -/

/-- Reads a number of up to two digits behind any blanks. -/
def scanPart : Scanner Nat := fun cs => scanNumber 2 (Text.dropBlank cs)

/-- Reads a year behind any blanks: up to four digits, or a sign and any number of them. -/
def scanYear : Scanner Int := fun cs =>
  match Text.dropBlank cs with
  | '-' :: rest => (scanNumber rest.length rest).map fun (n, rest) => (-Int.ofNat n, rest)
  | '+' :: rest => (scanNumber rest.length rest).map fun (n, rest) => (Int.ofNat n, rest)
  | cs => (scanNumber 4 cs).map fun (n, rest) => (Int.ofNat n, rest)

/-- Reads a day. -/
def scanDate : Scanner Date := fun cs => do
  let (year, cs) ← scanYear cs
  let cs ← scanChar '-' cs
  let (month, cs) ← scanPart cs
  let cs ← scanChar '-' cs
  let (day, cs) ← scanPart cs
  let date ← Date.of? year month day
  return (date, cs)

/-- A day and a time with something between them that `separator` reads. -/
def readPlain? (separator : List Char → Option (List Char)) (cs : List Char) :
    Option Timestamp := do
  let (date, cs) ← scanDate cs
  let cs ← separator cs
  let (hour, cs) ← scanPart cs
  let cs ← scanChar ':' cs
  let (minute, cs) ← scanPart cs
  let cs ← scanChar ':' cs
  let (second, cs) ← scanPart cs
  let (nanosecond, cs) ← scanFraction cs
  if cs.isEmpty then Timestamp.of? date hour minute second nanosecond else none

/-- A day alone. -/
def readDay? (cs : List Char) : Option Timestamp := do
  let (date, cs) ← scanDate cs
  if cs.isEmpty then some (.midnight date) else none

/-- The timestamp a text spells in one of the formats. -/
def readTimestamp? (cs : List Char) : Option Timestamp :=
  readInternet? cs <|> readPlain? (scanChar 'T') cs <|>
    readPlain? (fun cs => some (Text.dropBlank cs)) cs <|> readDay? cs

/-- The timestamp a text spells, or a message for people. -/
def parseTimestamp (text : String) : Except String Timestamp :=
  let cs := Text.trim text.toList
  match readTimestamp? cs with
  | some t => .ok t
  | none =>
    .error ("invalid datetime " ++ Text.quote (String.ofList cs) ++
      ", expected YYYY-MM-DD[THH:MM:SS] or RFC 3339")

end LogSearch.Time
