import LogSearch.Text.Utf8

/-!
# Percent escapes

A byte that may not stand in a part of a URL is written as `%` and two hexadecimal digits.  Which
bytes those are differs from part to part, so encoding takes the set as an argument.

## What is here

* `Percent.encode keep` — the characters that `keep` allows stay, the bytes of all others are
  escaped;
* `Percent.decode` — escapes back to bytes; a `%` without two digits stands for itself.
-/

set_option autoImplicit false
namespace LogSearch.Text

/-- The upper case hexadecimal digit of a number below 16. -/
def hexDigit (n : Nat) : Char :=
  if n < 10 then Char.ofNat (48 + n) else Char.ofNat (55 + n)

/-- The value of a hexadecimal digit of either case. -/
def hexValue? (c : Char) : Option Nat :=
  let n := c.toNat
  if 48 ≤ n && n ≤ 57 then some (n - 48)
  else if 65 ≤ n && n ≤ 70 then some (n - 55)
  else if 97 ≤ n && n ≤ 102 then some (n - 87)
  else none

namespace Percent

/-- The escape of one byte. -/
def escape (b : UInt8) : List Char := ['%', hexDigit (b.toNat / 16), hexDigit (b.toNat % 16)]

/-- Escapes the bytes of every character that `keep` does not allow. -/
def encode (keep : Char → Bool) (cs : List Char) : List Char :=
  cs.flatMap fun c => if keep c then [c] else (String.utf8EncodeChar c).flatMap escape

/-- The bytes of a text, escapes resolved. -/
def decode : List Char → List UInt8
  | [] => []
  | '%' :: a :: b :: rest =>
    match hexValue? a, hexValue? b with
    | some high, some low => UInt8.ofNat (high * 16 + low) :: decode rest
    | _, _ => 37 :: decode (a :: b :: rest)
  | c :: rest => String.utf8EncodeChar c ++ decode rest

end Percent

end LogSearch.Text
