import LogSearch.Text.Utf8

/-!
# Base64

The standard alphabet with padding.  Decoding is strict: each byte sequence has exactly one written
form, so a text with missing padding or with stray bits in its last symbol is refused.

## What is here

* `Base64.encode` — three bytes to four symbols, the last group padded with `=`; `Base64.encodeText`
  does so for the bytes of a text;
* `Base64.decode` — the bytes again, or the first fault.  The groups before the last one hold
  symbols only, so the padding can only be met in the last group.
-/

set_option autoImplicit false
namespace LogSearch.Text.Base64

/-- The symbol for a number below 64. -/
def symbol (n : Nat) : UInt8 :=
  if n < 26 then UInt8.ofNat (65 + n)
  else if n < 52 then UInt8.ofNat (71 + n)
  else if n < 62 then UInt8.ofNat (n - 4)
  else if n == 62 then 43
  else 47

/-- The number a symbol stands for. -/
def value? (b : UInt8) : Option Nat :=
  let n := b.toNat
  if 65 ≤ n && n ≤ 90 then some (n - 65)
  else if 97 ≤ n && n ≤ 122 then some (n - 71)
  else if 48 ≤ n && n ≤ 57 then some (n + 4)
  else if n == 43 then some 62
  else if n == 47 then some 63
  else none

/-- The padding sign `=`. -/
def pad : UInt8 := 61

/-- The symbols of a byte sequence, padded to whole groups of four. -/
def encode : List UInt8 → List UInt8
  | [] => []
  | [a] =>
    let n := a.toNat * 16
    [symbol (n / 64), symbol (n % 64), pad, pad]
  | [a, b] =>
    let n := (a.toNat * 256 + b.toNat) * 4
    [symbol (n / 4096), symbol (n / 64 % 64), symbol (n % 64), pad]
  | a :: b :: c :: rest =>
    let n := a.toNat * 65536 + b.toNat * 256 + c.toNat
    symbol (n / 262144) :: symbol (n / 4096 % 64) :: symbol (n / 64 % 64) :: symbol (n % 64) ::
      encode rest

/-- The symbols for the bytes of a text, as a text. -/
def encodeText (text : String) : String :=
  String.ofList ((encode (Utf8.encode text.toList)).map fun b => Char.ofNat b.toNat)

/-- Why a text is not base64. -/
inductive Fault
  /-- A byte that may not stand where it does. -/
  | invalidSymbol (byte : UInt8) (offset : Nat)
  /-- The last group holds a single symbol, which is less than a byte. -/
  | invalidLength (length : Nat)
  /-- The last group is not padded to four. -/
  | invalidPadding
  /-- The last symbol holds bits that belong to no byte. -/
  | invalidLastSymbol (byte : UInt8) (offset : Nat)
  deriving DecidableEq, Repr

/-- The fault in words. -/
def Fault.message : Fault → String
  | .invalidSymbol byte offset => s!"Invalid symbol {byte.toNat}, offset {offset}."
  | .invalidLength length => s!"Invalid input length: {length}"
  | .invalidPadding => "Invalid padding"
  | .invalidLastSymbol byte offset => s!"Invalid last symbol {byte.toNat}, offset {offset}."

/-- The numbers of the symbols of the last group, which starts at `offset`, up to its padding.
`place` is the number of symbols read. -/
def lastSymbols (offset : Nat) : Nat → List UInt8 → Except Fault (List (UInt8 × Nat))
  | _, [] => .ok []
  | place, b :: rest =>
    if b == pad then
      if place < 2 then .error (.invalidSymbol b (offset + place))
      else if rest.all (· == pad) then .ok []
      else .error (.invalidSymbol pad (offset + place))
    else match value? b with
      | none => .error (.invalidSymbol b (offset + place))
      | some n => (lastSymbols offset (place + 1) rest).map ((b, n) :: ·)

/-- The bytes of the last group, which starts at `offset`. -/
def decodeLast (offset : Nat) (group : List UInt8) : Except Fault (List UInt8) := do
  if group.isEmpty then return []
  let symbols ← lastSymbols offset 0 group
  match symbols with
  | [(_, a), (s, b)] =>
    if group.length != 4 then throw .invalidPadding
    else if b % 16 != 0 then throw (.invalidLastSymbol s (offset + 1))
    else return [UInt8.ofNat (a * 4 + b / 16)]
  | [(_, a), (_, b), (s, c)] =>
    if group.length != 4 then throw .invalidPadding
    else if c % 4 != 0 then throw (.invalidLastSymbol s (offset + 2))
    else return [UInt8.ofNat (a * 4 + b / 16), UInt8.ofNat (b % 16 * 16 + c / 4)]
  | [(_, a), (_, b), (_, c), (_, d)] =>
    return [UInt8.ofNat (a * 4 + b / 16), UInt8.ofNat (b % 16 * 16 + c / 4),
      UInt8.ofNat (c % 4 * 64 + d)]
  | symbols => throw (.invalidLength (offset + symbols.length))

/-- The number of a symbol that stands in a group before the last. -/
def innerValue (b : UInt8) (offset : Nat) : Except Fault Nat :=
  match value? b with
  | some n => .ok n
  | none => .error (.invalidSymbol b offset)

/-- The bytes of the groups from `offset` on. -/
def decodeGroups (offset : Nat) : List UInt8 → Except Fault (List UInt8)
  | a :: b :: c :: d :: e :: rest => do
    let a ← innerValue a offset
    let b ← innerValue b (offset + 1)
    let c ← innerValue c (offset + 2)
    let d ← innerValue d (offset + 3)
    let bytes ← decodeGroups (offset + 4) (e :: rest)
    return UInt8.ofNat (a * 4 + b / 16) :: UInt8.ofNat (b % 16 * 16 + c / 4) ::
      UInt8.ofNat (c % 4 * 64 + d) :: bytes
  | group => decodeLast offset group

/-- The bytes that symbols spell.  A single byte behind the last whole group that is no symbol is
complained about before all others. -/
def decode (symbols : List UInt8) : Except Fault (List UInt8) :=
  match symbols.getLast? with
  | some b =>
    if symbols.length % 4 == 1 && b != pad && (value? b).isNone then
      .error (.invalidSymbol b (symbols.length - 1))
    else decodeGroups 0 symbols
  | none => .ok []

end LogSearch.Text.Base64
