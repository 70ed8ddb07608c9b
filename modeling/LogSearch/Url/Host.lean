import LogSearch.Url.Name

/-!
# Hosts of URLs

A host is a name or an address.  A name whose last label is a number is an address of the old kind,
and then it must be a whole one; brackets hold an address of the new kind.

## What is here

* `Url.Fault` — why a text is no URL, with its `message`;
* `Host` and `Host.parse` — hosts of the schemes of the web;
* `Host.checkOpaque` — hosts of other schemes, which are only looked at for characters that may not
  stand in any host.
-/

set_option autoImplicit false
namespace LogSearch

/-- Why a text is no URL. -/
inductive Url.Fault
  /-- It has no scheme. -/
  | noScheme
  | emptyHost
  | invalidPort
  | invalidIpv4
  | invalidIpv6
  /-- The host is no name. -/
  | invalidName
  /-- The host of another scheme holds a character that may not stand there. -/
  | invalidCharacter
  deriving DecidableEq, Repr

/-- The fault in words. -/
def Url.Fault.message : Url.Fault → String
  | .noScheme => "relative URL without a base"
  | .emptyHost => "empty host"
  | .invalidPort => "invalid port number"
  | .invalidIpv4 => "invalid IPv4 address"
  | .invalidIpv6 => "invalid IPv6 address"
  | .invalidName => "invalid international domain name"
  | .invalidCharacter => "invalid domain character"

/-- The host of a URL. -/
inductive Url.Host
  /-- A name as it is sent. -/
  | name (text : List Char)
  | ipv4 (address : Nat)
  | ipv6 (text : List Char)
  deriving DecidableEq, Repr

namespace Url

/-! ## Addresses of the old kind -/

/-- The number that digits of a radix spell. -/
def numberIn? (radix : Nat) (cs : List Char) : Option Nat :=
  cs.foldl (fun n c => do
    let d ← Text.hexValue? c
    if d < radix then some ((← n) * radix + d) else none) (some 0)

/-- A part of an address: decimal, octal behind a zero, hexadecimal behind `0x`. -/
def ipv4Number? (cs : List Char) : Option Nat :=
  match cs with
  | [] => none
  | '0' :: 'x' :: rest => numberIn? 16 rest
  | '0' :: 'X' :: rest => numberIn? 16 rest
  | '0' :: c :: rest => numberIn? 8 (c :: rest)
  | cs => numberIn? 10 cs

/-- The labels of a name, less an empty last one. -/
def labels (name : List Char) : List (List Char) :=
  let parts := Text.splitAt '.' name
  if parts.getLast? = some [] then parts.dropLast else parts

/-- Whether the last label of a name is a number. -/
def endsInNumber (name : List Char) : Bool :=
  match (labels name).getLast? with
  | none => false
  | some last => (!last.isEmpty && last.all Char.isDigit) || (ipv4Number? last).isSome

/-- The address that the labels of a name spell.  The last part fills the bytes that are left. -/
def ipv4? (name : List Char) : Option Nat := do
  let parts := labels name
  if 4 < parts.length then none
  else
    let numbers ← parts.mapM ipv4Number?
    let last ← numbers.getLast?
    let first := numbers.dropLast
    if first.any (255 < ·) || Nat.pow 2 32 ≤ last * Nat.pow 2 (8 * first.length) then none
    else
      let high := first.foldl (fun n part => n * 256 + part) 0
      some (high * Nat.pow 2 (32 - 8 * first.length) + last)

/-! ## Addresses of the new kind -/

/-- Reads the four numbers of an old address at the end of a new one. -/
def embeddedIpv4 (cs : List Char) : Bool :=
  let parts := Text.splitAt '.' cs
  parts.length = 4 && parts.all fun part =>
    !part.isEmpty && part.all Char.isDigit && (part.length = 1 || part.head? != some '0') &&
      (numberIn? 10 part).any (· ≤ 255)

/-- Checks the pieces of an address from one on.  `pieces` counts those before it; `compressed` says
that `::` stood before. -/
def ipv6Pieces (fuel pieces : Nat) (compressed : Bool) (cs : List Char) : Bool :=
  match fuel, cs with
  | 0, _ => false
  | _, [] => compressed || pieces = 8
  | fuel + 1, cs =>
    if pieces = 8 then false
    else if cs.head? = some ':' then
      !compressed && ipv6Pieces fuel (pieces + 1) true (cs.drop 1)
    else
      let digits := (cs.take 4).takeWhile fun c => (Text.hexValue? c).isSome
      match cs.drop digits.length with
      | [] => ipv6Pieces fuel (pieces + 1) compressed []
      | '.' :: _ =>
        !digits.isEmpty && pieces ≤ 6 && embeddedIpv4 cs && (compressed || pieces = 6)
      | ':' :: [] => false
      | ':' :: rest => ipv6Pieces fuel (pieces + 1) compressed rest
      | _ => false

/-- Whether a text is an address of the new kind. -/
def isIpv6 (cs : List Char) : Bool :=
  match cs with
  | ':' :: ':' :: rest => ipv6Pieces (rest.length + 1) 1 true rest
  | [] => false
  | [_] => false
  | ':' :: _ => false
  | cs => ipv6Pieces (cs.length + 1) 0 false cs

/-! ## Hosts -/

/-- An address in brackets, if the text starts with one. -/
def readBracketed? (cs : List Char) : Option (Except Fault Host) :=
  match cs with
  | '[' :: rest =>
    if rest.getLast? = some ']' && isIpv6 rest.dropLast then some (.ok (.ipv6 rest.dropLast))
    else some (.error .invalidIpv6)
  | _ => none

/-- The host of a URL of the web, escapes resolved. -/
def Host.parse (cs : List Char) : Except Fault Host :=
  match readBracketed? cs with
  | some result => result
  | none =>
    match readName? (Text.Utf8.decodeLossy (Text.Percent.decode cs)) with
    | none => .error .invalidName
    | some [] => .error .emptyHost
    | some sent =>
      if endsInNumber sent then
        match ipv4? sent with
        | some address => .ok (.ipv4 address)
        | none => .error .invalidIpv4
      else .ok (.name sent)

/-- Checks the host of another scheme. -/
def Host.checkOpaque (cs : List Char) : Except Fault Unit :=
  match readBracketed? cs with
  | some result => result.map fun _ => ()
  | none =>
    if cs.any (· ∈ ['\x00', '\t', '\n', '\r', ' ', '#', '/', ':', '<', '>', '?', '@', '[', '\\',
        ']', '^', '|']) then .error .invalidCharacter
    else .ok ()

end Url

end LogSearch
