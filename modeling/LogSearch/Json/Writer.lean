import LogSearch.Decimal.Shortest
import LogSearch.Json.Basic
import LogSearch.Text.Quoted

/-!
# JSON text

Documents are written without blanks, or with one field or item a line for people to read.  The
two texts differ in white space between tokens only.

## What is here

* `Json.literal` — a string literal: quotes, backslashes and control characters are escaped and
  everything else stands for itself;
* `Json.floatText` — a double in its shortest decimal, positional while its leading exponent lies
  between `-5` and `15`;
* `Json.compact`, `Json.pretty` — the two texts of a document.
-/

set_option autoImplicit false
namespace LogSearch.Json

/-! ## String literals -/

/-- A character inside a string literal. -/
def escapeChar (c : Char) : List Char :=
  match c with
  | '"' => ['\\', '"']
  | '\\' => ['\\', '\\']
  | '\x08' => ['\\', 'b']
  | '\x0c' => ['\\', 'f']
  | '\n' => ['\\', 'n']
  | '\r' => ['\\', 'r']
  | '\t' => ['\\', 't']
  | c =>
    if c.toNat < 0x20 then
      ['\\', 'u', '0', '0', Nat.digitChar (c.toNat / 16), Nat.digitChar (c.toNat % 16)]
    else [c]

/-- A text as a string literal, given by its characters. -/
def literalChars (cs : List Char) : List Char := '"' :: cs.flatMap escapeChar ++ ['"']

/-- A text as a string literal. -/
def literal (s : String) : String := String.ofList (literalChars s.toList)

/-! ## Numbers -/

/-- The digits of a number, least places given. -/
def padded (places n : Nat) : List Char :=
  let digits := Nat.toDigits 10 n
  List.replicate (places - digits.length) '0' ++ digits

/-- A positive decimal: positional with a fraction while the leading exponent lies between `-5` and
`15`, otherwise with a signed exponent. -/
def decimalText (d : Decimal) : List Char :=
  let digits := Nat.toDigits 10 d.digits
  let count := digits.length
  let leading : Int := count + d.exponent - 1
  if leading < -5 || 15 < leading then
    let fraction := if count == 1 then [] else '.' :: digits.drop 1
    let sign := if leading < 0 then '-' else '+'
    digits.take 1 ++ fraction ++ ['e', sign] ++ Nat.toDigits 10 leading.natAbs
  else if 0 ≤ d.exponent then
    digits ++ List.replicate d.exponent.toNat '0' ++ ['.', '0']
  else if 0 ≤ leading then
    digits.take (leading.toNat + 1) ++ ['.'] ++ digits.drop (leading.toNat + 1)
  else
    ['0', '.'] ++ List.replicate ((-leading).toNat - 1) '0' ++ digits

/-- The text of the finite double with the given bits. -/
def floatText (bits : UInt64) : List Char :=
  let sign := if bits.toNat / Nat.pow 2 63 == 1 then ['-'] else []
  let magnitude := Binary.ofBits bits
  sign ++ (if magnitude.mantissa == 0 then ['0', '.', '0']
    else decimalText (Decimal.shortest magnitude))

/-- The text of a number. -/
def Number.text : Number → List Char
  | .int (.ofNat n) => Nat.toDigits 10 n
  | .int (.negSucc n) => '-' :: Nat.toDigits 10 (n + 1)
  | .float bits => floatText bits

/-! ## Documents without blanks -/

/-- The texts of items or fields, with commas between them. -/
def commaSeparated : List (List Char) → List Char
  | [] => []
  | [text] => text
  | text :: texts => text ++ ',' :: commaSeparated texts

mutual

/-- The characters of a document written without blanks. -/
def write : Json → List Char
  | .null => ['n', 'u', 'l', 'l']
  | .bool true => ['t', 'r', 'u', 'e']
  | .bool false => ['f', 'a', 'l', 's', 'e']
  | .number n => n.text
  | .string s => literalChars s.toList
  | .array items => '[' :: commaSeparated (writeItems items) ++ [']']
  | .object fields => '{' :: commaSeparated (writeFields fields) ++ ['}']

/-- The texts of the items of an array. -/
def writeItems : List Json → List (List Char)
  | [] => []
  | item :: items => item.write :: writeItems items

/-- The texts of the fields of an object. -/
def writeFields : List (String × Json) → List (List Char)
  | [] => []
  | (name, value) :: fields =>
    (literalChars name.toList ++ ':' :: value.write) :: writeFields fields

end

/-- A document in one line without blanks. -/
def compact (value : Json) : String := String.ofList value.write

/-! ## Documents for people -/

/-- A new line, two blanks in for each level. -/
def newLine (level : Nat) : List Char := '\n' :: List.replicate (2 * level) ' '

/-- Texts a line each, one level in, between brackets; nothing between the brackets if there are
none. -/
def block (level : Nat) (opener closer : Char) (texts : List (List Char)) : List Char :=
  if texts.isEmpty then [opener, closer]
  else
    opener :: commaSeparated (texts.map (newLine (level + 1) ++ ·)) ++ newLine level ++ [closer]

mutual

/-- The characters of a document that stands `level` levels deep, a field or item a line. -/
def writePretty (level : Nat) : Json → List Char
  | .array items => block level '[' ']' (writePrettyItems (level + 1) items)
  | .object fields => block level '{' '}' (writePrettyFields (level + 1) fields)
  | .null => ['n', 'u', 'l', 'l']
  | .bool true => ['t', 'r', 'u', 'e']
  | .bool false => ['f', 'a', 'l', 's', 'e']
  | .number n => n.text
  | .string s => literalChars s.toList

/-- The texts of the items of an array for people. -/
def writePrettyItems (level : Nat) : List Json → List (List Char)
  | [] => []
  | item :: items => item.writePretty level :: writePrettyItems level items

/-- The texts of the fields of an object for people. -/
def writePrettyFields (level : Nat) : List (String × Json) → List (List Char)
  | [] => []
  | (name, value) :: fields =>
    (literalChars name.toList ++ ':' :: ' ' :: value.writePretty level) ::
      writePrettyFields level fields

end

/-- A document with one field or item a line, two blanks in for each level. -/
def pretty (value : Json) : String := String.ofList (value.writePretty 0)

end LogSearch.Json
