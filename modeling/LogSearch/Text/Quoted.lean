import LogSearch.Text.Printable

/-!
# Quoting a text in a message

Messages show the text they complain about between double quotes, so that blanks at its ends and
characters without a shape of their own can be seen.

## What is here

* `hex` — a number in lower case hexadecimal, without leading zeros;
* `quote` — the quoted text: a backslash before quotes and backslashes, letters for the common
  control characters, `\u` with the code point in braces for all else that is not printable;
* `quoteList` — a list of quoted texts in brackets.
-/

set_option autoImplicit false
namespace LogSearch.Text

/-- A number in lower case hexadecimal. -/
def hex (n : Nat) : List Char := Nat.toDigits 16 n

/-- One character of a quoted text. -/
def quoteChar (c : Char) : List Char :=
  match c with
  | '\x00' => ['\\', '0']
  | '\t' => ['\\', 't']
  | '\n' => ['\\', 'n']
  | '\r' => ['\\', 'r']
  | '"' => ['\\', '"']
  | '\\' => ['\\', '\\']
  | c => if isPrintable c then [c] else ['\\', 'u', '{'] ++ hex c.toNat ++ ['}']

/-- A text between double quotes, with escapes for what is not printable. -/
def quote (s : String) : String :=
  String.ofList ('"' :: s.toList.flatMap quoteChar ++ ['"'])

/-- Texts between brackets, each quoted, with commas between them. -/
def quoteList (texts : List String) : String :=
  "[" ++ ", ".intercalate (texts.map quote) ++ "]"

end LogSearch.Text
