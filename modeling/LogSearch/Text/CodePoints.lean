import LogSearch.Text.Percent
import LogSearch.Text.Split

/-!
# Sets of characters

Properties of characters outside ASCII follow no rule and are looked up in tables.  A table is
written as rows of words; a word is a code point in base 16, or two of them with a hyphen between
for the first and the last of a range.

## What is here

* `words` and `readHex` — the words of a table, and the number that a word spells;
* `CodePoints` — a set of characters, with `CodePoints.ofRows` and `CodePoints.contains`.
-/

set_option autoImplicit false
namespace LogSearch.Text

/-- The words of a table. -/
def words (rows : List String) : List (List Char) := rows.flatMap fun row => splitAt ' ' row.toList

/-- The number that hexadecimal digits spell. -/
def readHex (cs : List Char) : Nat := cs.foldl (fun n c => n * 16 + (hexValue? c).getD 0) 0

/-- A set of characters. -/
structure CodePoints where
  /-- The first and the last code point of each range. -/
  ranges : List (Nat × Nat)

namespace CodePoints

/-- The range that a word of a table spells. -/
def readRange (word : List Char) : Nat × Nat :=
  match splitAt '-' word with
  | [first, last] => (readHex first, readHex last)
  | _ => (readHex word, readHex word)

/-- The set of a table. -/
def ofRows (rows : List String) : CodePoints := ⟨(words rows).map readRange⟩

/-- Whether a character is in a set. -/
def contains (set : CodePoints) (c : Char) : Bool :=
  set.ranges.any fun (first, last) => first ≤ c.toNat && c.toNat ≤ last

end CodePoints

end LogSearch.Text
