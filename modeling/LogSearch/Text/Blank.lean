/-!
# Blank and control characters

White space is Unicode's `White_Space` property and not just the ASCII blanks: query texts come
from people, who paste no-break and ideographic spaces.

## What is here

* `isBlank`, `isControl` — the two properties;
* `dropBlank`, `takeBlank`, `trim` — cutting a text at its blanks, with `takeBlank_append_dropBlank`
  saying that nothing is lost.
-/

set_option autoImplicit false
namespace LogSearch.Text

/-- Unicode's `White_Space` property. -/
def isBlank (c : Char) : Bool :=
  let n := c.toNat
  (0x9 ≤ n && n ≤ 0xD) || n == 0x20 || n == 0x85 || n == 0xA0 || n == 0x1680 ||
    (0x2000 ≤ n && n ≤ 0x200A) || n == 0x2028 || n == 0x2029 || n == 0x202F || n == 0x205F ||
    n == 0x3000

/-- The control characters: general category `Cc`. -/
def isControl (c : Char) : Bool :=
  c.toNat < 0x20 || (0x7F ≤ c.toNat && c.toNat < 0xA0)

/-- A text less the blanks it starts with. -/
def dropBlank (cs : List Char) : List Char := cs.dropWhile isBlank

/-- The blanks a text starts with. -/
def takeBlank (cs : List Char) : List Char := cs.takeWhile isBlank

/-- A text less the blanks at both ends. -/
def trim (cs : List Char) : List Char :=
  (dropBlank (dropBlank cs).reverse).reverse

theorem takeBlank_append_dropBlank (cs : List Char) : takeBlank cs ++ dropBlank cs = cs :=
  List.takeWhile_append_dropWhile

theorem length_dropBlank_le (cs : List Char) : (dropBlank cs).length ≤ cs.length :=
  (List.dropWhile_suffix _).length_le

/-- What is left after the leading blanks does not start with one. -/
theorem isBlank_of_dropBlank_eq_cons {cs rest : List Char} {c : Char}
    (h : dropBlank cs = c :: rest) : isBlank c = false := by
  have := List.head?_dropWhile_not isBlank cs
  rw [show List.dropWhile isBlank cs = c :: rest from h] at this
  simpa using this

end LogSearch.Text
