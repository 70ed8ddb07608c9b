import LogSearch.Text.Composed
import LogSearch.Text.Direction
import LogSearch.Text.Joining
import LogSearch.Url.NameChar
import LogSearch.Url.Punycode

/-!
# Labels of names

A name is made of labels.  A label that holds characters outside ASCII is sent as a code behind
`xn--`, and it may come in that form too; then the code must be of a label that needs no change.

A label does not begin with a mark.  The invisible joiners stand in it only where they show: behind
a sign that takes the vowel from its letter, and the one that keeps letters apart also between
letters that would else be joined.  If any label of a name is written from right to left, each label
of it is of one direction and begins and ends with characters that leave no doubt about it.

## What is here

* `readLabel?` — the label that a label or a code stands for;
* `isWellFormed` — whether a label may stand in a name;
* `keepsDirection` — whether a label may stand in a name that is written from right to left;
* `sentLabel` — a label as it is sent.
-/

set_option autoImplicit false
namespace LogSearch.Url

open Text (Direction direction joinsNext joinsPrevious isLookedThrough isMark isVirama)

/-- The characters of ASCII that may not stand in a name. -/
def isForbidden (c : Char) : Bool :=
  c.toNat ≤ 0x20 || c.toNat = 0x7F ||
    c ∈ ['#', '/', ':', '<', '>', '?', '@', '[', '\\', ']', '^', '|', '%']

/-- Whether a text is all ASCII. -/
def isAscii (cs : List Char) : Bool := cs.all (·.toNat < 0x80)

/-! ## Codes -/

/-- What a label that is a code begins with. -/
def codeMark : List Char := "xn--".toList

/-- The length of the longest code that is read. -/
def maxCodeLength : Nat := 2000

/-- The length of the longest label that is sent as a code. -/
def maxCodedLength : Nat := 1000

/-- Whether a text holds only characters of names that stand for themselves, and is composed. -/
def needsNoChange (label : List Char) : Bool :=
  label.all (fun c => meaning? c = some [c] && !isForbidden c) && Text.composed label = label

/-- The label that the code of a label stands for.  A code does not end with its hyphen: a label
that is all ASCII has none. -/
def readCode? (code : List Char) : Option (List Char) := do
  guard (!code.isEmpty && code.getLast? != some '-')
  guard (isAscii code && code.length ≤ maxCodeLength)
  let label ← Punycode.decode? code
  guard (needsNoChange label)
  return label

/-- The label that a label or a code stands for. -/
def readLabel? (label : List Char) : Option (List Char) :=
  if codeMark.isPrefixOf label then readCode? (label.drop codeMark.length) else some label

/-- A label as it is sent. -/
def sentLabel (label : List Char) : List Char :=
  if isAscii label then label else codeMark ++ Punycode.encode label

/-! ## Joiners -/

/-- The joiner that keeps letters apart. -/
def nonJoiner : Char := '\u200c'

/-- The joiner that keeps letters together. -/
def joiner : Char := '\u200d'

/-- Whether the first letter of a text, marks aside, has a property. -/
def meets (property : Char → Bool) (cs : List Char) : Bool :=
  (cs.dropWhile isLookedThrough).head?.any property

/-- Whether a character may stand between two texts, of which the first is given from its end. -/
def joinerFits (before : List Char) (c : Char) (rest : List Char) : Bool :=
  if c = joiner then before.head?.any isVirama
  else if c = nonJoiner then
    before.head?.any isVirama || (meets joinsNext before && meets joinsPrevious rest)
  else true

/-- Whether the joiners of a label, of which `before` is read, stand where they may. -/
def joinersFit (before : List Char) : List Char → Bool
  | [] => true
  | c :: rest => joinerFits before c rest && joinersFit (c :: before) rest

/-- Whether a label may stand in a name. -/
def isWellFormed (label : List Char) : Bool :=
  !label.head?.any isMark && joinersFit [] label &&
    (isAscii label || label.length ≤ maxCodedLength)

/-! ## Directions -/

/-- Whether directions are those of a label from left to right, its first character and the marks at
its end left out. -/
def fitsLeftToRight (directions : List Direction) : Bool :=
  directions.getLast?.all (· ∈ [.leftToRight, .europeanNumber]) &&
    directions.all (· ∈ [.leftToRight, .europeanNumber, .neutral, .ofBase])

/-- Whether directions are those of a label from right to left, its first character and the marks at
its end left out.  Digits are all of one kind. -/
def fitsRightToLeft (directions : List Direction) : Bool :=
  directions.getLast?.all (· ∈ [.rightToLeft, .europeanNumber, .arabicNumber]) &&
    directions.all (· != .leftToRight) &&
    !(directions.contains .europeanNumber && directions.contains .arabicNumber)

/-- Whether a label may stand in a name that is written from right to left. -/
def keepsDirection (label : List Char) : Bool :=
  match label.map direction with
  | [] => true
  | first :: rest =>
    let inner := (rest.reverse.dropWhile (· == .ofBase)).reverse
    match first with
    | .leftToRight => fitsLeftToRight inner
    | .rightToLeft => fitsRightToLeft inner
    | _ => false

end LogSearch.Url
