import LogSearch.Url.Label

/-!
# Names on the network

A name is read in four steps: every character is replaced by what it stands for, the result is
composed, it is cut into labels at its dots, and codes of labels are read.  Then all labels are
checked.

## What is here

* `foldName?` — a name with its characters replaced, and composed;
* `readName?` — a name as it is sent, unless the text is no name.
-/

set_option autoImplicit false
namespace LogSearch.Url

open Text (splitAt)

/-- A name with each character replaced by what it stands for, and composed. -/
def foldName? (cs : List Char) : Option (List Char) := do
  let name := Text.composed (← cs.mapM meaning?).flatten
  guard !(name.any isForbidden)
  return name

/-- A name as it is sent.  A name that holds only ignored characters is empty. -/
def readName? (cs : List Char) : Option (List Char) := do
  let labels ← (splitAt '.' (← foldName? cs)).mapM readLabel?
  guard (labels.all isWellFormed)
  guard (labels.all keepsDirection || !labels.any (·.any Text.turnsText))
  return ['.'].intercalate (labels.map sentLabel)

end LogSearch.Url
