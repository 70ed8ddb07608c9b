/-!
# Cutting a text into parts

## What is here

* `splitAt` — the parts of a text between separators.
-/

set_option autoImplicit false
namespace LogSearch.Text

/-- The parts of a text between separators: one part more than there are separators. -/
def splitAt (separator : Char) : List Char → List (List Char)
  | [] => [[]]
  | c :: rest =>
    if c = separator then [] :: splitAt separator rest
    else match splitAt separator rest with
      | part :: parts => (c :: part) :: parts
      | [] => [[c]]

end LogSearch.Text
