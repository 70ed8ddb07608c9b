/-!
# Comparisons

The four order relations a field may be compared with, which queries write as signs and query
documents by name.

## What is here

* `Comparison` with its `sign` and its `name`.
-/

set_option autoImplicit false
namespace LogSearch

/-- An order relation between a field and a value. -/
inductive Comparison
  | lt
  | lte
  | gt
  | gte
  deriving DecidableEq, Repr

/-- The comparison as a query writes it. -/
def Comparison.sign : Comparison → List Char
  | .lt => ['<']
  | .lte => ['<', '=']
  | .gt => ['>']
  | .gte => ['>', '=']

/-- The comparison as a query document names it. -/
def Comparison.name : Comparison → String
  | .lt => "lt"
  | .lte => "lte"
  | .gt => "gt"
  | .gte => "gte"

end LogSearch
