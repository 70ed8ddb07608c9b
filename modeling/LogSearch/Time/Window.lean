import LogSearch.Query.Basic
import LogSearch.Time.Timestamp

/-!
# The time window of a search

Every search is confined to the documents whose timestamp lies in a window, which may be open at its
end.  The window is a query like any other and comes first among the queries it is combined with.

## What is here

* `TimeWindow` with its `toQuery`;
* `TimeWindow.restrict` — queries, in a window.
-/

set_option autoImplicit false
namespace LogSearch

open Time (Timestamp)

/-- The window documents are taken from. -/
structure TimeWindow where
  /-- The field that holds a document's timestamp. -/
  field : String
  start : Timestamp
  /-- Without an end everything after the start is taken. -/
  finish : Option Timestamp
  deriving DecidableEq, Repr

/-- The query for the documents of a window. -/
def TimeWindow.toQuery (w : TimeWindow) : Query :=
  .range w.field
    ((.gte, w.start.format) :: w.finish.toList.map fun t => (.lte, t.format))

/-- The clause that queries are combined in. -/
inductive Clause
  /-- Without scoring: queries of the nested language. -/
  | filter
  /-- With scoring: specifiers. -/
  | must
  deriving DecidableEq, Repr

/-- The queries, in a window. -/
def TimeWindow.restrict (w : TimeWindow) (clause : Clause) (queries : List Query) : Query :=
  match clause with
  | .filter => .allOf (w.toQuery :: queries)
  | .must => .mustAll (w.toQuery :: queries)

end LogSearch
