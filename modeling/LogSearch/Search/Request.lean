import LogSearch.Query.Basic
import LogSearch.Text.Percent

/-!
# Requests for a page

A search is sent page by page.  Every page is a request of its own: the query, the order of the hits
(by time, then by the order in which they were stored), the size of a page, and the cursor that the
page before ended at.

A server takes any list of sort keys and any list of source fields, the empty one too.  The requests
here are those that searches are made of: their order is always by one field and `_seq_no`, so the
field alone is kept, and a list of no fields is not sent.

## What is here

* `SearchRequest` and its document `SearchRequest.toJson`;
* `SearchRequest.path` — what is asked for on the server, with the name of the index escaped.
-/

set_option autoImplicit false
namespace LogSearch

/-- A request for one page of hits. -/
structure SearchRequest where
  /-- The index or pattern of indices to search. -/
  index : String
  query : Query
  /-- The field that hits are sorted by first; it stands for the whole order. -/
  timestampField : String
  /-- The number of hits of a page. -/
  size : Nat
  /-- The fields of a document to return; all of them if none is named. -/
  source : List String
  /-- The sort values of the hit that the page follows. -/
  after : Option (List Json)
  deriving Repr

namespace SearchRequest

/-- The order of the hits, oldest first. -/
def sort (request : SearchRequest) : Json :=
  .array [Query.single request.timestampField (Query.single "order" (.string "asc")),
    .string "_seq_no"]

/-- The document that is sent. -/
def toJson (request : SearchRequest) : Json :=
  let source :=
    if request.source.isEmpty then [] else [("_source", .array (request.source.map .string))]
  let after := request.after.toList.map fun values => ("search_after", .array values)
  .object ([("query", request.query.toJson), ("sort", request.sort), ("size", .ofNat request.size)]
    ++ source ++ after)

/-- The characters that stand for themselves in the name of an index. -/
def keepsInIndex (c : Char) : Bool := c.isAlphanum || c ∈ ['-', '_', '.', '~']

/-- The path and query that the request is sent to. -/
def path (request : SearchRequest) : String :=
  "/" ++ String.ofList (Text.Percent.encode keepsInIndex request.index.toList) ++
    "/_search?track_total_hits=false"

end SearchRequest

end LogSearch
