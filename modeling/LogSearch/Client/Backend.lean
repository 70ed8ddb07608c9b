import LogSearch.Client.Error
import LogSearch.Search.Request
import LogSearch.Search.Response

/-!
# Whom a search is put to

A search is put to whatever answers requests: a server, or a list of answers prepared beforehand.
Answering may change the one who answers, so a backend comes with a state.

## What is here

* `Backend` — answers requests, one after the other;
* `Backend.scripted` — gives prepared answers, and empty pages behind them.
-/

set_option autoImplicit false
namespace LogSearch

/-- The answer to a request: a page, or why there is none. -/
abbrev Answer := Except ClientError SearchResponse

/-- The number of hits of an answer. -/
def Answer.size : Answer → Nat
  | .ok page => page.hits.length
  | .error _ => 0

/-- Whatever answers requests. -/
structure Backend (σ : Type) where
  search : SearchRequest → σ → Answer × σ

/-- Gives prepared answers in their order, whatever is asked. -/
def Backend.scripted : Backend (List Answer) where
  search _ answers :=
    match answers with
    | [] => (.ok .empty, [])
    | answer :: answers => (answer, answers)

end LogSearch
