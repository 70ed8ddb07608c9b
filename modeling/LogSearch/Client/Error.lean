import LogSearch.Json.Fault

/-!
# What can go wrong in a search

A search fails when no answer comes, when the answer is a refusal, or when it cannot be read.  Only
a server that could not be reached or was too slow is worth another attempt: everything else was
answered, or would fail again.

## What is here

* `TransportFault` — why no answer came;
* `ClientError` with its `message`, and `ClientError.isTransient`.
-/

set_option autoImplicit false
namespace LogSearch

/-- Why no answer came. -/
inductive TransportFault
  /-- There is no connection to the server. -/
  | refused
  /-- The time to wait was over before the answer was there, whatever was missing by then: the
  connection, the answer or the rest of it. -/
  | timedOut
  /-- The connection ended before the answer. -/
  | dropped
  /-- There is no way to ask: what would be asked for is no URL. -/
  | unaddressable
  deriving DecidableEq, Repr

/-- Why a search failed. -/
inductive ClientError
  /-- The server refused in words of its own. -/
  | http (status : Nat) (body : String)
  /-- No answer came; the reason is in the words of whoever carried the request. -/
  | transport (fault : TransportFault) (reason : String)
  /-- The answer is not a page of hits. -/
  | json (fault : Json.Fault)
  | invalidUrl (reason : String)
  /-- The server refused and gave a reason. -/
  | api (status : Nat) (reason : String)
  | config (reason : String)
  deriving DecidableEq, Repr

namespace ClientError

/-- The error in words. -/
def message : ClientError → String
  | .http status body => s!"HTTP request failed with status {status}: {body}"
  | .transport _ reason => reason
  | .json fault => "JSON serialization/deserialization failed: " ++ fault.message
  | .invalidUrl reason => "Invalid URL: " ++ reason
  | .api status reason => s!"Elasticsearch error (status {status}): {reason}"
  | .config reason => "Configuration error: " ++ reason

/-- Whether another attempt may succeed: a server that is down or slow may come back.  A connection
that ended in the middle tells nothing about the server, and is not tried again. -/
def isTransient : ClientError → Bool
  | .transport .refused _ | .transport .timedOut _ => true
  | _ => false

end ClientError

end LogSearch
