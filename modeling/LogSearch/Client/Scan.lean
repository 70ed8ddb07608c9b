import LogSearch.Backoff
import LogSearch.World

/-!
# Reading all pages

A scan reads the hits of a search one by one and asks for a page whenever it has none left.  Each
page is asked for behind the last hit of the page before; an empty page ends the scan, and so does a
page whose last hit gives no place to go on from.  A page that fails for a reason that may pass is
asked for again after a delay; any other failure ends the scan.

## What is here

* `Scan` — the request for the next page, the hits at hand, and the pages so far;
* `Scan.accept` — takes in a page;
* `Scan.next` — the next hit, the failure, or the end.
-/

set_option autoImplicit false
namespace LogSearch

open Time (Duration)

/-- What is written to the log before a delay. -/
abbrev Announcement := ClientError → Duration → List LogEntry

/-- The reading of all pages of a search. -/
structure Scan where
  /-- The request for the next page. -/
  request : SearchRequest
  backoff : Backoff
  announce : Announcement
  /-- The hits at hand. -/
  buffer : List Hit
  /-- The number of pages so far. -/
  pages : Nat
  /-- Whether no page is to be asked for any more. -/
  done : Bool

namespace Scan

/-- A scan before its first page. -/
def new (request : SearchRequest) (backoff : Backoff) (announce : Announcement) : Scan :=
  { request, backoff, announce, buffer := [], pages := 0, done := false }

/-- An entry of the log about a scan. -/
def entry (scan : Scan) (level : LogLevel) (message : String) : LogEntry :=
  ⟨level, "elastic_log_client::scan", s!"[scan][{scan.request.index}] {message}"⟩

/-- Takes in a page, with what is to be said about it in the log. -/
def accept (scan : Scan) (page : SearchResponse) : Scan × List LogEntry :=
  let pages := scan.pages + 1
  let arrival := scan.entry .debug
    s!"page {pages} returned {page.hits.length} hits in {page.took}ms"
  let scan := { scan with pages, buffer := scan.buffer ++ page.hits }
  match page.hits.getLast? with
  | none => ({ scan with done := true }, [arrival])
  | some last =>
    if last.sort.isEmpty then
      ({ scan with done := true }, [arrival, scan.entry .warn
        s!"hit {last.id} carries no sort values, stopping after this page"])
    else ({ scan with request := { scan.request with after := some last.sort } }, [arrival])

/-- What a call for the next hit leads to. -/
inductive Outcome
  | hit (hit : Hit)
  /-- A page failed for good. -/
  | failure (error : ClientError)
  /-- There are no more hits. -/
  | finished
  /-- The delay before another attempt is out of range. -/
  | overflow
  deriving DecidableEq, Repr

/-- The hit that comes next of those at hand. -/
def take (scan : Scan) : Outcome × Scan :=
  match scan.buffer with
  | hit :: rest => (.hit hit, { scan with buffer := rest })
  | [] => (.finished, scan)

variable {m : Type → Type} [Monad m]

/-- What is done between a failure and another attempt. -/
def pause (world : World m) (announce : Announcement) : ClientError → Duration → m Unit :=
  Backoff.pause (some fun error delay => (announce error delay).forM world.log) world.sleep

/-- The next hit.  A page is asked for if no hit is at hand; it holds one, or it is the last. -/
def next (world : World m) (scan : Scan) : m (Outcome × Scan) := do
  if scan.buffer.isEmpty && !scan.done then
    let (ending, backoff) ← scan.backoff.retry (world.search scan.request) ClientError.isTransient
      (pause world scan.announce)
    let scan := { scan with backoff }
    match ending with
    | .success page =>
      let (scan, entries) := scan.accept page
      entries.forM world.log
      return scan.take
    | .failure error => return (.failure error, { scan with done := true })
    | .overflow => return (.overflow, scan)
  else return scan.take

end Scan

end LogSearch
