import LogSearch.Client.Scan

/-!
# Streaming hits to an output

Every hit of a search is written as a line that holds its document.  Behind the last line of a page
the output is flushed, so that nothing waits to be read while the next page is waited for.  If the
reader of the output goes away, that ends the stream quietly; any other fault of the output is an
error.

A stream against a server that never runs out of hits never ends, so `Stream.run` takes a number of
rounds.

## What is here

* `Stream` — the scan, with the number of hits written;
* `Stream.step` — one round: takes a hit and writes it, or ends;
* `Stream.run` — so many rounds.
-/

set_option autoImplicit false
namespace LogSearch

open Time (Duration)

/-- How a stream ended. -/
inductive Stream.Ending
  /-- So many hits were written. -/
  | finished (count : Nat)
  /-- A page failed for good. -/
  | failed (error : ClientError)
  /-- A line was not taken. -/
  | unwritten (fault : OutputFault)
  /-- A delay was out of range. -/
  | overflow
  deriving DecidableEq, Repr

/-- The streaming of a search to an output. -/
structure Stream where
  scan : Scan
  /-- The number of hits written. -/
  count : Nat

namespace Stream

/-- What is written to the log before a delay. -/
def announce (error : ClientError) (delay : Duration) : List LogEntry :=
  [⟨.warn, "elastic_log", s!"Search failed, retrying in {delay.roughText}s: {error.message}"⟩]

/-- A stream before its first page, with the usual delays after failures. -/
def start (request : SearchRequest) : Stream := ⟨.new request .default announce, 0⟩

/-- The line of a hit. -/
def line (hit : Hit) : String := hit.source.compact ++ "\n"

/-- An entry of the log about a stream. -/
def entry (s : Stream) (level : LogLevel) (message : String) : LogEntry :=
  ⟨level, "elastic_log", s!"[cli][{s.scan.request.index}] {message}"⟩

variable {m : Type → Type} [Monad m]

/-- Ends after a fault of the output. -/
def close (world : World m) (s : Stream) (fault : OutputFault) : m Ending := do
  match fault with
  | .closed =>
    world.log (s.entry .debug s!"output closed after {s.count} hits, stopping")
    return .finished s.count
  | fault => return .unwritten fault

/-- Writes a hit, and flushes behind the last one of a page. -/
def put (world : World m) (s : Stream) (hit : Hit) : m (Option Ending × Stream) := do
  match ← world.write (line hit) with
  | some fault => return (some (← s.close world fault), s)
  | none =>
    let s := { s with count := s.count + 1 }
    if s.scan.buffer.isEmpty then
      match ← world.flush with
      | some fault => return (some (← s.close world fault), s)
      | none => return (none, s)
    else return (none, s)

/-- Ends behind the last hit. -/
def finish (world : World m) (s : Stream) : m Ending := do
  match ← world.flush with
  | some fault => s.close world fault
  | none =>
    world.log (s.entry .info s!"streamed {s.count} hits in {s.scan.pages} pages")
    return .finished s.count

/-- One round: takes a hit and writes it, or ends. -/
def step (world : World m) (s : Stream) : m (Option Ending × Stream) := do
  let (outcome, scan) ← s.scan.next world
  let s := { s with scan }
  match outcome with
  | .hit hit => s.put world hit
  | .finished => return (some (← s.finish world), s)
  | .failure error => return (some (.failed error), s)
  | .overflow => return (some .overflow, s)

/-- So many rounds, or less if the stream ends; no ending if it goes on. -/
def run (world : World m) : Nat → Stream → m (Option Ending × Stream)
  | 0, s => return (none, s)
  | rounds + 1, s => do
    match ← s.step world with
    | (some ending, s) => return (some ending, s)
    | (none, s) => run world rounds s

/-- A number of rounds in which a stream of prepared answers ends: one for each hit, and one for the
end. -/
def roundsFor (answers : List Answer) : Nat := answers.foldr (fun answer n => answer.size + n) 1

end Stream

end LogSearch
