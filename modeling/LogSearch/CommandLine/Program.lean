import LogSearch.Client.Http
import LogSearch.CommandLine.Arguments
import LogSearch.CommandLine.Plan
import LogSearch.Stream

/-!
# The program

The program reads its command line, checks what it says, connects to the server and streams the hits
to its output.  What it does on the way is written to the log, as far as the filter lets it through.

## What is here

* `Program.filter` — the filter of the log that the environment and the options ask for;
* `Program.prepare` — all that comes before the first request: an explanation, or a search;
* `Program.verdict`, `Program.failureEntry` — what the end of a stream means, and the last entry of
  the log;
* `Program.rehearse` — the whole program against a server with prepared replies.
-/

set_option autoImplicit false
namespace LogSearch.Program

open Time (Timestamp)

/-- The name and version of the program. -/
def version : String := "elastic-log 0.5.0\n"

/-- The filter of the log: the one the environment names, if it can be read. -/
def filter (lookup : String → Option String) (options : Options) : LogFilter :=
  match (lookup "RUST_LOG").bind LogFilter.parse? with
  | some filter => filter
  | none => if options.verbose then .verbose else .standard

/-- What is to be done. -/
inductive Task
  /-- Write a text to the output. -/
  | explain (text : String)
  /-- Stream the hits of a search. -/
  | search (client : Client) (request : SearchRequest) (opening : LogEntry)

/-- The entry of the log that opens a search. -/
def opening (request : SearchRequest) (client : Client) (window : TimeWindow) : LogEntry :=
  ⟨.info, "elastic_log",
    s!"Searching {request.index} on {client.baseUrl} from {window.start.display}"⟩

/-- A client for the server that the environment names. -/
def connect (lookup : String → Option String) : Except ClientError Client := do
  let settings ← (Settings.read lookup).mapError fun fault => ClientError.config fault.message
  Client.ofSettings settings

/-- All that comes before the first request. -/
def prepare (lookup : String → Option String) (now : Timestamp) (options : Options) :
    Except ProgramError Task :=
  if options.explain then (options.explanation now).map .explain
  else do
    let (window, request) ← options.plan now
    let client ← (connect lookup).mapError .client
    return .search client request (opening request client window)

/-- What the end of a stream means for the program. -/
def verdict : Stream.Ending → Except ProgramError Nat
  | .finished count => .ok count
  | .failed error => .error (.client error)
  | .unwritten fault => .error (.output fault)
  | .overflow => .error .delayOverflow

/-- The entry of the log about a failure. -/
def failureEntry (error : ProgramError) : LogEntry := ⟨.error, "elastic_log", error.message⟩

/-! ## Rehearsals -/

/-- What a run of the program left behind. -/
structure Trace where
  exitCode : Nat
  output : String
  /-- The lines of the log. -/
  log : List String
  /-- The messages that the server got, in their order. -/
  received : List HttpRequest

/-- The lines of the entries that a filter lets through. -/
def logLines (filter : LogFilter) (entries : List LogEntry) : List String :=
  (entries.filter filter.enables).flatMap LogEntry.lines

/-- What is left behind by a failure. -/
def failed (filter : LogFilter) (error : ProgramError) (output : String) (entries : List LogEntry)
    (received : List HttpRequest) : Trace :=
  ⟨error.exitCode, output, logLines filter (entries ++ [failureEntry error]), received⟩

/-- A stream of prepared replies, up to its end. -/
def streamReplies (describe : TransportFault → String) (client : Client) (request : SearchRequest)
    (replies : List HttpReply) (sink : ScriptedSink) :
    Except ProgramError Nat × Book ScriptedServer ScriptedSink :=
  let world := World.booked (client.backend (ScriptedServer.carrier describe)) ScriptedSink.sink
  let rounds := Stream.roundsFor (replies.map (Client.readAnswer describe))
  let ((ending, stream), book) :=
    (Stream.run world rounds (.start request)).run (.start ⟨replies, []⟩ sink)
  match ending with
  | some ending => (verdict ending, book)
  | none => (.ok stream.count, book)

/-- Carries out the program against a server with prepared replies. -/
def rehearse (describe : TransportFault → String) (arguments : List String)
    (lookup : String → Option String) (now : Timestamp) (replies : List HttpReply) : Trace :=
  match Options.parse arguments with
  | .error fault =>
    ⟨fault.exitCode, if fault = .versionWanted then version else "", [], []⟩
  | .ok options =>
    let filter := filter lookup options
    match prepare lookup now options with
    | .error error => failed filter error "" [] []
    | .ok (.explain text) => ⟨0, text, [], []⟩
    | .ok (.search client request opening) =>
      let (result, book) := streamReplies describe client request replies (.new none none .closed)
      let output := String.join book.sink.flushed.reverse ++ book.sink.pending
      let entries := opening :: book.entries
      let received := book.peer.received.reverse
      match result with
      | .ok _ => ⟨0, output, logLines filter entries, received⟩
      | .error error => failed filter error output entries received

end LogSearch.Program
