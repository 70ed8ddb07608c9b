import LogSearch.Client.Backend
import LogSearch.Log
import LogSearch.Time.Duration

/-!
# The world of a search

A search acts on the world: it puts requests to a backend, sleeps, and writes log entries and lines
of output.  It is written against a record of these actions in any monad, so that it runs in `IO`
and in a world that is only kept in books.

## What is here

* `OutputFault` — why output was not taken;
* `World` — the actions;
* `Event` and `Book` — what was done, with what came of it;
* `World.booked` — the world of a backend and a sink, in which every action is put down;
* `ScriptedSink` — a sink that keeps what it gets, and fails at prepared places.
-/

set_option autoImplicit false
namespace LogSearch

open Time (Duration)

/-- Why output was not taken. -/
inductive OutputFault
  /-- Whoever read the output has gone away. -/
  | closed
  /-- Some other reason, in words. -/
  | other (reason : String)
  deriving DecidableEq, Repr

/-- The fault in words. -/
def OutputFault.message : OutputFault → String
  | .closed => "broken pipe"
  | .other reason => reason

/-- What a search can do. -/
structure World (m : Type → Type) where
  search : SearchRequest → m Answer
  sleep : Duration → m Unit
  log : LogEntry → m Unit
  /-- Writes a text to the output. -/
  write : String → m (Option OutputFault)
  /-- Passes on what was written. -/
  flush : m (Option OutputFault)

/-! ## A world in books -/

/-- A thing that was done. -/
inductive Event
  | asked (request : SearchRequest) (answer : Answer)
  | slept (delay : Duration)
  | logged (entry : LogEntry)
  | wrote (text : String) (fault : Option OutputFault)
  | flushed (fault : Option OutputFault)
  deriving Repr

/-- Where a text goes. -/
structure Sink (ω : Type) where
  write : String → ω → Option OutputFault × ω
  flush : ω → Option OutputFault × ω

/-- The state of a backend and a sink, and what was done so far. -/
structure Book (σ ω : Type) where
  peer : σ
  sink : ω
  /-- What was done, the last thing first. -/
  events : List Event
  deriving Repr

namespace Book

variable {σ ω : Type}

/-- A book before anything was done. -/
def start (peer : σ) (sink : ω) : Book σ ω := ⟨peer, sink, []⟩

/-- Puts an event down. -/
def note (book : Book σ ω) (event : Event) : Book σ ω :=
  { book with events := event :: book.events }

/-- The requests that were put, in their order. -/
def requests (book : Book σ ω) : List SearchRequest :=
  book.events.reverse.filterMap fun
    | .asked request _ => some request
    | _ => none

/-- The delays that were slept, in their order. -/
def sleeps (book : Book σ ω) : List Duration :=
  book.events.reverse.filterMap fun
    | .slept delay => some delay
    | _ => none

/-- The entries of the log, in their order. -/
def entries (book : Book σ ω) : List LogEntry :=
  book.events.reverse.filterMap fun
    | .logged entry => some entry
    | _ => none

end Book

/-- The world of a backend and a sink, in which every action is put down. -/
def World.booked {σ ω : Type} (backend : Backend σ) (out : Sink ω) : World (StateM (Book σ ω)) where
  search request := modifyGet fun book =>
    let (answer, peer) := backend.search request book.peer
    (answer, ({ book with peer }).note (.asked request answer))
  sleep delay := modify (·.note (.slept delay))
  log entry := modify (·.note (.logged entry))
  write text := modifyGet fun book =>
    let (fault, sink) := out.write text book.sink
    (fault, ({ book with sink }).note (.wrote text fault))
  flush := modifyGet fun book =>
    let (fault, sink) := out.flush book.sink
    (fault, ({ book with sink }).note (.flushed fault))

/-! ## An output that fails at prepared places -/

/-- An output that keeps what it gets. -/
structure ScriptedSink where
  /-- The number of texts that are taken, if not all of them are. -/
  writeLimit : Option Nat
  /-- The number of times that texts are passed on, if not every time. -/
  flushLimit : Option Nat
  fault : OutputFault
  /-- The number of texts taken. -/
  taken : Nat
  /-- What was passed on, the last first. -/
  flushed : List String
  /-- What was taken and not passed on. -/
  pending : String
  /-- The number of times that texts were to be passed on. -/
  flushes : Nat
  deriving Repr

namespace ScriptedSink

/-- An output before its first text. -/
def new (writeLimit flushLimit : Option Nat) (fault : OutputFault) : ScriptedSink :=
  ⟨writeLimit, flushLimit, fault, 0, [], "", 0⟩

/-- Keeps so many texts, and passes them on so many times. -/
def sink : Sink ScriptedSink where
  write text s :=
    if s.writeLimit.any (· ≤ s.taken) then (some s.fault, s)
    else (none, { s with taken := s.taken + 1, pending := s.pending ++ text })
  flush s :=
    let counted := { s with flushes := s.flushes + 1 }
    if s.flushLimit.any (· ≤ s.flushes) then (some s.fault, counted)
    else (none, { counted with flushed := s.pending :: s.flushed, pending := "" })

end ScriptedSink

end LogSearch
