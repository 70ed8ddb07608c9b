import LogSearch.Client.Message
import LogSearch.CommandLine.Program
import LogSearch.Time.Clock
import Std.Async.DNS
import Std.Async.TCP
import Std.Async.Timer
import Std.Time.DateTime.Timestamp

/-!
# The command line program

Everything is decided elsewhere; here the decisions meet the clock, the environment, the network and
the streams of the process.

## What is here

* `carry` — takes a message to its server and brings the reply back, if it comes in time;
* `processWorld` — the world of a process;
* `main`.
-/

set_option autoImplicit false
open LogSearch
open Std.Async (Async)
open Std.Net (IPAddr SocketAddress)

/-- The socket address of a host and a port. -/
def socketAddress (address : IPAddr) (port : UInt16) : SocketAddress :=
  match address with
  | .v4 address => .v4 ⟨address, port⟩
  | .v6 address => .v6 ⟨address, port⟩

/-- All bytes until the connection ends. -/
partial def receiveAll (client : Std.Async.TCP.Socket.Client) (received : ByteArray) :
    Async ByteArray := do
  match ← client.recv? 65536 with
  | some chunk => receiveAll client (received ++ chunk)
  | none => return received

/-- A connection to the server of a URL. -/
def connectTo (url : Url) : Async Std.Async.TCP.Socket.Client := do
  let addresses ← Std.Async.DNS.getAddrInfo url.host.text ""
  let client ← Std.Async.TCP.Socket.Client.mk
  match addresses[0]? with
  | some address => client.connect (socketAddress address url.portOrDefault.toUInt16)
  | none => throw (IO.userError "no address")
  return client

/-- What comes back on a connection for a message. -/
def exchange (message : HttpRequest) (client : Std.Async.TCP.Socket.Client) : Async HttpReply := do
  try
    client.send (ByteArray.mk message.bytes.toArray)
    let bytes ← receiveAll client .empty
    return (HttpReply.ofBytes? bytes.toList).getD .dropped
  catch _ => return .dropped

/-- What comes back for a message, however long it takes. -/
def replyTo (message : HttpRequest) : Async HttpReply := do
  let client ← try connectTo message.url catch _ => return .refused
  exchange message client

/-- Whole milliseconds of a duration, as far as clocks count them. -/
def milliseconds (duration : LogSearch.Time.Duration) : Nat :=
  min (duration.nanoseconds / 1000000) 0xFFFFFFFF

/-- Takes a message to its server and brings the reply back, unless it takes too long.  Connections
that need a cipher are not made. -/
def carry (timeout : LogSearch.Time.Duration) (message : HttpRequest) : IO HttpReply := do
  if message.url.scheme != "http".toList then return .refused
  let alarm : Async (Option HttpReply) := do
    Std.Async.sleep (.ofNat (milliseconds timeout))
    return none
  match ← (Async.race (some <$> replyTo message) alarm).block.toBaseIO with
  | .ok reply => return reply.getD .timedOut
  | .error _ => return .dropped

/-- Why no answer came, in words. -/
def describe : TransportFault → String
  | .refused => "No connection to the server"
  | .timedOut => "No answer from the server in time"
  | .dropped => "The connection ended before the answer"
  | .unaddressable => "The request has no URL"

/-- The time of the clock. -/
def clock : IO LogSearch.Time.Timestamp := do
  let now ← Std.Time.Timestamp.now
  let seconds := now.toSecondsSinceUnixEpoch.val.toNat
  let nanoseconds := now.toNanosecondsSinceUnixEpoch.val.toNat % 1000000000
  match LogSearch.Time.Timestamp.ofClock? seconds nanoseconds with
  | some time => return time
  | none => throw (IO.userError "the clock is out of the calendar")

/-- Writes an entry to the log, if the filter lets it through. -/
def writeLog (filter : LogFilter) (entry : LogEntry) : IO Unit := do
  if filter.enables entry then
    IO.eprintln s!"{(← clock).format}Z {entry.text}"

/-- Why output was not taken. -/
def outputFault : IO.Error → OutputFault
  | .resourceVanished _ _ => .closed
  | error => .other (toString error)

/-- The fault of an action on the output, if there is one. -/
def faultOf (action : IO Unit) : IO (Option OutputFault) := do
  match ← action.toBaseIO with
  | .ok _ => return none
  | .error error => return some (outputFault error)

/-- The world of a process; `timeout` is how long it waits for a reply. -/
def processWorld (timeout : LogSearch.Time.Duration) (client : Client) (filter : LogFilter) :
    World IO where
  search request := do
    if let some fault := client.credentialsFault? then return .error fault
    match client.request? request with
    | none => return .error (.transport .unaddressable (describe .unaddressable))
    | some message => return Client.readAnswer describe (← carry timeout message)
  sleep delay := IO.sleep (milliseconds delay).toUInt32
  log := writeLog filter
  write text := do faultOf ((← IO.getStdout).putStr text)
  flush := do faultOf (← IO.getStdout).flush

/-- Streams the hits of a search until it ends. -/
partial def streamAll (world : World IO) (stream : Stream) : IO Stream.Ending := do
  match ← stream.step world with
  | (some ending, _) => return ending
  | (none, stream) => streamAll world stream

/-- How long the settings say to wait for a reply. -/
def replyTimeout (lookup : String → Option String) : LogSearch.Time.Duration :=
  match Settings.read lookup with
  | .ok settings => settings.timeout
  | .error _ => Settings.defaultTimeout

/-- Carries out a task. -/
def carryOut (timeout : LogSearch.Time.Duration) (filter : LogFilter) :
    Program.Task → IO (Except ProgramError Nat)
  | .explain text => do
    match ← faultOf ((← IO.getStdout).putStr text) with
    | none => return .ok 0
    | some fault => return .error (.output fault)
  | .search client request opening => do
    writeLog filter opening
    return Program.verdict (← streamAll (processWorld timeout client filter) (.start request))

/-- The program. -/
def main (arguments : List String) : IO UInt32 := do
  match Options.parse arguments with
  | .error .versionWanted =>
    IO.print Program.version
    return 0
  | .error .helpWanted =>
    IO.println (ArgumentFault.message .helpWanted)
    return 0
  | .error fault =>
    IO.eprintln fault.message
    return fault.exitCode.toUInt32
  | .ok options =>
    let names := ["ELASTICSEARCH_URL", "ELASTICSEARCH_USERNAME", "ELASTICSEARCH_PASSWORD",
      "ELASTICSEARCH_AUTH_MODE", "ELASTICSEARCH_TIMEOUT", "RUST_LOG"]
    let environment ← names.mapM fun name => return (name, ← IO.getEnv name)
    let lookup := fun name => (environment.lookup name).join
    let filter := Program.filter lookup options
    let result ← match Program.prepare lookup (← clock) options with
      | .ok task => carryOut (replyTimeout lookup) filter task
      | .error error => pure (.error error)
    match result with
    | .ok _ => return 0
    | .error error =>
      writeLog filter (Program.failureEntry error)
      return error.exitCode.toUInt32
