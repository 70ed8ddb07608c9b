import LogSearch.Client.Backend
import LogSearch.Search.Refusal
import LogSearch.Settings.Basic
import LogSearch.Url.Basic

/-!
# The client

The client puts searches to a server over HTTP: it knows the URL that paths are added to and the
header that presents its credentials.  Whoever carries messages to the server and back is left open,
so that a client is a function of the answers it gets.

## What is here

* `HttpRequest`, `HttpReply` and `Carrier` — messages, and who carries them;
* `Client.new`, `Client.ofSettings` — clients, unless the URL is none or not one of the web;
* `Client.request?` — the message that puts a search to the server;
* `Client.credentialsFault?` — why its credentials cannot be sent, if they cannot;
* `Client.readAnswer` — what the reply to it means;
* `Client.backend` — a client with a carrier answers searches;
* `Client.checkedBackend` — the same, with a look at the credentials first;
* `ScriptedServer` — a server with prepared replies, which notes the messages it gets.
-/

set_option autoImplicit false
namespace LogSearch

/-! ## Messages -/

/-- A message to a server. -/
structure HttpRequest where
  /-- The server and what is asked for on it. -/
  url : Url
  authorization : Option String
  body : String
  deriving Repr

/-- The name the client goes by. -/
def userAgent : String := "elastic-log-0.5.0"

namespace HttpRequest

/-- The first line of the message. -/
def line (request : HttpRequest) : String := "POST " ++ request.url.target

/-- The headers of the message. -/
def headers (request : HttpRequest) : List (String × String) :=
  (request.authorization.toList.map fun value => ("authorization", value)) ++
    [("content-type", "application/json"), ("user-agent", userAgent)]

end HttpRequest

/-- Whether a text can be sent as the value of a header: visible characters of ASCII, spaces, tabs. -/
def isHeaderValue (text : String) : Bool :=
  text.toList.all fun c => c == '\t' || (0x20 ≤ c.toNat && c.toNat < 0x7F)

/-- What comes back for a message. -/
inductive HttpReply
  /-- A status and a text. -/
  | answered (status : Nat) (body : String)
  /-- The connection ended before an answer. -/
  | dropped
  /-- There was no connection. -/
  | refused
  /-- The time to wait was over before the answer was there. -/
  | timedOut
  deriving DecidableEq, Repr

/-- Whoever carries messages to a server and back.  How long it waits for a reply is its own affair:
a client has no clock. -/
structure Carrier (σ : Type) where
  send : HttpRequest → σ → HttpReply × σ
  /-- Its words for the reason why no answer came. -/
  describe : TransportFault → String

/-! ## Clients -/

/-- How to put searches to a server. -/
structure Client where
  /-- The URL that paths are added to. -/
  baseUrl : String
  authorization : Option String
  deriving DecidableEq, Repr

namespace Client

/-- A text less the slashes at its end. -/
def trimSlashes (text : String) : String :=
  String.ofList (text.toList.reverse.dropWhile (· == '/')).reverse

/-- A client without credentials for the server at a URL. -/
def new (url : String) : Except ClientError Client :=
  let client : Except ClientError Client := .ok ⟨trimSlashes url, none⟩
  let wrongScheme : Except ClientError Client :=
    .error (.invalidUrl (url ++ ": scheme must be http or https"))
  match Url.read url with
  | .error fault => .error (.invalidUrl (url ++ ": " ++ fault.message))
  | .ok (.web parsed) =>
    if parsed.scheme = "http".toList || parsed.scheme = "https".toList then client
    else wrongScheme
  | .ok (.other _) => wrongScheme

/-- The client that settings ask for. -/
def ofSettings (settings : Settings) : Except ClientError Client := do
  let url ← settings.baseUrl.mapError fun fault => .config fault.message
  let client ← new url
  return { client with
    authorization := settings.credentials.map (·.header settings.authMode) }

/-- The message that puts a search to the server, if what it asks for is a URL.  Credentials of the
client go before those of the URL. -/
def request? (client : Client) (request : SearchRequest) : Option HttpRequest :=
  match Url.read (client.baseUrl ++ request.path) with
  | .ok (.web url) =>
    let fromUrl := url.userInfo?.map fun (user, password) =>
      Credentials.header .basic ⟨user, password.getD ""⟩
    some ⟨url, client.authorization.or fromUrl, request.toJson.compact⟩
  | _ => none

/-- Why a message with the credentials of the client cannot be sent, if it cannot. -/
def credentialsFault? (client : Client) : Option ClientError :=
  if client.authorization.all isHeaderValue then none
  else some (.config "Invalid credentials: failed to parse header value")

/-- The text of an answer, less a mark of its byte order.  Some answers have none, whatever comes
with them. -/
def textOf (status : Nat) (body : String) : String :=
  if status == 204 || status == 304 then ""
  else
    match body.toList with
    | '\ufeff' :: rest => String.ofList rest
    | _ => body

/-- What the reply to a search means; `describe` has words for replies that did not come. -/
def readAnswer (describe : TransportFault → String) : HttpReply → Answer
  | .refused => .error (.transport .refused (describe .refused))
  | .dropped => .error (.transport .dropped (describe .dropped))
  | .timedOut => .error (.transport .timedOut (describe .timedOut))
  | .answered status body =>
    let text := textOf status body
    if 200 ≤ status && status < 300 then (SearchResponse.decode text).mapError .json
    else match Refusal.decode text with
      | .ok refusal => .error (.api status refusal.reason)
      | .error _ => .error (.http status text)

/-- A client whose messages are carried answers searches. -/
def backend {σ : Type} (client : Client) (carrier : Carrier σ) : Backend σ where
  search request state :=
    match client.request? request with
    | none => (.error (.transport .unaddressable (carrier.describe .unaddressable)), state)
    | some message =>
      let (reply, state) := carrier.send message state
      (readAnswer carrier.describe reply, state)

/-- A client that looks at its credentials before it puts a search. -/
def checkedBackend {σ : Type} (client : Client) (carrier : Carrier σ) : Backend σ where
  search request state :=
    match client.credentialsFault? with
    | some fault => (.error fault, state)
    | none => (client.backend carrier).search request state

end Client

/-! ## A server with prepared replies -/

/-- A server with prepared replies. -/
structure ScriptedServer where
  replies : List HttpReply
  /-- The messages it got, the last one first. -/
  received : List HttpRequest
  deriving Repr

/-- The port that nobody listens at. -/
def closedPort : Nat := 1

/-- Gives prepared replies in their order, and empty pages behind them; connections to the closed
port are refused. -/
def ScriptedServer.carrier (describe : TransportFault → String) : Carrier ScriptedServer where
  describe
  send message server :=
    if message.url.port = some closedPort then (.refused, server)
    else
      let received := message :: server.received
      match server.replies with
      | [] => (.answered 200 SearchResponse.empty.toJson.compact, ⟨[], received⟩)
      | reply :: replies => (reply, ⟨replies, received⟩)

end LogSearch
