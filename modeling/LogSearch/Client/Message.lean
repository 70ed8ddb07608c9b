import LogSearch.Client.Http

/-!
# Messages on the wire

A message to a server is a few lines of text and a body; what comes back is the same with a status
in its first line.  The server is asked to close the connection behind its answer, so the answer
ends where the connection does.

## What is here

* `HttpRequest.bytes` — a message as it is sent;
* `HttpReply.ofBytes?` — the reply that bytes hold, if they are one.
-/

set_option autoImplicit false
namespace LogSearch

open Text (Utf8.encode Utf8.decodeLossy)

/-- The host as a name or an address. -/
def Url.Host.text : Url.Host → String
  | .name labels => String.ofList labels
  | .ipv4 address =>
    s!"{address / 16777216}.{address / 65536 % 256}.{address / 256 % 256}.{address % 256}"
  | .ipv6 text => String.ofList text

/-- Where the server of a URL listens. -/
def Url.portOrDefault (url : Url) : Nat :=
  url.port.getD (if url.scheme = "https".toList then 443 else 80)

namespace HttpRequest

/-- The host and port that a message names; an address of the new kind stands in brackets. -/
def hostText (request : HttpRequest) : String :=
  let host := match request.url.host with
    | .ipv6 text => "[" ++ String.ofList text ++ "]"
    | host => host.text
  match request.url.port with
  | some port => s!"{host}:{port}"
  | none => host

/-- The message as it is sent. -/
def bytes (request : HttpRequest) : List UInt8 :=
  let body := Utf8.encode request.body.toList
  let headers := ("host", request.hostText) :: request.headers ++
    [("content-length", toString body.length), ("connection", "close")]
  let lines := (request.line ++ " HTTP/1.0") :: headers.map fun (name, value) => s!"{name}: {value}"
  Utf8.encode ((lines.map (· ++ "\r\n")).foldr (· ++ ·) "\r\n").toList ++ body

end HttpRequest

namespace HttpReply

/-- What follows the first empty line. -/
def bodyOf : List UInt8 → Option (List UInt8)
  | 13 :: 10 :: 13 :: 10 :: rest => some rest
  | _ :: rest => bodyOf rest
  | [] => none

/-- The status in the first line of a reply. -/
def statusOf (bytes : List UInt8) : Option Nat :=
  let afterBlank := (bytes.dropWhile (· != 32)).drop 1
  match afterBlank.take 3 with
  | [a, b, c] =>
    if [a, b, c].all fun d => 48 ≤ d && d ≤ 57 then
      some (((a - 48).toNat * 10 + (b - 48).toNat) * 10 + (c - 48).toNat)
    else none
  | _ => none

/-- The reply that bytes hold. -/
def ofBytes? (bytes : List UInt8) : Option HttpReply := do
  let status ← statusOf bytes
  let body ← bodyOf bytes
  return .answered status (String.ofList (Utf8.decodeLossy body))

end HttpReply

end LogSearch
