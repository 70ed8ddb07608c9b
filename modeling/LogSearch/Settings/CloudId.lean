import LogSearch.Text.Base64
import LogSearch.Text.Numeral
import LogSearch.Text.Quoted
import LogSearch.Text.Utf8

/-!
# Cloud ids

A cluster in the cloud is named by an id: a name for people, a colon, and in base64 the address of
the cloud and the name of the cluster in it, with a dollar sign between them.  The address may end
in a port; what follows a second dollar sign is not looked at.

## What is here

* `CloudId.encode` — the id of a cluster;
* `CloudId.decode` — the URL of the cluster that an id names, or the first fault of the id.
-/

set_option autoImplicit false
namespace LogSearch.CloudId

/-- Where a cluster listens whose address gives no port. -/
def defaultPort : Nat := 443

/-- Why a text is no cloud id. -/
inductive Fault
  /-- It has no colon. -/
  | noColon
  | notBase64 (fault : Text.Base64.Fault)
  | notText (fault : Text.Utf8.Fault)
  /-- The address or the name of the cluster is missing. -/
  | noCluster
  /-- What follows the last colon of the address is no port. -/
  | badPort (port : String)
  deriving DecidableEq, Repr

/-- The fault in words. -/
def Fault.message : Fault → String
  | .noColon => "expected `name:base64`"
  | .notBase64 fault => fault.message
  | .notText fault => fault.message
  | .noCluster => "expected `host$uuid`"
  | .badPort port => "bad port " ++ Text.quote port

/-- A text cut at the last colon, if it has one. -/
def splitPort (address : List Char) : List Char × Option (List Char) :=
  let backwards := address.reverse
  match backwards.dropWhile (· != ':') with
  | [] => (address, none)
  | _ :: host => (host.reverse, some (backwards.takeWhile (· != ':')).reverse)

/-- The URL of the cluster with the given name at a host. -/
def clusterUrl (cluster host : List Char) (port : Nat) : String :=
  s!"https://{String.ofList cluster}.{String.ofList host}:{port}"

/-- The URL of the cluster that the decoded part of an id names. -/
def readCluster (decoded : List Char) : Except Fault String := do
  let address := decoded.takeWhile (· != '$')
  let cluster := ((decoded.dropWhile (· != '$')).drop 1).takeWhile (· != '$')
  if address.isEmpty || cluster.isEmpty then throw .noCluster
  match splitPort address with
  | (host, none) => return clusterUrl cluster host defaultPort
  | (host, some port) =>
    match Text.readNatural 65535 port with
    | .ok n => return clusterUrl cluster host n
    | .error _ => throw (.badPort (String.ofList port))

/-- The URL of the cluster that an id names. -/
def decode (id : String) : Except Fault String := do
  match id.toList.dropWhile (· != ':') with
  | [] => throw .noColon
  | _ :: encoded =>
    let bytes ← (Text.Base64.decode (Text.Utf8.encode encoded)).mapError .notBase64
    let decoded ← (Text.Utf8.decode bytes).mapError .notText
    readCluster decoded

/-- The id of the cluster with a name for people, an address, a name in the cloud, and whatever
else is to be said. -/
def encode (name host : String) (port : Option Nat) (cluster : String) (more : Option String) :
    String :=
  let address := host ++ match port with
    | some n => s!":{n}"
    | none => ""
  let rest := match more with
    | some text => "$" ++ text
    | none => ""
  name ++ ":" ++ Text.Base64.encodeText (address ++ "$" ++ cluster ++ rest)

end LogSearch.CloudId
