import LogSearch.Settings.CloudId
import LogSearch.Time.Duration

/-!
# Settings

Where the server is and how to speak to it is said by variables of the environment.  A variable that
is empty counts as not set.

## What is here

* `AuthMode` — how credentials are presented, and `AuthMode.parse`;
* `Settings` and `Settings.read` — the settings that variables give, or the first fault;
* `Settings.credentials`, `Settings.baseUrl` — what follows from them.
-/

set_option autoImplicit false
namespace LogSearch

open Time (Duration)

/-! ## Faults -/

/-- What is wrong with the settings. -/
inductive SettingsFault
  /-- A variable that must be set is not. -/
  | notSet (name : String)
  | badAuthMode (text : String)
  | badTimeout (text : String)
  | badCloudId (fault : CloudId.Fault)
  deriving DecidableEq, Repr

/-- The fault in words. -/
def SettingsFault.message : SettingsFault → String
  | .notSet name => name ++ " is not set"
  | .badAuthMode text =>
    "ELASTICSEARCH_AUTH_MODE must be `basicauth` or `apikey`, found " ++ Text.quote text
  | .badTimeout text =>
    "ELASTICSEARCH_TIMEOUT must be a whole number of seconds, found " ++ Text.quote text
  | .badCloudId fault => "Invalid cloud ID: " ++ fault.message

/-! ## Credentials -/

/-- How credentials are presented to the server. -/
inductive AuthMode
  /-- As a user name and a password. -/
  | basic
  /-- As the name of a key and its secret. -/
  | apiKey
  deriving DecidableEq, Repr

namespace AuthMode

/-- A letter in lower case.  Of the letters outside ASCII only the sign of the kelvin has a lower
case in ASCII. -/
def lowerLetter (c : Char) : Char := if c == '\u212a' then 'k' else c.toLower

/-- The mode that a text names in any case. -/
def parse (text : String) : Except SettingsFault AuthMode :=
  match String.ofList (text.toList.map lowerLetter) with
  | "basicauth" => .ok .basic
  | "apikey" => .ok .apiKey
  | _ => .error (.badAuthMode text)

/-- The word that credentials of this mode follow. -/
def scheme : AuthMode → String
  | .basic => "Basic"
  | .apiKey => "ApiKey"

end AuthMode

/-- A name with the secret that proves it. -/
structure Credentials where
  name : String
  secret : String
  deriving DecidableEq, Repr

/-- The header that presents credentials. -/
def Credentials.header (mode : AuthMode) (credentials : Credentials) : String :=
  mode.scheme ++ " " ++ Text.Base64.encodeText (credentials.name ++ ":" ++ credentials.secret)

/-! ## Settings -/

/-- How to reach the server. -/
structure Settings where
  /-- A URL, or a cloud id behind `cloud:`. -/
  url : String
  username : Option String
  password : Option String
  authMode : AuthMode
  timeout : Duration
  deriving DecidableEq, Repr

namespace Settings

/-- What a cloud id follows. -/
def cloudMark : List Char := "cloud:".toList

/-- How long to wait for an answer unless told otherwise. -/
def defaultTimeout : Duration := .ofWholeSeconds 40

/-- The settings that variables give. -/
def read (lookup : String → Option String) : Except SettingsFault Settings := do
  let var := fun name => (lookup name).filter (· != "")
  let url ← match var "ELASTICSEARCH_URL" with
    | some url => pure url
    | none => throw (.notSet "ELASTICSEARCH_URL")
  let authMode ← match var "ELASTICSEARCH_AUTH_MODE" with
    | some text => AuthMode.parse text
    | none => pure .basic
  let timeout ← match var "ELASTICSEARCH_TIMEOUT" with
    | some text =>
      match Text.readNatural (Nat.pow 2 64 - 1) text.toList with
      | .ok seconds => pure (.ofWholeSeconds seconds)
      | .error _ => throw (.badTimeout text)
    | none => pure defaultTimeout
  return ⟨url, var "ELASTICSEARCH_USERNAME", var "ELASTICSEARCH_PASSWORD", authMode, timeout⟩

/-- Whether the server is a cluster in the cloud. -/
def isCloud (settings : Settings) : Bool := cloudMark.isPrefixOf settings.url.toList

/-- The credentials, if both parts are set. -/
def credentials (settings : Settings) : Option Credentials := do
  return ⟨← settings.username, ← settings.password⟩

/-- The URL of the server. -/
def baseUrl (settings : Settings) : Except SettingsFault String :=
  if settings.isCloud then
    (CloudId.decode (String.ofList (settings.url.toList.drop cloudMark.length))).mapError
      .badCloudId
  else .ok settings.url

end Settings

end LogSearch
