import LogSearch.Url.Host

/-!
# URLs

A URL of the web is a scheme, optional user information, a host, an optional port, a path, and an
optional query; a fragment is cut off.  The parser is forgiving the way browsers are: it trims
blanks, drops line breaks, takes backslashes for slashes and any number of slashes behind the
scheme, and resolves `.` and `..` in paths.

## What is here

* `Url` and `Url.parse` — the parts of a URL, escaped as they are sent;
* `Url.resolve` — the segments of a path with `.` and `..` resolved;
* `Url.target` — what is asked for on the server: path and query;
* `Url.userInfo?` — the user name and password of a URL, escapes resolved.
-/

set_option autoImplicit false
namespace LogSearch

/-- The parts of a URL. -/
structure Url where
  /-- The scheme in lower case. -/
  scheme : List Char
  /-- The user name as written, and the password if it is not empty. -/
  user : List Char
  password : Option (List Char)
  host : Url.Host
  port : Option Nat
  /-- The path, escaped. -/
  path : List Char
  /-- The query, escaped. -/
  query : Option (List Char)
  deriving DecidableEq, Repr

namespace Url

/-! ## Cutting -/

/-- A text less the blanks and control characters at its ends and the line breaks and tabs in it. -/
def clean (cs : List Char) : List Char :=
  let isEdge : Char → Bool := fun c => c.toNat ≤ 0x20
  let trimmed := ((cs.dropWhile isEdge).reverse.dropWhile isEdge).reverse
  trimmed.filter fun c => c != '\t' && c != '\n' && c != '\r'

/-- The scheme of a URL in lower case, and what follows its colon. -/
def splitScheme? (cs : List Char) : Option (List Char × List Char) :=
  let isSchemeChar : Char → Bool := fun c => c.isAlphanum || c == '+' || c == '-' || c == '.'
  let scheme := cs.takeWhile isSchemeChar
  match scheme, cs.dropWhile isSchemeChar with
  | first :: _, ':' :: rest => if first.isAlpha then some (scheme.map Char.toLower, rest) else none
  | _, _ => none

/-- The schemes whose URLs are read as URLs of the web. -/
def isWebScheme (scheme : List Char) : Bool :=
  ["http".toList, "https".toList, "ws".toList, "wss".toList, "ftp".toList].contains scheme

/-- Whether a character ends the part of a URL that names the host. -/
def endsAuthority (web : Bool) (c : Char) : Bool :=
  c == '/' || c == '?' || c == '#' || (web && c == '\\')

/-- The user information in front of the last `@`, and what follows it. -/
def splitUser (authority : List Char) : Option (List Char) × List Char :=
  let backwards := authority.reverse
  let host := (backwards.takeWhile (· != '@')).reverse
  match backwards.dropWhile (· != '@') with
  | [] => (none, authority)
  | _ :: user => (some user.reverse, host)

/-- The host in front of the first colon outside brackets, and the colon and what follows it. -/
def splitHost : Bool → List Char → List Char × List Char
  | _, [] => ([], [])
  | bracketed, c :: rest =>
    if c = ':' && !bracketed then ([], c :: rest)
    else
      let bracketed := if c = '[' then true else if c = ']' then false else bracketed
      let (host, rest) := splitHost bracketed rest
      (c :: host, rest)

/-- The port behind a host. -/
def readPort (cs : List Char) : Except Fault (Option Nat) :=
  match cs with
  | [] => .ok none
  | [_] => .ok none
  | _ :: digits =>
    let n := digits.foldl (fun n c => if n ≤ 65535 then n * 10 + (c.toNat - 48) else n) 0
    if digits.all Char.isDigit && n ≤ 65535 then .ok (some n) else .error .invalidPort

/-! ## Paths and queries -/

/-- Characters of a path that need no escape. -/
def keepsInPath (c : Char) : Bool :=
  0x20 < c.toNat && c.toNat < 0x7F && !(c ∈ ['"', '#', '<', '>', '?', '`', '{', '}'])

/-- Characters of a query that need no escape. -/
def keepsInQuery (c : Char) : Bool :=
  0x20 < c.toNat && c.toNat < 0x7F && !(c ∈ ['"', '#', '<', '>', '\''])

/-- A segment with the escapes of dots resolved, which no other segment is compared by. -/
def unescapeDots : List Char → List Char
  | '%' :: '2' :: 'e' :: rest => '.' :: unescapeDots rest
  | '%' :: '2' :: 'E' :: rest => '.' :: unescapeDots rest
  | c :: rest => c :: unescapeDots rest
  | [] => []

/-- Whether a text is the letter of a drive. -/
def isDrive (cs : List Char) : Bool :=
  match cs with
  | [letter, mark] => letter.isAlpha && (mark == ':' || mark == '|')
  | _ => false

/-- What is left of the segments above another one, the last one first; the letter of a drive
stays. -/
def parent : List (List Char) → List (List Char)
  | [] => []
  | segment :: above => if isDrive segment then segment :: above else above

/-- The segments of a path, `.` and `..` resolved.  `above` holds the segments before, the last one
first; a path that ends in a dot segment ends in a slash. -/
def resolve (above : List (List Char)) : List (List Char) → List (List Char)
  | [] => above.reverse
  | segment :: rest =>
    let dots := unescapeDots segment
    if dots = ['.', '.'] then
      if rest.isEmpty then ([] :: parent above).reverse else resolve (parent above) rest
    else if dots = ['.'] then
      if rest.isEmpty then ([] :: above).reverse else resolve above rest
    else resolve (segment :: above) rest

/-- A path as it is sent. -/
def normalPath (cs : List Char) : List Char :=
  let slashes := cs.map fun c => if c = '\\' then '/' else c
  let relative := match slashes with
    | '/' :: rest => rest
    | cs => cs
  let segments := resolve [] (Text.splitAt '/' relative)
  segments.flatMap fun segment => '/' :: Text.Percent.encode keepsInPath segment

/-! ## Whole URLs -/

/-- The user name and password of user information; a password that is empty is none. -/
def readUser (info : List Char) : List Char × Option (List Char) :=
  let password := (info.dropWhile (· != ':')).drop 1
  (info.takeWhile (· != ':'), if password.isEmpty then none else some password)

/-- A URL of the web behind its scheme and slashes. -/
def readWeb (scheme cs : List Char) : Except Fault Url := do
  let authority := cs.takeWhile (!endsAuthority true ·)
  let rest := cs.dropWhile (!endsAuthority true ·)
  let (info, hostAndPort) := splitUser authority
  let (hostText, portText) := splitHost false hostAndPort
  if hostText.isEmpty then throw .emptyHost
  let host ← Host.parse hostText
  let port ← readPort portText
  let (user, password) := readUser (info.getD [])
  let withoutFragment := rest.takeWhile (· != '#')
  let path := withoutFragment.takeWhile (· != '?')
  let query := match withoutFragment.dropWhile (· != '?') with
    | [] => none
    | _ :: query => some (Text.Percent.encode keepsInQuery query)
  return { scheme, user, password, host, port, path := normalPath path, query }

/-- Checks a URL of a scheme that is not of the web behind its scheme.  A file has a host behind two
slashes; other schemes have one if the URL goes on with two slashes, and it may be empty if neither
user nor port goes with it. -/
def checkOther (scheme cs : List Char) : Except Fault Unit := do
  if scheme = "file".toList then
    match cs.map fun c => if c = '\\' then '/' else c with
    | '/' :: '/' :: rest =>
      let host := rest.takeWhile (!endsAuthority true ·)
      if host.isEmpty || isDrive host then return
      else
        let _ ← Host.parse host
        return
    | _ => return
  else
    match cs with
    | '/' :: '/' :: rest =>
      let (info, hostAndPort) := splitUser (rest.takeWhile (!endsAuthority false ·))
      let (host, portAndPath) := splitHost false hostAndPort
      let port := portAndPath.takeWhile (· != '\\')
      if info == some [] && hostAndPort.isEmpty &&
          !(rest.dropWhile (!endsAuthority false ·)).isEmpty then throw .emptyHost
      Host.checkOpaque host
      if host.isEmpty && !port.isEmpty then throw .emptyHost
      let _ ← readPort port
      if host.isEmpty && info.any (!·.isEmpty) && info != some [':'] then throw .emptyHost
    | _ => return

/-- What a text names. -/
inductive Reading
  /-- A URL of the web. -/
  | web (url : Url)
  /-- A URL of some other scheme. -/
  | other (scheme : List Char)
  deriving Repr

/-- Reads a URL of any scheme. -/
def read (text : String) : Except Fault Reading :=
  match splitScheme? (clean text.toList) with
  | none => .error .noScheme
  | some (scheme, rest) =>
    if isWebScheme scheme then
      (readWeb scheme (rest.dropWhile fun c => c == '/' || c == '\\')).map .web
    else (checkOther scheme rest).map fun _ => .other scheme

/-- What is asked for on the server. -/
def target (url : Url) : String :=
  String.ofList (url.path ++ match url.query with
    | some query => '?' :: query
    | none => [])

/-- The text that bytes with escapes spell, if they spell one. -/
def unescape? (cs : List Char) : Option String :=
  match Text.Utf8.decode (Text.Percent.decode cs) with
  | .ok text => some (String.ofList text)
  | .error _ => none

/-- The user name and the password that a URL carries, if it carries either. -/
def userInfo? (url : Url) : Option (String × Option String) := do
  let user ← unescape? url.user
  let password := url.password.bind unescape?
  if user.isEmpty && password.isNone then none else some (user, password)

end Url

end LogSearch
