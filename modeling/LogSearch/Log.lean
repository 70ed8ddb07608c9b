import LogSearch.Text.Alphanumeric
import LogSearch.Text.Blank
import LogSearch.Text.Numeral
import LogSearch.Text.Quoted

/-!
# Log lines

What a reader of the log may want to know is written as an entry with a level and a target, the part
of the program it comes from.  A filter says which entries are shown.

A filter is a list of directives, separated by commas.  A directive is a level for everything, a
target for everything in it, or a target with a level; a target stands for all targets that begin
with it.  Brackets behind the target hold a condition: a span that the entry is to be inside of, or
in braces a field it is to have.  Of several directives for an entry the one with the longest target
counts, and of those with the same target the one with a condition.  Without directives only errors
are shown.

## What is here

* `LogLevel`, `LogEntry` and `LogEntry.lines`;
* `LogDirective.parse?`, `LogFilter.parse?` — directives from their text;
* `LogFilter.enables` — whether an entry is shown.
-/

set_option autoImplicit false
namespace LogSearch

/-- How grave an entry is. -/
inductive LogLevel
  | error
  | warn
  | info
  | debug
  | trace
  deriving DecidableEq, Repr

/-- The level in words. -/
def LogLevel.name : LogLevel → String
  | .error => "ERROR"
  | .warn => "WARN"
  | .info => "INFO"
  | .debug => "DEBUG"
  | .trace => "TRACE"

/-- The number of levels up to this one, from the gravest. -/
def LogLevel.rank : LogLevel → Nat
  | .error => 1
  | .warn => 2
  | .info => 3
  | .debug => 4
  | .trace => 5

/-- An entry of the log. -/
structure LogEntry where
  level : LogLevel
  /-- The part of the program it comes from. -/
  target : String
  message : String
  deriving DecidableEq, Repr

namespace LogEntry

/-- The entry as a text. -/
def text (entry : LogEntry) : String := s!"{entry.level.name} {entry.target}: {entry.message}"

/-- The lines of a text; a carriage return at the end of a line goes with the line break. -/
def splitLines (cs : List Char) : List (List Char) :=
  match cs with
  | [] => [[]]
  | '\n' :: rest => [] :: splitLines rest
  | '\r' :: '\n' :: rest => [] :: splitLines rest
  | c :: rest =>
    match splitLines rest with
    | line :: lines => (c :: line) :: lines
    | [] => [[c]]

/-- A character as it is written where a terminal may show it: the characters that terminals take
for commands are spelled out. -/
def shown (c : Char) : List Char :=
  let digits := Text.hex c.toNat
  if c ∈ ['\x07', '\x08', '\x0c', '\x1b', '\x7f'] then
    ['\\', 'x'] ++ (if digits.length < 2 then '0' :: digits else digits)
  else if 0x80 ≤ c.toNat && c.toNat ≤ 0x9F then ['\\', 'u', '{'] ++ digits ++ ['}']
  else [c]

/-- The entry as lines of text. -/
def lines (entry : LogEntry) : List String :=
  (splitLines (entry.text.toList.flatMap shown)).map String.ofList

end LogEntry

/-! ## Filters -/

/-- What a directive asks of entries, besides their target. -/
inductive LogCondition
  /-- A field with this name. -/
  | field (name : List Char)
  /-- A span around it; there are none in this program. -/
  | span
  deriving DecidableEq, Repr

/-- What is shown of a part of the program. -/
structure LogDirective where
  /-- The beginning of the targets it is about; all of them if there is none. -/
  target : Option (List Char)
  condition : Option LogCondition
  /-- The rank of the least grave level that is shown; zero shows nothing. -/
  rank : Nat
  deriving DecidableEq, Repr

namespace LogDirective

/-- The rank that a name of a level or a number stands for. -/
def rankOf? (word : List Char) : Option Nat :=
  match Text.readNatural (Nat.pow 2 64 - 1) word with
  | .ok n => if n ≤ 5 then some n else none
  | .error _ =>
    match String.ofList (word.map Char.toLower) with
    | "off" => some 0
    | "" => some 1
    | "error" => some 1
    | "warn" => some 2
    | "info" => some 3
    | "debug" => some 4
    | "trace" => some 5
    | _ => none

/-- Whether a character may begin a target or the name of a level. -/
def startsWord (c : Char) : Bool := c == '-' || c == ':' || c == '_' || Text.isAlphanumeric c

/-- The condition in front of a closing bracket, and what follows the bracket.  A field may come
with a value, which only a span can have. -/
def readCondition? (text : List Char) : Option (LogCondition × List Char) :=
  let isName : Char → Bool := fun c => c != ']' && c != '{'
  match text.dropWhile isName with
  | ']' :: rest => some (.span, rest)
  | '{' :: rest =>
    let field := rest.takeWhile (· != '}')
    match rest.dropWhile (· != '}') with
    | '}' :: ']' :: rest =>
      if field.isEmpty then none
      else if (text.takeWhile isName).isEmpty && !field.contains '=' then some (.field field, rest)
      else some (.span, rest)
    | _ => none
  | _ => none

/-- The rank behind a target or a condition; everything is shown if none is given. -/
def readRank? (text : List Char) : Option Nat :=
  match text with
  | '=' :: level => if level.isEmpty then some LogLevel.trace.rank else rankOf? level
  | rest => if rest.all Text.isBlank then some LogLevel.trace.rank else none

/-- The directive of a text.  Blanks around it are part of the target and of the level, and a text
that begins with one has no level. -/
def parse? (text : List Char) : Option LogDirective := do
  let first ← (Text.dropBlank text).head?
  guard (first == '[' || startsWord first)
  let inTarget : Char → Bool := fun c => c != '=' && c != '['
  let target := text.takeWhile inTarget
  let mayRank : Bool := !text.head?.any Text.isBlank
  match text.dropWhile inTarget with
  | [] =>
    match rankOf? target with
    | some rank => return ⟨none, none, rank⟩
    | none => return ⟨some target, none, LogLevel.trace.rank⟩
  | '[' :: rest =>
    let (condition, rest) ← readCondition? rest
    guard (mayRank || rest.head? != some '=')
    return ⟨if target.isEmpty then none else some target, some condition, ← readRank? rest⟩
  | rest =>
    guard mayRank
    return ⟨some target, none, ← readRank? rest⟩

/-- The name of the field that entries have: their message. -/
def messageField : List Char := "message".toList

/-- Whether a directive is about the entries of a target. -/
def concerns (directive : LogDirective) (target : String) : Bool :=
  directive.target.all (·.isPrefixOf target.toList) &&
    directive.condition.all (· == .field messageField)

/-- How closely a directive is about its targets: the target counts more than the condition. -/
def precision (directive : LogDirective) : Nat :=
  let ofTarget := match directive.target with
    | none => 0
    | some start => start.length + 1
  2 * ofTarget + directive.condition.toList.length

end LogDirective

/-- Which entries are shown. -/
structure LogFilter where
  directives : List LogDirective
  deriving DecidableEq, Repr

namespace LogFilter

/-- The filter of a text; errors only if it holds no directive. -/
def parse? (text : String) : Option LogFilter := do
  let directives ← ((Text.splitAt ',' text.toList).filter (!·.isEmpty)).mapM LogDirective.parse?
  return ⟨if directives.isEmpty then [⟨none, none, LogLevel.error.rank⟩] else directives⟩

/-- The later of two directives, unless the earlier one is more precise. -/
def moreApt (earlier : Option LogDirective) (later : LogDirective) : Option LogDirective :=
  match earlier with
  | none => some later
  | some directive => if directive.precision ≤ later.precision then some later else some directive

/-- Whether an entry is shown. -/
def enables (filter : LogFilter) (entry : LogEntry) : Bool :=
  match (filter.directives.filter (·.concerns entry.target)).foldl moreApt none with
  | some directive => entry.level.rank ≤ directive.rank
  | none => false

/-- Everything from notices on. -/
def standard : LogFilter := ⟨[⟨none, none, LogLevel.info.rank⟩]⟩

/-- Notices, and of this program's own parts also what helps to find errors. -/
def verbose : LogFilter :=
  ⟨⟨none, none, LogLevel.info.rank⟩ ::
    (["elastic_log", "elastic_log_client", "elastic_log_query"].map fun part =>
      ⟨some part.toList, none, LogLevel.debug.rank⟩)⟩

end LogFilter

end LogSearch
