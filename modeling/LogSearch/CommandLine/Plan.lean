import LogSearch.CommandLine.Error
import LogSearch.CommandLine.Options
import LogSearch.Kql.Parser
import LogSearch.Kql.Printer
import LogSearch.Query.OfNode
import LogSearch.Search.Request
import LogSearch.Specifier
import LogSearch.Time.Window

/-!
# From options to a request

What the command line says is turned into a time window, a query in that window, and the request for
the first page.  All of this is checked before any connection is made.

## What is here

* `Options.window`, `Options.toQuery`, `Options.request` — the window, the query, the request;
* `Options.describe` — the query as it was understood;
* `Options.plan` — everything checked: the request, and the window;
* `Options.explanation` — what would be done, in words.
-/

set_option autoImplicit false
namespace LogSearch.Options

open Time (Timestamp)

/-- The time window; without a start it begins an hour before now. -/
def window (options : Options) (now : Timestamp) : Except ProgramError TimeWindow := do
  let hourBefore ← match now.hourBefore? with
    | some t => pure t
    | none => throw .noHourBefore
  let start := options.start.getD hourBefore
  match options.finish with
  | some finish =>
    if finish.isBefore start then throw (.usage (.endBeforeStart finish start))
    return ⟨options.timestampField, start, some finish⟩
  | none => return ⟨options.timestampField, start, none⟩

/-- The single query of the nested language. -/
def kqlText (options : Options) : Except ProgramError String :=
  match options.query with
  | [query] => .ok query
  | words => .error (.usage (.severalQueries words.length))

/-- The query in a window. -/
def toQuery (options : Options) (window : TimeWindow) : Except ProgramError Query :=
  if options.legacySpecifiers then
    ((Query.ofSpecifiers options.query).map (window.restrict .must)).mapError .query
  else do
    let text ← options.kqlText
    ((Query.ofKql Kql.defaultLimit text).map fun q => window.restrict .filter [q]).mapError .query

/-- The query as it was understood, a specifier a line. -/
def describe (options : Options) : Except ProgramError String :=
  if options.legacySpecifiers then
    ((options.query.mapM Specifier.parse).map fun specifiers =>
      String.intercalate "\n" (specifiers.map Specifier.print)).mapError .query
  else do
    let text ← options.kqlText
    ((Kql.parse Kql.defaultLimit text).map Kql.Node.print).mapError .query

/-- The request for the first page. -/
def request (options : Options) (query : Query) : SearchRequest where
  index := options.index
  query := query
  timestampField := options.timestampField
  size := options.pageSize
  source := options.source
  after := none

/-- The window, and the request for the first page. -/
def plan (options : Options) (now : Timestamp) :
    Except ProgramError (TimeWindow × SearchRequest) := do
  let window ← options.window now
  let query ← options.toQuery window
  return (window, options.request query)

/-- What would be done: the query as it was understood, where the request goes, and the request. -/
def explanation (options : Options) (now : Timestamp) : Except ProgramError String := do
  let (_, request) ← options.plan now
  let description ← options.describe
  return s!"{description}\nPOST {request.path}\n{request.toJson.pretty}\n"

end LogSearch.Options
